import CommandBridge.Proofs.Bridge.Invocations
import Mathlib.Data.List.Basic

/-! Two bridges of which one has a call more, which waits in the line for the turn or was stopped
there. Whatever another call does, it does at both alike. -/
namespace CommandBridge

open Function

variable {σ ρ : Type}

/-- The number of a call when call `x` is there as well. -/
def above (x id : Nat) : Nat := if id < x then id else id + 1

theorem above_injective (x : Nat) : Injective (above x) := by
  intro id id' h
  unfold above at h
  split at h <;> split at h <;> omega

theorem above_ne (x id : Nat) : above x id ≠ x := by
  unfold above
  split <;> omega

theorem above_of_lt {x id : Nat} (h : id < x) : above x id = id := if_pos h

/-- The same event, with the calls numbered anew. -/
def Event.renumber (f : Nat → Nat) : Event → Event
  | started id command => started (f id) command
  | finished id command o => finished (f id) command o
  | handshake id t k => handshake (f id) t k
  | executing id c => executing (f id) c
  | lost id c => lost (f id) c
  | abandoned id c => abandoned (f id) c
  | handedOut id cs => handedOut (f id) cs
  | closing id c => closing (f id) c
  | e => e

theorem Event.caller?_renumber (f : Nat → Nat) (e : Event) :
    (e.renumber f).caller? = e.caller?.map f := by
  cases e <;> rfl

/-- No event is then call `x`'s. -/
theorem Event.caller?_renumber_ne (x : Nat) (e : Event) :
    (e.renumber (above x)).caller? ≠ some x := by
  rw [Event.caller?_renumber]
  intro h
  obtain ⟨id, -, hid⟩ := Option.map_eq_some_iff.mp h
  exact above_ne x id hid

theorem Event.renumber_of_caller {f : Nat → Nat} {e : Event}
    (h : ∀ id, e.caller? = some id → f id = id) : e.renumber f = e := by
  cases e <;> simp_all [renumber, caller?]

namespace Lock

/-- The same lock, with the calls numbered anew. -/
def renumber (f : Nat → Nat) (l : Lock) : Lock := ⟨l.holder.map f, l.waiting.map f⟩

/-- Lock `l'` is lock `l` without call `x`, which does not have it. -/
structure Without (x : Nat) (l l' : Lock) : Prop where
  holder : l.holder = l'.holder.map (above x)
  waiting : l.waiting.filter (· != x) = l'.waiting.map (above x)

variable {f : Nat → Nat} {l l' : Lock} {x id : Nat}

theorem renumber_request (f : Nat → Nat) (l : Lock) (id : Nat) :
    (l.request id).renumber f = (l.renumber f).request (f id) := by
  unfold request renumber
  cases l.holder with
  | none => rfl
  | some j => simp

theorem renumber_pass (f : Nat → Nat) (l : Lock) : l.pass.renumber f = (l.renumber f).pass := by
  simp [pass, renumber]

theorem holder_renumber (hf : Injective f) :
    (l.renumber f).holder = some (f id) ↔ l.holder = some id := by
  simp [renumber, hf.eq_iff]

theorem Without.holder_iff (h : Without x l l') :
    l.holder = some (above x id) ↔ l'.holder = some id := by
  rw [h.holder]
  simp [(above_injective x).eq_iff]

theorem Without.request (h : Without x l l') (id : Nat) :
    Without x (l.request (above x id)) (l'.request id) := by
  have hh := h.holder
  unfold Lock.request
  cases hl : l'.holder with
  | none =>
    rw [hl] at hh
    rw [hh]
    exact ⟨rfl, h.waiting⟩
  | some j =>
    rw [hl] at hh
    rw [hh]
    constructor
    · rfl
    · simp [h.waiting, above_ne]

/-- The lock passes by call `x` unless that call is the first in the line. -/
theorem Without.pass (h : Without x l l') (hx : l.pass.holder ≠ some x) :
    Without x l.pass l'.pass := by
  have hw := h.waiting
  cases hl : l.waiting with
  | nil =>
    rw [hl] at hw
    have hl' : l'.waiting = [] := List.map_eq_nil_iff.mp hw.symm
    constructor <;> simp [Lock.pass, hl, hl']
  | cons y rest =>
    have hy : y ≠ x := by
      rintro rfl
      exact hx (by simp [Lock.pass, hl])
    rw [hl, List.filter_cons_of_pos (by simpa using hy)] at hw
    obtain ⟨j, rest', hl', hj, hrest⟩ := List.map_eq_cons_iff.mp hw.symm
    constructor
    · simp [Lock.pass, hl, hl', hj]
    · simp [Lock.pass, hl, hl', hrest]

theorem Without.erase (h : Without x l l') (id : Nat) :
    Without x { l with waiting := l.waiting.erase (above x id) }
      { l' with waiting := l'.waiting.erase id } := by
  constructor
  · exact h.holder
  · show (l.waiting.erase (above x id)).filter _ = (l'.waiting.erase id).map (above x)
    rw [← List.erase_filter, h.waiting, List.map_erase (above_injective x)]

/-- Nothing else changes when call `x` leaves the line. -/
theorem Without.erase_self (h : Without x l l') :
    Without x { l with waiting := l.waiting.erase x } l' := by
  constructor
  · exact h.holder
  · show (l.waiting.erase x).filter _ = l'.waiting.map (above x)
    rw [← List.erase_filter, List.erase_of_not_mem (by simp), h.waiting]

end Lock

/-- The same history, with the calls numbered anew. -/
def renumbered (f : Nat → Nat) (h : List (Nat × Event)) : List (Nat × Event) :=
  h.map fun y => (y.1, y.2.renumber f)

/-- The two histories are the same, but the one has the events `extra` somewhere. -/
def Interposed (x : Nat) (extra : List (Nat × Event)) (h h' : List (Nat × Event)) : Prop :=
  ∃ earlier later, h = earlier ++ extra ++ later ∧ earlier ++ later = renumbered (above x) h'

theorem Interposed.append {x : Nat} {extra h h' : List (Nat × Event)} (hi : Interposed x extra h h')
    (es : List (Nat × Event)) :
    Interposed x extra (h ++ renumbered (above x) es) (h' ++ es) := by
  obtain ⟨earlier, later, rfl, hl⟩ := hi
  refine ⟨earlier, later ++ renumbered (above x) es, ?_, ?_⟩
  · rw [List.append_assoc _ later]
  · rw [← List.append_assoc, hl]
    exact List.map_append.symm

theorem Interposed.events {x : Nat} {extra h h' : List (Nat × Event)}
    (hi : Interposed x extra h h') : ∃ es es', h.map (·.2) = es ++ extra.map (·.2) ++ es' ∧
      es ++ es' = (h'.map (·.2)).map (Event.renumber (above x)) := by
  obtain ⟨earlier, later, rfl, hl⟩ := hi
  refine ⟨earlier.map (·.2), later.map (·.2), ?_, ?_⟩
  · rw [List.map_append, List.map_append]
  · rw [← List.map_append, hl]
    unfold renumbered
    rw [List.map_map, List.map_map]
    rfl

namespace Bridge

/-- Bridge `b'` is bridge `b` without call `x`, which has done nothing but wait for its turn, and
without the events `extra`. The calls after `x` have a number less. -/
structure Without (x : Nat) (extra : List (Nat × Event)) (b b' : Bridge σ ρ) : Prop where
  now : b.now = b'.now
  remote : b.remote = b'.remote
  session : b.session = b'.session
  turn : b.turn.Without x b'.turn
  access : b.access = b'.access.renumber (above x)
  ready : b.ready = b'.ready.map (above x)
  calls : b.calls.eraseIdx x = b'.calls
  idle : b.phase? x = some .queued ∨ b.phase? x = some .cancelled
  history : Interposed x extra b.history b'.history

/-- The one bridge is the other without call `x`, unless that call has been passed the turn. -/
def Follows (x : Nat) (extra : List (Nat × Event)) (b b' : Bridge σ ρ) : Prop :=
  b.turn.holder ≠ some x → b.Without x extra b'

section
variable {x id : Nat} {extra : List (Nat × Event)} {b b' : Bridge σ ρ} {s : Setup σ ρ}

theorem getElem?_eraseIdx_above {α : Type} (l : List α) (x id : Nat) :
    (l.eraseIdx x)[id]? = l[above x id]? := by
  rw [List.getElem?_eraseIdx]
  unfold above
  split <;> rfl

/-- A call that is not there may as well change. -/
theorem eraseIdx_modify {α : Type} (l : List α) (x : Nat) (f : α → α) :
    (l.modify x f).eraseIdx x = l.eraseIdx x := by
  apply List.ext_getElem?
  intro id
  rw [getElem?_eraseIdx_above, getElem?_eraseIdx_above,
    List.getElem?_modify_ne f l (above_ne x id).symm]

theorem Without.follows (h : b.Without x extra b') : b.Follows x extra b' := fun _ => h

theorem Without.lt (h : b.Without x extra b') : x < b.calls.length := by
  have hp : (b.phase? x).isSome := by
    rcases h.idle with hp | hp <;> rw [hp] <;> rfl
  obtain ⟨ph, hp⟩ := Option.isSome_iff_exists.mp hp
  obtain ⟨c, hc, -⟩ := Option.map_eq_some_iff.mp hp
  exact (List.getElem?_eq_some_iff.mp hc).1

theorem Without.getElem? (h : b.Without x extra b') (id : Nat) :
    b.calls[above x id]? = b'.calls[id]? := by
  rw [← h.calls, getElem?_eraseIdx_above]

theorem Without.request? (h : b.Without x extra b') (id : Nat) :
    b.request? (above x id) = b'.request? id := congrArg _ (h.getElem? id)

theorem Without.phase? (h : b.Without x extra b') (id : Nat) :
    b.phase? (above x id) = b'.phase? id := congrArg _ (h.getElem? id)

/-- A new call has the next number at both. -/
theorem Without.length (h : b.Without x extra b') : b.calls.length = above x b'.calls.length := by
  have hl := h.lt
  rw [← h.calls, List.length_eraseIdx_of_lt hl]
  unfold above
  split <;> omega

theorem Without.record (h : b.Without x extra b') (e : Event) :
    (b.record (e.renumber (above x))).Without x extra (b'.record e) :=
  { h with
    history := by
      have hh := h.history.append [(b'.now, e)]
      have he : renumbered (above x) [(b'.now, e)] = [(b.now, e.renumber (above x))] := by
        rw [h.now]
        rfl
      rwa [he] at hh }

theorem Without.recordAll (h : b.Without x extra b') {es : List Event}
    (hes : ∀ e ∈ es, e.caller? = none) : (b.recordAll es).Without x extra (b'.recordAll es) :=
  { h with
    history := by
      have hh := h.history.append (es.map (b'.now, ·))
      have he : renumbered (above x) (es.map (b'.now, ·)) = es.map (b.now, ·) := by
        unfold renumbered
        rw [List.map_map, h.now]
        apply List.map_congr_left
        intro e hm
        have hn : e.renumber (above x) = e := Event.renumber_of_caller (by simp [hes e hm])
        simp [hn]
      rw [he] at hh
      exact hh }

theorem Without.withSession (h : b.Without x extra b') (f : Session → Session) :
    (b.withSession (f b.session)).Without x extra (b'.withSession (f b'.session)) :=
  { h with session := congrArg f h.session }

theorem Without.withRemote (h : b.Without x extra b') (y : σ) :
    (b.withRemote y).Without x extra (b'.withRemote y) :=
  { h with remote := rfl }

theorem Without.atTime (h : b.Without x extra b') (time : Nat) :
    ({ b with now := time } : Bridge σ ρ).Without x extra { b' with now := time } :=
  { h with now := rfl }

theorem Without.setPhase (h : b.Without x extra b') (id : Nat) (ph : Phase ρ) :
    (b.setPhase (above x id) ph).Without x extra (b'.setPhase id ph) :=
  { h with
    calls := by
      apply List.ext_getElem?
      intro j
      show ((b.setPhase (above x id) ph).calls.eraseIdx x)[j]? = (b'.setPhase id ph).calls[j]?
      rw [getElem?_eraseIdx_above]
      unfold Bridge.setPhase
      rw [List.getElem?_modify, List.getElem?_modify, h.getElem? j]
      simp only [(above_injective x).eq_iff]
    idle := by
      rw [phase?_setPhase, if_neg (above_ne x id).symm]
      exact h.idle }

theorem Without.finish (h : b.Without x extra b') (id : Nat) (a : Answer ρ) :
    (b.finish (above x id) a).Without x extra (b'.finish id a) := h.setPhase id (.ended a)

theorem Without.addCall (h : b.Without x extra b') (r : Request) :
    (b.addCall r).Without x extra (b'.addCall r) :=
  { h with
    calls := by
      show (b.calls ++ [_]).eraseIdx x = b'.calls ++ [_]
      rw [List.eraseIdx_append_of_lt_length h.lt, h.calls]
    idle := by
      have hp : (b.addCall r).phase? x = b.phase? x := by
        unfold Bridge.phase? Bridge.addCall
        rw [List.getElem?_append_left h.lt]
      rw [hp]
      exact h.idle }

theorem Without.requestAccess (h : b.Without x extra b') (id : Nat) :
    ({ b with access := b.access.request (above x id) } : Bridge σ ρ).Without x extra
      { b' with access := b'.access.request id } :=
  { h with
    access := by
      show b.access.request (above x id) = (b'.access.request id).renumber (above x)
      rw [Lock.renumber_request, ← h.access] }

theorem Without.requestTurn (h : b.Without x extra b') (id : Nat) :
    ({ b with turn := b.turn.request (above x id) } : Bridge σ ρ).Without x extra
      { b' with turn := b'.turn.request id } :=
  { h with turn := h.turn.request id }

theorem Without.passAccess (h : b.Without x extra b') :
    b.passAccess.Without x extra b'.passAccess := by
  have hl : b.access.pass = b'.access.pass.renumber (above x) := by
    rw [h.access, Lock.renumber_pass]
  have hr : b.access.pass.holder.toList = b'.access.pass.holder.toList.map (above x) := by
    rw [hl]
    exact Option.toList_map
  exact { h with
    access := hl
    ready := by
      show b.ready ++ b.access.pass.holder.toList = (b'.ready ++ b'.access.pass.holder.toList).map _
      rw [h.ready, hr, List.map_append] }

theorem Without.passTurn (h : b.Without x extra b') : b.passTurn.Follows x extra b'.passTurn := by
  intro hx
  have hl : b.turn.pass.Without x b'.turn.pass := h.turn.pass hx
  have hr : b.turn.pass.holder.toList = b'.turn.pass.holder.toList.map (above x) := by
    rw [hl.holder]
    exact Option.toList_map
  exact { h with
    turn := hl
    ready := by
      show b.ready ++ b.turn.pass.holder.toList = (b'.ready ++ b'.turn.pass.holder.toList).map _
      rw [h.ready, hr, List.map_append] }

theorem Follows.setPhase (h : b.Follows x extra b') (id : Nat) (ph : Phase ρ) :
    (b.setPhase (above x id) ph).Follows x extra (b'.setPhase id ph) :=
  fun hx => (h hx).setPhase id ph

theorem Follows.finish (h : b.Follows x extra b') (id : Nat) (a : Answer ρ) :
    (b.finish (above x id) a).Follows x extra (b'.finish id a) := h.setPhase id (.ended a)

theorem Without.conclude (h : b.Without x extra b') (id : Nat) (i : Invocation)
    (r : Except Failure (Output ρ)) :
    (b.conclude (above x id) i r).Follows x extra (b'.conclude id i r) := by
  have hp := (h.record (.finished id i.command (.ofResult r))).passTurn
  cases r with
  | ok o => exact hp.finish id _
  | error e => exact hp.finish id _

theorem Without.failLost (h : b.Without x extra b') (id : Nat) (c : Connection) (e : Failure) :
    (b.failLost (above x id) c e).Follows x extra (b'.failLost id c e) := by
  have hs := (h.withSession (·.invalidate c)).passAccess
  unfold Bridge.failLost
  dsimp only
  rw [hs.request? id]
  cases (b'.withSession (b'.session.invalidate c)).passAccess.request? id with
  | none => exact (hs.finish id _).follows
  | some r =>
    cases r with
    | invoke i => exact hs.conclude id i _
    | _ => exact (hs.finish id _).follows

/-- Both go on at the session, or both wait for it. -/
theorem Without.withAccess (h : b.Without x extra b') (id : Nat) (waiting : Phase ρ)
    {go go' : Bridge σ ρ → Bridge σ ρ}
    (hgo : ∀ {b b' : Bridge σ ρ}, b.Without x extra b' → (go b).Follows x extra (go' b')) :
    (b.withAccess (above x id) waiting go).Follows x extra (b'.withAccess id waiting go') := by
  have hr := h.requestAccess id
  have hholder : (b.access.request (above x id)).holder = some (above x id) ↔
      (b'.access.request id).holder = some id := by
    rw [show b.access.request (above x id) = _ from hr.access]
    exact Lock.holder_renumber (above_injective x)
  unfold Bridge.withAccess
  dsimp only
  by_cases hh : (b'.access.request id).holder = some id
  · rw [if_pos hh, if_pos (hholder.mpr hh)]
    exact hgo hr
  · rw [if_neg hh, if_neg fun h => hh (hholder.mp h)]
    exact (hr.setPhase id waiting).follows

theorem Without.withTurn (h : b.Without x extra b') (id : Nat) {go go' : Bridge σ ρ → Bridge σ ρ}
    (hgo : ∀ {b b' : Bridge σ ρ}, b.Without x extra b' → (go b).Follows x extra (go' b')) :
    (b.withTurn (above x id) go).Follows x extra (b'.withTurn id go') := by
  have hr := h.requestTurn id
  have hholder : (b.turn.request (above x id)).holder = some (above x id) ↔
      (b'.turn.request id).holder = some id := hr.turn.holder_iff
  unfold Bridge.withTurn
  dsimp only
  by_cases hh : (b'.turn.request id).holder = some id
  · rw [if_pos hh, if_pos (hholder.mpr hh)]
    exact hgo hr
  · rw [if_neg hh, if_neg fun h => hh (hholder.mp h)]
    exact (hr.setPhase id .queued).follows

theorem Without.lose (h : b.Without x extra b') (id : Nat) (c : Connection) (e : Failure) :
    (b.lose (above x id) c e).Follows x extra (b'.lose id c e) :=
  (h.record (.lost id c)).withAccess id _ fun h => h.failLost id c e

theorem Without.answered (h : b.Without x extra b') (id : Nat) (i : Invocation) (c : Connection)
    (r : Except Failure (Output ρ)) :
    (b.answered (above x id) i c r).Follows x extra (b'.answered id i c r) := by
  unfold Bridge.answered
  cases r with
  | error e =>
    dsimp only
    split
    · exact h.lose id c e
    · exact h.conclude id i _
  | ok o =>
    dsimp only
    cases i.accept o with
    | error e => exact h.conclude id i _
    | ok o =>
      dsimp only
      split
      · exact h.conclude id i _
      · exact (h.record (.advised o.records.length o.errors.length)).conclude id i _

theorem Without.executed (h : b.Without x extra b') (id : Nat) (c : Connection)
    (r : Except Failure (Output ρ)) :
    (b.executed (above x id) c r).Follows x extra (b'.executed id c r) := by
  unfold Bridge.executed
  rw [h.request? id]
  cases b'.request? id with
  | none => cases r <;> exact (h.finish id _).follows
  | some q =>
    cases q with
    | invoke i => exact h.answered id i c r
    | _ => cases r <;> exact (h.finish id _).follows

theorem Without.execute (h : b.Without x extra b') (id : Nat) (c : Connection) (i : Invocation)
    (limit : Option Nat) :
    (b.execute s (above x id) c i limit).Follows x extra (b'.execute s id c i limit) := by
  have hr : (b.record (.executing (above x id) c)).Without x extra (b'.record (.executing id c)) :=
    h.record (.executing id c)
  unfold Bridge.execute
  dsimp only
  rw [hr.remote]
  rcases s.endpoint.execute c i (b'.record (.executing id c)).remote with ⟨y, r | delay⟩
  · exact (hr.withRemote y).executed id c r
  · have hy := hr.withRemote y
    dsimp only
    split
    · exact hy.lose id c _
    · rw [hy.now]
      exact (hy.setPhase id _).follows

theorem Without.opened (h : b.Without x extra b') (id : Nat) (c : Connection) :
    (b.opened s (above x id) c).Follows x extra (b'.opened s id c) := by
  unfold Bridge.opened
  rw [h.request? id]
  cases b'.request? id with
  | none => exact (h.finish id _).follows
  | some q =>
    cases q with
    | invoke i => exact h.execute id c i _
    | _ => exact (h.finish id _).follows

theorem Without.notOpened (h : b.Without x extra b') (id : Nat) (e : Failure) :
    (b.notOpened (above x id) e).Follows x extra (b'.notOpened id e) := by
  unfold Bridge.notOpened
  rw [h.request? id]
  cases b'.request? id with
  | none => exact (h.finish id _).follows
  | some q =>
    cases q with
    | invoke i => exact h.conclude id i _
    | _ => exact (h.finish id _).follows

theorem Without.connected (h : b.Without x extra b') (id : Nat) (t : Target) (k : Credential)
    (r : Except Failure String) :
    (b.connected s (above x id) t k r).Follows x extra (b'.connected s id t k r) := by
  unfold Bridge.connected
  cases r with
  | ok name =>
    have hr := h.record (.opened ⟨name, t⟩ k b'.session.generation)
    dsimp only
    rw [h.session]
    exact ((hr.withSession (·.install ⟨name, t⟩)).passAccess).opened id _
  | error e => exact (h.record (.handshakeFailed t e)).passAccess.notOpened id e

theorem Without.handshakeTimedOut (h : b.Without x extra b') (id : Nat) (t : Target) :
    (b.handshakeTimedOut s (above x id) t).Follows x extra (b'.handshakeTimedOut s id t) :=
  (h.record (.handshakeTimedOut t)).passAccess.notOpened id _

theorem Without.ensureOpen (h : b.Without x extra b') (id : Nat) :
    (b.ensureOpen s (above x id)).Follows x extra (b'.ensureOpen s id) := by
  have hd := h.withSession (·.discardAbandoned)
  unfold Bridge.ensureOpen
  dsimp only
  rw [hd.session]
  generalize hb : b.withSession b.session.discardAbandoned = d at hd ⊢
  generalize hb' : b'.withSession b'.session.discardAbandoned = d' at hd ⊢
  cases d'.session.live with
  | some c => exact hd.passAccess.opened id c
  | none =>
    cases d'.session.credential with
    | none => exact hd.passAccess.notOpened id _
    | some k =>
      have hr : (d.record (.handshake (above x id) d'.session.target k)).Without x extra
          (d'.record (.handshake id d'.session.target k)) := hd.record (.handshake id _ k)
      dsimp only
      rw [hr.remote]
      rcases s.endpoint.connect d'.session.target k
        (d'.record (.handshake id d'.session.target k)).remote with ⟨y, r | delay⟩
      · exact (hr.withRemote y).connected id _ k r
      · have hy := hr.withRemote y
        dsimp only
        split
        · exact hy.handshakeTimedOut id _
        · rw [hy.now]
          exact (hy.setPhase id _).follows

theorem Without.allClosed (h : b.Without x extra b') (id : Nat) :
    (b.allClosed s (above x id)).Follows x extra (b'.allClosed s id) := by
  unfold Bridge.allClosed
  rw [h.request? id]
  cases b'.request? id with
  | none => exact h.passTurn.finish id _
  | some q =>
    cases q with
    | invoke i => exact h.withAccess id _ fun h => h.ensureOpen id
    | _ => exact h.passTurn.finish id _

theorem Without.noteClosed (h : b.Without x extra b') (c : Connection)
    (r : Except Failure (Option String)) :
    (b.noteClosed c r).Without x extra (b'.noteClosed c r) := by
  rw [noteClosed_eq, noteClosed_eq]
  apply h.recordAll
  intro e he
  rcases r with f | _ | text <;> simp_all [closeNotes, Event.caller?]

theorem Without.closeAll (h : b.Without x extra b') (id : Nat) (cs : List Connection) :
    (b.closeAll s (above x id) cs).Follows x extra (b'.closeAll s id cs) := by
  induction cs generalizing b b' with
  | nil => exact h.allClosed id
  | cons c rest ih =>
    have hr : (b.record (.closing (above x id) c)).Without x extra (b'.record (.closing id c)) :=
      h.record (.closing id c)
    unfold Bridge.closeAll
    dsimp only
    rw [hr.remote]
    rcases s.endpoint.close c (b'.record (.closing id c)).remote with ⟨y, r | delay⟩
    · exact ih ((hr.withRemote y).noteClosed c r)
    · have hy := hr.withRemote y
      dsimp only
      rw [show (b.record (.closing (above x id) c)).now = _ from hr.now]
      exact (hy.setPhase id _).follows

theorem Without.closed (h : b.Without x extra b') (id : Nat) (c : Connection)
    (rest : List Connection) (r : Except Failure (Option String)) :
    (b.closed s (above x id) c rest r).Follows x extra (b'.closed s id c rest r) := by
  unfold Bridge.closed
  rw [h.request? id]
  cases b'.request? id with
  | none => exact (h.noteClosed c r).closeAll id rest
  | some q =>
    cases q with
    | close c' =>
      cases r with
      | ok remark => exact ((h.noteClosed c _).finish id _).follows
      | error e => exact (h.finish id _).follows
    | _ => exact (h.noteClosed c r).closeAll id rest

theorem Without.close (h : b.Without x extra b') (id : Nat) (c : Connection) :
    (b.close s (above x id) c).Follows x extra (b'.close s id c) := by
  have hr : (b.record (.closing (above x id) c)).Without x extra (b'.record (.closing id c)) :=
    h.record (.closing id c)
  unfold Bridge.close
  dsimp only
  rw [hr.remote]
  rcases s.endpoint.close c (b'.record (.closing id c)).remote with ⟨y, r | delay⟩
  · exact (hr.withRemote y).closed id c [] r
  · have hy := hr.withRemote y
    dsimp only
    rw [show (b.record (.closing (above x id) c)).now = _ from hr.now]
    exact (hy.setPhase id _).follows

theorem Without.handOut (h : b.Without x extra b') (id : Nat)
    (taken : Session → List Connection × Session) :
    (b.handOut s (above x id) (taken b.session)).Follows x extra
      (b'.handOut s id (taken b'.session)) := by
  have hs : (b.withSession (taken b'.session).2).Without x extra
      (b'.withSession (taken b'.session).2) := by
    have hs := h.withSession fun y => (taken y).2
    rwa [h.session] at hs
  have hp := (hs.record (.handedOut id (taken b'.session).1)).passAccess
  unfold Bridge.handOut
  dsimp only
  rw [h.session]
  rw [show (((b.withSession (taken b'.session).2).record
    (.handedOut (above x id) (taken b'.session).1)).passAccess).request? (above x id) = _ from
      hp.request? id]
  cases (((b'.withSession (taken b'.session).2).record
    (.handedOut id (taken b'.session).1)).passAccess).request? id with
  | none => exact hp.closeAll id _
  | some q =>
    cases q with
    | session a => exact (hp.finish id _).follows
    | _ => exact hp.closeAll id _

theorem Without.act (h : b.Without x extra b') (id : Nat) (a : SessionAction) :
    (b.act s (above x id) a).Follows x extra (b'.act s id a) := by
  cases a with
  | setCredential k =>
    have hr := h.record (.credentialSet k)
    exact (((hr.withSession (·.setCredential k)).passAccess).finish id _).follows
  | setTarget t =>
    have hr := h.record (.targetSet t)
    exact (((hr.withSession (·.setTarget t)).passAccess).finish id _).follows
  | clearCredential => exact (((h.withSession (·.clearCredential)).passAccess).finish id _).follows
  | invalidate c => exact (((h.withSession (·.invalidate c)).passAccess).finish id _).follows
  | ensureOpen => exact h.ensureOpen id
  | takeRetired => exact h.handOut id (·.takeRetired)
  | retireAll => exact h.handOut id (·.retireAll)
  | isOpen =>
    have hd := ((h.withSession (·.discardAbandoned)).passAccess).finish id
      (.flag b'.session.discardAbandoned.live.isSome)
    unfold Bridge.act
    dsimp only
    rw [h.session] at hd ⊢
    exact hd.follows
  | isAuthenticated | target | generation =>
    unfold Bridge.act
    rw [h.session]
    exact (h.passAccess.finish id _).follows

theorem Without.waitToAct (h : b.Without x extra b') (id : Nat) (a : SessionAction) :
    (b.waitToAct s (above x id) a).Follows x extra (b'.waitToAct s id a) :=
  h.withAccess id _ fun h => h.act id a

theorem Without.takeTurn (h : b.Without x extra b') (id : Nat) :
    (b.takeTurn s (above x id)).Follows x extra (b'.takeTurn s id) := by
  unfold Bridge.takeTurn
  rw [h.request? id]
  cases b'.request? id with
  | none => exact h.waitToAct id _
  | some q =>
    cases q with
    | invoke i => exact (h.record (.started id i.command)).waitToAct id _
    | _ => exact h.waitToAct id _

end

end Bridge

end CommandBridge
