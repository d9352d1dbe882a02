import CommandBridge.Proofs.Bridge.Trail
import Mathlib.Data.List.TakeWhile
import Mathlib.Data.Prod.Lex

/-! How a call comes closer to its end. All it does takes it further down, and while it waits for a
lock those in front of it get fewer. -/
namespace CommandBridge

variable {σ ρ : Type}

namespace Phase

/-- The lock that a call waits for. -/
def gate? : Phase ρ → Option Gate
  | queued => some .turn
  | waiting _ | losing _ _ => some .access
  | _ => none

/-- The timer of a call that waits for the endpoint. -/
def timer? : Phase ρ → Option Timer
  | opening _ _ timer | executing _ timer | closing _ _ timer => some timer
  | _ => none

theorem due?_eq (ph : Phase ρ) : ph.due? = ph.timer?.bind Timer.due? := by
  cases ph <;> rfl

/-- A call that has not ended waits for a lock or for the endpoint. -/
theorem gate_or_timer {ph : Phase ρ} (hf : ph.isFinal = false) :
    (∃ g, ph.gate? = some g) ∨ ∃ timer, ph.timer? = some timer := by
  cases ph with
  | queued | waiting | losing => exact .inl ⟨_, rfl⟩
  | opening | executing | closing => exact .inr ⟨_, rfl⟩
  | ended | cancelled => simp [isFinal] at hf

theorem isFinal_of_gate {ph : Phase ρ} {g : Gate} (hg : ph.gate? = some g) :
    ph.isFinal = false := by
  cases ph with
  | ended | cancelled => simp [gate?] at hg
  | _ => rfl

theorem isFinal_of_due {ph : Phase ρ} {due : Nat} (hd : ph.due? = some due) :
    ph.isFinal = false := by
  cases ph with
  | ended | cancelled => simp [due?] at hd
  | _ => rfl

theorem stance_eq_waits {ph : Phase ρ} {r : Request} {g : Gate} :
    ph.stance r g = .waits ↔ ph.gate? = some g := by
  have hr := r.turnHold_ne_waits
  cases g <;> cases ph <;> simp [stance, gate?, hr]

end Phase

/-- The session is asked for retired connections before it is asked for a live one. -/
def SessionAction.level : SessionAction → Nat
  | ensureOpen => 11
  | _ => 15

theorem SessionAction.level_pos (a : SessionAction) : 0 < a.level := by
  cases a <;> simp [level]

theorem SessionAction.level_of_taken {a : SessionAction} {x : Session} {cs : List Connection}
    (h : a.taken? x = some cs) : a.level = 15 := by
  cases a with
  | ensureOpen => simp [taken?] at h
  | _ => rfl

/-- How far a call is from its end. The second number counts what there is to close. -/
def Point.rank : Point ρ → Nat ×ₗ Nat
  | park .queued => toLex (19, 0)
  | turn => toLex (18, 0)
  | approach a => toLex (a.level + 2, 0)
  | park (.waiting a) => toLex (a.level + 1, 0)
  | act a => toLex (a.level, 0)
  | closeOwn _ => toLex (15, 0)
  | close cs => toLex (14, 3 * cs.length)
  | park (.closing _ rest _) => toLex (14, 3 * rest.length + 2)
  | closed _ rest _ => toLex (14, 3 * rest.length + 1)
  | park (.opening _ _ _) => toLex (10, 0)
  | connected _ _ _ | handshakeTimedOut _ => toLex (9, 0)
  | opened _ => toLex (8, 0)
  | execute _ _ _ => toLex (7, 0)
  | park (.executing _ _) => toLex (6, 0)
  | executed _ _ => toLex (5, 0)
  | lose _ _ => toLex (4, 0)
  | park (.losing _ _) => toLex (3, 0)
  | failLost _ _ | notOpened _ => toLex (2, 0)
  | conclude _ _ => toLex (1, 0)
  | park (.ended _) | park .cancelled => toLex (0, 0)

namespace Lock

/-- The calls that have a lock or wait for it, in order. -/
def line (l : Lock) : List Nat := l.holder.toList ++ l.waiting

/-- Those in front of a call. -/
def ahead (l : Lock) (j : Nat) : List Nat := l.line.takeWhile (· != j)

variable {l : Lock} {hold : Nat → Hold} {id j k : Nat}

theorem Orderly.line_request (h : l.Orderly hold) : (l.request id).line = l.line ++ [id] := by
  unfold request line
  split
  · rename_i hn
    simp [hn, h.idle hn]
  · exact (List.append_assoc _ _ _).symm

theorem line_leave (l : Lock) (id : Nat) : (l.leave id).line = l.line.erase id := by
  obtain ⟨holder, waiting⟩ := l
  unfold leave line
  cases holder with
  | none => simp
  | some k =>
    by_cases hk : k = id
    · subst hk
      cases waiting <;> simp [pass]
    · simp [hk]

theorem Orderly.mem_line (h : l.Orderly hold) (hj : hold j = .waits) : j ∈ l.line := by
  rcases h.inLine j hj with hl | hm
  · simp [line, hl]
  · exact List.mem_append_right _ hm

theorem takeWhile_erase_sublist {α : Type} [BEq α] [LawfulBEq α] {p : α → Bool} {x : α}
    (hx : p x = true) (xs : List α) : ((xs.erase x).takeWhile p).Sublist (xs.takeWhile p) := by
  induction xs with
  | nil => exact List.Sublist.refl _
  | cons y ys ih =>
    by_cases hy : y = x
    · subst hy
      simp [hx]
    · rw [List.erase_cons_tail (by simpa using hy), List.takeWhile_cons, List.takeWhile_cons]
      split
      · exact ih.cons_cons y
      · exact List.Sublist.refl _

/-- Those who come queue up behind. -/
theorem Orderly.ahead_request (h : l.Orderly hold) (hj : hold j = .waits) :
    (l.request id).ahead j = l.ahead j := by
  unfold ahead
  rw [h.line_request, List.takeWhile_append]
  split
  · rename_i hl
    -- the call is not in front of itself
    have hall := List.takeWhile_eq_self_iff.mp ((List.takeWhile_sublist _).eq_of_length hl)
    exact absurd (hall j (h.mem_line hj)) (by simp)
  · rfl

theorem ahead_leave (l : Lock) (hj : id ≠ j) : ((l.leave id).ahead j).Sublist (l.ahead j) := by
  unfold ahead
  rw [line_leave]
  exact takeWhile_erase_sublist (by simpa using hj) l.line

/-- The first in front of a call has the lock, and with no one in front the call has it itself. -/
theorem Orderly.holder_of_ahead (h : l.Orderly hold) (hj : hold j = .waits) :
    l.holder = some ((l.ahead j).headD j) := by
  have hm := h.mem_line hj
  cases hl : l.holder with
  | none => simp [line, hl, h.idle hl] at hm
  | some k =>
    by_cases hk : k = j
    · simp [ahead, line, hl, hk]
    · simp [ahead, line, hl, hk]

end Lock

namespace Bridge

/-- What happens to a lock is the doing of one call, which goes on or is stopped. -/
inductive LockMove (m m' : Moment σ ρ) (g : Gate) : Prop where
  | quiet (h : m'.1.locks g = m.1.locks g)
  | request {id : Nat} (h : m'.1.locks g = (m.1.locks g).request id)
      (hid : ∀ q, m.1.spot m.2 id = some q → m'.1.spot m'.2 id ≠ some q)
  | leave {id : Nat} (h : m'.1.locks g = (m.1.locks g).leave id)
      (hid : ∀ q, m.1.spot m.2 id = some q → m'.1.spot m'.2 id ≠ some q)

section
variable {s : Setup σ ρ} {mayStop : Bridge σ ρ → Nat → Prop} {t : Target} {remote : σ}
variable {b b' : Bridge σ ρ} {m m' : Moment σ ρ} {id j : Nat} {p p' q q' : Point ρ} {r : Request}

theorem Moves.rank (h : Moves s id b p b' p') : p'.rank < p.rank := by
  cases h with
  | serve | handOut => simp [Point.rank, Prod.Lex.toLex_lt_toLex, SessionAction.level_pos]
  | collect h =>
    simp [Point.rank, Prod.Lex.toLex_lt_toLex, SessionAction.level_of_taken h]
  | _ => simp [Point.rank, Prod.Lex.toLex_lt_toLex, SessionAction.level, Nat.mul_add]

theorem Starts.rank {ph : Phase ρ} (h : Starts s b b' j q') (hp : b.phase? j = some ph) :
    q'.rank < (Point.park ph).rank := by
  cases h with
  | skip | takeTurn | queue | approach | execute | close => simp [phase?] at hp
  | queued _ hp' | waiting _ hp' | losing _ hp' | connected hp' | handshakeTimedOut hp'
  | executed hp' | executedOwn hp' | executionTimedOut hp' | closed hp' | closeTimedOut hp' =>
    obtain rfl := Option.some.inj (hp.symm.trans hp')
    simp [Point.rank, Prod.Lex.toLex_lt_toLex]

theorem Goes.rank (h : Goes s m m' j q q') : q' = q ∨ q'.rank < q.rank := by
  cases h with
  | stays => exact .inl rfl
  | starts hp h => exact .inr (h.rank hp)
  | moves _ h => exact .inr h.rank
  | @stops ph hf =>
    right
    cases ph with
    | ended | cancelled => simp [Phase.isFinal] at hf
    | _ => simp [Point.rank, Prod.Lex.toLex_lt_toLex]

theorem Moves.lock (h : Moves s id b p b' p') (hr : b.request? id = some r) (hp : p.Suits r)
    (ho : b.InOrder (some (id, p))) (g : Gate) :
    LockMove (b, some (id, p)) (b', some (id, p')) g := by
  have hid (q : Point ρ) (hq : b.spot (some (id, p)) id = some q) :
      b'.spot (some (id, p')) id ≠ some q := by
    rw [spot_running] at hq ⊢
    intro hq'
    obtain rfl := Option.some.inj hq
    obtain rfl := Option.some.inj hq'
    exact absurd h.rank (lt_irrefl _)
  have pass (a : Gate) (hs : p.stance r a = .has) :
      (b.locks a).pass = (b.locks a).leave id := by
    have hl := (Locks.orderly ho a).has id (by rw [stances_running hr, hs])
    simp [Lock.leave, hl]
  cases h with
  | enter | wait | lose | loseLater =>
    cases g with
    | turn => exact .quiet rfl
    | access => exact .request rfl hid
  | serve | handOut | collect | reuse | refuse | install | fail | timeOut | failLost | failOther =>
    cases g with
    | turn => exact .quiet rfl
    | access => exact .leave (pass .access rfl) hid
  | conclude =>
    cases g with
    | turn =>
      obtain ⟨rfl, hi⟩ := hp
      refine .leave (pass .turn ?_) hid
      simp [Point.stance, Request.turnHold, Request.needsTurn, hi]
    | access => exact .quiet rfl
  | leave =>
    cases g with
    | turn =>
      refine .leave (pass .turn ?_) hid
      simp [Point.stance, Request.turnHold_of_needsTurn hp]
    | access => exact .quiet rfl
  | _ => exact .quiet rfl

theorem Next.lock (hn : Next s mayStop m m') (hv : Visited s mayStop t remote m.1 m.2) (g : Gate) :
    LockMove m m' g := by
  cases hn with
  | @start b b' id p h =>
    have new (q : Point ρ) (hq : b.spot none b.calls.length = some q) :
        b'.spot (some (id, p)) b.calls.length ≠ some q := nomatch (spot_fresh b).symm.trans hq
    cases h with
    | takeTurn | queue =>
      cases g with
      | turn => exact .request rfl new
      | access => exact .quiet rfl
    | _ => exact .quiet rfl
  | @move b b' id p p' h =>
    obtain ⟨r, hr, hp⟩ := hv.suits id p (spot_running b id p)
    exact h.lock hr hp hv.inOrder g
  | @stop b id =>
    rcases cancel_cases b id with he | ⟨ph, hp, hf, he⟩
    · exact .quiet (by rw [he])
    · have hl : (b.cancel id).locks g = (b.locks g).leave id := by rw [he, stopped_locks]
      refine .leave hl fun q hq => ?_
      rw [he, spot_stopped hp, spot_running]
      intro hq'
      obtain rfl := Option.some.inj hq'
      obtain rfl := Point.park.inj (Option.some.inj ((spot_resting hp).symm.trans hq))
      simp [Phase.isFinal] at hf
  | park | abandon | elapse | remote => exact .quiet rfl

/-- A call that stays where it is and waits for a lock keeps its place in the line. -/
theorem Next.ahead {g : Gate} (hn : Next s mayStop m m') (hv : Visited s mayStop t remote m.1 m.2)
    (hq : m.1.spot m.2 j = some q) (hq' : m'.1.spot m'.2 j = some q)
    (hw : m.1.stances m.2 j g = .waits) :
    ((m'.1.locks g).ahead j).Sublist ((m.1.locks g).ahead j) := by
  have ho := Locks.orderly hv.inOrder g
  cases hn.lock hv g with
  | quiet h =>
    rw [h]
  | request h =>
    rw [h, ho.ahead_request hw]
  | @leave id h hid =>
    rw [h]
    refine Lock.ahead_leave _ ?_
    rintro rfl
    exact hid q hq hq'

theorem Visited.stances_of_gate {ph : Phase ρ} {g : Gate} {f : Option (Nat × Point ρ)}
    (hv : Visited s mayStop t remote b f) (hq : b.spot f j = some (.park ph))
    (hg : ph.gate? = some g) : b.stances f j g = .waits := by
  obtain ⟨r, hr, -⟩ := hv.suits j (.park ph) hq
  simp only [stances, hr, hq]
  exact Phase.stance_eq_waits.mpr hg

theorem Next.rank (hn : Next s mayStop m m') (hv : Visited s mayStop t remote m.1 m.2)
    (hq : m.1.spot m.2 j = some q) :
    ∃ q', m'.1.spot m'.2 j = some q' ∧ (q' = q ∨ q'.rank < q.rank) := by
  obtain ⟨q', hq', hg⟩ := hn.spot hv hq
  exact ⟨q', hq', hg.rank⟩

/-- Whatever happens, a call stays where it is or comes closer to its end. -/
theorem Later.rank (hl : Later s mayStop m m') (hv : Visited s mayStop t remote m.1 m.2)
    (hq : m.1.spot m.2 j = some q) :
    ∃ q', m'.1.spot m'.2 j = some q' ∧ (q' = q ∨ q'.rank < q.rank) := by
  induction hl with
  | refl => exact ⟨q, hq, .inl rfl⟩
  | tail hl hn ih =>
    obtain ⟨q₁, hq₁, h₁⟩ := ih
    obtain ⟨q₂, hq₂, h₂⟩ := hn.rank (Later.visited hl hv) hq₁
    refine ⟨q₂, hq₂, ?_⟩
    rcases h₂ with rfl | h₂
    · exact h₁
    · exact .inr (h₁.elim (fun h => h ▸ h₂) fun h => h₂.trans h)

theorem Later.phase {ph : Phase ρ} (hl : Later s mayStop (b, none) (b', none))
    (hv : Visited s mayStop t remote b none) (hp : b.phase? j = some ph) :
    ∃ ph', b'.phase? j = some ph' ∧ (ph' = ph ∨ (Point.park ph').rank < (Point.park ph).rank) := by
  obtain ⟨q, hq, h⟩ := Later.rank hl hv (spot_resting hp)
  obtain ⟨ph', hp', rfl⟩ := Option.map_eq_some_iff.mp hq
  exact ⟨ph', hp', h.imp_left Point.park.inj⟩

/-- A call that goes on comes closer to its end. -/
theorem Advances.phase {ph : Phase ρ} (h : Advances s id b b')
    (hv : Visited s mayStop t remote b none) (hp : b.phase? id = some ph) :
    ∃ ph', b'.phase? id = some ph' ∧ (Point.park ph').rank < (Point.park ph).rank := by
  obtain ⟨b₁, p, hs, hl⟩ := h
  have hl' : Later s mayStop (b₁, some (id, p)) (b', none) := hl.later
  obtain ⟨q, hq, hd⟩ := hl'.rank (hv.start hs) (spot_running b₁ id p)
  obtain ⟨ph', hp', rfl⟩ := Option.map_eq_some_iff.mp hq
  have hr := hs.rank hp
  exact ⟨ph', hp', hd.elim (fun h => h ▸ hr) fun h => h.trans hr⟩

/-- While a call waits for a lock it keeps its place in the line. -/
theorem Later.ahead {ph : Phase ρ} {g : Gate} (hl : Later s mayStop m m')
    (hv : Visited s mayStop t remote m.1 m.2) (hq : m.1.spot m.2 j = some (.park ph))
    (hg : ph.gate? = some g) (hq' : m'.1.spot m'.2 j = some (.park ph)) :
    ((m'.1.locks g).ahead j).Sublist ((m.1.locks g).ahead j) := by
  induction hl with
  | refl => exact List.Sublist.refl _
  | @tail m₁ m₂ hl hn ih =>
    have hv₁ := Later.visited hl hv
    obtain ⟨q, hq₁, h₁⟩ := Later.rank hl hv hq
    obtain ⟨q₂, hq₂, h₂⟩ := hn.rank hv₁ hq₁
    obtain rfl := Option.some.inj (hq₂.symm.trans hq')
    -- a call that has come closer to its end does not come back
    have hsame : q = .park ph := by
      rcases h₁ with h₁ | h₁
      · exact h₁
      · rcases h₂ with h₂ | h₂
        · exact h₂.symm
        · exact absurd (h₁.trans h₂) (lt_irrefl _)
    subst hsame
    exact (hn.ahead hv₁ hq₁ hq' (hv₁.stances_of_gate hq₁ hg)).trans (ih hq₁)

end

end Bridge

end CommandBridge
