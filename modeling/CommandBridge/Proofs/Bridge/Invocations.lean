import CommandBridge.Proofs.Bridge.History
import CommandBridge.Proofs.Bridge.Passage
import CommandBridge.Proofs.Bridge.Turns

/-! Invocations start in the order in which they ask for their turn, and none does anything while
another one is at it. -/
namespace CommandBridge

open Function

variable {σ ρ : Type}

namespace Event

/-- The call that an event belongs to. -/
def caller? : Event → Option Nat
  | started id _ | finished id _ _ | handshake id _ _ | executing id _ | lost id _
  | abandoned id _ | handedOut id _ | closing id _ => some id
  | _ => none

def started? : Event → Option Nat
  | started id _ => some id
  | _ => none

def finished? : Event → Option Nat
  | finished id _ _ => some id
  | _ => none

end Event

namespace Bridge

/-- The invocations that have started, in order. -/
def startedCalls (b : Bridge σ ρ) : List Nat := b.events.filterMap Event.started?

def finishedCalls (b : Bridge σ ρ) : List Nat := b.events.filterMap Event.finished?

def takesTurn (b : Bridge σ ρ) (id : Nat) : Bool := (b.request? id).any Request.needsTurn

/-- Whose doing each event is, as far as invocations and shutdowns are concerned. -/
def turnTrace (b : Bridge σ ρ) : List Nat :=
  (b.events.filterMap Event.caller?).filter (b.takesTurn ·)

/-- What a running call adds to the events while it keeps its turn. -/
def Own (id : Nat) (es : List Event) : Prop :=
  ∀ e ∈ es, (e.caller? = some id ∨ e.caller? = none) ∧ e.started? = none ∧ e.finished? = none

section
variable {s : Setup σ ρ} {b b' : Bridge σ ρ} {id : Nat} {p p' : Point ρ} {r : Request}

theorem own_nil : Own id [] := by simp [Own]

theorem own_closeNotes (c : Connection) (a : Except Failure (Option String)) :
    Own id (closeNotes c a) := by
  rcases a with e | _ | text <;>
    simp [Own, closeNotes, Event.caller?, Event.started?, Event.finished?]

theorem own_events (a : SessionAction) : Own id a.events := by
  cases a <;> simp [Own, SessionAction.events, Event.caller?, Event.started?, Event.finished?]

theorem own_cons {e : Event} {es : List Event} (h : e.caller? = some id) (hs : e.started? = none)
    (hf : e.finished? = none) (ho : Own id es) : Own id (e :: es) :=
  List.forall_mem_cons.mpr ⟨⟨.inl h, hs, hf⟩, ho⟩

/-- What a move does about the turn: `es` are the events that it adds. -/
inductive TurnMove (id : Nat) (r : Request) (b : Bridge σ ρ) (p : Point ρ) (b' : Bridge σ ρ)
    (p' : Point ρ) (es : List Event) : Prop where
  | begin (hp : p = .turn) (ht : b'.turn = b.turn) (hs : p'.stance r .turn = .has)
      (he : (∃ i command, r.Runs i ∧ es = [.started id command]) ∨ (∀ i, ¬ r.Runs i) ∧ es = [])
  | act (ht : b'.turn = b.turn) (hs : p.stance r .turn = r.turnHold)
      (hs' : p'.stance r .turn = r.turnHold) (he : Own id es)
  | finish (ht : b'.turn = b.turn.pass) (hs : p.stance r .turn = .has)
      (hs' : p'.stance r .turn = .out)
      (he : (∃ command o, es = [.finished id command o]) ∨ (∀ i, ¬ r.Runs i) ∧ es = [])

theorem turnMove_of_history (es : List Event) (hh : b'.history = b.history ++ es.map (b.now, ·))
    (ho : Own id es) (ht : b'.turn = b.turn) (hs : p.stance r .turn = r.turnHold)
    (hs' : p'.stance r .turn = r.turnHold) :
    ∃ es, b'.events = b.events ++ es ∧ TurnMove id r b p b' p' es :=
  ⟨es, events_of_history hh, .act ht hs hs' ho⟩

/-- A call keeps its turn until it concludes, or has nothing left to close. -/
theorem Moves.turnHold (h : Moves s id b p b' p') (hr : b.request? id = some r) (hp : p.Suits r)
    (ht : p ≠ .turn) (hi : ∀ i a, p ≠ .conclude i a) (hc : p = .close [] → ∃ i, r = .invoke i) :
    p.stance r .turn = r.turnHold ∧ p'.stance r .turn = r.turnHold := by
  cases h with
  | serve ha => exact ⟨rfl, (Request.turnHold_of_answer hp ha).symm⟩
  | _ =>
    cases r <;> simp_all [Point.Suits, Request.Wants, Request.Runs, Request.needsTurn,
      Request.turnHold, Point.stance, Phase.stance]

theorem Moves.turnMove (h : Moves s id b p b' p') (hr : b.request? id = some r) (hp : p.Suits r) :
    ∃ es, b'.events = b.events ++ es ∧ TurnMove id r b p b' p' es := by
  have hold := h.turnHold hr hp
  cases h with
  | @start i hi =>
    cases hr.symm.trans hi
    have hn : i.pipeline.isEmpty = false := by simpa [Point.Suits, Request.needsTurn] using hp
    refine ⟨[.started id i.command], by simp, .begin rfl rfl ?_ ?_⟩
    · exact Request.turnHold_of_needsTurn hp
    · exact .inl ⟨i, _, ⟨rfl, hn⟩, rfl⟩
  | shutDown hi =>
    refine ⟨[], by simp, .begin rfl rfl (Request.turnHold_of_needsTurn hp) (.inr ⟨?_, rfl⟩)⟩
    rintro i ⟨rfl, -⟩
    exact hi i hr
  | @conclude i a =>
    obtain ⟨rfl, hi⟩ := hp
    refine ⟨[.finished id i.command (.ofResult a)], by simp,
      .finish rfl ?_ rfl (.inl ⟨_, _, rfl⟩)⟩
    simp [Point.stance, Request.turnHold, Request.needsTurn, hi]
  | leave hi =>
    refine ⟨[], by simp, .finish rfl ?_ rfl (.inr ⟨?_, rfl⟩)⟩
    · exact Request.turnHold_of_needsTurn hp
    · rintro i ⟨rfl, -⟩
      exact hi i hr
  | @close c _ _ a _ =>
    obtain ⟨hs, hs'⟩ := hold (by simp) (by simp) (by simp)
    refine turnMove_of_history (.closing id c :: closeNotes c a) ?_ ?_ rfl hs hs'
    · exact List.append_assoc _ _ _
    · exact own_cons rfl rfl rfl (own_closeNotes c a)
  | serve | closedOwn | closed =>
    obtain ⟨hs, hs'⟩ := hold (by simp) (by simp) (by simp)
    refine turnMove_of_history _ rfl ?_ rfl hs hs'
    first | exact own_events _ | exact own_closeNotes _ _
  | proceed hi =>
    obtain ⟨hs, hs'⟩ := hold (by simp) (by simp) fun _ => ⟨_, Option.some.inj (hr.symm.trans hi)⟩
    exact turnMove_of_history [] (List.append_nil _).symm own_nil rfl hs hs'
  | enter | wait | reuse | refuse | run | give | giveIn | giveFailure | breakDown | rejected
  | refused | accept | output | outputFailure | failLost | failOther | closeFailed =>
    obtain ⟨hs, hs'⟩ := hold (by simp) (by simp) (by simp)
    exact turnMove_of_history [] (List.append_nil _).symm own_nil rfl hs hs'
  | _ =>
    obtain ⟨hs, hs'⟩ := hold (by simp) (by simp) (by simp)
    refine turnMove_of_history [_] rfl ?_ rfl hs hs'
    simp [Own, Event.caller?, Event.started?, Event.finished?]

/-- The calls that have anything to start. -/
def runs (b : Bridge σ ρ) (id : Nat) : Prop := ∃ r i, b.request? id = some r ∧ r.Runs i

def isGone (b : Bridge σ ρ) (f : Option (Nat × Point ρ)) (id : Nat) : Prop :=
  b.spot f id = some (.park .cancelled)

/-- The calls take turns, and nothing has happened that a call yet to come could have done. -/
structure TakesTurns (b : Bridge σ ρ) (f : Option (Nat × Point ρ)) : Prop where
  known : ∀ e ∈ b.events, ∀ id, e.caller? = some id → ∃ r, b.request? id = some r
  serial : Serial b.turn (b.stances f · .turn) b.runs (b.isGone f) b.turnTrace b.startedCalls
    b.finishedCalls

theorem runs_congr (hq : ∀ j, b'.request? j = b.request? j) : b'.runs = b.runs := by
  funext j
  simp only [runs, hq]

theorem takesTurn_congr (hq : b'.request? id = b.request? id) :
    b'.takesTurn id = b.takesTurn id := by
  rw [takesTurn, hq, takesTurn]

theorem turnTrace_append {es : List Event} (hq : ∀ j, b'.request? j = b.request? j)
    (he : b'.events = b.events ++ es) :
    b'.turnTrace = b.turnTrace ++ (es.filterMap Event.caller?).filter (b.takesTurn ·) := by
  have ht : b'.takesTurn = b.takesTurn := funext fun j => takesTurn_congr (hq j)
  simp [turnTrace, he, ht]

theorem startedCalls_append {es : List Event} (he : b'.events = b.events ++ es) :
    b'.startedCalls = b.startedCalls ++ es.filterMap Event.started? := by
  simp [startedCalls, he]

theorem finishedCalls_append {es : List Event} (he : b'.events = b.events ++ es) :
    b'.finishedCalls = b.finishedCalls ++ es.filterMap Event.finished? := by
  simp [finishedCalls, he]

theorem Own.started {es : List Event} (h : Own id es) : es.filterMap Event.started? = [] :=
  List.filterMap_eq_nil_iff.mpr fun e he => (h e he).2.1

theorem Own.finished {es : List Event} (h : Own id es) : es.filterMap Event.finished? = [] :=
  List.filterMap_eq_nil_iff.mpr fun e he => (h e he).2.2

theorem Own.caller {es : List Event} (h : Own id es) {e : Event} (he : e ∈ es) {j : Nat}
    (hj : e.caller? = some j) : j = id := by
  rcases (h e he).1 with hi | hn
  · exact Option.some.inj (hj.symm.trans hi)
  · simp [hn] at hj

theorem TurnMove.caller {es : List Event} (h : TurnMove id r b p b' p' es) {e : Event}
    (he : e ∈ es) {j : Nat} (hj : e.caller? = some j) : j = id := by
  cases h with
  | begin _ _ _ hes =>
    rcases hes with ⟨i, command, -, rfl⟩ | ⟨-, rfl⟩
    · obtain rfl := List.mem_singleton.mp he
      exact (Option.some.inj hj).symm
    · simp at he
  | act _ _ _ ho => exact ho.caller he hj
  | finish _ _ _ hes =>
    rcases hes with ⟨command, o, rfl⟩ | ⟨-, rfl⟩
    · obtain rfl := List.mem_singleton.mp he
      exact (Option.some.inj hj).symm
    · simp at he

theorem turn_stances_move (hc : b'.calls = b.calls) (hr : b.request? id = some r) :
    (b'.stances (some (id, p')) · .turn) =
      update (b.stances (some (id, p)) · .turn) id (p'.stance r .turn) := by
  rw [stances_move (p := p) hc hr]
  funext j
  by_cases hj : j = id <;> simp [hj]

theorem not_runs (hr : b.request? id = some r) (hn : ∀ i, ¬ r.Runs i) : ¬ b.runs id := by
  rintro ⟨r', i, hr', hi⟩
  cases hr.symm.trans hr'
  exact hn i hi

theorem takesTurn_eq (hr : b.request? id = some r) : b.takesTurn id = r.needsTurn := by
  simp [takesTurn, hr]

/-- A call does something, which is left out of the trace if the call takes no turn. -/
theorem TakesTurns.act {f : Option (Nat × Point ρ)} {es : List Event} (ht : b.TakesTurns f)
    (ho : b.InOrder f) (hr : b.request? id = some r) (hs : b.stances f id .turn = r.turnHold)
    (hown : Own id es) :
    Serial b.turn (b.stances f · .turn) b.runs (b.isGone f)
      (b.turnTrace ++ (es.filterMap Event.caller?).filter (b.takesTurn ·)) b.startedCalls
      b.finishedCalls := by
  have hall (j : Nat) (hj : j ∈ es.filterMap Event.caller?) : j = id := by
    obtain ⟨e, hmem, hej⟩ := List.mem_filterMap.mp hj
    exact hown.caller hmem hej
  by_cases hn : r.needsTurn = true
  · have hhas : b.stances f id .turn = .has := hs.trans (Request.turnHold_of_needsTurn hn)
    exact ht.serial.act (ho.orderly .turn) hhas fun j hj => hall j (List.mem_filter.mp hj).1
  · have hnil : (es.filterMap Event.caller?).filter (b.takesTurn ·) = [] := by
      refine List.filter_eq_nil_iff.mpr fun j hj => ?_
      rw [hall j hj, takesTurn_eq hr]
      exact hn
    rw [hnil, List.append_nil]
    exact ht.serial

theorem Moves.isGone (h : Moves s id b p b' p') {j : Nat} (hj : b.isGone (some (id, p)) j) :
    b'.isGone (some (id, p')) j := by
  unfold Bridge.isGone at hj ⊢
  rw [spot_of_calls h.calls]
  by_cases hji : j = id
  · subst hji
    obtain rfl : p = .park .cancelled := by simpa [spot_running] using hj
    cases h
  · rwa [spot_other hji] at hj ⊢

theorem Moves.takesTurns (h : Moves s id b p b' p') (hr : b.request? id = some r) (hp : p.Suits r)
    (ho : b.InOrder (some (id, p))) (ht : b.TakesTurns (some (id, p))) :
    b'.TakesTurns (some (id, p')) := by
  have hc := h.calls
  have hgone (j : Nat) (hj : b.isGone (some (id, p)) j) : b'.isGone (some (id, p')) j := h.isGone hj
  have hold : b.stances (some (id, p)) id .turn = p.stance r .turn := by rw [stances_running hr]
  have ord := ho.orderly .turn
  obtain ⟨es, he, hm⟩ := h.turnMove hr hp
  refine ⟨fun e hmem j hej => ?_, ?_⟩
  · rw [request?_of_calls hc]
    rcases List.mem_append.mp (he ▸ hmem) with hmem | hmem
    · exact ht.known e hmem j hej
    · exact ⟨r, hm.caller hmem hej ▸ hr⟩
  have hall : ∀ j ∈ (es.filterMap Event.caller?).filter (b.takesTurn ·), j = id := by
    intro j hj
    obtain ⟨e, hmem, hej⟩ := List.mem_filterMap.mp (List.mem_filter.mp hj).1
    exact hm.caller hmem hej
  have hreq := request?_of_calls hc
  rw [turn_stances_move (p := p) hc hr, runs_congr hreq, turnTrace_append hreq he,
    startedCalls_append he, finishedCalls_append he]
  cases hm with
  | begin hpt hlock hs hes =>
    subst hpt
    have hw : b.stances (some (id, .turn)) id .turn = .waits := hold
    have hl : b.turn.holder = some id := ho.holder_of_ready List.mem_cons_self hw
    rw [hs, hlock]
    rcases hes with ⟨i, command, hi, rfl⟩ | ⟨hn, rfl⟩
    · have hb := ht.serial.begin ord hw hl hall (.inl ⟨rfl, r, i, hr, hi⟩)
      have hnone : [Event.started id command].filterMap Event.finished? = [] := rfl
      rw [hnone, List.append_nil]
      exact hb.mono_gone hgone
    · have hb := ht.serial.begin ord hw hl hall (.inr ⟨rfl, not_runs hr hn⟩)
      simpa using hb.mono_gone hgone
  | act hlock hs hs' hown =>
    rw [hs', ← hs, ← hold, update_eq_self, hlock, hown.started, hown.finished, List.append_nil,
      List.append_nil]
    exact (ht.act ho hr (hold.trans hs) hown).mono_gone hgone
  | finish hlock hs hs' hes =>
    have hhas : b.stances (some (id, p)) id .turn = .has := hold.trans hs
    have hl : b.turn.leave id = b.turn.pass := if_pos (ord.has id hhas)
    have hf : ∀ j ∈ b.finishedCalls, j ∈ b.finishedCalls ++ es.filterMap Event.finished? :=
      fun j => List.mem_append_left _
    rw [hs', hlock, ← hl]
    rcases hes with ⟨command, o, rfl⟩ | ⟨hn, rfl⟩
    · have hnone : [Event.finished id command o].filterMap Event.started? = [] := rfl
      rw [hnone, List.append_nil]
      refine (ht.serial.act ord hhas hall).leave hf (.inl ⟨hhas, fun _ => ?_⟩) hgone
      simp [Event.finished?]
    · have hend := ht.serial.leave hf (.inl ⟨hhas, fun h => absurd h (not_runs hr hn)⟩) hgone
      simpa using hend

/-- Events that belong to no call. -/
def Quiet (es : List Event) : Prop :=
  ∀ e ∈ es, e.caller? = none ∧ e.started? = none ∧ e.finished? = none

theorem Quiet.caller {es : List Event} (h : Quiet es) : es.filterMap Event.caller? = [] :=
  List.filterMap_eq_nil_iff.mpr fun e he => (h e he).1

theorem Quiet.started {es : List Event} (h : Quiet es) : es.filterMap Event.started? = [] :=
  List.filterMap_eq_nil_iff.mpr fun e he => (h e he).2.1

theorem Quiet.finished {es : List Event} (h : Quiet es) : es.filterMap Event.finished? = [] :=
  List.filterMap_eq_nil_iff.mpr fun e he => (h e he).2.2

theorem quiet_events (r : Request) : Quiet r.events := by
  cases r <;> simp [Quiet, Request.events, Event.caller?, Event.started?, Event.finished?]

theorem Starts.events (h : Starts s b b' id p) :
    ∃ es, b'.events = b.events ++ es ∧ Quiet es := by
  cases h with
  | @takeTurn r | @queue r =>
    refine ⟨r.events, ?_, quiet_events r⟩
    simp
  | @closeTimedOut id c =>
    refine ⟨[.closeTimedOut c], by simp, ?_⟩
    simp [Quiet, Event.caller?, Event.started?, Event.finished?]
  | _ => exact ⟨[], (List.append_nil _).symm, by simp [Quiet]⟩

/-- How the trace of the calls that there have been so far goes on. -/
theorem TakesTurns.trace_of_quiet {f : Option (Nat × Point ρ)} {es : List Event}
    (ht : b.TakesTurns f) (hq : Quiet es) (he : b'.events = b.events ++ es)
    (hr : ∀ j r, b.request? j = some r → b'.request? j = some r) : b'.turnTrace = b.turnTrace := by
  unfold turnTrace
  rw [he, List.filterMap_append, hq.caller, List.append_nil]
  refine List.filter_congr fun j hj => ?_
  obtain ⟨e, hm, hej⟩ := List.mem_filterMap.mp hj
  obtain ⟨r, hr'⟩ := ht.known e hm j hej
  rw [takesTurn_eq hr', takesTurn_eq (hr j r hr')]

theorem request?_lt (hr : b.request? id = some r) : id < b.calls.length := by
  obtain ⟨c, hc, -⟩ := Option.map_eq_some_iff.mp hr
  exact (List.getElem?_eq_some_iff.mp hc).1

theorem takesTurn_lt (h : b.takesTurn id = true) : id < b.calls.length := by
  cases hr : b.request? id with
  | none => simp [takesTurn, hr] at h
  | some r => exact request?_lt hr

theorem lt_of_stance {f : Option (Nat × Point ρ)} {g : Gate} (h : b.stances f id g ≠ .out) :
    id < b.calls.length := by
  cases hr : b.request? id with
  | none => cases g <;> simp [stances, hr] at h
  | some r => exact request?_lt hr

theorem Starts.request? (h : Starts s b b' id p) {j : Nat} (hr : b.request? j = some r) :
    b'.request? j = some r := by
  rcases h.calls with ⟨hc, -⟩ | ⟨-, -, rfl⟩
  · rwa [request?_of_calls hc]
  · rwa [(h.other (Nat.ne_of_lt (request?_lt hr))).2]

/-- A call that begins to run asks for its turn, or changes nothing about the turns. -/
theorem Starts.turn (h : Starts s b b' id p) (hr : b'.request? id = some r) :
    (id = b.calls.length ∧ b'.turn = b.turn.request id ∧ p.stance r .turn = .waits) ∨
      (b'.turn = b.turn ∧ p.stance r .turn = b.stances none id .turn ∧
        ∀ j, b'.runs j → b.runs j) := by
  have hs := h
  have runs_of_other (hn : ∀ i, ¬ r.Runs i) (j : Nat) (hj : b'.runs j) : b.runs j := by
    obtain ⟨r', i, hr', hi⟩ := hj
    have hji : j ≠ id := by
      rintro rfl
      exact hn i (Option.some.inj (hr.symm.trans hr') ▸ hi)
    exact ⟨r', i, (hs.other hji).2 ▸ hr', hi⟩
  cases h with
  | takeTurn | queue => exact .inl ⟨rfl, rfl, rfl⟩
  | @skip i hi =>
    cases (request?_addCall b _).symm.trans hr
    refine .inr ⟨rfl, by rw [stances_new]; rfl, runs_of_other ?_⟩
    rintro _ ⟨⟨rfl⟩, hn⟩
    simp [hi] at hn
  | approach | execute | close =>
    cases (request?_addCall b _).symm.trans hr
    refine .inr ⟨rfl, by rw [stances_new]; rfl, runs_of_other ?_⟩
    rintro _ ⟨⟨⟩, -⟩
  | queued _ hp | waiting _ hp | losing _ hp | connected hp | handshakeTimedOut hp | executed hp
  | executedOwn hp | executionTimedOut hp | closed hp | closeTimedOut hp =>
    exact .inr ⟨rfl, (congrFun (stances_resting (b := b) hr hp) .turn).symm, fun _ hj => hj⟩

theorem Starts.not_gone (h : Starts s b b' id p) : ¬ b.isGone none id := by
  unfold isGone spot
  cases h with
  | skip | takeTurn | queue | approach | execute | close => simp [phase?]
  | queued _ hp | waiting _ hp | losing _ hp | connected hp | handshakeTimedOut hp | executed hp
  | executedOwn hp | executionTimedOut hp | closed hp | closeTimedOut hp => simp [hp]

theorem Starts.isGone (h : Starts s b b' id p) {j : Nat} (hj : b.isGone none j) :
    b'.isGone (some (id, p)) j := by
  have hji : j ≠ id := by
    rintro rfl
    exact h.not_gone hj
  exact (h.other hji).1.trans hj

theorem Starts.takesTurns (h : Starts s b b' id p) (hr : b'.request? id = some r)
    (ho : b.InOrder none) (ht : b.TakesTurns none) : b'.TakesTurns (some (id, p)) := by
  obtain ⟨es, he, hq⟩ := h.events
  have hgone (j : Nat) (hj : b.isGone none j) : b'.isGone (some (id, p)) j := h.isGone hj
  refine ⟨fun e hmem j hej => ?_, ?_⟩
  · rcases List.mem_append.mp (he ▸ hmem) with hmem | hmem
    · obtain ⟨r', hr'⟩ := ht.known e hmem j hej
      exact ⟨r', h.request? hr'⟩
    · simp [(hq e hmem).1] at hej
  have hst : (b'.stances (some (id, p)) · .turn) =
      update (b.stances none · .turn) id (p.stance r .turn) := by
    rw [stances_start h hr]
    funext j
    by_cases hj : j = id <;> simp [hj]
  rw [hst, ht.trace_of_quiet hq he fun j r hj => h.request? hj, startedCalls_append he,
    finishedCalls_append he, hq.started, hq.finished, List.append_nil, List.append_nil]
  rcases h.turn hr with ⟨hid, htl, hs⟩ | ⟨htl, hs, hruns⟩
  · rw [htl, hs]
    refine ht.serial.ask (ho.orderly .turn) (fun j hj => ?_) (fun j hj => ?_) (fun hm => ?_)
      (fun j hj => ?_) fun j _ => hgone j
    · rw [hid]
      refine lt_of_stance (f := none) (g := .turn) ?_
      rcases List.mem_append.mp hj with hj | hj
      · exact (ho.orderly .turn).holder j (Option.mem_toList.mp hj)
      · rw [(ho.orderly .turn).waiting j hj]
        simp
    · obtain ⟨r', i, hr', -⟩ := ht.serial.running j hj
      exact hid ▸ request?_lt hr'
    · exact absurd (takesTurn_lt (List.mem_filter.mp hm).2) (by omega)
    · simp only [runs, (h.other hj).2]
  · rw [htl, hs, update_eq_self]
    refine ht.serial.mono hruns (fun j hj => ?_) hgone
    obtain ⟨r', i, hr', hi⟩ := ht.serial.running j hj
    exact ⟨r', i, h.request? hr', hi⟩

theorem isGone_stopped {ph : Phase ρ} (hp : b.phase? id = some ph) :
    (b.stopped id).isGone none id := by
  unfold isGone
  rw [spot_stopped hp, spot_running]

theorem isGone_of_stopped {ph : Phase ρ} (hp : b.phase? id = some ph) {j : Nat}
    (hj : b.isGone none j) : (b.stopped id).isGone none j := by
  by_cases hji : j = id
  · subst hji
    exact isGone_stopped hp
  · unfold isGone at hj ⊢
    rwa [spot_stopped hp, spot_other hji]

theorem TakesTurns.stop {ph : Phase ρ} (ht : b.TakesTurns none) (ho : b.InOrder none)
    (hr : b.request? id = some r) (hp : b.phase? id = some ph) :
    (b.stopped id).TakesTurns none := by
  obtain ⟨es, he, hes⟩ := b.stopped_events id
  have hown : Own id es := by
    rcases hes with rfl | ⟨c, timer, rfl, -⟩
    · exact own_nil
    · exact own_cons rfl rfl rfl own_nil
  have hreq := request?_stopped b id
  have hid : (b.stopped id).isGone none id := isGone_stopped hp
  have hgone (j : Nat) (hj : b.isGone none j) : (b.stopped id).isGone none j :=
    isGone_of_stopped hp hj
  refine ⟨fun e hmem j hej => ?_, ?_⟩
  · rw [hreq]
    rcases List.mem_append.mp (he ▸ hmem) with hmem | hmem
    · exact ht.known e hmem j hej
    · exact ⟨r, hown.caller hmem hej ▸ hr⟩
  have hst : ((b.stopped id).stances none · .turn) = update (b.stances none · .turn) id .out := by
    rw [stances_stopped hr hp]
    funext j
    by_cases hj : j = id <;> simp [hj]
  have hl : (b.stopped id).turn = b.turn.leave id := congrFun (stopped_locks b id) .turn
  rw [hst, hl, runs_congr hreq, turnTrace_append hreq he, startedCalls_append he,
    finishedCalls_append he, hown.started, hown.finished, List.append_nil, List.append_nil]
  rcases hes with rfl | ⟨c, timer, rfl, hx⟩
  · rw [List.filterMap_nil, List.filter_nil, List.append_nil]
    exact ht.serial.leave (fun j hj => hj) (.inr hid) hgone
  · refine (ht.act ho hr ?_ hown).leave (fun j hj => hj) (.inr hid) hgone
    rw [stances_resting hr hx]
    rfl

variable {mayStop : Bridge σ ρ → Nat → Prop} {t : Target} {remote : σ}

theorem Visited.takesTurns {f : Option (Nat × Point ρ)} (h : Visited s mayStop t remote b f) :
    b.TakesTurns f := by
  induction h with
  | new =>
    have hr (j : Nat) : (Bridge.new t remote : Bridge σ ρ).request? j = none := rfl
    refine ⟨fun e he => ?_, Serial.new (fun j => ?_) fun j => ?_⟩
    · obtain rfl : e = .created t := by simpa [events, Bridge.new] using he
      simp [Event.caller?]
    · simp [stances, hr]
    · simp [runs, hr]
  | start h hs ih =>
    obtain ⟨r, hr, -⟩ := hs.suits h.suits
    exact hs.takesTurns hr h.inOrder ih
  | @move b b' id p p' h hm ih =>
    obtain ⟨r, hr, hp⟩ := h.suits id p (spot_running b id p)
    exact hm.takesTurns hr hp h.inOrder ih
  | @park b id ph h ih =>
    obtain ⟨r, hr, -⟩ := h.suits id (.park ph) (spot_running b id _)
    have hreq := request?_setPhase b id ph
    have htr : (b.setPhase id ph).turnTrace = b.turnTrace :=
      (turnTrace_append hreq (List.append_nil _).symm).trans (by simp)
    have hgone : (b.setPhase id ph).isGone none = b.isGone (some (id, .park ph)) := by
      funext j
      simp only [isGone, spot_setPhase hr]
    refine ⟨fun e he j hej => ?_, ?_⟩
    · rw [hreq]
      exact ih.known e he j hej
    · rw [stances_park hr, runs_congr hreq, htr, hgone]
      exact ih.serial
  | @stop b id h hs ih =>
    rcases cancel_cases b id with he | ⟨ph, hp, -, he⟩
    · rwa [he]
    · obtain ⟨r, hr, -⟩ := h.suits id (.park ph) (spot_resting hp)
      rw [he]
      exact ih.stop h.inOrder hr hp
  | abandon h c ih => exact ⟨ih.known, ih.serial⟩
  | elapse h time ih => exact ⟨ih.known, ih.serial⟩
  | remote h remote ih => exact ⟨ih.known, ih.serial⟩

/-- An invocation that has started and has neither been finished nor stopped. -/
def InProgress (b : Bridge σ ρ) (id : Nat) : Prop :=
  id ∈ b.startedCalls ∧ id ∉ b.finishedCalls ∧ b.phase? id ≠ some .cancelled

/-- An invocation or shutdown for which the endpoint executes a pipeline or closes a connection. -/
def OccupiesEndpoint (b : Bridge σ ρ) (id : Nat) : Prop :=
  b.takesTurn id = true ∧ ((∃ c timer, b.phase? id = some (.executing c timer)) ∨
    ∃ c rest timer, b.phase? id = some (.closing c rest timer))

theorem phase?_of_gone (h : b.isGone none id) : b.phase? id = some .cancelled := phase?_of_spot h

theorem TakesTurns.has_of_inProgress (ht : b.TakesTurns none) (h : b.InProgress id) :
    b.stances none id .turn = .has := by
  obtain ⟨hs, hf, hg⟩ := h
  cases hst : b.stances none id .turn with
  | out =>
    rcases ht.serial.done id hst hs with hm | hm
    · exact absurd hm hf
    · exact absurd (phase?_of_gone hm) hg
  | waits => exact absurd (ht.serial.later id hst id hs) (Nat.lt_irrefl id)
  | has => rfl

theorem has_of_occupiesEndpoint (h : b.OccupiesEndpoint id) :
    b.stances none id .turn = .has := by
  obtain ⟨ht, hp⟩ := h
  cases hr : b.request? id with
  | none => simp [takesTurn, hr] at ht
  | some r =>
    rw [takesTurn_eq hr] at ht
    rcases hp with ⟨c, timer, hp⟩ | ⟨c, rest, timer, hp⟩ <;>
      exact (congrFun (stances_resting hr hp) .turn).trans (Request.turnHold_of_needsTurn ht)

theorem queued_of_waits (h : b.stances none id .turn = .waits) : b.phase? id = some .queued := by
  cases hr : b.request? id with
  | none => simp [stances, hr] at h
  | some r =>
    cases hp : b.phase? id with
    | none => simp [stances, spot, hp] at h
    | some ph =>
      rw [stances_resting hr hp] at h
      cases ph with
      | queued => rfl
      | ended | cancelled => simp [Phase.stance] at h
      | _ => exact absurd h r.turnHold_ne_waits

/-- The invocations are served one after the other. A call asks for its turn when it is submitted,
so calls ask in the order of their numbers. -/
structure OneByOne (b : Bridge σ ρ) : Prop where
  single : ∀ i j, b.InProgress i ∨ b.OccupiesEndpoint i → b.InProgress j ∨ b.OccupiesEndpoint j →
    i = j
  /-- What one call did never stands between two things that another one did. -/
  apart : ∀ i j, [i, j, i].Sublist b.turnTrace → j = i
  sorted : b.startedCalls.Pairwise (· < ·)
  running : ∀ i ∈ b.startedCalls, b.runs i
  /-- Only a call that was stopped is passed over. -/
  skipped : ∀ i, b.runs i → i ∈ b.startedCalls ∨ b.phase? i = some .cancelled ∨
    b.phase? i = some .queued ∧ ∀ j ∈ b.startedCalls, j < i

/-- This holds whichever calls are made, stopped or let go on, in whatever order. -/
theorem Reachable.oneByOne (h : Reachable s mayStop t remote b) : b.OneByOne := by
  have ho := h.visited.inOrder
  have ht := h.visited.takesTurns
  have has (i : Nat) (hi : b.InProgress i ∨ b.OccupiesEndpoint i) :
      b.stances none i .turn = .has := hi.elim ht.has_of_inProgress has_of_occupiesEndpoint
  refine ⟨fun i j hi hj => ho.has_unique (has i hi) (has j hj), ht.serial.apart, ht.serial.sorted,
    ht.serial.running, fun i hi => ?_⟩
  cases hs : b.stances none i .turn with
  | out =>
    rcases ht.serial.skipped i hs hi with hm | hg
    · exact .inl hm
    · exact .inr (.inl (phase?_of_gone hg))
  | waits => exact .inr (.inr ⟨queued_of_waits hs, ht.serial.later i hs⟩)
  | has => exact .inl (ht.serial.begun i hs hi)

/-- Three invocations of which the second is stopped while it waits and the third while it is
executed. -/
def threeCalls : Bridge Nat Unit :=
  let b := (Bridge.new localTarget 0).submit countingSetup
    (.session (.setCredential (.token ⟨"k"⟩)))
  let b := (b.submit countingSetup (.invoke singleStage)).submit countingSetup (.invoke singleStage)
  let b := (b.submit countingSetup (.invoke singleStage)).cancel 2
  let b := (b.wake countingSetup).resume countingSetup
  b.cancel 3

theorem reachable_threeCalls :
    Reachable countingSetup (fun _ _ => True) localTarget 0 threeCalls := by
  unfold threeCalls
  dsimp only
  refine .step (Reachable.resume (Reachable.wake (.step ?_ (.cancel trivial)))) (.cancel trivial)
  exact .step (.step (.step (.step .new (.submit _)) (.submit _)) (.submit _)) (.submit _)

theorem oneByOne_threeCalls : threeCalls.startedCalls = [1, 3] ∧ threeCalls.OneByOne :=
  ⟨by decide +kernel, reachable_threeCalls.oneByOne⟩

end

end Bridge

end CommandBridge
