import CommandBridge.Proofs.Bridge.Course

/-! The states in which a bridge is found between two moves, with the call that runs and what that
call does next. -/
namespace CommandBridge

variable {σ ρ : Type}

namespace Request

def events : Request → List Event
  | shutdown => [.shuttingDown]
  | _ => []

/-- The invocation is one with anything to run. -/
def Runs (r : Request) (i : Invocation) : Prop := r = .invoke i ∧ i.pipeline.isEmpty = false

/-- The actions at the session that a request leads to. -/
def Wants : Request → SessionAction → Prop
  | invoke i, a => i.pipeline.isEmpty = false ∧ (a = .takeRetired ∨ a = .ensureOpen)
  | shutdown, a => a = .retireAll
  | session a', a => a = a'
  | execute _ _, _ | close _, _ => False

end Request

/-- The requests whose calls can be in that phase. -/
def Phase.Suits (r : Request) : Phase ρ → Prop
  | queued => r.needsTurn = true
  | waiting a => r.Wants a
  | losing _ _ => ∃ i, r.Runs i
  | opening _ _ _ => r.Wants .ensureOpen
  | executing _ _ => (∃ i, r.Runs i) ∨ ∃ c i, r = .execute c i
  | closing _ _ timer => r.needsTurn = true ∨ (∃ c, r = .close c) ∧ timer.limit = none
  | ended _ | cancelled => True

/-- The requests whose calls can be at that point. -/
def Point.Suits (r : Request) : Point ρ → Prop
  | turn | close _ => r.needsTurn = true
  | approach a | act a => r.Wants a
  | connected _ _ _ | handshakeTimedOut _ | opened _ | notOpened _ => r.Wants .ensureOpen
  | execute _ i limit => r.Runs i ∨ (∃ c, r = .execute c i) ∧ limit = none
  | executed _ _ => (∃ i, r.Runs i) ∨ ∃ c i, r = .execute c i
  | lose _ _ | failLost _ _ => ∃ i, r.Runs i
  | conclude i _ => r.Runs i
  | closeOwn _ => ∃ c, r = .close c
  | closed _ _ _ => r.needsTurn = true ∨ ∃ c, r = .close c
  | park ph => ph.Suits r

namespace Bridge

/-- How a call begins to run: it is new, or a lock was passed to it, or its time has come. -/
inductive Starts (s : Setup σ ρ) : Bridge σ ρ → Bridge σ ρ → Nat → Point ρ → Prop where
  | skip {b i} (h : i.pipeline.isEmpty = true) :
      Starts s b (b.addCall (.invoke i)) b.calls.length (.park (.ended (.records [])))
  | takeTurn {b r} (hr : r.needsTurn = true)
      (h : (b.turn.request b.calls.length).holder = some b.calls.length) :
      Starts s b
        { (b.addCall r).recordAll r.events with turn := b.turn.request b.calls.length }
        b.calls.length .turn
  | queue {b r} (hr : r.needsTurn = true)
      (h : (b.turn.request b.calls.length).holder ≠ some b.calls.length) :
      Starts s b
        { (b.addCall r).recordAll r.events with turn := b.turn.request b.calls.length }
        b.calls.length (.park .queued)
  | approach {b a} : Starts s b (b.addCall (.session a)) b.calls.length (.approach a)
  | execute {b c i} : Starts s b (b.addCall (.execute c i)) b.calls.length (.execute c i none)
  | close {b c} : Starts s b (b.addCall (.close c)) b.calls.length (.closeOwn c)
  | queued {b id} (h : id ∈ b.ready) (hp : b.phase? id = some .queued) :
      Starts s b { b with ready := b.ready.erase id } id .turn
  | waiting {b id a} (h : id ∈ b.ready) (hp : b.phase? id = some (.waiting a)) :
      Starts s b { b with ready := b.ready.erase id } id (.act a)
  | losing {b id c e} (h : id ∈ b.ready) (hp : b.phase? id = some (.losing c e)) :
      Starts s b { b with ready := b.ready.erase id } id (.failLost c e)
  | connected {b id t k timer remote r} (hp : b.phase? id = some (.opening t k timer))
      (ht : timer.isInTime = true) (he : s.endpoint.connected t k b.remote = (remote, r)) :
      Starts s b (b.withRemote remote) id (.connected t k r)
  | handshakeTimedOut {b id t k timer} (hp : b.phase? id = some (.opening t k timer))
      (ht : timer.isInTime = false) : Starts s b b id (.handshakeTimedOut t)
  | executed {b id c timer i remote r} (hp : b.phase? id = some (.executing c timer))
      (hr : b.request? id = some (.invoke i)) (ht : timer.isInTime = true)
      (he : s.endpoint.executed c i b.remote = (remote, r)) :
      Starts s b (b.withRemote remote) id (.executed c r)
  | executedOwn {b id c timer c' i remote r} (hp : b.phase? id = some (.executing c timer))
      (hr : b.request? id = some (.execute c' i))
      (he : s.endpoint.executed c i b.remote = (remote, r)) :
      Starts s b (b.withRemote remote) id (.executed c r)
  | executionTimedOut {b id c timer i} (hp : b.phase? id = some (.executing c timer))
      (hr : b.request? id = some (.invoke i)) (ht : timer.isInTime = false) :
      Starts s b b id (.lose c (executionFailure s))
  | closed {b id c rest timer remote r} (hp : b.phase? id = some (.closing c rest timer))
      (ht : timer.isInTime = true) (he : s.endpoint.closed c b.remote = (remote, r)) :
      Starts s b (b.withRemote remote) id (.closed c rest r)
  | closeTimedOut {b id c rest timer due} (hp : b.phase? id = some (.closing c rest timer))
      (hd : timer.due? = some due) (ht : timer.isInTime = false) :
      Starts s b (b.record (.closeTimedOut c)) id (.close rest)

/-- Between two moves. -/
inductive Visited (s : Setup σ ρ) (mayStop : Bridge σ ρ → Nat → Prop) (t : Target) (remote : σ) :
    Bridge σ ρ → Option (Nat × Point ρ) → Prop where
  | new : Visited s mayStop t remote (new t remote) none
  | start {b b' id p} (h : Visited s mayStop t remote b none) (hs : Starts s b b' id p) :
      Visited s mayStop t remote b' (some (id, p))
  | move {b b' id p p'} (h : Visited s mayStop t remote b (some (id, p)))
      (hm : Moves s id b p b' p') : Visited s mayStop t remote b' (some (id, p'))
  | park {b id ph} (h : Visited s mayStop t remote b (some (id, .park ph))) :
      Visited s mayStop t remote (b.setPhase id ph) none
  | stop {b id} (h : Visited s mayStop t remote b none) (hs : mayStop b id) :
      Visited s mayStop t remote (b.cancel id) none
  | abandon {b} (h : Visited s mayStop t remote b none) (c : Connection) :
      Visited s mayStop t remote (b.abandon c) none
  | elapse {b} (h : Visited s mayStop t remote b none) (time : Nat) :
      Visited s mayStop t remote { b with now := time } none
  | remote {b} (h : Visited s mayStop t remote b none) (remote' : σ) :
      Visited s mayStop t remote (b.withRemote remote') none

/-- Where a call is: at a point while it runs, and else where its phase says. -/
def spot (b : Bridge σ ρ) (f : Option (Nat × Point ρ)) (j : Nat) : Option (Point ρ) :=
  match f with
  | some (id, p) => if j = id then some p else (b.phase? j).map .park
  | none => (b.phase? j).map .park

theorem spot_running (b : Bridge σ ρ) (id : Nat) (p : Point ρ) :
    b.spot (some (id, p)) id = some p := by simp [spot]

theorem spot_other {b : Bridge σ ρ} {id j : Nat} {p : Point ρ} (h : j ≠ id) :
    b.spot (some (id, p)) j = b.spot none j := by simp [spot, h]

theorem spot_cases {b : Bridge σ ρ} {id j : Nat} {p q : Point ρ}
    (hq : b.spot (some (id, p)) j = some q) : j = id ∧ q = p ∨ j ≠ id ∧ b.spot none j = some q := by
  by_cases hj : j = id
  · subst hj
    exact .inl ⟨rfl, Option.some.inj (hq.symm.trans (spot_running b j p))⟩
  · exact .inr ⟨hj, spot_other hj ▸ hq⟩

theorem spot_resting {b : Bridge σ ρ} {id : Nat} {ph : Phase ρ} (h : b.phase? id = some ph) :
    b.spot none id = some (.park ph) := by simp [spot, h]

theorem phase?_of_spot {b : Bridge σ ρ} {id : Nat} {ph : Phase ρ}
    (h : b.spot none id = some (.park ph)) : b.phase? id = some ph := by
  obtain ⟨ph', hp, hph⟩ := Option.map_eq_some_iff.mp h
  rw [hp, Point.park.inj hph]

theorem exists_phase {b : Bridge σ ρ} {id : Nat} {r : Request} (h : b.request? id = some r) :
    ∃ ph, b.phase? id = some ph := by
  obtain ⟨c, hc, -⟩ := Option.map_eq_some_iff.mp h
  exact ⟨c.phase, by simp [phase?, hc]⟩

theorem phase?_setPhase (b : Bridge σ ρ) (id : Nat) (ph : Phase ρ) (j : Nat) :
    (b.setPhase id ph).phase? j = if j = id then (b.phase? j).map fun _ => ph else b.phase? j := by
  by_cases h : j = id
  · subst h
    simp [phase?, setPhase, Function.comp_def]
  · simp [phase?, setPhase, h, Ne.symm h]

theorem request?_setPhase (b : Bridge σ ρ) (id : Nat) (ph : Phase ρ) (j : Nat) :
    (b.setPhase id ph).request? j = b.request? j := by
  simp only [request?, setPhase, List.getElem?_modify]
  cases b.calls[j]? with
  | none => rfl
  | some c => by_cases h : id = j <;> simp [h]

theorem request?_of_calls {b b' : Bridge σ ρ} (h : b'.calls = b.calls) (j : Nat) :
    b'.request? j = b.request? j := by simp [request?, h]

theorem spot_of_calls {b b' : Bridge σ ρ} (h : b'.calls = b.calls)
    (f : Option (Nat × Point ρ)) : b'.spot f = b.spot f := by
  funext j
  simp [spot, phase?, h]

/-- A move moves one call. -/
theorem spot_move {b b' : Bridge σ ρ} {id j : Nat} {p p' q : Point ρ} (hc : b'.calls = b.calls)
    (hq : b'.spot (some (id, p')) j = some q) :
    j = id ∧ q = p' ∨ j ≠ id ∧ b.spot (some (id, p)) j = some q := by
  rw [spot_of_calls hc] at hq
  exact (spot_cases hq).imp_right fun ⟨hj, hq⟩ => ⟨hj, (spot_other hj).trans hq⟩

/-- A call that stops is found in the phase in which it stopped. -/
theorem spot_setPhase {b : Bridge σ ρ} {id : Nat} {r : Request} (hr : b.request? id = some r)
    (ph : Phase ρ) : (b.setPhase id ph).spot none = b.spot (some (id, .park ph)) := by
  funext j
  by_cases h : j = id
  · subst h
    obtain ⟨ph', hp⟩ := exists_phase hr
    simp [spot, phase?_setPhase, hp]
  · simp [spot, phase?_setPhase, h]

theorem Moves.calls {s : Setup σ ρ} {id : Nat} {b b' : Bridge σ ρ} {p p' : Point ρ}
    (h : Moves s id b p b' p') : b'.calls = b.calls := by
  cases h <;> rfl

theorem Starts.calls {s : Setup σ ρ} {b b' : Bridge σ ρ} {id : Nat} {p : Point ρ}
    (h : Starts s b b' id p) :
    (b'.calls = b.calls ∧ ∃ ph, b.phase? id = some ph) ∨
      ∃ r, b'.calls = b.calls ++ [⟨r, .queued⟩] ∧ id = b.calls.length := by
  cases h
  case skip | takeTurn | queue | approach | execute | close => exact .inr ⟨_, rfl, rfl⟩
  all_goals exact .inl ⟨rfl, _, ‹_›⟩

theorem Starts.other {s : Setup σ ρ} {b b' : Bridge σ ρ} {id j : Nat} {p : Point ρ}
    (h : Starts s b b' id p) (hj : j ≠ id) :
    b'.spot (some (id, p)) j = b.spot none j ∧ b'.request? j = b.request? j := by
  rcases h.calls with ⟨hc, -⟩ | ⟨r, hc, rfl⟩
  · exact ⟨by simp [spot, phase?, hc, hj], request?_of_calls hc j⟩
  · have hget : b'.calls[j]? = b.calls[j]? := by
      rw [hc, List.getElem?_append]
      split
      · rfl
      · rw [List.getElem?_eq_none (by simp; omega), List.getElem?_eq_none (by omega)]
    exact ⟨by simp [spot, phase?, hget, hj], by simp [request?, hget]⟩

theorem Starts.spot_cases {s : Setup σ ρ} {b b' : Bridge σ ρ} {id j : Nat} {p q : Point ρ}
    (h : Starts s b b' id p) (hq : b'.spot (some (id, p)) j = some q) :
    j = id ∧ q = p ∨ j ≠ id ∧ b.spot none j = some q :=
  (Bridge.spot_cases hq).imp_right fun ⟨hj, _⟩ => ⟨hj, (h.other hj).1.symm.trans hq⟩

/-- A call that has been given what it had of the locks back. -/
def released (b : Bridge σ ρ) (id : Nat) : Bridge σ ρ :=
  ({ b.giveUp id with ready := b.ready.erase id }.leaveAccess id).leaveTurn id

/-- What is left when a call has been stopped. -/
def stopped (b : Bridge σ ρ) (id : Nat) : Bridge σ ρ := (b.released id).setPhase id .cancelled

theorem cancel_cases (b : Bridge σ ρ) (id : Nat) :
    b.cancel id = b ∨ ∃ ph, b.phase? id = some ph ∧ ph.isFinal = false ∧
      b.cancel id = b.stopped id := by
  unfold Bridge.cancel
  split
  · exact .inl rfl
  · rename_i ph hp
    split
    · exact .inl rfl
    · rename_i hf
      exact .inr ⟨ph, hp, by simpa using hf, rfl⟩

theorem giveUp_calls (b : Bridge σ ρ) (id : Nat) : (b.giveUp id).calls = b.calls := by
  unfold giveUp
  split <;> rfl

theorem released_calls (b : Bridge σ ρ) (id : Nat) : (b.released id).calls = b.calls := by
  simp only [released, leaveTurn, leaveAccess, passTurn, passAccess]
  split <;> split <;> exact giveUp_calls b id

@[simp] theorem request?_stopped (b : Bridge σ ρ) (id j : Nat) :
    (b.stopped id).request? j = b.request? j := by
  rw [stopped, request?_setPhase, request?_of_calls (released_calls b id)]

theorem stopped_remote (b : Bridge σ ρ) (id : Nat) : (b.stopped id).remote = b.remote := by
  have hg : (b.giveUp id).remote = b.remote := by
    unfold giveUp
    split <;> rfl
  rw [← hg]
  simp only [stopped, setPhase, released, leaveTurn, leaveAccess, passTurn, passAccess]
  split <;> split <;> rfl

theorem spot_stopped {b : Bridge σ ρ} {id : Nat} {ph : Phase ρ} (hp : b.phase? id = some ph) :
    (b.stopped id).spot none = b.spot (some (id, .park .cancelled)) := by
  obtain ⟨c, hc, -⟩ := Option.map_eq_some_iff.mp hp
  have hr : (b.released id).request? id = some c.request := by
    rw [request?_of_calls (released_calls b id)]
    simp [request?, hc]
  rw [stopped, spot_setPhase hr, spot_of_calls (released_calls b id)]

theorem spot_of_stopped {b : Bridge σ ρ} {id j : Nat} {ph : Phase ρ} {q : Point ρ}
    (hp : b.phase? id = some ph) (hq : (b.stopped id).spot none j = some q) :
    j = id ∧ q = .park .cancelled ∨ j ≠ id ∧ b.spot none j = some q := by
  rw [spot_stopped hp] at hq
  exact spot_cases hq

section
variable {s : Setup σ ρ} {mayStop : Bridge σ ρ → Nat → Prop} {t : Target} {remote : σ}
variable {b b' : Bridge σ ρ} {id : Nat} {p p' : Point ρ} {r : Request}

theorem Moves.suits (h : Moves s id b p b' p') (hr : b.request? id = some r) (hp : p.Suits r) :
    p'.Suits r := by
  cases h <;> cases r <;>
    simp_all [Point.Suits, Phase.Suits, Request.Wants, Request.Runs, Request.needsTurn, Timer.start]

theorem request?_addCall (b : Bridge σ ρ) (r : Request) :
    (b.addCall r).request? b.calls.length = some r := by simp [request?, addCall]

/-- Every call is somewhere where its request can take it. -/
def AllSuit (b : Bridge σ ρ) (f : Option (Nat × Point ρ)) : Prop :=
  ∀ j p, b.spot f j = some p → ∃ r, b.request? j = some r ∧ p.Suits r

theorem Starts.suits (h : Starts s b b' id p) (hb : b.AllSuit none) :
    ∃ r, b'.request? id = some r ∧ p.Suits r := by
  have old {ph : Phase ρ} (hp : b.phase? id = some ph) : ∃ r, b.request? id = some r ∧ ph.Suits r :=
    hb id (.park ph) (spot_resting hp)
  cases h with
  | skip | approach | execute | close =>
    exact ⟨_, request?_addCall b _, by simp [Point.Suits, Phase.Suits, Request.Wants]⟩
  | takeTurn hr h => exact ⟨_, request?_addCall b _, hr⟩
  | queue hr h => exact ⟨_, request?_addCall b _, hr⟩
  | queued h hp => exact old hp
  | waiting h hp => exact old hp
  | losing h hp => exact old hp
  | connected hp ht he => exact old hp
  | handshakeTimedOut hp ht => exact old hp
  | executed hp hr ht he => exact old hp
  | executedOwn hp hr he => exact old hp
  | executionTimedOut hp hr ht =>
    obtain ⟨r, hr', hs⟩ := old hp
    refine ⟨r, hr', ?_⟩
    cases hr.symm.trans hr'
    simpa [Point.Suits, Phase.Suits, Request.Runs] using hs
  | closed hp ht he =>
    obtain ⟨r, hr, hs⟩ := old hp
    exact ⟨r, hr, hs.imp_right And.left⟩
  | @closeTimedOut _ c rest timer due hp hd ht =>
    -- a caller waits for the answer to its own close without limit
    obtain ⟨r, hr, hs | ⟨-, hl⟩⟩ := old hp
    · exact ⟨r, hr, hs⟩
    · cases ha : timer.answer <;> simp_all [Timer.isInTime, Timer.due?]

theorem Visited.suits {f : Option (Nat × Point ρ)} (h : Visited s mayStop t remote b f) :
    b.AllSuit f := by
  induction h with
  | new => simp [AllSuit, spot, phase?, Bridge.new]
  | @start b b' id p h hs ih =>
    intro j q hq
    rcases hs.spot_cases hq with ⟨rfl, rfl⟩ | ⟨hj, hq⟩
    · exact hs.suits ih
    · rw [(hs.other hj).2]
      exact ih j q hq
  | @move b b' id p p' h hm ih =>
    intro j q hq
    rw [request?_of_calls hm.calls]
    rcases spot_move hm.calls hq with ⟨rfl, rfl⟩ | ⟨-, hq⟩
    · obtain ⟨r, hr, hp⟩ := ih j p (spot_running b j p)
      exact ⟨r, hr, hm.suits hr hp⟩
    · exact ih j q hq
  | @park b id ph h ih =>
    obtain ⟨r, hr, -⟩ := ih id (.park ph) (spot_running b id _)
    intro j q hq
    rw [spot_setPhase hr] at hq
    rw [request?_setPhase]
    exact ih j q hq
  | @stop b id h hs ih =>
    rcases cancel_cases b id with he | ⟨ph, hp, -, he⟩
    · rwa [he]
    · rw [he]
      intro j q hq
      rw [request?_stopped]
      rcases spot_of_stopped hp hq with ⟨rfl, rfl⟩ | ⟨-, hq⟩
      · obtain ⟨r, hr, -⟩ := ih j (.park ph) (spot_resting hp)
        exact ⟨r, hr, trivial⟩
      · exact ih j q hq
  | abandon h c ih => exact ih
  | elapse h time ih => exact ih
  | remote h remote ih => exact ih

end

end Bridge

end CommandBridge
