import CommandBridge.Proofs.Bridge.Reconfiguration
import CommandBridge.Proofs.Endpoint.Simulated
import Mathlib.Data.List.Perm.Subperm

/-! What a simulated endpoint counts as active. An execution that is given up before its answer is
never taken off the count, so the count is that of the executions under way and of those that were
given up. -/
namespace CommandBridge

variable {σ ρ : Type}

namespace Point

/-- The connection on which a call waits for its pipeline to be executed. -/
def executing? : Point ρ → Option Connection
  | park (.executing c _) => some c
  | _ => none

/-- The endpoint executes something for the call, or is about to be asked to. -/
def AtEndpoint : Point ρ → Prop
  | park (.executing _ _) | execute _ _ _ => True
  | _ => False

theorem exists_of_executing {p : Point ρ} (h : p.executing?.isSome) :
    ∃ c timer, p = park (.executing c timer) := by
  cases p with
  | park ph =>
    cases ph with
    | executing c timer => exact ⟨c, timer, rfl⟩
    | _ => simp [executing?] at h
  | _ => simp [executing?] at h

end Point

namespace Simulated

/-- The executions that count as active, and the most that ever did. -/
def meter (m : Simulated) : Nat × Nat := (m.active, m.maxActive)

variable {m m' : Simulated} {c : Connection} {i : Invocation}

theorem connected_meter (t : Target) (k : Credential) (m : Simulated) :
    (connected t k m).1.meter = m.meter := by
  unfold connected
  split <;> rfl

theorem connect_meter (t : Target) (k : Credential) (m : Simulated) :
    (connect t k m).1.meter = m.meter := by
  unfold connect
  rcases ofDelay_cases m.handshakeLatency (connected t k) (m.greeted k) with he | he
  · rw [he]
    exact connected_meter t k _
  · rw [he]
    rfl

theorem executed_meter : (executed c i m).1.meter = (m.active - 1, m.maxActive) := by
  unfold executed
  dsimp only
  split <;> rfl

theorem execute_now {r : Except Failure (Output Record)} (h : execute c i m = (m', .now r)) :
    m'.active = m.active ∧ m'.maxActive ≤ max m.maxActive (m.active + 1) := by
  unfold execute at h
  split at h
  · obtain ⟨rfl, -⟩ := Prod.mk.inj h
    exact ⟨rfl, Nat.le_max_left _ _⟩
  · obtain ⟨ha, hx⟩ := Prod.mk.inj ((congrArg (meter ·.1) (ofDelay_now h)).symm.trans executed_meter)
    exact ⟨ha, hx.le⟩

theorem execute_later {delay : Option Nat} (h : execute c i m = (m', .later delay)) :
    m'.meter = (m.active + 1, max m.maxActive (m.active + 1)) := by
  unfold execute at h
  split at h
  · cases (Prod.mk.inj h).2
  · obtain rfl := ofDelay_later h
    rfl

end Simulated

namespace Bridge

/-- The calls for which the endpoint has been asked to execute something. -/
def askedCalls (b : Bridge σ ρ) : List Nat := (b.told Event.executing?).map (·.1)

/-- The endpoint is executing something for call `k`. -/
def IsExecuting (m : Moment σ ρ) (k : Nat) : Prop :=
  ∃ c timer, m.1.spot m.2 k = some (.park (.executing c timer))

/-- The calls for which the endpoint is executing something. -/
def executingCalls (m : Moment σ ρ) : List Nat :=
  (List.range m.1.calls.length).filter fun k => ((m.1.spot m.2 k).bind Point.executing?).isSome

/-- The calls for which nothing is executed any more although the answer never came. -/
def givenUp (m : Moment σ ρ) (trail : List (Nat × Point ρ)) : List Nat :=
  m.1.askedCalls.filter fun k => k ∉ answeredCalls trail ∧ k ∉ executingCalls m

/-- No call goes past the bridge to execute something. -/
def NoneDirect (b : Bridge σ ρ) : Prop := ∀ k c i, b.request? k ≠ some (.execute c i)

/-- A run of a bridge on a simulated endpoint whose meter nobody else touches, with every point that
a call came to on the way. -/
inductive Metered (s : Setup Simulated Record)
    (mayStop : Bridge Simulated Record → Nat → Prop) (t : Target) (remote : Simulated) :
    Moment Simulated Record → List (Nat × Point Record) → Prop where
  | new : Metered s mayStop t remote (Bridge.new t remote, none) []
  | next {m m' trail} (h : Metered s mayStop t remote m trail) (hn : Next s mayStop m m')
      (hm : m.2 = none → m'.2 = none → m'.1.remote.meter = m.1.remote.meter) :
      Metered s mayStop t remote m' (trail ++ m'.2.toList)

/-- What happens to the meter between two moments. -/
inductive MeterMove (s : Setup Simulated Record) (m m' : Moment Simulated Record) : Prop where
  | quiet (hm : m'.1.remote.meter = m.1.remote.meter) (ha : m'.1.askedCalls = m.1.askedCalls)
      (hx : ∀ x, m'.2 = some x → x.2.executed? = none)
      (hk : ∀ k, IsExecuting m' k → IsExecuting m k)
  | answered {k c r} (hk : IsExecuting m k) (hf : m'.2 = some (k, .executed c r))
      (hm : m'.1.remote.meter = (m.1.remote.active - 1, m.1.remote.maxActive))
      (ha : m'.1.askedCalls = m.1.askedCalls)
  | begun {k c i limit p} (hf : m.2 = some (k, .execute c i limit)) (hf' : m'.2 = some (k, p))
      (hp : (∃ c timer, p = .park (.executing c timer)) ∨ ∃ c, p = .lose c (executionFailure s))
      (hm : m'.1.remote.meter =
        (m.1.remote.active + 1, max m.1.remote.maxActive (m.1.remote.active + 1)))
      (ha : m'.1.askedCalls = m.1.askedCalls ++ [k])
  | passed {k c i limit r} (hf : m.2 = some (k, .execute c i limit))
      (hf' : m'.2 = some (k, .executed c r)) (hm : m'.1.remote.active = m.1.remote.active)
      (hx : m'.1.remote.maxActive ≤ max m.1.remote.maxActive (m.1.remote.active + 1))
      (ha : m'.1.askedCalls = m.1.askedCalls ++ [k])

section
variable {s : Setup σ ρ} {mayStop : Bridge σ ρ → Nat → Prop} {t : Target} {remote : σ}
variable {m m' : Moment σ ρ} {trail : List (Nat × Point ρ)} {k : Nat}

theorem mem_executingCalls (hv : Visited s mayStop t remote m.1 m.2) :
    k ∈ executingCalls m ↔ IsExecuting m k := by
  unfold executingCalls IsExecuting
  rw [List.mem_filter, List.mem_range]
  constructor
  · rintro ⟨-, h⟩
    obtain ⟨c, hc⟩ := Option.isSome_iff_exists.mp h
    obtain ⟨p, hp, hpc⟩ := Option.bind_eq_some_iff.mp hc
    obtain ⟨c, timer, rfl⟩ := Point.exists_of_executing (hpc ▸ rfl : p.executing?.isSome)
    exact ⟨c, timer, hp⟩
  · rintro ⟨c, timer, h⟩
    obtain ⟨r, hr, -⟩ := hv.suits k _ h
    exact ⟨request?_lt hr, by rw [h]; rfl⟩

/-- A call comes to have something executed only by asking for it. -/
theorem Next.isExecuting (hn : Next s mayStop m m') (hv : Visited s mayStop t remote m.1 m.2)
    (h : IsExecuting m' k) : IsExecuting m k ∨ ∃ c i limit, m.2 = some (k, .execute c i limit) := by
  obtain ⟨c, timer, hq⟩ := h
  obtain ⟨b, f⟩ := m
  obtain ⟨b', f'⟩ := m'
  rcases hn.spot_cases hv hq with ⟨q, hq', hg⟩ | ⟨-, -, hs⟩
  · cases hg with
    | stays => exact .inl ⟨c, timer, hq'⟩
    | starts _ hs => cases hs
    | moves hf hm =>
      cases hm with
      | executeLater => exact .inr ⟨_, _, _, hf⟩
  · cases hs

/-- An execution under way comes to its answer, or is given up. -/
theorem Next.endsExecuting (hn : Next s mayStop m m') (hv : Visited s mayStop t remote m.1 m.2)
    (hd : m.1.NoneDirect) (h : IsExecuting m k) :
    IsExecuting m' k ∨ (∃ c r, m'.2 = some (k, .executed c r)) ∨
      (∃ c, m'.2 = some (k, .lose c (executionFailure s))) ∨
        ∃ c, .abandoned k c ∈ m'.1.events := by
  obtain ⟨c, timer, hq⟩ := h
  cases hn with
  | @start b b' id p h =>
    by_cases hk : k = id
    · subst hk
      have hp := phase?_of_spot hq
      cases h with
      | executed | executedOwn => exact .inr (.inl ⟨_, _, rfl⟩)
      | executionTimedOut => exact .inr (.inr (.inl ⟨_, rfl⟩))
      | skip | takeTurn | queue | approach | execute | close => simp [phase?] at hp
      | queued _ hp' | waiting _ hp' | losing _ hp' | connected hp' | handshakeTimedOut hp'
      | closed hp' | closeTimedOut hp' => cases hp.symm.trans hp'
    · exact .inl ⟨c, timer, (h.other hk).1.trans hq⟩
  | @move b b' id p p' h =>
    rcases Bridge.spot_cases hq with ⟨rfl, rfl⟩ | ⟨hk, hq⟩
    · cases h
    · exact .inl ⟨c, timer, by rw [spot_of_calls h.calls, spot_other hk, hq]⟩
  | @park b id ph =>
    obtain ⟨r, hr, -⟩ := hv.suits id (.park ph) (spot_running b id _)
    exact .inl ⟨c, timer, by rw [spot_setPhase hr]; exact hq⟩
  | @stop b id =>
    rcases cancel_cases b id with he | ⟨ph, hp, -, he⟩
    · rw [he]
      exact .inl ⟨c, timer, hq⟩
    · by_cases hk : k = id
      · subst hk
        obtain ⟨r, hr, hs | ⟨c', i, rfl⟩⟩ := hv.suits k _ hq
        · obtain ⟨i, rfl, -⟩ := hs
          refine .inr (.inr (.inr ⟨c, ?_⟩))
          rw [he, events_stopped_executing hr (phase?_of_spot hq)]
          exact List.mem_concat_self
        · exact absurd hr (hd k c' i)
      · exact .inl ⟨c, timer, by rw [he, spot_stopped hp, spot_other hk]; exact hq⟩
  | abandon | elapse | remote => exact .inl ⟨c, timer, hq⟩

/-- The invocation whose turn it is alone has anything executed. -/
theorem Visited.executing_unique (hv : Visited s mayStop t remote m.1 m.2) (hd : m.1.NoneDirect)
    {j : Nat} {p q : Point ρ} (hj : m.1.spot m.2 j = some p) (hp : p.AtEndpoint)
    (hk : m.1.spot m.2 k = some q) (hq : q.AtEndpoint) : j = k := by
  have has {i : Nat} {p : Point ρ} (hi : m.1.spot m.2 i = some p) (hp : p.AtEndpoint) :
      m.1.stances m.2 i .turn = .has := by
    obtain ⟨r, hr, hs⟩ := hv.suits i p hi
    have hruns : ∃ x, r.Runs x := by
      cases p with
      | execute c x limit =>
        rcases hs with hs | ⟨⟨c', rfl⟩, -⟩
        · exact ⟨x, hs⟩
        · exact absurd hr (hd i _ _)
      | park ph =>
        cases ph with
        | executing c timer =>
          rcases hs with hs | ⟨c', x, rfl⟩
          · exact hs
          · exact absurd hr (hd i _ _)
        | _ => cases hp
      | _ => cases hp
    obtain ⟨x, rfl, hx⟩ := hruns
    have hst : p.stance (.invoke x) .turn = .has := by
      cases p with
      | execute => exact Request.turnHold_of_needsTurn (by simpa [Request.needsTurn] using hx)
      | park ph =>
        cases ph with
        | executing => exact Request.turnHold_of_needsTurn (by simpa [Request.needsTurn] using hx)
        | _ => cases hp
      | _ => cases hp
    simp [stances, hr, hi, hst]
  exact hv.inOrder.has_unique (has hj hp) (has hk hq)

end

section
variable {openLimit executionLimit : Nat}
variable {mayStop : Bridge Simulated Record → Nat → Prop} {t : Target} {remote : Simulated}
variable {m m' : Moment Simulated Record} {trail : List (Nat × Point Record)} {k : Nat}

theorem Next.meterMove (hn : Next (Simulated.setup openLimit executionLimit) mayStop m m')
    (hv : Visited (Simulated.setup openLimit executionLimit) mayStop t remote m.1 m.2)
    (hm : m.2 = none → m'.2 = none → m'.1.remote.meter = m.1.remote.meter) :
    MeterMove (Simulated.setup openLimit executionLimit) m m' := by
  have quiet (hm : m'.1.remote.meter = m.1.remote.meter)
      (hx : ∀ x, m'.2 = some x → x.2.executed? = none)
      (hne : ∀ k c i limit, m.2 ≠ some (k, .execute c i limit)) :
      MeterMove (Simulated.setup openLimit executionLimit) m m' := by
    refine .quiet hm ?_ hx fun k hk => (hn.isExecuting hv hk).resolve_right ?_
    · rcases hn.executing with he | ⟨id, c, i, limit, p', hf, -⟩
      · exact congrArg (List.map (·.1)) he
      · exact absurd hf (hne id c i limit)
    · rintro ⟨c, i, limit, hf⟩
      exact hne k c i limit hf
  cases hn with
  | start h =>
    cases h with
    | executed hp hr ht he =>
      exact .answered ⟨_, _, spot_resting hp⟩ rfl
        ((congrArg (Simulated.meter ·.1) he).symm.trans Simulated.executed_meter) rfl
    | executedOwn hp hr he =>
      exact .answered ⟨_, _, spot_resting hp⟩ rfl
        ((congrArg (Simulated.meter ·.1) he).symm.trans Simulated.executed_meter) rfl
    | @connected _ t k timer remote' r hp ht he =>
      refine quiet ?_ (by simp [Point.executed?]) (by simp)
      exact (congrArg (Simulated.meter ·.1) he).symm.trans (Simulated.connected_meter t k _)
    | closed hp ht he =>
      exact quiet (congrArg (Simulated.meter ·.1) he).symm (by simp [Point.executed?]) (by simp)
    | _ => exact quiet rfl (by simp [Point.executed?]) (by simp)
  | move h =>
    cases h with
    | execute he =>
      obtain ⟨ha, hx⟩ := Simulated.execute_now he
      exact .passed rfl rfl ha hx (by simp [askedCalls, Event.executing?])
    | executeNever he =>
      exact .begun rfl rfl (.inr ⟨_, rfl⟩) (Simulated.execute_later he)
        (by simp [askedCalls, Event.executing?])
    | executeLater he =>
      exact .begun rfl rfl (.inl ⟨_, _, rfl⟩) (Simulated.execute_later he)
        (by simp [askedCalls, Event.executing?])
    | connect _ _ _ he | connectNever _ _ _ he | connectLater _ _ _ he =>
      refine quiet ?_ (by simp [Point.executed?]) (by simp)
      exact (congrArg (Simulated.meter ·.1) he).symm.trans (Simulated.connect_meter _ _ _)
    | close he | closeLater he | closeOwn he | closeOwnLater he =>
      exact quiet (congrArg (Simulated.meter ·.1) he).symm (by simp [Point.executed?]) (by simp)
    | _ => exact quiet rfl (by simp [Point.executed?]) (by simp)
  | park => exact quiet rfl (by simp) (by simp)
  | stop | abandon | elapse | remote => exact quiet (hm rfl rfl) (by simp) (by simp)

/-- The execution for call `k` was cut off: the call was stopped meanwhile, or took too long. -/
def WasCutOff (s : Setup Simulated Record) (m : Moment Simulated Record)
    (trail : List (Nat × Point Record)) (k : Nat) : Prop :=
  (∃ c, .abandoned k c ∈ m.1.events) ∨ ∃ c, (k, .lose c (executionFailure s)) ∈ trail

/-- How the meter stands to the executions that have been asked for. -/
structure Counts (s : Setup Simulated Record) (m : Moment Simulated Record)
    (trail : List (Nat × Point Record)) : Prop where
  active : m.1.remote.active + (answeredCalls trail).length = m.1.askedCalls.length
  highest : m.1.remote.maxActive ≤ m.1.remote.active + 1
  /-- What is being executed is on the meter already. -/
  highestNow : ∀ k, IsExecuting m k → m.1.remote.maxActive ≤ m.1.remote.active
  asked : ∀ k, IsExecuting m k → k ∈ m.1.askedCalls
  answered : ∀ k ∈ answeredCalls trail, k ∈ m.1.askedCalls
  unanswered : ∀ k ∈ m.1.askedCalls, k ∉ answeredCalls trail →
    IsExecuting m k ∨ WasCutOff s m trail k

theorem NoneDirect.of_next {s : Setup Simulated Record} (hn : Next s mayStop m m')
    (h : m'.1.NoneDirect) : m.1.NoneDirect := fun k c i hr => h k c i (hn.request? hr)

theorem answeredCalls_running {p : Point Record} (hf : m.2 = some (k, p))
    (hp : p.executed? = none) : answeredCalls m.2.toList = [] := by
  simp [answeredCalls, hf, hp]

theorem answeredCalls_executed {c : Connection} {r : Except Failure (Output Record)}
    (hf : m.2 = some (k, .executed c r)) : answeredCalls m.2.toList = [k] := by
  simp [answeredCalls, hf, Point.executed?]

theorem not_isExecuting_of_executed {c : Connection} {r : Except Failure (Output Record)}
    (hf : m.2 = some (k, .executed c r)) : ¬ IsExecuting m k := by
  rintro ⟨c', timer, hq⟩
  rw [hf, spot_running] at hq
  cases hq

theorem Next.unanswered {s : Setup Simulated Record} (hn : Next s mayStop m m')
    (hv : Visited s mayStop t remote m.1 m.2) (hd : m.1.NoneDirect)
    (h : IsExecuting m k ∨ WasCutOff s m trail k)
    (ha : k ∉ answeredCalls (trail ++ m'.2.toList)) :
    IsExecuting m' k ∨ WasCutOff s m' (trail ++ m'.2.toList) k := by
  rcases h with h | ⟨c, h⟩ | ⟨c, h⟩
  · rcases hn.endsExecuting hv hd h with h | ⟨c, r, hf⟩ | ⟨c, hf⟩ | h
    · exact .inl h
    · rw [answeredCalls_append, answeredCalls_executed hf] at ha
      exact absurd List.mem_concat_self ha
    · exact .inr (.inr ⟨c, by simp [hf]⟩)
    · exact .inr (.inl h)
  · exact .inr (.inl ⟨c, hn.events_grow.subset h⟩)
  · exact .inr (.inr ⟨c, List.mem_append_left _ h⟩)

section
variable {s : Setup Simulated Record} {c : Connection} {i : Invocation} {limit : Option Nat}

theorem Counts.quiet (hc : Counts s m trail) (hm : m'.1.remote.meter = m.1.remote.meter)
    (ha : m'.1.askedCalls = m.1.askedCalls) (hx : ∀ x, m'.2 = some x → x.2.executed? = none)
    (hk : ∀ k, IsExecuting m' k → IsExecuting m k)
    (hu : ∀ k ∈ m.1.askedCalls, k ∉ answeredCalls (trail ++ m'.2.toList) →
      IsExecuting m' k ∨ WasCutOff s m' (trail ++ m'.2.toList) k) :
    Counts s m' (trail ++ m'.2.toList) := by
  obtain ⟨hactive, hmax⟩ := Prod.mk.inj hm
  have hans : answeredCalls (trail ++ m'.2.toList) = answeredCalls trail := by
    rw [answeredCalls_append]
    cases hf : m'.2 with
    | none => exact List.append_nil _
    | some x =>
      rw [← hf, answeredCalls_running hf (hx x hf)]
      exact List.append_nil _
  constructor
  · rw [hans, ha, hactive]
    exact hc.active
  · rw [hmax, hactive]
    exact hc.highest
  · intro k he
    rw [hmax, hactive]
    exact hc.highestNow k (hk k he)
  · intro k he
    rw [ha]
    exact hc.asked k (hk k he)
  · rw [hans, ha]
    exact hc.answered
  · rw [ha]
    exact hu

theorem Counts.answer {r : Except Failure (Output Record)} (hc : Counts s m trail)
    (hk : IsExecuting m k) (hf : m'.2 = some (k, .executed c r))
    (hm : m'.1.remote.meter = (m.1.remote.active - 1, m.1.remote.maxActive))
    (ha : m'.1.askedCalls = m.1.askedCalls) (hone : ∀ j, IsExecuting m' j → j = k)
    (hnodup : (answeredCalls (trail ++ m'.2.toList)).Nodup)
    (hu : ∀ k ∈ m.1.askedCalls, k ∉ answeredCalls (trail ++ m'.2.toList) →
      IsExecuting m' k ∨ WasCutOff s m' (trail ++ m'.2.toList) k) :
    Counts s m' (trail ++ m'.2.toList) := by
  obtain ⟨hactive, hmax⟩ := Prod.mk.inj hm
  have hcount := hc.active
  have hans : answeredCalls (trail ++ m'.2.toList) = answeredCalls trail ++ [k] := by
    rw [answeredCalls_append, answeredCalls_executed hf]
  have hsub : ∀ j ∈ answeredCalls (trail ++ m'.2.toList), j ∈ m.1.askedCalls := by
    intro j hj
    rw [hans] at hj
    rcases List.mem_append.mp hj with hj | hj
    · exact hc.answered j hj
    · obtain rfl := List.mem_singleton.mp hj
      exact hc.asked j hk
  -- the execution was on the meter, since it had been asked for and not answered
  have hlength : (answeredCalls trail).length + 1 ≤ m.1.askedCalls.length := by
    have h := (List.subperm_of_subset hnodup hsub).length_le
    rwa [hans, List.length_append] at h
  have hlow : m.1.remote.maxActive ≤ m.1.remote.active := hc.highestNow k hk
  have hnone : ∀ j, ¬ IsExecuting m' j := fun j hj =>
    not_isExecuting_of_executed hf (hone j hj ▸ hj)
  constructor
  · rw [hans, ha, hactive, List.length_append, List.length_singleton]
    omega
  · rw [hmax, hactive]
    omega
  · exact fun j hj => absurd hj (hnone j)
  · exact fun j hj => absurd hj (hnone j)
  · rw [ha]
    exact hsub
  · rw [ha]
    exact hu

theorem Counts.begin {p : Point Record} (hc : Counts s m trail) (hf : m'.2 = some (k, p))
    (hp : (∃ c timer, p = .park (.executing c timer)) ∨ ∃ c, p = .lose c (executionFailure s))
    (hm : m'.1.remote.meter =
      (m.1.remote.active + 1, max m.1.remote.maxActive (m.1.remote.active + 1)))
    (ha : m'.1.askedCalls = m.1.askedCalls ++ [k])
    (hone : ∀ j, IsExecuting m' j → IsExecuting m j ∨ j = k)
    (hu : ∀ k ∈ m.1.askedCalls, k ∉ answeredCalls (trail ++ m'.2.toList) →
      IsExecuting m' k ∨ WasCutOff s m' (trail ++ m'.2.toList) k) :
    Counts s m' (trail ++ m'.2.toList) := by
  obtain ⟨hactive, hmax⟩ := Prod.mk.inj hm
  have hcount := hc.active
  have hhigh := hc.highest
  have hans : answeredCalls (trail ++ m'.2.toList) = answeredCalls trail := by
    rw [answeredCalls_append, answeredCalls_running hf, List.append_nil]
    rcases hp with ⟨c, timer, rfl⟩ | ⟨c, rfl⟩ <;> rfl
  constructor
  · rw [hans, ha, hactive, List.length_append, List.length_singleton]
    omega
  · rw [hmax, hactive]
    omega
  · intro j _
    rw [hmax, hactive]
    omega
  · intro j hj
    rw [ha]
    rcases hone j hj with hj | rfl
    · exact List.mem_append_left _ (hc.asked j hj)
    · exact List.mem_concat_self
  · rw [hans, ha]
    exact fun j hj => List.mem_append_left _ (hc.answered j hj)
  · intro j hj hn
    rw [ha] at hj
    rcases List.mem_append.mp hj with hj | hj
    · exact hu j hj hn
    · obtain rfl := List.mem_singleton.mp hj
      rcases hp with ⟨c, timer, rfl⟩ | ⟨c, rfl⟩
      · exact .inl ⟨c, timer, by rw [hf, spot_running]⟩
      · exact .inr (.inr ⟨c, by simp [hf]⟩)

theorem Counts.pass {r : Except Failure (Output Record)} (hc : Counts s m trail)
    (hf : m'.2 = some (k, .executed c r)) (hm : m'.1.remote.active = m.1.remote.active)
    (hx : m'.1.remote.maxActive ≤ max m.1.remote.maxActive (m.1.remote.active + 1))
    (ha : m'.1.askedCalls = m.1.askedCalls ++ [k]) (hone : ∀ j, IsExecuting m' j → j = k)
    (hu : ∀ k ∈ m.1.askedCalls, k ∉ answeredCalls (trail ++ m'.2.toList) →
      IsExecuting m' k ∨ WasCutOff s m' (trail ++ m'.2.toList) k) :
    Counts s m' (trail ++ m'.2.toList) := by
  have hcount := hc.active
  have hhigh := hc.highest
  have hans : answeredCalls (trail ++ m'.2.toList) = answeredCalls trail ++ [k] := by
    rw [answeredCalls_append, answeredCalls_executed hf]
  have hnone : ∀ j, ¬ IsExecuting m' j := fun j hj =>
    not_isExecuting_of_executed hf (hone j hj ▸ hj)
  constructor
  · rw [hans, ha, hm, List.length_append, List.length_append, List.length_singleton]
    omega
  · rw [hm]
    omega
  · exact fun j hj => absurd hj (hnone j)
  · exact fun j hj => absurd hj (hnone j)
  · intro j hj
    rw [hans] at hj
    rw [ha]
    rcases List.mem_append.mp hj with hj | hj
    · exact List.mem_append_left _ (hc.answered j hj)
    · exact List.mem_append_right _ hj
  · intro j hj hn
    rw [ha] at hj
    rcases List.mem_append.mp hj with hj | hj
    · exact hu j hj hn
    · rw [hans] at hn
      exact absurd (List.mem_append_right _ hj) hn

end

theorem Counts.step {s : Setup Simulated Record} (hc : Counts s m trail) (hn : Next s mayStop m m')
    (ht : Trail s mayStop t remote m trail) (hd : m'.1.NoneDirect) (hmove : MeterMove s m m') :
    Counts s m' (trail ++ m'.2.toList) := by
  have hv : Visited s mayStop t remote m.1 m.2 := ht.visited
  have hd₀ : m.1.NoneDirect := hd.of_next hn
  have hu : ∀ k ∈ m.1.askedCalls, k ∉ answeredCalls (trail ++ m'.2.toList) →
      IsExecuting m' k ∨ WasCutOff s m' (trail ++ m'.2.toList) k := by
    intro k hk ha
    apply hn.unanswered hv hd₀ _ ha
    apply hc.unanswered k hk
    rw [answeredCalls_append] at ha
    exact fun hm => ha (List.mem_append_left _ hm)
  have hone {k : Nat} {p : Point Record} (hq : m.1.spot m.2 k = some p) (hp : p.AtEndpoint)
      (j : Nat) (hj : IsExecuting m' j) : j = k := by
    rcases hn.isExecuting hv hj with ⟨c, timer, hj⟩ | ⟨c, i, limit, hf⟩
    · exact hv.executing_unique hd₀ hj trivial hq hp
    · apply hv.executing_unique hd₀ (q := p) _ (p := .execute c i limit) trivial hq hp
      rw [hf, spot_running]
  cases hmove with
  | quiet hm ha hx hk => exact hc.quiet hm ha hx hk hu
  | answered hk hf hm ha =>
    obtain ⟨c, timer, hq⟩ := hk
    exact hc.answer ⟨c, timer, hq⟩ hf hm ha (hone hq trivial) (ht.next hn).answered_once hu
  | begun hf hf' hp hm ha =>
    have hq := hf ▸ spot_running m.1 _ _
    exact hc.begin hf' hp hm ha (fun j hj => .inr (hone hq trivial j hj)) hu
  | passed hf hf' hm hx ha =>
    have hq := hf ▸ spot_running m.1 _ _
    exact hc.pass hf' hm hx ha (hone hq trivial) hu

theorem counts_new {s : Setup Simulated Record} (h : remote.meter = (0, 0)) :
    Counts s (Bridge.new t remote, none) [] := by
  obtain ⟨hactive, hmax⟩ := Prod.mk.inj h
  have hnone : ∀ k, ¬ IsExecuting ((Bridge.new t remote, none) : Moment Simulated Record) k := by
    rintro k ⟨c, timer, hq⟩
    simp [spot, phase?, Bridge.new] at hq
  constructor
  · exact hactive
  · exact hmax.le.trans (Nat.zero_le _)
  · exact fun k hk => absurd hk (hnone k)
  · exact fun k hk => absurd hk (hnone k)
  · exact fun k hk => absurd hk List.not_mem_nil
  · exact fun k hk => absurd hk List.not_mem_nil

theorem Metered.toTrail {s : Setup Simulated Record}
    (h : Metered s mayStop t remote m trail) : Trail s mayStop t remote m trail := by
  induction h with
  | new => exact .new
  | next _ hn _ ih => exact ih.next hn

theorem Metered.counts
    (h : Metered (Simulated.setup openLimit executionLimit) mayStop t remote m trail)
    (hremote : remote.meter = (0, 0)) (hd : m.1.NoneDirect) :
    Counts (Simulated.setup openLimit executionLimit) m trail := by
  induction h with
  | new => exact counts_new hremote
  | next h hn hm ih =>
    have ht := h.toTrail
    exact (ih (hd.of_next hn)).step hn ht hd (hn.meterMove ht.visited hm)

/-- Every execution that was asked for has been answered, is under way or was given up. -/
theorem Counts.perm {s : Setup Simulated Record} (hc : Counts s m trail)
    (ht : Trail s mayStop t remote m trail) :
    m.1.askedCalls.Perm (answeredCalls trail ++ (executingCalls m ++ givenUp m trail)) := by
  have hmem (k : Nat) : k ∈ executingCalls m ↔ IsExecuting m k := mem_executingCalls ht.visited
  have happart : (answeredCalls trail).Disjoint (executingCalls m) := by
    intro k ha he
    obtain ⟨c, timer, hq⟩ := (hmem k).mp he
    obtain ⟨x, hx, rfl⟩ := List.mem_map.mp ha
    obtain ⟨hx, hxe⟩ := List.mem_filter.mp hx
    obtain ⟨q, hq', hs⟩ := ht.known hx
    obtain rfl := Option.some.inj (hq.symm.trans hq')
    rw [Point.stage_of_executed hxe] at hs
    exact absurd hs (Nat.not_succ_le_self 1)
  apply (List.perm_ext_iff_of_nodup ht.executes_once _).mpr
  · intro k
    rw [List.mem_append, List.mem_append, givenUp, List.mem_filter, decide_eq_true_eq]
    constructor
    · intro hk
      by_cases ha : k ∈ answeredCalls trail
      · exact .inl ha
      · by_cases he : k ∈ executingCalls m
        · exact .inr (.inl he)
        · exact .inr (.inr ⟨hk, ha, he⟩)
    · rintro (ha | he | ⟨hk, -⟩)
      · exact hc.answered k ha
      · exact hc.asked k ((hmem k).mp he)
      · exact hk
  · apply ht.answered_once.append
    · apply (List.nodup_range.filter _).append (ht.executes_once.filter _)
      intro k he hg
      exact (of_decide_eq_true (List.mem_filter.mp hg).2).2 he
    · rw [List.disjoint_append_right]
      refine ⟨happart, fun k ha hg => ?_⟩
      exact (of_decide_eq_true (List.mem_filter.mp hg).2).1 ha

/-- What the meter of a simulated endpoint tells. -/
structure MeterReading (s : Setup Simulated Record) (m : Moment Simulated Record)
    (trail : List (Nat × Point Record)) : Prop where
  active : m.1.remote.active = (executingCalls m).length + (givenUp m trail).length
  single : (executingCalls m).length ≤ 1
  highest : m.1.remote.maxActive ≤ (givenUp m trail).length + 1
  cutOff : ∀ k ∈ givenUp m trail, WasCutOff s m trail k
  /-- The meter is right as long as no execution has been cut off. -/
  accurate : (∀ k, ¬ WasCutOff s m trail k) →
    m.1.remote.active = (executingCalls m).length ∧ m.1.remote.maxActive ≤ 1

/-- However the calls go on, and whichever of them are stopped or time out. -/
theorem Metered.reading
    (h : Metered (Simulated.setup openLimit executionLimit) mayStop t remote m trail)
    (hremote : remote.meter = (0, 0)) (hd : m.1.NoneDirect) :
    MeterReading (Simulated.setup openLimit executionLimit) m trail := by
  have ht := h.toTrail
  have hc := h.counts hremote hd
  have hmem (k : Nat) : k ∈ executingCalls m ↔ IsExecuting m k := mem_executingCalls ht.visited
  have hlength : m.1.askedCalls.length =
      (answeredCalls trail).length + ((executingCalls m).length + (givenUp m trail).length) := by
    rw [(hc.perm ht).length_eq, List.length_append, List.length_append]
  have hactive : m.1.remote.active = (executingCalls m).length + (givenUp m trail).length := by
    have hcount := hc.active
    omega
  have hsingle : (executingCalls m).length ≤ 1 := by
    cases he : executingCalls m with
    | nil => exact Nat.zero_le 1
    | cons k rest =>
      have hsub : ∀ j ∈ executingCalls m, j ∈ [k] := by
        intro j hj
        obtain ⟨c, timer, hq⟩ := (hmem j).mp hj
        obtain ⟨c', timer', hq'⟩ := (hmem k).mp (he ▸ List.mem_cons_self)
        rw [ht.visited.executing_unique hd hq trivial hq' trivial]
        exact List.mem_cons_self
      rw [← he]
      exact (List.subperm_of_subset (List.nodup_range.filter _) hsub).length_le
  have hhighest : m.1.remote.maxActive ≤ (givenUp m trail).length + 1 := by
    cases he : executingCalls m with
    | nil =>
      have hhigh := hc.highest
      rw [he, List.length_nil] at hactive
      omega
    | cons k rest =>
      have hhigh := hc.highestNow k ((hmem k).mp (he ▸ List.mem_cons_self))
      omega
  have hcut : ∀ k ∈ givenUp m trail, WasCutOff (Simulated.setup openLimit executionLimit) m
      trail k := by
    intro k hk
    obtain ⟨hk, hg⟩ := List.mem_filter.mp hk
    obtain ⟨ha, he⟩ := of_decide_eq_true hg
    exact (hc.unanswered k hk ha).resolve_left fun h => he ((hmem k).mpr h)
  refine ⟨hactive, hsingle, hhighest, hcut, fun hnone => ?_⟩
  have hnil : givenUp m trail = [] :=
    List.eq_nil_iff_forall_not_mem.mpr fun k hk => hnone k (hcut k hk)
  rw [hnil, List.length_nil] at hactive hhighest
  exact ⟨hactive, hhighest⟩

section
variable {s : Setup Simulated Record} {b b' : Bridge Simulated Record}

theorem Metered.later (h : Metered s mayStop t remote m trail)
    (hl : LaterByCalls Simulated.meter s mayStop m m') :
    ∃ trail', Metered s mayStop t remote m' trail' := by
  induction hl with
  | refl => exact ⟨trail, h⟩
  | tail _ hn ih =>
    obtain ⟨_, h⟩ := ih
    exact ⟨_, h.next hn.next hn.kept⟩

theorem Metered.submit (h : Metered s mayStop t remote (b, none) trail) (r : Request) :
    ∃ trail', Metered s mayStop t remote (b.submit s r, none) trail' :=
  h.later (advances_submit b r).byCalls

theorem Metered.wake (h : Metered s mayStop t remote (b, none) trail) :
    ∃ trail', Metered s mayStop t remote (b.wake s, none) trail' := by
  unfold Bridge.wake
  split
  · rename_i hd
    exact h.later (h.toTrail.visited.byCalls_expire (due_of_nextDue hd))
  · exact ⟨trail, h⟩

/-- Every step goes on with such a run, unless it is the meter that changes from outside. -/
theorem Metered.step (h : Metered s mayStop t remote (b, none) trail) (hs : Step s mayStop b b') :
    (∃ trail', Metered s mayStop t remote (b', none) trail') ∨
      ∃ x : Simulated, b' = b.withRemote x ∧ x.meter ≠ b.remote.meter :=
  (hs.byCalls h.toTrail.visited).imp_left h.later

end

end

/-- An invocation takes too long, and then another one is made. -/
def lateTwice : Bridge Simulated Record :=
  let s := Simulated.setup 1000 2000
  let b := (Bridge.new localTarget { latency := 5000 }).submit s
    (.session (.setCredential (.token ⟨"k"⟩)))
  ((b.submit s (.invoke singleStage)).wake s).submit s (.invoke singleStage)

theorem metered_lateTwice : ∃ trail, Metered (Simulated.setup 1000 2000) (fun _ _ => True)
    localTarget { latency := 5000 } (lateTwice, none) trail := by
  have h : Metered (Simulated.setup 1000 2000) (fun _ _ => True) localTarget { latency := 5000 }
    (Bridge.new localTarget { latency := 5000 }, none) [] := .new
  obtain ⟨_, h⟩ := h.submit (.session (.setCredential (.token ⟨"k"⟩)))
  obtain ⟨_, h⟩ := h.submit (.invoke singleStage)
  obtain ⟨_, h⟩ := h.wake
  exact h.submit (.invoke singleStage)

theorem noneDirect_lateTwice : lateTwice.NoneDirect := by
  have he : lateTwice.calls.map (·.request) = [.session (.setCredential (.token ⟨"k"⟩)),
    .invoke singleStage, .invoke singleStage] := rfl
  intro k c i hk
  obtain ⟨call, hc, hr⟩ := Option.map_eq_some_iff.mp hk
  have hm : call.request ∈ lateTwice.calls.map (·.request) :=
    List.mem_map_of_mem (List.mem_of_getElem? hc)
  rw [hr, he] at hm
  simp at hm

theorem reading_lateTwice : lateTwice.NoneDirect ∧ ∃ trail,
    Metered (Simulated.setup 1000 2000) (fun _ _ => True) localTarget { latency := 5000 }
      (lateTwice, none) trail ∧
    MeterReading (Simulated.setup 1000 2000) (lateTwice, none) trail := by
  obtain ⟨trail, h⟩ := metered_lateTwice
  exact ⟨noneDirect_lateTwice, trail, h, h.reading rfl noneDirect_lateTwice⟩

/-- The second execution is the only one under way, and the meter shows two. -/
theorem misread_lateTwice : lateTwice.NoneDirect ∧
    (∃ trail, Metered (Simulated.setup 1000 2000) (fun _ _ => True) localTarget
      { latency := 5000 } (lateTwice, none) trail) ∧
    executingCalls (lateTwice, none) = [2] ∧
    lateTwice.remote.active = 2 ∧ lateTwice.remote.maxActive = 2 :=
  ⟨noneDirect_lateTwice, metered_lateTwice, rfl, rfl, rfl⟩

end Bridge

end CommandBridge
