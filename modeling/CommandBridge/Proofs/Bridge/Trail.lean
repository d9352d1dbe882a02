import CommandBridge.Proofs.Bridge.Taint

/-! The points that calls come through on the way to a state, which tell what the endpoint has
given each call, and what an invocation has its result from. -/
namespace CommandBridge

variable {σ ρ : Type}

namespace Point

/-- What an invocation is about to return, or the failure that it has returned. -/
def result? : Point ρ → Option (Except Failure (Output ρ))
  | notOpened e | lose _ e | failLost _ e | park (.losing _ e) | park (.ended (.failed e)) =>
    some (.error e)
  | conclude _ r => some r
  | _ => none

/-- How far a call is with its execution: not asked for, asked for, and answered or given up. -/
def stage : Point ρ → Nat
  | park (.executing _ _) => 1
  | executed _ _ | lose _ _ | failLost _ _ | notOpened _ | conclude _ _ | park (.losing _ _)
  | park (.ended _) | park .cancelled => 2
  | _ => 0

/-- The answer to an execution. -/
def executed? : Point ρ → Option (Except Failure (Output ρ))
  | executed _ r => some r
  | _ => none

theorem stage_of_executed {p : Point ρ} (h : p.executed?.isSome) : p.stage = 2 := by
  cases p with
  | executed => rfl
  | _ => simp [executed?] at h

end Point

/-- The endpoint answers an execution so, in some of its states. -/
def Setup.Answers (s : Setup σ ρ) (c : Connection) (i : Invocation)
    (r : Except Failure (Output ρ)) : Prop :=
  (∃ x x', s.endpoint.execute c i x = (x', .now r)) ∨ ∃ x x', s.endpoint.executed c i x = (x', r)

/-- The endpoint answers a handshake so, in some of its states. -/
def Setup.Greets (s : Setup σ ρ) (t : Target) (c : Credential) (r : Except Failure String) : Prop :=
  (∃ x x', s.endpoint.connect t c x = (x', .now r)) ∨ ∃ x x', s.endpoint.connected t c x = (x', r)

namespace Bridge

/-- How a call gets from one point to another between two moments. -/
inductive Goes (s : Setup σ ρ) (m m' : Moment σ ρ) (j : Nat) : Point ρ → Point ρ → Prop where
  | stays {q} : Goes s m m' j q q
  | starts {ph p} (hp : m.1.phase? j = some ph) (h : Starts s m.1 m'.1 j p) :
      Goes s m m' j (.park ph) p
  | moves {p p'} (hf : m.2 = some (j, p)) (h : Moves s j m.1 p m'.1 p') : Goes s m m' j p p'
  | stops {ph} (hf : ph.isFinal = false) : Goes s m m' j (.park ph) (.park .cancelled)

/-- A run of a bridge up to a moment, with every point that a call came to on the way. -/
inductive Trail (s : Setup σ ρ) (mayStop : Bridge σ ρ → Nat → Prop) (t : Target) (remote : σ) :
    Moment σ ρ → List (Nat × Point ρ) → Prop where
  | new : Trail s mayStop t remote (Bridge.new t remote, none) []
  | next {m m' trail} (h : Trail s mayStop t remote m trail) (hn : Next s mayStop m m') :
      Trail s mayStop t remote m' (trail ++ m'.2.toList)

/-- What call `k`, which is the invocation `i`, can have a result from. -/
inductive Reason (s : Setup σ ρ) (k : Nat) (i : Invocation) (trail : List (Nat × Point ρ)) :
    Except Failure (Output ρ) → Prop where
  | unauthenticated : Reason s k i trail (.error .unauthenticated)
  | handshakeTimedOut : Reason s k i trail (.error (handshakeFailure s))
  | executionTimedOut : Reason s k i trail (.error (executionFailure s))
  | handshake {t c e} (h : (k, .connected t c (.error e)) ∈ trail) : Reason s k i trail (.error e)
  | execution {c e} (h : (k, .executed c (.error e)) ∈ trail) : Reason s k i trail (.error e)
  | output {c o} (h : (k, .executed c (.ok o)) ∈ trail) : Reason s k i trail (i.accept o)

section
variable {s : Setup σ ρ} {mayStop : Bridge σ ρ → Nat → Prop} {t : Target} {remote : σ}
variable {b b' : Bridge σ ρ} {m m' : Moment σ ρ} {trail : List (Nat × Point ρ)}
variable {j : Nat} {q q' : Point ρ}

theorem spot_fresh (b : Bridge σ ρ) : b.spot none b.calls.length = none := by simp [spot, phase?]

theorem Starts.new_or_unfinished (h : Starts s b b' j q') :
    b.spot none j = none ∨ ∃ ph, b.phase? j = some ph ∧ ph.isFinal = false := by
  cases h with
  | skip | takeTurn | queue | approach | execute | close => exact .inl (spot_fresh b)
  | queued _ hp | waiting _ hp | losing _ hp | connected hp | handshakeTimedOut hp | executed hp
  | executedOwn hp | executionTimedOut hp | closed hp | closeTimedOut hp =>
    exact .inr ⟨_, hp, rfl⟩

theorem Next.request? (hn : Next s mayStop m m') {r : Request} (hr : m.1.request? j = some r) :
    m'.1.request? j = some r := by
  cases hn with
  | start h => exact h.request? hr
  | move h => rwa [request?_of_calls h.calls]
  | park => rwa [request?_setPhase]
  | @stop b id =>
    rcases cancel_cases b id with he | ⟨ph, -, -, he⟩
    · rwa [he]
    · rwa [he, request?_stopped]
  | abandon | elapse | remote => exact hr

/-- No call is forgotten. -/
theorem Next.spot (hn : Next s mayStop m m') (hv : Visited s mayStop t remote m.1 m.2)
    (hq : m.1.spot m.2 j = some q) :
    ∃ q', m'.1.spot m'.2 j = some q' ∧ Goes s m m' j q q' := by
  cases hn with
  | @start b b' id p h =>
    by_cases hj : j = id
    · subst hj
      obtain ⟨ph, hp, rfl⟩ := Option.map_eq_some_iff.mp hq
      exact ⟨p, spot_running b' j p, .starts hp h⟩
    · exact ⟨q, (h.other hj).1.trans hq, .stays⟩
  | @move b b' id p p' h =>
    by_cases hj : j = id
    · subst hj
      obtain rfl : p = q := Option.some.inj ((spot_running b j p).symm.trans hq)
      exact ⟨p', spot_running b' j p', .moves rfl h⟩
    · refine ⟨q, ?_, .stays⟩
      rw [spot_of_calls h.calls, spot_other hj]
      exact (spot_other hj).symm.trans hq
  | @park b id ph =>
    obtain ⟨r, hr, -⟩ := hv.suits id (.park ph) (spot_running b id _)
    exact ⟨q, by rw [spot_setPhase hr]; exact hq, .stays⟩
  | @stop b id =>
    rcases cancel_cases b id with he | ⟨ph, hp, hf, he⟩
    · rw [he]
      exact ⟨q, hq, .stays⟩
    · rw [he, spot_stopped hp]
      by_cases hj : j = id
      · subst hj
        obtain rfl := Option.some.inj ((spot_resting hp).symm.trans hq)
        exact ⟨_, spot_running b j _, .stops hf⟩
      · exact ⟨q, (spot_other hj).trans hq, .stays⟩
  | abandon | elapse | remote => exact ⟨q, hq, .stays⟩

/-- A call comes to where it is from where it was, or is new. -/
theorem Next.spot_cases (hn : Next s mayStop m m') (hv : Visited s mayStop t remote m.1 m.2)
    (hq : m'.1.spot m'.2 j = some q') :
    (∃ q, m.1.spot m.2 j = some q ∧ Goes s m m' j q q') ∨
      m.2 = none ∧ m.1.spot none j = none ∧ Starts s m.1 m'.1 j q' := by
  cases hold : m.1.spot m.2 j with
  | some q =>
    obtain ⟨q₁, hq₁, hg⟩ := hn.spot hv hold
    obtain rfl := Option.some.inj (hq₁.symm.trans hq)
    exact .inl ⟨q, rfl, hg⟩
  | none =>
    right
    cases hn with
    | @start b b' id p h =>
      rcases h.spot_cases hq with ⟨rfl, rfl⟩ | ⟨-, hq⟩
      · exact ⟨rfl, hold, h⟩
      · exact nomatch hold.symm.trans hq
    | @move b b' id p p' h =>
      rcases spot_move (p := p) h.calls hq with ⟨rfl, -⟩ | ⟨-, hq⟩
      · exact nomatch hold.symm.trans (spot_running b j p)
      · exact nomatch hold.symm.trans hq
    | @park b id ph =>
      obtain ⟨r, hr, -⟩ := hv.suits id (.park ph) (spot_running b id _)
      rw [spot_setPhase hr] at hq
      exact nomatch hold.symm.trans hq
    | @stop b id =>
      rcases cancel_cases b id with he | ⟨ph, hp, -, he⟩
      · rw [he] at hq
        exact nomatch hold.symm.trans hq
      · rw [he] at hq
        rcases spot_of_stopped hp hq with ⟨rfl, -⟩ | ⟨-, hq⟩
        · exact nomatch hold.symm.trans (spot_resting hp)
        · exact nomatch hold.symm.trans hq
    | abandon | elapse | remote => exact nomatch hold.symm.trans hq

/-- A call that has ended or was stopped goes nowhere. -/
theorem Goes.final {ph : Phase ρ} (h : Goes s m m' j (.park ph) q') (hf : ph.isFinal = true) :
    q' = .park ph := by
  cases h with
  | stays => rfl
  | starts hp h =>
    rcases h.new_or_unfinished with hn | ⟨ph', hp', hf'⟩
    · exact nomatch hn.symm.trans (spot_resting hp)
    · obtain rfl := Option.some.inj (hp.symm.trans hp')
      exact nomatch hf.symm.trans hf'
  | moves _ h => cases h
  | stops hf' => exact nomatch hf.symm.trans hf'

theorem Next.spot_final {ph : Phase ρ} (hn : Next s mayStop m m')
    (hv : Visited s mayStop t remote m.1 m.2) (hq : m.1.spot m.2 j = some (.park ph))
    (hf : ph.isFinal = true) : m'.1.spot m'.2 j = some (.park ph) := by
  obtain ⟨q', hq', hg⟩ := hn.spot hv hq
  rwa [hg.final hf] at hq'

theorem Moves.stage (h : Moves s j b q b' q') : q.stage ≤ q'.stage := by
  cases h <;> simp [Point.stage]

theorem Starts.stage {ph : Phase ρ} (h : Starts s b b' j q') (hp : b.phase? j = some ph) :
    (Point.park ph).stage ≤ q'.stage := by
  cases h with
  | skip | takeTurn | queue | approach | execute | close => simp [phase?] at hp
  | queued _ hp' | waiting _ hp' | losing _ hp' | connected hp' | handshakeTimedOut hp'
  | executed hp' | executedOwn hp' | executionTimedOut hp' | closed hp' | closeTimedOut hp' =>
    obtain rfl := Option.some.inj (hp.symm.trans hp')
    simp [Point.stage]

theorem Goes.stage (h : Goes s m m' j q q') : q.stage ≤ q'.stage := by
  cases h with
  | stays => exact Nat.le_refl _
  | starts hp h => exact h.stage hp
  | moves _ h => exact h.stage
  | @stops ph => cases ph <;> simp [Point.stage]

theorem Trail.visited (h : Trail s mayStop t remote m trail) :
    Visited s mayStop t remote m.1 m.2 := by
  induction h with
  | new => exact .new
  | next _ hn ih => exact hn.visited ih

theorem Trail.later (h : Trail s mayStop t remote m trail) (hl : Later s mayStop m m') :
    ∃ trail', Trail s mayStop t remote m' (trail ++ trail') := by
  induction hl with
  | refl => exact ⟨[], (List.append_nil trail).symm ▸ h⟩
  | @tail m₁ m₂ _ hn ih =>
    obtain ⟨trail', h'⟩ := ih
    exact ⟨trail' ++ m₂.2.toList, List.append_assoc trail _ _ ▸ h'.next hn⟩

/-- Every state that a bridge can reach has a trail. -/
theorem Reachable.exists_trail (h : Reachable s mayStop t remote b) :
    ∃ trail, Trail s mayStop t remote (b, none) trail := by
  obtain ⟨trail, h'⟩ := Trail.new.later h.visited.later
  exact ⟨_, h'⟩

theorem Trail.running {x : Nat × Point ρ} (h : Trail s mayStop t remote m trail)
    (hf : m.2 = some x) : x ∈ trail := by
  cases h with
  | new => simp at hf
  | next => simp [hf]

theorem Trail.known (h : Trail s mayStop t remote m trail) {x : Nat × Point ρ} (hx : x ∈ trail) :
    ∃ q, m.1.spot m.2 x.1 = some q ∧ x.2.stage ≤ q.stage := by
  induction h with
  | new => simp at hx
  | @next m m' trail h hn ih =>
    rcases List.mem_append.mp hx with hx | hx
    · obtain ⟨q, hq, hs⟩ := ih hx
      obtain ⟨q', hq', hg⟩ := hn.spot h.visited hq
      exact ⟨q', hq', Nat.le_trans hs hg.stage⟩
    · obtain ⟨b', f'⟩ := m'
      obtain rfl : f' = some x := Option.mem_toList.mp hx
      exact ⟨x.2, spot_running b' x.1 x.2, Nat.le_refl _⟩

theorem Trail.request? (h : Trail s mayStop t remote m trail) {x : Nat × Point ρ}
    (hx : x ∈ trail) : ∃ r, m.1.request? x.1 = some r := by
  obtain ⟨q, hq, -⟩ := h.known hx
  obtain ⟨r, hr, -⟩ := h.visited.suits x.1 q hq
  exact ⟨r, hr⟩

/-- Whom the endpoint is asked to execute something for. -/
theorem Next.executing (hn : Next s mayStop m m') :
    m'.1.told Event.executing? = m.1.told Event.executing? ∨
      ∃ id c i limit p', m.2 = some (id, .execute c i limit) ∧ m'.2 = some (id, p') ∧
        1 ≤ p'.stage ∧ m'.1.told Event.executing? = m.1.told Event.executing? ++ [(id, c.id)] := by
  cases hn with
  | start h => exact .inl (h.told rfl fun _ => rfl)
  | move h =>
    cases h with
    | execute | executeNever | executeLater =>
      exact .inr ⟨_, _, _, _, _, rfl, rfl, by simp [Point.stage], by simp [Event.executing?]⟩
    | serve => exact .inl (told_events _ (fun _ => rfl) (fun _ => rfl) _)
    | close =>
      refine .inl ((told_closeNotes _ (fun _ => rfl) (fun _ _ => rfl) _ _).trans ?_)
      simp [Event.executing?]
    | closedOwn | closed => exact .inl (told_closeNotes _ (fun _ => rfl) (fun _ _ => rfl) _ _)
    | _ => exact .inl (by simp [Event.executing?])
  | @stop b id =>
    rcases cancel_cases b id with he | ⟨ph, -, -, he⟩
    · exact .inl (by rw [he])
    · exact .inl (by rw [he, told_stopped fun _ _ => rfl])
  | park | abandon | elapse | remote => exact .inl rfl

theorem Trail.asked (h : Trail s mayStop t remote m trail) {x : Nat × String}
    (hx : x ∈ m.1.told Event.executing?) : ∃ q, m.1.spot m.2 x.1 = some q ∧ 1 ≤ q.stage := by
  induction h with
  | new => simp [told, events, Bridge.new, Event.executing?] at hx
  | @next m m' trail h hn ih =>
    have old (hx : x ∈ m.1.told Event.executing?) :
        ∃ q, m'.1.spot m'.2 x.1 = some q ∧ 1 ≤ q.stage := by
      obtain ⟨q, hq, hs⟩ := ih hx
      obtain ⟨q', hq', hg⟩ := hn.spot h.visited hq
      exact ⟨q', hq', Nat.le_trans hs hg.stage⟩
    rcases hn.executing with he | ⟨id, c, i, limit, p', -, hf, hp, he⟩
    · exact old (he ▸ hx)
    · rcases List.mem_append.mp (he ▸ hx) with hx | hx
      · exact old hx
      · obtain rfl := List.mem_singleton.mp hx
        exact ⟨p', by rw [hf]; exact spot_running _ _ _, hp⟩

/-- No call has anything executed twice. -/
theorem Trail.executes_once (h : Trail s mayStop t remote m trail) :
    ((m.1.told Event.executing?).map (·.1)).Nodup := by
  induction h with
  | new => exact List.nodup_nil
  | @next m m' trail h hn ih =>
    rcases hn.executing with he | ⟨id, c, i, limit, p', hf, -, -, he⟩
    · rwa [he]
    · rw [he, List.map_append, List.nodup_append]
      refine ⟨ih, List.nodup_singleton _, fun j hj j' hj' => ?_⟩
      obtain rfl : j' = id := List.mem_singleton.mp hj'
      rintro rfl
      obtain ⟨x, hx, rfl⟩ := List.mem_map.mp hj
      obtain ⟨q, hq, hs⟩ := h.asked hx
      rw [hf, spot_running] at hq
      obtain rfl := Option.some.inj hq
      simp [Point.stage] at hs

/-- The calls whose executions have been answered. -/
def answeredCalls (trail : List (Nat × Point ρ)) : List Nat :=
  (trail.filter (·.2.executed?.isSome)).map (·.1)

theorem answeredCalls_append (trail trail' : List (Nat × Point ρ)) :
    answeredCalls (trail ++ trail') = answeredCalls trail ++ answeredCalls trail' := by
  simp [answeredCalls]

/-- A call whose execution is answered had not been answered before. -/
theorem Next.stage_lt (hn : Next s mayStop m m') (hv : Visited s mayStop t remote m.1 m.2) {k : Nat}
    {p : Point ρ} (hf : m'.2 = some (k, p)) (hp : p.executed?.isSome) :
    ∀ q, m.1.spot m.2 k = some q → q.stage < 2 := by
  intro q hq
  cases hn with
  | start h =>
    obtain ⟨rfl, rfl⟩ := Prod.mk.inj (Option.some.inj hf)
    cases h with
    | executed hp' | executedOwn hp' =>
      obtain rfl := Option.some.inj ((spot_resting hp').symm.trans hq)
      simp [Point.stage]
    | _ => simp [Point.executed?] at hp
  | move h =>
    obtain ⟨rfl, rfl⟩ := Prod.mk.inj (Option.some.inj hf)
    cases h with
    | execute =>
      obtain rfl := Option.some.inj ((spot_running _ _ _).symm.trans hq)
      simp [Point.stage]
    | _ => simp [Point.executed?] at hp
  | park | stop | abandon | elapse | remote => simp at hf

theorem Trail.answered_once (h : Trail s mayStop t remote m trail) :
    (answeredCalls trail).Nodup := by
  induction h with
  | new => exact List.nodup_nil
  | @next m m' trail h hn ih =>
    rw [answeredCalls_append, List.nodup_append]
    obtain ⟨b', f'⟩ := m'
    cases f' with
    | none => exact ⟨ih, by simp [answeredCalls], by simp [answeredCalls]⟩
    | some x =>
      refine ⟨ih, ?_, fun k hk k' hk' => ?_⟩
      · cases hx : x.2.executed?.isSome <;> simp [answeredCalls, hx]
      · rintro rfl
        obtain ⟨y, hy, rfl⟩ := List.mem_map.mp hk'
        obtain ⟨hy, hex⟩ := List.mem_filter.mp hy
        obtain rfl := List.mem_singleton.mp hy
        obtain ⟨z, hz, hzk⟩ := List.mem_map.mp hk
        obtain ⟨hz, hzx⟩ := List.mem_filter.mp hz
        obtain ⟨q, hq, hs⟩ := h.known hz
        have hlt := hn.stage_lt h.visited rfl hex q (hzk ▸ hq)
        have hstage : z.2.stage = 2 := Point.stage_of_executed hzx
        omega

theorem Visited.greets {k : Nat} {t' : Target} {c : Credential} {r : Except Failure String}
    (h : Visited s mayStop t remote b (some (k, .connected t' c r))) : s.Greets t' c r := by
  cases h with
  | start h hs =>
    cases hs with
    | connected hp ht he => exact .inr ⟨_, _, he⟩
  | move h hm =>
    cases hm with
    | connect hl hk ht he => exact .inl ⟨_, _, he⟩

/-- What is the answer to a handshake comes from the endpoint. -/
theorem Trail.greets (h : Trail s mayStop t remote m trail) {k : Nat} {t' : Target} {c : Credential}
    {r : Except Failure String} (hx : (k, .connected t' c r) ∈ trail) : s.Greets t' c r := by
  induction h with
  | new => simp at hx
  | @next m m' trail h hn ih =>
    rcases List.mem_append.mp hx with hx | hx
    · exact ih hx
    · have hv : Visited s mayStop t remote m'.1 m'.2 := hn.visited h.visited
      rw [Option.mem_toList.mp hx] at hv
      exact hv.greets

theorem Visited.answers {k : Nat} {i : Invocation} {c : Connection} {r : Except Failure (Output ρ)}
    (h : Visited s mayStop t remote b (some (k, .executed c r)))
    (hr : b.request? k = some (.invoke i)) : s.Answers c i r := by
  cases h with
  | start h hs =>
    cases hs with
    | executed hp hr' ht he =>
      obtain rfl := Request.invoke.inj (Option.some.inj (hr'.symm.trans hr))
      exact .inr ⟨_, _, he⟩
    | executedOwn hp hr' => exact nomatch hr'.symm.trans hr
  | @move b₁ _ _ p _ h hm =>
    cases hm with
    | execute he =>
      obtain ⟨r', hr', hs⟩ := h.suits k _ (spot_running b₁ k _)
      obtain rfl : r' = .invoke i := Option.some.inj (hr'.symm.trans hr)
      obtain ⟨heq, -⟩ | ⟨⟨c', heq⟩, -⟩ := hs
      · obtain rfl := Request.invoke.inj heq
        exact .inl ⟨_, _, he⟩
      · exact nomatch heq

/-- What is an answer for an invocation comes from the endpoint. -/
theorem Trail.answers (h : Trail s mayStop t remote m trail) {k : Nat} {i : Invocation}
    {c : Connection} {r : Except Failure (Output ρ)} (hr : m.1.request? k = some (.invoke i))
    (hx : (k, .executed c r) ∈ trail) : s.Answers c i r := by
  induction h with
  | new => simp at hx
  | @next m m' trail h hn ih =>
    rcases List.mem_append.mp hx with hx | hx
    · obtain ⟨r', hr'⟩ := h.request? hx
      rw [hn.request? hr'] at hr
      exact ih (hr'.trans hr) hx
    · have hv : Visited s mayStop t remote m'.1 m'.2 := hn.visited h.visited
      rw [Option.mem_toList.mp hx] at hv
      exact hv.answers hr

theorem Reason.mono {k : Nat} {i : Invocation} {trail' : List (Nat × Point ρ)}
    {r : Except Failure (Output ρ)} (h : Reason s k i trail r) :
    Reason s k i (trail ++ trail') r := by
  cases h with
  | unauthenticated => exact .unauthenticated
  | handshakeTimedOut => exact .handshakeTimedOut
  | executionTimedOut => exact .executionTimedOut
  | handshake h => exact .handshake (List.mem_append_left _ h)
  | execution h => exact .execution (List.mem_append_left _ h)
  | output h => exact .output (List.mem_append_left _ h)

theorem Starts.reason {k : Nat} {i : Invocation} {ph : Phase ρ} {p : Point ρ}
    {r : Except Failure (Output ρ)} (h : Starts s b b' k p) (hp : b.phase? k = some ph)
    (hr : p.result? = some r)
    (ih : ∀ r, (Point.park ph).result? = some r → Reason s k i trail r) : Reason s k i trail r := by
  cases h with
  | losing _ hp' =>
    obtain rfl := Option.some.inj (hp.symm.trans hp')
    exact ih r hr
  | executionTimedOut =>
    obtain rfl := Option.some.inj hr
    exact .executionTimedOut
  | _ => simp [Point.result?] at hr

theorem Starts.result_of_new (h : Starts s b b' j q') (hn : b.spot none j = none) :
    q'.result? = none := by
  cases h with
  | losing _ hp | executionTimedOut hp => exact nomatch hn.symm.trans (spot_resting hp)
  | _ => rfl

theorem Moves.reason {k : Nat} {i : Invocation} {p p' : Point ρ} {r : Except Failure (Output ρ)}
    (h : Moves s k b p b' p') (hi : b.request? k = some (.invoke i)) (hp : (k, p) ∈ trail)
    (hr : p'.result? = some r) (ih : ∀ r, p.result? = some r → Reason s k i trail r) :
    Reason s k i trail r := by
  cases h with
  | refuse =>
    obtain rfl := Option.some.inj hr
    exact .unauthenticated
  | fail =>
    obtain rfl := Option.some.inj hr
    exact .handshake hp
  | timeOut =>
    obtain rfl := Option.some.inj hr
    exact .handshakeTimedOut
  | executeNever =>
    obtain rfl := Option.some.inj hr
    exact .executionTimedOut
  | breakDown | rejected =>
    obtain rfl := Option.some.inj hr
    exact .execution hp
  | refused hr' ha | accept hr' ha | advise hr' ha =>
    obtain rfl := Request.invoke.inj (Option.some.inj (hi.symm.trans hr'))
    obtain rfl := Option.some.inj hr
    exact ha ▸ .output hp
  | giveIn | lose | loseLater | failLost => exact ih r hr
  | @conclude _ r' =>
    cases r' with
    | ok o => simp [Point.result?, Answer.ofResult] at hr
    | error e => exact ih r hr
  | giveFailure hn | outputFailure hn | failOther hn => exact absurd hi (hn i)
  | closeFailed hc =>
    obtain ⟨c, hc⟩ := hc
    simp [hc] at hi
  | @serve a answer ha =>
    cases a <;> simp only [SessionAction.answer?, Option.some.injEq, reduceCtorEq] at ha <;>
      subst ha <;> simp [Point.result?] at hr
  | _ => simp [Point.result?] at hr

/-- Whatever an invocation is about to return it has a reason for. -/
theorem Trail.reason (h : Trail s mayStop t remote m trail) {k : Nat} {i : Invocation}
    {r : Except Failure (Output ρ)} (hi : m.1.request? k = some (.invoke i))
    (hq : m.1.spot m.2 k = some q) (hr : q.result? = some r) : Reason s k i trail r := by
  induction h generalizing q r with
  | new => simp [Bridge.spot, phase?, Bridge.new] at hq
  | @next m m' trail h hn ih =>
    rcases hn.spot_cases h.visited hq with ⟨q₀, hq₀, hg⟩ | ⟨-, hold, hs⟩
    · obtain ⟨r₀, hr₀, -⟩ := h.visited.suits k q₀ hq₀
      rw [hn.request? hr₀] at hi
      have hi := hr₀.trans hi
      refine Reason.mono ?_
      cases hg with
      | stays => exact ih hi hq₀ hr
      | starts hp hs => exact hs.reason hp hr fun r' hr' => ih hi hq₀ hr'
      | moves hf hm => exact hm.reason hi (h.running hf) hr fun r' hr' => ih hi hq₀ hr'
      | stops => simp [Point.result?] at hr
    · rw [hs.result_of_new hold] at hr
      simp at hr

end

end Bridge

end CommandBridge
