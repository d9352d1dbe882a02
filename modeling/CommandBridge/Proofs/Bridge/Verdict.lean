import CommandBridge.Proofs.Bridge.Progress
import CommandBridge.Proofs.Bridge.Succession

/-! What an invocation returns is settled when its execution comes to an end: by what the endpoint
answers then, or by the time that has passed. -/
namespace CommandBridge

variable {σ ρ : Type}

namespace Point

/-- Whatever comes of the invocation `i` is `v`, unless it is stopped. -/
def Promises (i : Invocation) (v : Except Failure (Output ρ)) : Point ρ → Prop
  | executed _ r => r >>= i.accept = v
  | lose _ e | failLost _ e | park (.losing _ e) => v = .error e
  | conclude _ r => r = v
  | park (.ended a) => a = .ofResult v
  | park .cancelled => True
  | _ => False

/-- What has been told by then of how the invocation has ended. -/
def outcomes (i : Invocation) (v : Except Failure (Output ρ)) : Point ρ → List (String × Outcome)
  | park (.ended _) => [(i.command, .ofResult v)]
  | _ => []

end Point

namespace Bridge

/-- What becomes of an execution when its time has come and the endpoint is in state `x`. -/
def verdict (s : Setup σ ρ) (i : Invocation) (c : Connection) (timer : Timer) (x : σ) :
    Except Failure (Output ρ) :=
  if timer.isInTime then (s.endpoint.executed c i x).2 >>= i.accept
  else .error (executionFailure s)

/-- Call `a`, which is the invocation `i`, has returned `v`, and that is all that has been told of
its end since `b`. -/
structure Returned (b b' : Bridge σ ρ) (a : Nat) (i : Invocation) (v : Except Failure (Output ρ)) :
    Prop where
  answer : b'.answer? a = some (.ofResult v)
  outcome : b'.told (Event.outcome? a) = b.told (Event.outcome? a) ++ [(i.command, .ofResult v)]

/-- Call `a`, which is the invocation `i`, is to return `v`. -/
def Promised (b : Bridge σ ρ) (m : Moment σ ρ) (a : Nat) (i : Invocation)
    (v : Except Failure (Output ρ)) : Prop :=
  ∃ q, m.1.spot m.2 a = some q ∧ q.Promises i v ∧
    m.1.told (Event.outcome? a) = b.told (Event.outcome? a) ++ q.outcomes i v

section
variable {s : Setup σ ρ} {mayStop : Bridge σ ρ → Nat → Prop} {t : Target} {remote : σ}
variable {b b' b₀ : Bridge σ ρ} {m m' : Moment σ ρ} {a id j : Nat} {p p' : Point ρ}
variable {i : Invocation} {c : Connection} {timer : Timer} {v : Except Failure (Output ρ)}

theorem Moves.promises (h : Moves s a b p b' p') (hr : b.request? a = some (.invoke i))
    (hp : p.Suits (.invoke i)) (hv : p.Promises i v) : p'.Promises i v ∧ p.outcomes i v = [] ∧
      b'.told (Event.outcome? a) = b.told (Event.outcome? a) ++ p'.outcomes i v := by
  have same {i' : Invocation} (hr' : b.request? a = some (.invoke i')) : i = i' :=
    Request.invoke.inj (Option.some.inj (hr.symm.trans hr'))
  cases h with
  | breakDown => exact ⟨hv.symm, rfl, (List.append_nil _).symm⟩
  | rejected => exact ⟨hv, rfl, (List.append_nil _).symm⟩
  | @refused _ _ o e hr' ha =>
    obtain rfl := same hr'
    exact ⟨ha.symm.trans hv, rfl, (List.append_nil _).symm⟩
  | @accept _ _ o o' hr' ha =>
    obtain rfl := same hr'
    exact ⟨ha.symm.trans hv, rfl, (List.append_nil _).symm⟩
  | @advise _ _ o o' hr' ha =>
    obtain rfl := same hr'
    exact ⟨ha.symm.trans hv, rfl, by simp [Event.outcome?, Point.outcomes]⟩
  | output hr' | outputFailure hr' | failOther hr' => exact absurd hr (hr' i)
  | lose | loseLater => exact ⟨hv, rfl, by simp [Event.outcome?, Point.outcomes]⟩
  | failLost => exact ⟨hv.symm, rfl, (List.append_nil _).symm⟩
  | conclude =>
    obtain rfl := hv
    obtain ⟨hi, -⟩ := hp
    obtain rfl := Request.invoke.inj hi
    exact ⟨rfl, rfl, by simp [Event.outcome?, Point.outcomes]⟩
  | _ => exact hv.elim

/-- When the time of an execution has come, its verdict is what the invocation returns. -/
theorem Starts.promises (h : Starts s b b' a p) (hr : b.request? a = some (.invoke i))
    (hp : b.phase? a = some (.executing c timer)) :
    p.Promises i (verdict s i c timer b.remote) ∧ p.outcomes i v = [] := by
  have same {ph : Phase ρ} (hp' : b.phase? a = some ph) : ph = .executing c timer :=
    Option.some.inj (hp'.symm.trans hp)
  cases h with
  | skip | takeTurn | queue | approach | execute | close => simp [phase?] at hp
  | queued _ hp' | waiting _ hp' | losing _ hp' | connected hp' | handshakeTimedOut hp' | closed hp'
  | closeTimedOut hp' => cases same hp'
  | @executed _ _ _ i' x r hp' hr' ht he =>
    obtain ⟨rfl, rfl⟩ := Phase.executing.inj (same hp')
    obtain rfl := Request.invoke.inj (Option.some.inj (hr.symm.trans hr'))
    simp [Point.Promises, Point.outcomes, verdict, ht, he]
  | executedOwn _ hr' => cases hr.symm.trans hr'
  | executionTimedOut hp' _ ht =>
    obtain ⟨rfl, rfl⟩ := Phase.executing.inj (same hp')
    simp [Point.Promises, Point.outcomes, verdict, ht]

theorem Starts.promises_of_losing (h : Starts s b b' a p) {ph : Phase ρ} (hp : b.phase? a = some ph)
    (hv : (Point.park ph).Promises i v) :
    p.Promises i v ∧ (Point.park ph).outcomes i v = [] ∧ p.outcomes i v = [] := by
  cases h with
  | skip | takeTurn | queue | approach | execute | close => simp [phase?] at hp
  | queued _ hp' | waiting _ hp' | connected hp' | handshakeTimedOut hp' | executed hp'
  | executedOwn hp' | executionTimedOut hp' | closed hp' | closeTimedOut hp' =>
    obtain rfl := Option.some.inj (hp.symm.trans hp')
    exact hv.elim
  | losing _ hp' =>
    obtain rfl := Option.some.inj (hp.symm.trans hp')
    exact ⟨hv, rfl, rfl⟩

theorem Next.promised (hn : Next s mayStop m m') (hm : Visited s mayStop t remote m.1 m.2)
    (hr : m.1.request? a = some (.invoke i)) (h : Promised b m a i v) : Promised b m' a i v := by
  obtain ⟨q, hq, hv, ht⟩ := h
  obtain ⟨q', hq', hg⟩ := hn.spot hm hq
  refine ⟨q', hq', ?_⟩
  have quiet (h : ∀ i' r, q = .conclude i' r → q' ≠ .park (.ended (.ofResult r))) :
      m'.1.told (Event.outcome? a) = m.1.told (Event.outcome? a) := by
    rcases hn.outcome (j := a) with he | ⟨i', r, hf, hf', -⟩
    · exact he
    · rw [hf, spot_running] at hq
      rw [hf', spot_running] at hq'
      exact absurd (Option.some.inj hq').symm (h i' r (Option.some.inj hq).symm)
  cases hg with
  | stays =>
    refine ⟨hv, (quiet fun i' r he => ?_).trans ht⟩
    simp [he]
  | @starts ph p hp hs =>
    obtain ⟨hpv, ho, ho'⟩ := hs.promises_of_losing hp hv
    exact ⟨hpv, by rw [quiet (by simp), ht, ho, ho']⟩
  | moves hf hmv =>
    obtain ⟨r, hr', hs⟩ := hm.suits a q hq
    obtain rfl := Option.some.inj (hr.symm.trans hr')
    obtain ⟨hpv, ho, ho'⟩ := hmv.promises hr hs hv
    exact ⟨hpv, by rw [ho', ht, ho, List.append_nil]⟩
  | @stops ph hf =>
    have ho : (Point.park ph).outcomes i v = [] := by
      cases ph with
      | ended => simp [Phase.isFinal] at hf
      | _ => rfl
    exact ⟨trivial, by rw [quiet (by simp), ht, ho]; rfl⟩

theorem Later.promised (hl : Later s mayStop m m') (hm : Visited s mayStop t remote m.1 m.2)
    (hr : m.1.request? a = some (.invoke i)) (h : Promised b m a i v) : Promised b m' a i v := by
  induction hl with
  | refl => exact h
  | tail hl hn ih => exact hn.promised (Later.visited hl hm) (Later.request? hl hr) ih

theorem Later.spot_final {ph : Phase ρ} (hl : Later s mayStop m m')
    (hm : Visited s mayStop t remote m.1 m.2) (hq : m.1.spot m.2 j = some (.park ph))
    (hf : ph.isFinal = true) : m'.1.spot m'.2 j = some (.park ph) := by
  induction hl with
  | refl => exact hq
  | tail hl hn ih => exact hn.spot_final (Later.visited hl hm) ih hf

/-- A call that runs leaves the others where they are, and does nothing in their name. -/
theorem Leads.other {α : Type} {g : Event → Option α} {r : Request} (h : Leads s id p b b')
    (hr : b.request? id = some r) (hp : p.Suits r) (hj : j ≠ id)
    (hg : ∀ e x, g e = some x → e.caller? = some j) :
    b'.phase? j = b.phase? j ∧ b'.told g = b.told g := by
  induction h with
  | park => exact ⟨by rw [phase?_setPhase, if_neg hj], rfl⟩
  | @move b p b' p' b'' hm _ ih =>
    obtain ⟨hph, ht⟩ := ih ((request?_of_calls hm.calls id).trans hr) (hm.suits hr hp)
    refine ⟨hph.trans (by simp [phase?, hm.calls]), ht.trans ?_⟩
    obtain ⟨es, he, htm⟩ := hm.turnMove hr hp
    rw [told_append he, List.filterMap_eq_nil_iff.mpr, List.append_nil]
    exact fun e hmem => Option.eq_none_iff_forall_ne_some.mpr fun x hx =>
      hj (htm.caller hmem (hg e x hx))

theorem Advances.other {α : Type} {g : Event → Option α} (h : Advances s id b b')
    (hv : Visited s mayStop t remote b none) (hj : j ≠ id)
    (hg : ∀ e x, g e = some x → e.caller? = some j) :
    b'.phase? j = b.phase? j ∧ b'.told g = b.told g := by
  obtain ⟨b₁, p, hs, hl⟩ := h
  obtain ⟨r, hr, hp⟩ := (hv.start hs).suits id p (spot_running b₁ id p)
  obtain ⟨hph, ht⟩ := hl.other hr hp hj hg
  have hspot : b₁.spot none j = b.spot none j := (spot_other hj).symm.trans (hs.other hj).1
  refine ⟨hph.trans (Option.map_injective (fun _ _ => Point.park.inj) hspot), ht.trans ?_⟩
  have none {e : Event} (he : e.caller? = none) : g e = none :=
    Option.eq_none_iff_forall_ne_some.mpr fun x hx => nomatch he.symm.trans (hg e x hx)
  exact hs.told (none rfl) fun _ => none rfl

/-- A step is the doing of one call, or stops a call, or is no call's. -/
theorem Step.cases_advances (hs : Step s mayStop b b') (hv : Visited s mayStop t remote b none) :
    (∃ id now, Advances s id { b with now } b') ∨ (∃ id, mayStop b id ∧ b' = b.cancel id) ∨
      b'.calls = b.calls ∧ b'.history = b.history := by
  cases hs with
  | submit r => exact .inl ⟨_, b.now, advances_submit b r⟩
  | goOn hm => exact .inl ⟨_, b.now, hv.advances_goOn hm⟩
  | @expire id due hd => exact .inl ⟨id, due, (hv.elapse due).advances_expire hd⟩
  | cancel hm => exact .inr (.inl ⟨_, hm, rfl⟩)
  | abandon | elapse | remote => exact .inr (.inr ⟨rfl, rfl⟩)

theorem Step.promised (hs : Step s mayStop b b') (hv : Visited s mayStop t remote b none)
    (hr : b.request? a = some (.invoke i)) (hp : b.phase? a = some (.executing c timer)) :
    (b'.phase? a = some (.executing c timer) ∧
        b'.told (Event.outcome? a) = b.told (Event.outcome? a)) ∨
      Promised b (b', none) a i (verdict s i c timer b.remote) := by
  rcases hs.cases_advances hv with ⟨id, now, hadv⟩ | ⟨id, -, rfl⟩ | ⟨hc, hh⟩
  · by_cases hj : a = id
    · subst hj
      obtain ⟨b₁, p, hst, hl⟩ := hadv
      obtain ⟨hpv, ho⟩ := hst.promises (v := verdict s i c timer b.remote) hr hp
      have hv₁ : Visited s mayStop t remote b₁ (some (a, p)) := (hv.elapse now).start hst
      have hlater : Later s mayStop (b₁, some (a, p)) (b', none) := hl.later
      refine .inr (hlater.promised hv₁ (hst.request? hr) ?_)
      refine ⟨p, spot_running b₁ a p, hpv, ?_⟩
      rw [ho, List.append_nil]
      exact hst.told rfl fun _ => rfl
    · obtain ⟨hph, ht⟩ := hadv.other (hv.elapse now) hj fun _ _ => Event.caller?_of_outcome?
      exact .inl ⟨hph.trans hp, ht⟩
  · rcases cancel_cases b id with he | ⟨ph, hph, -, he⟩
    · exact .inl (by rw [he]; exact ⟨hp, rfl⟩)
    · rw [he]
      have ht : (b.stopped id).told (Event.outcome? a) = b.told (Event.outcome? a) :=
        told_stopped (fun _ _ => rfl) b id
      have hspot := congrFun (spot_stopped hph) a
      by_cases hj : a = id
      · subst hj
        refine .inr ⟨_, hspot.trans (spot_running b a _), trivial, ?_⟩
        exact ht.trans (List.append_nil _).symm
      · refine .inl ⟨phase?_of_spot (hspot.trans ((spot_other hj).trans (spot_resting hp))), ht⟩
  · exact .inl ⟨by simpa [phase?, hc] using hp, by rw [told, events, hh]; rfl⟩

theorem Starts.not_cancelled (h : Starts s b b' j p) : p.isCancelled = false := by
  cases h <;> rfl

theorem Leads.not_cancelled (h : Leads s j p b b') (hp : p.isCancelled = false) :
    b'.phase? j ≠ some .cancelled := by
  induction h with
  | @park b ph =>
    intro hc
    rw [phase?_setPhase, if_pos rfl] at hc
    obtain ⟨_, -, rfl⟩ := Option.map_eq_some_iff.mp hc
    simp [Point.isCancelled] at hp
  | move hm _ ih => exact ih hm.not_cancelled.2

/-- A call that has been stopped is one that could be. -/
theorem Step.stoppable (hs : Step s mayStop b b') (hv : Visited s mayStop t remote b none)
    (hp : b.phase? j ≠ some .cancelled) (hp' : b'.phase? j = some .cancelled) : mayStop b j := by
  rcases hs.cases_advances hv with ⟨id, now, hadv⟩ | ⟨id, hm, rfl⟩ | ⟨hc, -⟩
  · by_cases hj : j = id
    · subst hj
      obtain ⟨b₁, p, hst, hl⟩ := hadv
      exact absurd hp' (hl.not_cancelled hst.not_cancelled)
    · have hph := (hadv.other (hv.elapse now) hj fun _ _ => Event.caller?_of_outcome?).1
      exact absurd (hph.symm.trans hp') hp
  · by_cases hj : j = id
    · exact hj ▸ hm
    · rcases cancel_cases b id with he | ⟨ph, hph, -, he⟩
      · exact absurd (he ▸ hp') hp
      · have hspot := congrFun (spot_stopped hph) j
        rw [he] at hp'
        have := (spot_other hj).symm.trans (hspot.symm.trans (spot_resting hp'))
        exact absurd (phase?_of_spot this) hp
  · exact absurd (by simpa [phase?, hc] using hp') hp

end

section
variable {s : Setup σ ρ} {mayStop : Bridge σ ρ → Nat → Prop} {t : Target} {remote : σ}
variable {f : Nat → Bridge σ ρ} {a j k n : Nat}
variable {i : Invocation} {c : Connection} {timer : Timer}

theorem Run.request? {r : Request} (hf : Run s mayStop f) (h : Reachable s mayStop t remote (f 0))
    (hr : (f 0).request? a = some r) (n : Nat) : (f n).request? a = some r :=
  Later.request? (hf.later h (Nat.zero_le n)) hr

theorem Run.promised (hf : Run s mayStop f) (h : Reachable s mayStop t remote (f 0))
    (hr : (f 0).request? a = some (.invoke i))
    (hp : (f 0).phase? a = some (.executing c timer)) (n : Nat) :
    ((f n).phase? a = some (.executing c timer) ∧
        (f n).told (Event.outcome? a) = (f 0).told (Event.outcome? a)) ∨
      ∃ k < n, (f k).phase? a = some (.executing c timer) ∧
        Promised (f 0) (f n, none) a i (verdict s i c timer (f k).remote) := by
  induction n with
  | zero => exact .inl ⟨hp, rfl⟩
  | succ n ih =>
    have hv := hf.visited h n
    have hrn := hf.request? h hr n
    rcases ih with ⟨hpn, ht⟩ | ⟨k, hk, hpk, hprom⟩
    · rcases (hf n).promised hv hrn hpn with ⟨hpn', ht'⟩ | ⟨q, hq, hqv, ht'⟩
      · exact .inl ⟨hpn', ht'.trans ht⟩
      · exact .inr ⟨n, Nat.lt_succ_self n, hpn, q, hq, hqv, ht ▸ ht'⟩
    · exact .inr ⟨k, Nat.lt_succ_of_lt hk, hpk, Later.promised ((hf n).later hv) hv hrn hprom⟩

theorem Run.returned (hf : Run s mayStop f) (h : Reachable s mayStop t remote (f 0))
    (hr : (f 0).request? a = some (.invoke i)) (hp : (f 0).phase? a = some (.executing c timer))
    {x : Answer ρ} (hx : (f n).answer? a = some x) :
    ∃ k < n, (f k).phase? a = some (.executing c timer) ∧
      Returned (f 0) (f n) a i (verdict s i c timer (f k).remote) := by
  have hspot := spot_of_answer? hx
  rcases hf.promised h hr hp n with ⟨hpn, -⟩ | ⟨k, hk, hpk, q, hq, hv, ht⟩
  · exact nomatch (spot_resting hpn).symm.trans hspot
  · obtain rfl := Option.some.inj (hspot.symm.trans hq)
    obtain rfl : x = .ofResult _ := hv
    exact ⟨k, hk, hpk, hx, ht⟩

theorem Run.not_cancelled (hf : Run s mayStop f) (h : Reachable s mayStop t remote (f 0))
    (hn : ∀ n, ¬ mayStop (f n) j) (hk : (f k).phase? j ≠ some .cancelled) (hkn : k ≤ n) :
    (f n).phase? j ≠ some .cancelled := by
  induction n, hkn using Nat.le_induction with
  | base => exact hk
  | succ n _ ih => exact fun hc => hn n ((hf n).stoppable (hf.visited h n) ih hc)

/-- A call that is not stopped gets its answer. -/
theorem FairRun.answers {ph : Phase ρ} (hf : FairRun s mayStop f)
    (h : Reachable s mayStop t remote (f 0)) (hn : ∀ n, ¬ mayStop (f n) j)
    (hp : (f k).phase? j = some ph) (hne : ph ≠ .cancelled) :
    ∃ n x, (f n).answer? j = some x := by
  obtain ⟨n, ph', hp', hfin⟩ := hf.ends h hp
  have hl := hf.run.later h (le_max_right k n)
  have hend : (f (max k n)).phase? j = some ph' :=
    phase?_of_spot (hl.spot_final (hf.run.visited h n) (spot_resting hp') hfin)
  have hlive := hf.run.not_cancelled h hn (fun hc => hne (Option.some.inj (hp.symm.trans hc)))
    (le_max_left k n)
  cases ph' with
  | ended x => exact ⟨max k n, x, by simp [answer?, hend]⟩
  | cancelled => exact absurd hend hlive
  | _ => simp [Phase.isFinal] at hfin

end

end Bridge

end CommandBridge
