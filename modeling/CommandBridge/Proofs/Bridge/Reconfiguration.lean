import CommandBridge.Proofs.Bridge.Verdict

/-! No running invocation is cut. Calls that reconfigure the session, look at it or queue up while
an invocation executes change nothing about what it returns, and the next invocation finds what they
have set. -/
namespace CommandBridge

variable {σ ρ : Type}

/-- The endpoint is not called for it while an invocation has its turn. -/
def Request.isMild : Request → Bool
  | session .ensureOpen | execute _ _ | close _ => false
  | invoke _ | shutdown | session _ => true

/-- Where a call can be for which the endpoint is not called. -/
def Point.Aloof (r : Request) : Point ρ → Prop
  | approach _ | act _ | park (.waiting _) => (∃ x, r = .session x) ∧ r.isMild = true
  | park .queued | park (.ended _) | park .cancelled => True
  | _ => False

/-- The endpoint is asked for something for call `j`. -/
def Event.asks? (j : Nat) (e : Event) : Option Nat := e.asked?.filter (· == j)

theorem Event.caller?_of_asks? {j : Nat} {e : Event} {k : Nat} (h : e.asks? j = some k) :
    e.caller? = some j := by
  obtain ⟨he, hk⟩ := Option.filter_eq_some_iff.mp h
  obtain rfl : k = j := by simpa using hk
  cases e <;> simp_all [asked?, caller?]

namespace Bridge

/-- What may happen while an invocation executes, if no other call is to use the endpoint. -/
inductive Meddles (s : Setup σ ρ) (mayStop : Bridge σ ρ → Nat → Prop) :
    Bridge σ ρ → Bridge σ ρ → Prop where
  | submit {b : Bridge σ ρ} {r : Request} (h : r.isMild = true) : Meddles s mayStop b (b.submit s r)
  | goOn {b : Bridge σ ρ} {id : Nat} (h : id ∈ b.ready) :
      Meddles s mayStop b (goOn s { b with ready := b.ready.erase id } id)
  | expire {b : Bridge σ ρ} {id due : Nat} (h : (b.phase? id).bind Phase.due? = some due) :
      Meddles s mayStop b (expire s { b with now := due } id)
  | cancel {b : Bridge σ ρ} {id : Nat} (h : mayStop b id) : Meddles s mayStop b (b.cancel id)
  | abandon {b : Bridge σ ρ} (c : Connection) : Meddles s mayStop b (b.abandon c)
  | elapse {b : Bridge σ ρ} (time : Nat) : Meddles s mayStop b { b with now := time }

/-- Call `j` is not at the endpoint, nor will it be while an invocation has its turn. -/
def Aloof (b : Bridge σ ρ) (j : Nat) : Prop :=
  ∀ r p, b.request? j = some r → b.spot none j = some p → p.Aloof r

/-- In state `b` the invocation `i`, which is call `a`, executes on connection `c`. Two runs from
there may differ in any calls: it is not cut, and what they have set is what the next invocation
gets. -/
structure Uncut (s : Setup σ ρ) (mayStop : Bridge σ ρ → Nat → Prop) (t : Target) (b : Bridge σ ρ)
    (a : Nat) (i : Invocation) (c : Connection) (timer : Timer) : Prop where
  /-- The invocation returns what the endpoint answers when its time has come. -/
  returns : ∀ f, f 0 = b → Run s mayStop f → ∀ n x, (f n).answer? a = some x →
    ∃ k < n, (f k).phase? a = some (.executing c timer) ∧
      Returned b (f n) a i (verdict s i c timer (f k).remote)
  /-- Where the endpoint answers alike, it returns the same and the same is told. -/
  same : ∀ f g, f 0 = b → g 0 = b → Run s mayStop f → Run s mayStop g →
    (∀ k l, (f k).phase? a = some (.executing c timer) →
      (g l).phase? a = some (.executing c timer) →
      (s.endpoint.executed c i (f k).remote).2 = (s.endpoint.executed c i (g l).remote).2) →
    ∀ m n x y, (f m).answer? a = some x → (g n).answer? a = some y →
      ∃ v, Returned b (f m) a i v ∧ Returned b (g n) a i v
  /-- The endpoint is not called for calls that reconfigure the session, look at it or queue up. -/
  quiet : ∀ f, f 0 = b → Run s mayStop f → ∀ j ≠ a, b.Aloof j →
    (∀ n r, b.request? j = none → (f n).request? j = some r → r.isMild = true) →
    ∀ n, (f n).phase? a = some (.executing c timer) →
      (f n).told (Event.asks? j) = b.told (Event.asks? j)
  /-- So where there are only such, the invocation returns what it would have returned at once. -/
  alone : (∀ j ≠ a, b.Aloof j) → ∀ f, f 0 = b →
    (∀ n, (f n).phase? a = some (.executing c timer) → Meddles s mayStop (f n) (f (n + 1))) →
    Run s mayStop f → ∀ n x, (f n).answer? a = some x →
      Returned b (f n) a i (verdict s i c timer b.remote)
  /-- An invocation that has not started at time `k`, after which no call sets anything, executes
  with what has been set, and fails where there is no credential. -/
  next : ∀ f, f 0 = b → Run s mayStop f → ∀ k n, k ≤ n →
    (∀ l ≥ (f k).calls.length, (f n).setting? l = none) →
    ∀ j i', (∀ ph, (f k).phase? j = some ph → ph = .queued) →
      (f n).request? j = some (.invoke i') → i'.pipeline.isEmpty = false →
      (f n).Obeys j i' ((f n).settings t)
  /-- Every call that is not stopped gets its answer. -/
  answers : ∀ f, f 0 = b → FairRun s mayStop f → ∀ j k ph, (∀ n, ¬ mayStop (f n) j) →
    (f k).phase? j = some ph → ph ≠ .cancelled → ∃ n x, (f n).answer? j = some x

section
variable {s : Setup σ ρ} {mayStop : Bridge σ ρ → Nat → Prop} {t : Target} {remote : σ}
variable {b b' : Bridge σ ρ} {a j : Nat} {p p' : Point ρ} {r : Request}
variable {i : Invocation} {c : Connection} {timer : Timer}

theorem Moves.aloof (h : Moves s j b p b' p') (hr : b.request? j = some r) (hs : p.Suits r)
    (hp : p.Aloof r) : p'.Aloof r ∧ b'.remote = b.remote ∧
      b'.told (Event.asks? j) = b.told (Event.asks? j) := by
  have open_not_mild (hx : (∃ x, r = .session x) ∧ r.isMild = true) (hw : r.Wants .ensureOpen) :
      False := by
    obtain ⟨⟨x, rfl⟩, hm⟩ := hx
    obtain rfl : .ensureOpen = x := hw
    simp [Request.isMild] at hm
  cases h with
  | enter | wait => exact ⟨hp, rfl, rfl⟩
  | serve => exact ⟨trivial, rfl, told_events _ (fun _ => rfl) (fun _ => rfl) _⟩
  | handOut => exact ⟨trivial, rfl, by simp [Event.asks?, Event.asked?]⟩
  | collect _ hr' =>
    obtain ⟨⟨x, rfl⟩, -⟩ := hp
    exact absurd hr (hr' x)
  | reuse | refuse | connect | connectNever | connectLater => exact (open_not_mild hp hs).elim
  | _ => exact hp.elim

theorem Leads.aloof (h : Leads s j p b b') (hr : b.request? j = some r) (hs : p.Suits r)
    (hp : p.Aloof r) : b'.Aloof j ∧ b'.remote = b.remote ∧
      b'.told (Event.asks? j) = b.told (Event.asks? j) := by
  induction h with
  | @park b ph =>
    refine ⟨fun r' q hr' hq => ?_, rfl, rfl⟩
    rw [request?_setPhase] at hr'
    rw [spot_setPhase hr, spot_running] at hq
    obtain rfl := Option.some.inj (hr.symm.trans hr')
    obtain rfl := Option.some.inj hq
    exact hp
  | move hm _ ih =>
    obtain ⟨hp', hx, ht⟩ := hm.aloof hr hs hp
    obtain ⟨hal, hx', ht'⟩ := ih ((request?_of_calls hm.calls j).trans hr) (hm.suits hr hs) hp'
    exact ⟨hal, hx'.trans hx, ht'.trans ht⟩

/-- An invocation that is executed has its turn. -/
theorem Visited.turn_of_executing (hv : Visited s mayStop t remote b none)
    (hr : b.request? a = some (.invoke i)) (hp : b.phase? a = some (.executing c timer)) :
    b.turn.holder = some a := by
  obtain ⟨r, hr', hs⟩ := hv.suits a _ (spot_resting hp)
  obtain rfl := Option.some.inj (hr.symm.trans hr')
  have hn : (Request.invoke i).needsTurn = true := by
    rcases hs with ⟨i', hi, hne⟩ | ⟨c', i', hi⟩
    · obtain rfl := Request.invoke.inj hi
      simpa [Request.needsTurn] using hne
    · cases hi
  refine (Locks.orderly hv.inOrder .turn).has a ?_
  rw [stances_resting hr hp]
  exact Request.turnHold_of_needsTurn hn

theorem Starts.aloof (h : Starts s b b' j p) (hv : Visited s mayStop t remote b none)
    (ha : b.turn.holder = some a) (hj : j ≠ a) (hb : b.Aloof j)
    (hm : ∀ r, b.request? j = none → b'.request? j = some r → r.isMild = true)
    (hr : b'.request? j = some r) : p.Aloof r ∧ b'.remote = b.remote := by
  have old {ph : Phase ρ} (hp : b.phase? j = some ph) (hr : b.request? j = some r) :
      (Point.park ph).Aloof r := hb r _ hr (spot_resting hp)
  have new : b.request? b.calls.length = none := by simp [Bridge.request?]
  cases h with
  | skip | queue => exact ⟨trivial, rfl⟩
  | takeTurn _ h =>
    simp [Lock.request, ha] at h
    exact absurd h.symm hj
  | approach =>
    have hr' := hr
    obtain rfl := Option.some.inj ((request?_addCall b _).symm.trans hr)
    exact ⟨⟨⟨_, rfl⟩, hm _ new hr'⟩, rfl⟩
  | execute | close =>
    have hr' := hm _ new hr
    obtain rfl := Option.some.inj ((request?_addCall b _).symm.trans hr)
    simp [Request.isMild] at hr'
  | queued hready hp =>
    have hw : b.stances none j .turn = .waits :=
      congrFun (stances_resting (b := b) hr hp) .turn
    have hl := Locks.holder_of_ready hv.inOrder hready hw
    exact absurd (Option.some.inj (hl.symm.trans ha)) hj
  | waiting _ hp => exact ⟨old hp hr, rfl⟩
  | losing _ hp | connected hp | handshakeTimedOut hp | executed hp | executedOwn hp
  | executionTimedOut hp | closed hp | closeTimedOut hp => exact (old hp hr).elim

theorem Advances.aloof (h : Advances s j b b') (hv : Visited s mayStop t remote b none)
    (ha : b.turn.holder = some a) (hj : j ≠ a) (hb : b.Aloof j)
    (hm : ∀ r, b.request? j = none → b'.request? j = some r → r.isMild = true) :
    b'.Aloof j ∧ b'.remote = b.remote ∧ b'.told (Event.asks? j) = b.told (Event.asks? j) := by
  obtain ⟨b₁, p, hs, hl⟩ := h
  obtain ⟨r, hr, hp⟩ := (hv.start hs).suits j p (spot_running b₁ j p)
  obtain ⟨hal, hx⟩ := hs.aloof hv ha hj hb (fun r h₀ h₁ => hm r h₀ ((hl.request? j).trans h₁)) hr
  obtain ⟨hal', hx', ht'⟩ := hl.aloof hr hp hal
  exact ⟨hal', hx'.trans hx, ht'.trans (hs.told rfl fun _ => rfl)⟩

theorem Aloof.congr (h : b.Aloof j) (hr : b'.request? j = b.request? j)
    (hp : b'.phase? j = b.phase? j) : b'.Aloof j := by
  intro r p hr' hq
  simp only [spot, hp] at hq
  exact h r p (hr ▸ hr') hq

theorem Aloof.due? (h : b.Aloof j) (hv : Visited s mayStop t remote b none) :
    (b.phase? j).bind Phase.due? = none := by
  cases hp : b.phase? j with
  | none => rfl
  | some ph =>
    obtain ⟨r, hr, -⟩ := hv.suits j _ (spot_resting hp)
    have hal := h r _ hr (spot_resting hp)
    cases ph with
    | losing | opening | executing | closing => exact hal.elim
    | _ => rfl

theorem Advances.request?_other {id : Nat} (h : Advances s id b b') (hj : j ≠ id) :
    b'.request? j = b.request? j := by
  obtain ⟨b₁, p, hs, hl⟩ := h
  exact (hl.request? j).trans (hs.other hj).2

theorem Aloof.stopped (h : b.Aloof j) (id : Nat) {ph : Phase ρ} (hp : b.phase? id = some ph) :
    (b.stopped id).Aloof j := by
  intro r q hr hq
  rw [request?_stopped] at hr
  rcases spot_of_stopped hp hq with ⟨-, rfl⟩ | ⟨-, hq⟩
  · trivial
  · exact h r q hr hq

/-- For a call that is aloof the endpoint is not called while an invocation has its turn. -/
theorem Step.aloof (hs : Step s mayStop b b') (hv : Visited s mayStop t remote b none)
    (ha : b.turn.holder = some a) (hj : j ≠ a) (hb : b.Aloof j)
    (hm : ∀ r, b.request? j = none → b'.request? j = some r → r.isMild = true) :
    b'.Aloof j ∧ b'.told (Event.asks? j) = b.told (Event.asks? j) := by
  rcases hs.cases_advances hv with ⟨id, now, hadv⟩ | ⟨id, -, rfl⟩ | ⟨hc, hh⟩
  · by_cases hid : j = id
    · subst hid
      obtain ⟨hal, -, ht⟩ := hadv.aloof (hv.elapse now) ha hj hb hm
      exact ⟨hal, ht⟩
    · obtain ⟨hp, ht⟩ := hadv.other (hv.elapse now) hid fun _ _ => Event.caller?_of_asks?
      exact ⟨hb.congr (hadv.request?_other hid) hp, ht⟩
  · rcases cancel_cases b id with he | ⟨ph, hp, -, he⟩
    · rw [he]
      exact ⟨hb, rfl⟩
    · rw [he]
      exact ⟨hb.stopped id hp, told_stopped (fun _ _ => rfl) b id⟩
  · exact ⟨hb.congr (request?_of_calls hc j) (by simp [phase?, hc]), by rw [told, events, hh]; rfl⟩

theorem request?_withTurn (b : Bridge σ ρ) (id j : Nat) :
    (b.withTurn id (takeTurn s · id)).request? j = b.request? j := by
  unfold withTurn
  dsimp only
  split
  · exact (leads_takeTurn _).request? j
  · exact request?_setPhase _ _ _ j

theorem request?_submit (b : Bridge σ ρ) (r : Request) :
    (b.submit s r).request? b.calls.length = some r := by
  have h := request?_addCall b r
  unfold Bridge.submit
  cases r with
  | invoke i =>
    dsimp only
    split
    · exact (request?_setPhase _ _ _ _).trans h
    · exact (request?_withTurn _ _ _).trans h
  | shutdown => exact (request?_withTurn _ _ _).trans h
  | session x => exact ((leads_waitToAct _ _).request? _).trans h
  | execute c i => exact ((leads_execute _ _ _ _).request? _).trans h
  | close c => exact ((leads_close _ _).request? _).trans h

theorem Meddles.step (h : Meddles s mayStop b b') : Step s mayStop b b' := by
  cases h with
  | submit => exact .submit _
  | goOn hm => exact .goOn hm
  | expire hd => exact .expire hd
  | cancel hm => exact .cancel hm
  | abandon c => exact .abandon c
  | elapse time => exact .elapse time

/-- One call goes on, and the rest stay where they are. -/
theorem Advances.still {id : Nat} (h : Advances s id b b') (hv : Visited s mayStop t remote b none)
    (ha : b.turn.holder = some a) (hid : id ≠ a) (hb : ∀ j ≠ a, b.Aloof j)
    (hm : ∀ r, b.request? id = none → b'.request? id = some r → r.isMild = true) :
    b'.remote = b.remote ∧ ∀ j ≠ a, b'.Aloof j := by
  obtain ⟨hal, hx, -⟩ := h.aloof hv ha hid (hb id hid) hm
  refine ⟨hx, fun j hj => ?_⟩
  by_cases hji : j = id
  · exact hji ▸ hal
  · have hph := (h.other hv hji fun _ _ => Event.caller?_of_asks?).1
    exact (hb j hj).congr (h.request?_other hji) hph

/-- Where all other calls are aloof, nothing but the end of the execution touches the endpoint. -/
theorem Meddles.still (h : Meddles s mayStop b b') (hv : Visited s mayStop t remote b none)
    (hr : b.request? a = some (.invoke i)) (hp : b.phase? a = some (.executing c timer))
    (hp' : b'.phase? a = some (.executing c timer)) (hb : ∀ j ≠ a, b.Aloof j) :
    b'.remote = b.remote ∧ ∀ j ≠ a, b'.Aloof j := by
  have ha := hv.turn_of_executing hr hp
  have old {id : Nat} {ph : Phase ρ} (hph : b.phase? id = some ph) (r : Request)
      (h₀ : b.request? id = none) (_ : b'.request? id = some r) : r.isMild = true := by
    obtain ⟨r', hr', -⟩ := hv.suits id _ (spot_resting hph)
    exact nomatch h₀.symm.trans hr'
  cases h with
  | @submit r hm =>
    refine (advances_submit b r).still hv ha (Nat.ne_of_gt (request?_lt hr)) hb ?_
    intro r' _ hr'
    rw [request?_submit] at hr'
    rwa [← Option.some.inj hr']
  | @goOn id hm =>
    have hid : id ≠ a := by
      rintro rfl
      rcases hv.phase_of_ready hm with hph | ⟨x, hph⟩ | ⟨c', e, hph⟩ <;>
        exact nomatch hp.symm.trans hph
    refine (hv.advances_goOn hm).still hv ha hid hb ?_
    rcases hv.phase_of_ready hm with hph | ⟨x, hph⟩ | ⟨c', e, hph⟩ <;> exact old hph
  | @expire id due hd =>
    by_cases hid : id = a
    · -- an execution whose time has come does not go on
      subst hid
      obtain ⟨ph, hph, hlt⟩ := ((hv.elapse due).advances_expire hd).phase (hv.elapse due) hp
      obtain rfl := Option.some.inj (hp'.symm.trans hph)
      exact absurd hlt (lt_irrefl _)
    · exact nomatch ((hb id hid).due? hv).symm.trans hd
  | @cancel id hm =>
    rcases cancel_cases b id with he | ⟨ph, hph, -, he⟩
    · rw [he]
      exact ⟨rfl, hb⟩
    · rw [he]
      exact ⟨stopped_remote b id, fun j hj => (hb j hj).stopped id hph⟩
  | abandon | elapse => exact ⟨rfl, hb⟩

end

section
variable {s : Setup σ ρ} {mayStop : Bridge σ ρ → Nat → Prop} {t : Target} {remote : σ}
variable {f : Nat → Bridge σ ρ} {b : Bridge σ ρ} {a j k n : Nat}
variable {i : Invocation} {c : Connection} {timer : Timer}

/-- An execution that has come to an end does not begin again. -/
theorem Run.executing_before (hf : Run s mayStop f) (h : Reachable s mayStop t remote (f 0))
    (hr : (f 0).request? a = some (.invoke i)) (hp : (f 0).phase? a = some (.executing c timer))
    (hkn : k ≤ n) (hn : (f n).phase? a = some (.executing c timer)) :
    (f k).phase? a = some (.executing c timer) := by
  rcases hf.promised h hr hp k with ⟨hk, -⟩ | ⟨l, -, -, hprom⟩
  · exact hk
  · obtain ⟨q, hq, hv, -⟩ :=
      Later.promised (hf.later h hkn) (hf.visited h k) (hf.request? h hr k) hprom
    obtain rfl := Option.some.inj ((spot_resting hn).symm.trans hq)
    exact hv.elim

theorem Run.turn (hf : Run s mayStop f) (h : Reachable s mayStop t remote (f 0))
    (hr : (f 0).request? a = some (.invoke i))
    (hp : (f n).phase? a = some (.executing c timer)) : (f n).turn.holder = some a :=
  (hf.visited h n).turn_of_executing (hf.request? h hr n) hp

theorem Run.quiet (hf : Run s mayStop f) (h : Reachable s mayStop t remote (f 0))
    (hr : (f 0).request? a = some (.invoke i)) (hp : (f 0).phase? a = some (.executing c timer))
    (hj : j ≠ a) (hb : (f 0).Aloof j)
    (hm : ∀ n r, (f 0).request? j = none → (f n).request? j = some r → r.isMild = true)
    (hn : (f n).phase? a = some (.executing c timer)) :
    (f n).Aloof j ∧ (f n).told (Event.asks? j) = (f 0).told (Event.asks? j) := by
  induction n with
  | zero => exact ⟨hb, rfl⟩
  | succ n ih =>
    have hpn := hf.executing_before h hr hp (Nat.le_succ n) hn
    obtain ⟨hal, ht⟩ := ih hpn
    have hm' (r : Request) (h₀ : (f n).request? j = none) (h₁ : (f (n + 1)).request? j = some r) :
        r.isMild = true := by
      refine hm (n + 1) r (Option.eq_none_iff_forall_ne_some.mpr fun r' hr' => ?_) h₁
      exact nomatch h₀.symm.trans (hf.request? h hr' n)
    obtain ⟨hal', ht'⟩ := (hf n).aloof (hf.visited h n) (hf.turn h hr hpn) hj hal hm'
    exact ⟨hal', ht'.trans ht⟩

theorem Run.still (hf : Run s mayStop f) (h : Reachable s mayStop t remote (f 0))
    (hr : (f 0).request? a = some (.invoke i)) (hp : (f 0).phase? a = some (.executing c timer))
    (hb : ∀ j ≠ a, (f 0).Aloof j)
    (hm : ∀ n, (f n).phase? a = some (.executing c timer) → Meddles s mayStop (f n) (f (n + 1)))
    (hn : (f n).phase? a = some (.executing c timer)) :
    (f n).remote = (f 0).remote ∧ ∀ j ≠ a, (f n).Aloof j := by
  induction n with
  | zero => exact ⟨rfl, hb⟩
  | succ n ih =>
    have hpn := hf.executing_before h hr hp (Nat.le_succ n) hn
    obtain ⟨hx, hal⟩ := ih hpn
    obtain ⟨hx', hal'⟩ := (hm n hpn).still (hf.visited h n) (hf.request? h hr n) hpn hn hal
    exact ⟨hx'.trans hx, hal'⟩

theorem Reachable.uncut (h : Reachable s mayStop t remote b)
    (hr : b.request? a = some (.invoke i)) (hp : b.phase? a = some (.executing c timer)) :
    b.Uncut s mayStop t a i c timer where
  returns f h0 hf n x hx := by
    subst h0
    exact hf.returned h hr hp hx
  same f g h0 h0' hf hg he m n x y hx hy := by
    subst h0
    obtain ⟨k, -, hk, hret⟩ := hf.returned h hr hp hx
    rw [← h0'] at h hr hp
    obtain ⟨l, -, hl, hret'⟩ := hg.returned h hr hp hy
    refine ⟨_, hret, ?_⟩
    rw [verdict, he k l hk hl]
    exact h0' ▸ hret'
  quiet f h0 hf j hj hb hm n hn := by
    subst h0
    exact (hf.quiet h hr hp hj hb hm hn).2
  alone hb f h0 hm hf n x hx := by
    subst h0
    obtain ⟨k, -, hk, hret⟩ := hf.returned h hr hp hx
    exact (hf.still h hr hp hb hm hk).1 ▸ hret
  next f h0 hf k n hkn hs j i' hq hrj hi := by
    subst h0
    exact Later.obeys (hf.later h hkn) (hf.visited h k) hs hq hrj hi
  answers f h0 hf j k ph hn hpj hne := by
    subst h0
    exact hf.answers h hn hpj hne

end

/-- While an invocation executes, the host signs out and gives the connection up, and another
invocation queues up. -/
def signedOut : Bridge Nat Unit :=
  let b := (Bridge.new localTarget 0).submit countingSetup
    (.session (.setCredential (.token ⟨"k"⟩)))
  let b := (b.submit countingSetup (.invoke singleStage)).submit countingSetup (.invoke singleStage)
  (b.submit countingSetup (.session .clearCredential)).abandon ⟨"0", localTarget⟩

theorem reachable_signedOut :
    Reachable countingSetup (fun _ _ => True) localTarget 0 signedOut := by
  unfold signedOut
  dsimp only
  exact .step (.step (.step (.step (.step .new (.submit _)) (.submit _)) (.submit _)) (.submit _))
    (.abandon _)

theorem aloof_signedOut (j : Nat) (hj : j ≠ 1) : signedOut.Aloof j := by
  intro r p hr hp
  match j, hj with
  | 0, _ | 2, _ | 3, _ =>
    obtain rfl := Option.some.inj hp
    trivial
  | j + 4, _ => cases hr

theorem uncut_signedOut : (∀ j ≠ 1, signedOut.Aloof j) ∧
    (signedOut.settings localTarget).credential = none ∧
    signedOut.phase? 1 = some (.executing ⟨"0", localTarget⟩ ⟨some 1000, some 5000⟩) ∧
      signedOut.Uncut countingSetup (fun _ _ => True) localTarget 1 singleStage ⟨"0", localTarget⟩
        ⟨some 1000, some 5000⟩ := by
  have hp : signedOut.phase? 1 = some (.executing ⟨"0", localTarget⟩ ⟨some 1000, some 5000⟩) := by
    rfl
  exact ⟨aloof_signedOut, by decide +kernel, hp, reachable_signedOut.uncut rfl hp⟩

end Bridge

end CommandBridge
