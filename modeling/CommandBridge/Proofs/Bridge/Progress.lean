import CommandBridge.Proofs.Bridge.Deadlock
import Mathlib.Order.WellFounded

/-! No call waits forever, whatever the endpoint does and however many calls there are. -/
namespace CommandBridge

variable {σ ρ : Type}

namespace Bridge

/-- A run without end. There can be ever more calls. -/
def Run (s : Setup σ ρ) (mayStop : Bridge σ ρ → Nat → Prop) (f : Nat → Bridge σ ρ) : Prop :=
  ∀ i, Step s mayStop (f i) (f (i + 1))

/-- A run in which no call is forgotten: one that can go on does not stay there, and no timer runs
on forever. -/
structure FairRun (s : Setup σ ρ) (mayStop : Bridge σ ρ → Nat → Prop) (f : Nat → Bridge σ ρ) :
    Prop where
  run : Run s mayStop f
  inside : ∀ i, (f i).Inside
  goesOn : ∀ i j, (f i).CanGoOn j → ∃ k ≥ i, ¬ (f k).CanGoOn j
  expires : ∀ i j due, ((f i).phase? j).bind Phase.due? = some due →
    ∃ k ≥ i, (f k).phase? j ≠ (f i).phase? j

/-- A bridge that is not stuck, nor ever will be. -/
structure Unblocked (s : Setup σ ρ) (mayStop : Bridge σ ρ → Nat → Prop) (b : Bridge σ ρ) :
    Prop where
  held : ∀ g j, (b.locks g).holder = some j → b.Unfinished j
  /-- The session is not kept while its holder waits for its turn. -/
  ordered : ∀ j, b.access.holder = some j → b.waitsFor? j ≠ some .turn
  /-- The schedule knows which calls can go on. -/
  ready : ∀ j, b.CanGoOn j ↔ j ∈ b.ready
  /-- When all wait, one of them waits for the endpoint, and not without an end. -/
  timer : (∀ j, ¬ b.CanGoOn j) → ∀ j, b.Unfinished j →
    ∃ k due, (b.phase? k).bind Phase.due? = some due
  fair : ∃ f : Nat → Bridge σ ρ, f 0 = b ∧ FairRun s mayStop f
  ends : ∀ f : Nat → Bridge σ ρ, f 0 = b → FairRun s mayStop f → ∀ j, b.Unfinished j →
    ∃ k ph, (f k).phase? j = some ph ∧ ph.isFinal = true

/-- The next thing that the schedule does: the first of the calls that a lock was passed to goes on,
and if there is none, the clock moves. -/
def proceed (s : Setup σ ρ) (b : Bridge σ ρ) : Bridge σ ρ :=
  if b.ready.isEmpty then b.wake s else b.resume s

section
variable {s : Setup σ ρ} {mayStop : Bridge σ ρ → Nat → Prop} {t : Target} {remote : σ}
variable {b : Bridge σ ρ} {f : Nat → Bridge σ ρ} {i j k l : Nat} {g : Gate} {ph : Phase ρ}

/-- What only changes by getting smaller changes no more in the end. -/
theorem exists_forall_eq {α β : Type} [LT β] [WellFoundedLT β] (u : Nat → α) (size : α → β)
    (h : ∀ i k, i ≤ k → u k = u i ∨ size (u k) < size (u i)) : ∃ i, ∀ k ≥ i, u k = u i := by
  refine ⟨Function.argmin (size ∘ u), fun k hk => ?_⟩
  exact (h _ k hk).resolve_right (Function.not_lt_argmin (size ∘ u) k)

/-- From some time on the call stays in that phase. -/
def Stays (f : Nat → Bridge σ ρ) (i j : Nat) (ph : Phase ρ) : Prop :=
  ∀ k ≥ i, (f k).phase? j = some ph

theorem Stays.mono (h : Stays f i j ph) (hik : i ≤ k) : Stays f k j ph :=
  fun n hn => h n (hik.trans hn)

namespace Run

theorem reachable (hf : Run s mayStop f) (h : Reachable s mayStop t remote (f 0)) (i : Nat) :
    Reachable s mayStop t remote (f i) := by
  induction i with
  | zero => exact h
  | succ i ih => exact ih.step (hf i)

theorem visited (hf : Run s mayStop f) (h : Reachable s mayStop t remote (f 0)) (i : Nat) :
    Visited s mayStop t remote (f i) none := (hf.reachable h i).visited

theorem later (hf : Run s mayStop f) (h : Reachable s mayStop t remote (f 0)) (hik : i ≤ k) :
    Later s mayStop (f i, none) (f k, none) := by
  induction k, hik using Nat.le_induction with
  | base => exact .refl
  | succ k _ ih => exact ih.trans ((hf k).later (hf.visited h k))

theorem exists_stays (hf : Run s mayStop f) (h : Reachable s mayStop t remote (f 0))
    (hp : (f i).phase? j = some ph) : ∃ k ≥ i, ∃ ph', Stays f k j ph' := by
  have known (n : Nat) : ∃ ph', (f (i + n)).phase? j = some ph' := by
    obtain ⟨ph', hp', -⟩ := (hf.later h (Nat.le_add_right i n)).phase (hf.visited h i) hp
    exact ⟨ph', hp'⟩
  let size (x : Option (Phase ρ)) : Nat ×ₗ Nat :=
    x.elim (toLex (0, 0)) fun ph => (Point.park ph).rank
  obtain ⟨n, hn⟩ := exists_forall_eq (fun n => (f (i + n)).phase? j) size fun n n' hle => by
    obtain ⟨ph₁, hp₁⟩ := known n
    have hl := hf.later h (Nat.add_le_add_left hle i)
    obtain ⟨ph₂, hp₂, hd⟩ := hl.phase (hf.visited h _) hp₁
    simpa only [hp₁, hp₂, Option.some.injEq, size, Option.elim_some] using hd
  obtain ⟨ph', hp'⟩ := known n
  refine ⟨i + n, Nat.le_add_right i n, ph', fun k hk => ?_⟩
  obtain ⟨n', rfl⟩ := Nat.exists_eq_add_of_le ((Nat.le_add_right i n).trans hk)
  exact (hn n' (by omega)).trans hp'

end Run

namespace FairRun

theorem timer?_eq_none (hf : FairRun s mayStop f) (h : Reachable s mayStop t remote (f 0))
    (hs : Stays f i j ph) : ph.timer? = none := by
  cases ht : ph.timer? with
  | none => rfl
  | some timer =>
    have hp := hs i le_rfl
    obtain ⟨due, hd⟩ := (hf.run.visited h i).exists_due (hf.inside i) hp ht
    obtain ⟨k, hk, hne⟩ := hf.expires i j due hd
    exact absurd ((hs k hk).trans hp.symm) hne

/-- A call cannot wait forever for a lock that it has. -/
theorem not_holder (hf : FairRun s mayStop f) (hs : Stays f i j ph) (hg : ph.gate? = some g)
    (hl : ∀ k ≥ i, ((f k).locks g).holder = some j) : False := by
  have go (k : Nat) (hk : k ≥ i) : (f k).CanGoOn j :=
    canGoOn_of_holder (waitsFor?_of_gate (hs k hk) hg) (hl k hk)
  obtain ⟨k, hk, hn⟩ := hf.goesOn i j (go i le_rfl)
  exact hn (go k hk)

/-- When a call waits for a lock forever, one call has it forever. -/
theorem exists_holder (hf : FairRun s mayStop f) (h : Reachable s mayStop t remote (f 0))
    (hs : Stays f i j ph) (hg : ph.gate? = some g) :
    ∃ k ≥ i, ∃ l, ∀ n ≥ k, ((f n).locks g).holder = some l := by
  have hspot (n : Nat) (hn : n ≥ i) : (f n).spot none j = some (.park ph) := spot_resting (hs n hn)
  obtain ⟨n, hn⟩ := exists_forall_eq (fun n => ((f (i + n)).locks g).ahead j) List.length
    fun n n' hle => by
      have hl := hf.run.later h (Nat.add_le_add_left hle i)
      have hsub := hl.ahead (hf.run.visited h _) (hspot _ (Nat.le_add_right i n)) hg
        (hspot _ (Nat.le_add_right i n'))
      exact hsub.length_le.eq_or_lt.imp_left hsub.eq_of_length
  refine ⟨i + n, Nat.le_add_right i n, (((f (i + n)).locks g).ahead j).headD j, fun k hk => ?_⟩
  obtain ⟨n', rfl⟩ := Nat.exists_eq_add_of_le ((Nat.le_add_right i n).trans hk)
  have hwait := (hf.run.visited h (i + n')).stances_of_gate (hspot _ (Nat.le_add_right i n')) hg
  rw [← hn n' (by omega)]
  exact (Locks.orderly (hf.run.visited h _).inOrder g).holder_of_ahead hwait

/-- A call that has a lock forever waits for the other one forever. -/
theorem holder_waits (hf : FairRun s mayStop f) (h : Reachable s mayStop t remote (f 0))
    (hl : ∀ n ≥ k, ((f n).locks g).holder = some l) :
    ∃ n ≥ k, ∃ ph g', Stays f n l ph ∧ ph.gate? = some g' ∧ g' ≠ g := by
  obtain ⟨ph₀, hp₀, -⟩ := (hf.run.visited h k).held (hl k le_rfl)
  obtain ⟨n, hn, ph, hs⟩ := hf.run.exists_stays h hp₀
  obtain ⟨ph', hp', hfin⟩ := (hf.run.visited h n).held (hl n hn)
  obtain rfl := Option.some.inj ((hs n le_rfl).symm.trans hp')
  rcases Phase.gate_or_timer hfin with ⟨g', hg⟩ | ⟨timer, ht⟩
  · refine ⟨n, hn, ph, g', hs, hg, ?_⟩
    rintro rfl
    exact hf.not_holder hs hg fun m hm => hl m (hn.le.trans hm)
  · exact nomatch (hf.timer?_eq_none h hs).symm.trans ht

theorem not_access (hf : FairRun s mayStop f) (h : Reachable s mayStop t remote (f 0))
    (hs : Stays f i j ph) : ph.gate? ≠ some .access := by
  intro hg
  obtain ⟨k, -, l, hl⟩ := hf.exists_holder h hs hg
  obtain ⟨n, hn, ph', g', hs', hg', hne⟩ := hf.holder_waits h hl
  cases g' with
  | access => exact hne rfl
  | turn =>
    exact (hf.run.visited h n).ordered (hl n hn) (waitsFor?_of_gate (hs' n le_rfl) hg')

theorem gate?_eq_none (hf : FairRun s mayStop f) (h : Reachable s mayStop t remote (f 0))
    (hs : Stays f i j ph) : ph.gate? = none := by
  cases hg : ph.gate? with
  | none => rfl
  | some g =>
    cases g with
    | access => exact absurd hg (hf.not_access h hs)
    | turn =>
      obtain ⟨k, -, l, hl⟩ := hf.exists_holder h hs hg
      obtain ⟨n, -, ph', g', hs', hg', hne⟩ := hf.holder_waits h hl
      cases g' with
      | turn => exact absurd rfl hne
      | access => exact absurd hg' (hf.not_access h hs')

/-- Every call ends. -/
theorem ends (hf : FairRun s mayStop f) (h : Reachable s mayStop t remote (f 0))
    (hp : (f i).phase? j = some ph) :
    ∃ k ph', (f k).phase? j = some ph' ∧ ph'.isFinal = true := by
  obtain ⟨k, -, ph', hs⟩ := hf.run.exists_stays h hp
  refine ⟨k, ph', hs k le_rfl, ?_⟩
  by_contra hfin
  rcases Phase.gate_or_timer (eq_false_of_ne_true hfin) with ⟨g, hg⟩ | ⟨timer, ht⟩
  · exact nomatch (hf.gate?_eq_none h hs).symm.trans hg
  · exact nomatch (hf.timer?_eq_none h hs).symm.trans ht

end FairRun

theorem step_proceed (b : Bridge σ ρ) : Step s mayStop b (b.proceed s) := by
  unfold proceed
  split
  · exact step_wake b
  · exact step_resume b

/-- The schedule goes on with a call, unless there is nothing to do. -/
theorem Visited.proceed_cases (h : Visited s mayStop t remote b none) :
    b.proceed s = b ∧ b.ready = [] ∧ b.nextDue? = none ∨
      ∃ id ph now, b.phase? id = some ph ∧ Advances s id { b with now } (b.proceed s) := by
  unfold proceed
  split
  · rename_i hr
    unfold wake
    split
    · rename_i due id hd
      have hd := due_of_nextDue hd
      obtain ⟨ph, hp, -⟩ := Option.bind_eq_some_iff.mp hd
      exact .inr ⟨id, ph, due, hp, (h.elapse due).advances_expire hd⟩
    · exact .inl ⟨rfl, List.isEmpty_iff.mp hr, ‹_›⟩
  · unfold resume
    split
    · simp_all
    · rename_i id rest hr
      have hm : id ∈ b.ready := by simp [hr]
      obtain ⟨ph, hp, -⟩ : b.Unfinished id := by
        obtain ⟨g, -, hl⟩ := Locks.passed h.inOrder id hm
        exact h.held hl
      have hadv := h.advances_goOn hm
      simp only [hr, List.erase_cons_head] at hadv
      exact .inr ⟨id, ph, b.now, hp, hadv⟩

theorem Visited.proceed_request? (h : Visited s mayStop t remote b none) (j : Nat) :
    (b.proceed s).request? j = b.request? j := by
  rcases h.proceed_cases with ⟨he, -⟩ | ⟨id, ph, now, hp, hadv⟩
  · rw [he]
  · exact hadv.request? hp j

/-- While a call has not ended, the schedule goes on with one. -/
theorem Visited.proceed_phase (h : Visited s mayStop t remote b none) (hi : b.Inside)
    (hu : b.Unfinished j) :
    ∃ id ph ph', b.phase? id = some ph ∧ (b.proceed s).phase? id = some ph' ∧ ph' ≠ ph := by
  rcases h.proceed_cases with ⟨-, hr, hn⟩ | ⟨id, ph, now, hp, hadv⟩
  · have hstuck (j : Nat) : ¬ b.CanGoOn j := by simp [h.canGoOn_iff, hr]
    obtain ⟨k, due, hd⟩ := h.timer hi hstuck hu
    obtain ⟨x, hx⟩ := exists_nextDue hd
    exact nomatch hn.symm.trans hx
  · obtain ⟨ph', hp', hlt⟩ := hadv.phase (h.elapse now) hp
    refine ⟨id, ph, ph', hp, hp', ?_⟩
    rintro rfl
    exact lt_irrefl _ hlt

/-- In the end none of finitely many calls moves any more. -/
theorem Run.all_stay (hf : Run s mayStop f) (h : Reachable s mayStop t remote (f 0)) (n : Nat)
    (hn : ∀ j < n, ∃ ph, (f 0).phase? j = some ph) : ∃ i, ∀ j < n, ∃ ph, Stays f i j ph := by
  induction n with
  | zero => exact ⟨0, by simp⟩
  | succ n ih =>
    obtain ⟨i, hi⟩ := ih fun j hj => hn j (by omega)
    obtain ⟨ph, hp⟩ := hn n (by omega)
    obtain ⟨k, -, ph', hs⟩ := hf.exists_stays h hp
    refine ⟨max i k, fun j hj => ?_⟩
    rcases Nat.lt_succ_iff_lt_or_eq.mp hj with hj | rfl
    · obtain ⟨ph, hs⟩ := hi j hj
      exact ⟨ph, hs.mono (le_max_left i k)⟩
    · exact ⟨ph', hs.mono (le_max_right i k)⟩

/-- A run in which all calls end has forgotten none. -/
theorem Run.fair_of_ended {n : Nat} (hf : Run s mayStop f) (hi : ∀ i, (f i).Inside)
    (hn : ∀ k ≥ n, ∀ j, ¬ (f k).Unfinished j) : FairRun s mayStop f := by
  refine ⟨hf, hi, fun i j _ => ?_, fun i j due hd => ?_⟩
  · refine ⟨max i n, le_max_left i n, ?_⟩
    rintro ⟨g, hw, -⟩
    obtain ⟨ph, hp, hg⟩ := Option.bind_eq_some_iff.mp hw
    exact hn _ (le_max_right i n) j ⟨ph, hp, Phase.isFinal_of_gate hg⟩
  · refine ⟨max i n, le_max_left i n, fun heq => ?_⟩
    obtain ⟨ph, hp, hd⟩ := Option.bind_eq_some_iff.mp hd
    exact hn _ (le_max_right i n) j ⟨ph, heq.trans hp, Phase.isFinal_of_due hd⟩

/-- The schedule forgets no call, and comes to an end with all. -/
theorem Reachable.fairRun (h : Reachable s mayStop t remote b) (hi : b.Inside) :
    FairRun s mayStop fun n => (proceed s)^[n] b := by
  generalize hf : (fun n => (proceed s)^[n] b) = f
  have hsucc (i : Nat) : f (i + 1) = (f i).proceed s := by
    rw [← hf]
    exact Function.iterate_succ_apply' _ i b
  have hzero : f 0 = b := hf ▸ rfl
  have hrun : Run s mayStop f := fun i => hsucc i ▸ step_proceed (f i)
  have h0 : Reachable s mayStop t remote (f 0) := hzero ▸ h
  have hreq (i j : Nat) : (f i).request? j = b.request? j := by
    induction i with
    | zero => rw [hzero]
    | succ i ih => rw [hsucc, (hrun.visited h0 i).proceed_request? j, ih]
  have hinside (i : Nat) : (f i).Inside := fun j r hr => hi j r (hreq i j ▸ hr)
  obtain ⟨n, hn⟩ := hrun.all_stay h0 b.calls.length fun j hj => by
    rw [hzero]
    exact ⟨b.calls[j].phase, by simp [phase?, hj]⟩
  have hend (k : Nat) (hk : k ≥ n) (j : Nat) : ¬ (f k).Unfinished j := by
    intro hu
    obtain ⟨id, ph, ph', hp, hp', hne⟩ := (hrun.visited h0 k).proceed_phase (hinside k) hu
    obtain ⟨r, hr, -⟩ := (hrun.visited h0 k).suits id (.park ph) (spot_resting hp)
    obtain ⟨ph₀, hs⟩ := hn id (request?_lt (hreq k id ▸ hr))
    rw [← hsucc, hs (k + 1) (by omega)] at hp'
    rw [hs k hk] at hp
    exact hne (Option.some.inj (hp'.symm.trans hp))
  exact hrun.fair_of_ended hinside hend

theorem Reachable.unblocked (h : Reachable s mayStop t remote b) (hi : b.Inside) :
    b.Unblocked s mayStop where
  held g j := h.visited.held
  ordered j := h.visited.ordered
  ready j := h.visited.canGoOn_iff
  timer hn j := h.visited.timer hi hn
  fair := ⟨_, rfl, h.fairRun hi⟩
  ends f h0 hf j hu := by
    subst h0
    obtain ⟨ph, hp, -⟩ := hu
    exact hf.ends h hp

end

/-- An endpoint that answers no handshake. -/
def muteSetup : Setup Nat Unit :=
  ⟨{ countingEndpoint with connect := fun _ _ n => (n, .later none) }, 30000, 5000⟩

/-- An invocation waits for a handshake, another one for its turn, and the host for the session. -/
def piledUp : Bridge Nat Unit :=
  let b := (Bridge.new localTarget 0).submit muteSetup (.session (.setCredential (.token ⟨"k"⟩)))
  let b := (b.submit muteSetup (.invoke singleStage)).submit muteSetup (.invoke singleStage)
  b.submit muteSetup (.session .isOpen)

theorem reachable_piledUp : Reachable muteSetup (fun _ _ => True) localTarget 0 piledUp := by
  unfold piledUp
  dsimp only
  exact .step (.step (.step (.step .new (.submit _)) (.submit _)) (.submit _)) (.submit _)

theorem unblocked_piledUp :
    piledUp.turn = ⟨some 1, [2]⟩ ∧ piledUp.access = ⟨some 1, [3]⟩ ∧ piledUp.Inside ∧
      piledUp.Unblocked muteSetup fun _ _ => True := by
  have hall : piledUp.calls.all (fun c => !c.request.isDirect) = true := by decide +kernel
  have hi : piledUp.Inside := by
    intro j r hj
    obtain ⟨c, hc, rfl⟩ := Option.map_eq_some_iff.mp hj
    simpa using List.all_eq_true.mp hall c (List.mem_of_getElem? hc)
  exact ⟨by decide +kernel, by decide +kernel, hi, reachable_piledUp.unblocked hi⟩

end Bridge

end CommandBridge
