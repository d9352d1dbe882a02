import CommandBridge.Proofs.Bridge.Waits

/-! The locks of a bridge are taken in one order, and whoever has one waits for nothing without an
end, so that calls are never stuck with each other. -/
namespace CommandBridge

variable {σ ρ : Type}

/-- The call goes past the bridge. -/
def Request.isDirect : Request → Bool
  | execute _ _ | close _ => true
  | _ => false

/-- Whatever the call waits for has a limit. -/
def Point.Timed : Point ρ → Prop
  | execute _ _ limit => limit ≠ none
  | closeOwn _ => False
  | park ph => ∀ timer, ph.timer? = some timer → timer.limit ≠ none
  | _ => True

theorem Timer.exists_due {timer : Timer} (h : timer.limit ≠ none) :
    ∃ due, timer.due? = some due := by
  obtain ⟨limit, hl⟩ := Option.ne_none_iff_exists'.mp h
  unfold due?
  cases timer.answer <;> simp [hl]

namespace Bridge

/-- All calls go through the bridge. -/
def Inside (b : Bridge σ ρ) : Prop := ∀ j r, b.request? j = some r → r.isDirect = false

def Unfinished (b : Bridge σ ρ) (j : Nat) : Prop := ∃ ph, b.phase? j = some ph ∧ ph.isFinal = false

/-- The lock that a call waits for. -/
def waitsFor? (b : Bridge σ ρ) (j : Nat) : Option Gate := (b.phase? j).bind Phase.gate?

/-- No other call has the lock that the call waits for. -/
def CanGoOn (b : Bridge σ ρ) (j : Nat) : Prop :=
  ∃ g, b.waitsFor? j = some g ∧ ∀ k, (b.locks g).holder = some k → k = j

section
variable {s : Setup σ ρ} {mayStop : Bridge σ ρ → Nat → Prop} {t : Target} {remote : σ}
variable {b b' : Bridge σ ρ} {m m' : Moment σ ρ} {j k : Nat} {g : Gate}
variable {p p' q : Point ρ} {r : Request} {ph : Phase ρ}

theorem Moves.timed (h : Moves s j b p b' p') (hp : p.Timed) : p'.Timed := by
  cases h with
  | executeLater => simpa [Point.Timed, Phase.timer?, Timer.start] using hp
  | closeOwn | closeOwnLater => exact hp.elim
  | _ => simp [Point.Timed, Phase.timer?, Timer.start]

theorem Starts.timed (h : Starts s b b' j p) (hr : b'.request? j = some r)
    (hi : r.isDirect = false) : p.Timed := by
  cases h with
  | execute | close =>
    cases (request?_addCall _ _).symm.trans hr
    simp [Request.isDirect] at hi
  | _ => simp [Point.Timed, Phase.timer?]

theorem Goes.timed (h : Goes s m m' j p p') (hr : m'.1.request? j = some r)
    (hi : r.isDirect = false) (hp : p.Timed) : p'.Timed := by
  cases h with
  | stays => exact hp
  | starts _ h => exact h.timed hr hi
  | moves _ h => exact h.timed hp
  | stops => simp [Point.Timed, Phase.timer?]

theorem Later.timed (hl : Later s mayStop (Bridge.new t remote, none) m)
    (hr : m.1.request? j = some r) (hi : r.isDirect = false) (hq : m.1.spot m.2 j = some q) :
    q.Timed := by
  induction hl generalizing q with
  | refl => simp [spot, phase?, Bridge.new] at hq
  | @tail m₁ m₂ hl hn ih =>
    have hv : Visited s mayStop t remote m₁.1 m₁.2 := Later.visited hl .new
    rcases hn.spot_cases hv hq with ⟨q₀, hq₀, hg⟩ | ⟨-, -, hs⟩
    · obtain ⟨r₀, hr₀, -⟩ := hv.suits j q₀ hq₀
      obtain rfl := Option.some.inj ((hn.request? hr₀).symm.trans hr)
      exact hg.timed hr hi (ih hr₀ hq₀)
    · exact hs.timed hr hi

/-- Every wait for the endpoint comes to an end. -/
theorem Visited.exists_due {timer : Timer} (h : Visited s mayStop t remote b none) (hi : b.Inside)
    (hp : b.phase? j = some ph) (ht : ph.timer? = some timer) :
    ∃ due, (b.phase? j).bind Phase.due? = some due := by
  obtain ⟨r, hr, -⟩ := h.suits j (.park ph) (spot_resting hp)
  have htimed := Later.timed h.later hr (hi j r hr) (spot_resting hp)
  obtain ⟨due, hd⟩ := Timer.exists_due (htimed timer ht)
  exact ⟨due, by simp [hp, Phase.due?_eq, ht, hd]⟩

theorem Visited.held (h : Visited s mayStop t remote b none) (hl : (b.locks g).holder = some j) :
    b.Unfinished j := by
  have hne : b.stances none j g ≠ .out := (Locks.orderly h.inOrder g).holder j hl
  cases hp : b.phase? j with
  | none => cases g <;> simp [stances, spot, hp] at hne
  | some ph =>
    obtain ⟨r, -, hst⟩ := h.stance_of_phase hp
    rw [hst] at hne
    refine ⟨ph, hp, ?_⟩
    cases ph with
    | ended | cancelled => cases g <;> exact absurd rfl hne
    | _ => rfl

/-- A call that has the session has had its turn, if it takes turns at all. -/
theorem Visited.ordered (h : Visited s mayStop t remote b none)
    (hl : b.access.holder = some j) : b.waitsFor? j ≠ some .turn := by
  intro hw
  obtain ⟨ph, hp, hg⟩ := Option.bind_eq_some_iff.mp hw
  have hout : b.stances none j .access ≠ .out := (Locks.orderly h.inOrder .access).holder j hl
  obtain ⟨r, -, hst⟩ := h.stance_of_phase hp
  rw [hst] at hout
  cases ph with
  | queued => exact hout rfl
  | _ => simp [Phase.gate?] at hg

theorem waitsFor?_of_gate (hp : b.phase? j = some ph) (hg : ph.gate? = some g) :
    b.waitsFor? j = some g := by simp [waitsFor?, hp, hg]

theorem canGoOn_of_holder (hw : b.waitsFor? j = some g) (hl : (b.locks g).holder = some j) :
    b.CanGoOn j :=
  ⟨g, hw, fun _ hk => Option.some.inj (hk.symm.trans hl)⟩

theorem Visited.canGoOn_iff (h : Visited s mayStop t remote b none) :
    b.CanGoOn j ↔ j ∈ b.ready := by
  constructor
  · rintro ⟨g, hw, hk⟩
    obtain ⟨ph, hp, hg⟩ := Option.bind_eq_some_iff.mp hw
    have hwait := h.stances_of_gate (spot_resting hp) hg
    have ho := Locks.orderly h.inOrder g
    have hl := ho.holder_of_ahead hwait
    rw [hk _ hl] at hl
    exact Locks.ready h.inOrder j g hwait hl
  · intro hm
    obtain ⟨g, hwait, hl⟩ := Locks.passed h.inOrder j hm
    obtain ⟨ph, hp, -⟩ := h.held hl
    obtain ⟨r, -, hst⟩ := h.stance_of_phase hp
    rw [hst] at hwait
    exact canGoOn_of_holder (waitsFor?_of_gate hp (Phase.stance_eq_waits.mp hwait)) hl

/-- A call that has a lock, and cannot go on, waits for the other lock or for the endpoint. -/
theorem Visited.waits_of_holder (h : Visited s mayStop t remote b none) (hi : b.Inside)
    (hl : (b.locks g).holder = some k) (hn : ¬ b.CanGoOn k) :
    (∃ due, (b.phase? k).bind Phase.due? = some due) ∨ ∃ g', b.waitsFor? k = some g' ∧ g' ≠ g := by
  obtain ⟨ph, hp, hf⟩ := h.held hl
  rcases Phase.gate_or_timer hf with ⟨g', hg⟩ | ⟨timer, ht⟩
  · have hw := waitsFor?_of_gate hp hg
    refine .inr ⟨g', hw, ?_⟩
    rintro rfl
    exact hn (canGoOn_of_holder hw hl)
  · exact .inl (h.exists_due hi hp ht)

/-- From any call that has not ended one comes to a timer, by way of the locks. -/
theorem Visited.timer (h : Visited s mayStop t remote b none) (hi : b.Inside)
    (hn : ∀ j, ¬ b.CanGoOn j) (hu : b.Unfinished j) :
    ∃ k due, (b.phase? k).bind Phase.due? = some due := by
  have other {g : Gate} {j : Nat} (hw : b.waitsFor? j = some g) :
      ∃ k, (b.locks g).holder = some k := by
    by_contra hnone
    exact hn j ⟨g, hw, fun k hk => absurd ⟨k, hk⟩ hnone⟩
  have access {j : Nat} (hw : b.waitsFor? j = some .access) :
      ∃ k due, (b.phase? k).bind Phase.due? = some due := by
    obtain ⟨k, hk⟩ := other hw
    rcases h.waits_of_holder hi hk (hn k) with ⟨due, hd⟩ | ⟨g', hg, hne⟩
    · exact ⟨k, due, hd⟩
    · cases g' with
      | turn => exact absurd hg (h.ordered hk)
      | access => exact absurd rfl hne
  obtain ⟨ph, hp, hf⟩ := hu
  rcases Phase.gate_or_timer hf with ⟨g, hg⟩ | ⟨timer, ht⟩
  · have hw := waitsFor?_of_gate hp hg
    cases g with
    | access => exact access hw
    | turn =>
      obtain ⟨k, hk⟩ := other hw
      rcases h.waits_of_holder hi hk (hn k) with ⟨due, hd⟩ | ⟨g', hg, hne⟩
      · exact ⟨k, due, hd⟩
      · cases g' with
        | turn => exact absurd rfl hne
        | access => exact access hg
  · obtain ⟨due, hd⟩ := h.exists_due hi hp ht
    exact ⟨j, due, hd⟩

end

end Bridge

end CommandBridge
