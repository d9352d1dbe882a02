import CommandBridge.Decimal.Binary64
import Mathlib.Tactic.Ring

/-! Quotients of numbers within a bound are finite: rounding and dividing keep a bound on the
exponent. -/
namespace CommandBridge.Decimal.Binary64

/-- `n / d` is at most the greatest number with the exponent `e`. -/
def Within (e : Nat) (n d : Nat) : Prop := n ≤ (2 ^ 53 - 1) * (d * 2 ^ (e - 1075))

theorem divRound_le {n d k : Nat} (h : n ≤ k * d) : divRound n d ≤ k := by
  rcases Nat.eq_zero_or_pos d with rfl | hd
  · simp only [Nat.mul_zero, Nat.le_zero] at h
    simp [divRound, h]
  · have hdiv : n / d ≤ k := Nat.div_le_of_le_mul (by rwa [Nat.mul_comm])
    have hmod := Nat.div_add_mod n d
    rw [divRound]
    rcases Nat.lt_or_eq_of_le hdiv with hlt | heq
    · grind
    · have hr : n % d = 0 := by
        rw [heq, Nat.mul_comm] at hmod
        omega
      rw [hr, if_pos (by simp [hd])]
      exact hdiv

theorem exponent_ofParts_le {negative : Bool} {m e : Nat} {q : Int} (he : e < 2047)
    (hq : q + 1075 ≤ e) : (ofParts negative m q).exponent.val ≤ e := by
  have hle : (if m < Nat.pow 2 52 then 0 else (q + 1075).toNat) ≤ e := by split <;> omega
  rw [ofParts, dif_pos (Nat.lt_of_le_of_lt hle he)]
  exact hle

/-- The exponent of `n / d` by its binary logarithms. -/
theorem log2_lt_of_within {e n d : Nat} (hn : n ≠ 0) (h : Within e n d) :
    n.log2 < 53 + (e - 1075) + (d.log2 + 1) := by
  have hden : d < 2 ^ (d.log2 + 1) := Nat.lt_log2_self
  refine (Nat.pow_lt_pow_iff_right (show 1 < 2 by decide)).mp ?_
  calc 2 ^ n.log2 ≤ n := Nat.log2_self_le hn
    _ ≤ (2 ^ 53 - 1) * (d * 2 ^ (e - 1075)) := h
    _ < 2 ^ 53 * (2 ^ (d.log2 + 1) * 2 ^ (e - 1075)) :=
      Nat.mul_lt_mul_of_lt_of_le (by decide) (Nat.mul_le_mul_right _ (Nat.le_of_lt hden))
        (Nat.mul_pos (Nat.pow_pos (by decide)) (Nat.pow_pos (by decide)))
    _ = 2 ^ (53 + (e - 1075) + (d.log2 + 1)) := by rw [Nat.pow_add, Nat.pow_add]; ring

theorem exponent_ofRatio_le {negative : Bool} {e n d : Nat} (hlow : 1075 ≤ e) (hhigh : e < 2047)
    (h : Within e n d) : (ofRatio negative n d).exponent.val ≤ e := by
  by_cases hn : n = 0
  · subst hn
    exact Nat.zero_le e
  have hlog := log2_lt_of_within hn h
  -- at the greatest scale the bound itself says how large the quotient is
  have hscaled : ∀ q : Int, q = (e - 1075 : Nat) →
      n * Nat.pow 2 (-q).toNat = n ∧ d * Nat.pow 2 q.toNat = d * 2 ^ (e - 1075) := by
    rintro q rfl
    rw [Int.toNat_neg_natCast, Int.toNat_natCast]
    exact ⟨Nat.mul_one n, rfl⟩
  rw [ofRatio, if_neg hn]
  extract_lets low scaled q m
  have hlowest : low ≤ (e - 1075 : Nat) := by omega
  have hq : q ≤ (e - 1075 : Nat) := by
    by_cases htest : (scaled low).1 / (scaled low).2 < Nat.pow 2 53
    · rwa [show q = low from if_pos htest]
    · have hne : low ≠ (e - 1075 : Nat) := by
        intro heq
        apply htest
        obtain ⟨hnum, hden⟩ := hscaled low heq
        show n * Nat.pow 2 (-low).toNat / (d * Nat.pow 2 low.toNat) < 2 ^ 53
        rw [hnum, hden]
        refine Nat.lt_of_le_of_lt (Nat.div_le_of_le_mul ?_) (show 2 ^ 53 - 1 < 2 ^ 53 by decide)
        rwa [Nat.mul_comm]
      rw [show q = low + 1 from if_neg htest]
      omega
  by_cases hm : m < Nat.pow 2 53
  · rw [if_pos hm]
    exact exponent_ofParts_le hhigh (by omega)
  · have hne : q ≠ (e - 1075 : Nat) := by
      intro heq
      apply hm
      obtain ⟨hnum, hden⟩ := hscaled q heq
      show divRound (n * Nat.pow 2 (-q).toNat) (d * Nat.pow 2 q.toNat) < 2 ^ 53
      rw [hnum, hden]
      exact Nat.lt_of_le_of_lt (divRound_le h) (by decide)
    rw [if_neg hm]
    exact exponent_ofParts_le hhigh (by omega)

theorem isFinite_of_exponent_le {x : Binary64} {e : Nat} (he : e < 2047)
    (h : x.exponent.val ≤ e) : x.isFinite = true := by
  refine decide_eq_true fun heq => ?_
  rw [heq] at h
  exact absurd h (Nat.not_le.mpr he)

theorem significand_le (x : Binary64) : x.significand ≤ 2 ^ 53 - 1 := by
  have hfraction : x.fraction.val < 2 ^ 52 := x.fraction.isLt
  rw [significand]
  split <;> simp only [Nat.pow_eq] <;> omega

theorem within_ratio {x : Binary64} {e : Nat} (he : 1075 ≤ e) (h : x.exponent.val ≤ e) :
    Within e x.ratio.1 x.ratio.2 := by
  have hscale : x.scale ≤ (e - 1075 : Nat) := by
    rw [scale]
    omega
  calc x.significand * Nat.pow 2 x.scale.toNat
      ≤ (2 ^ 53 - 1) * 2 ^ (e - 1075) :=
        Nat.mul_le_mul x.significand_le (Nat.pow_le_pow_right (by decide) (by omega))
    _ ≤ (2 ^ 53 - 1) * (Nat.pow 2 (-x.scale).toNat * 2 ^ (e - 1075)) :=
        Nat.mul_le_mul_left _ (Nat.le_mul_of_pos_left _ (Nat.pow_pos (by decide)))

/-- Dividing by a number from one on. -/
theorem exponent_divMagnitude_le {x y : Binary64} {e : Nat} (hlow : 1075 ≤ e) (hhigh : e < 2047)
    (hx : x.exponent.val ≤ e) (hy : y.ratio.2 ≤ y.ratio.1) :
    (x.divMagnitude y).exponent.val ≤ e := by
  rw [divMagnitude]
  split
  · refine exponent_ofRatio_le hlow hhigh ?_
    calc x.ratio.1 * y.ratio.2
        ≤ (2 ^ 53 - 1) * (x.ratio.2 * 2 ^ (e - 1075)) * y.ratio.1 :=
          Nat.mul_le_mul (within_ratio hlow hx) hy
      _ = (2 ^ 53 - 1) * (x.ratio.2 * y.ratio.1 * 2 ^ (e - 1075)) := by ring
  · exact hx

theorem exponent_ofNat_le {n : Nat} (h : n < 2 ^ 64) : (ofNat n).exponent.val ≤ 1087 := by
  refine exponent_ofRatio_le (by decide) (by decide) ?_
  rw [Within]
  omega

theorem isFinite_ofNat {n : Nat} (h : n < 2 ^ 64) : (ofNat n).isFinite = true :=
  isFinite_of_exponent_le (by decide) (exponent_ofNat_le h)

theorem le_divRound (n d : Nat) : n / d ≤ divRound n d := by
  rw [divRound]
  grind

theorem le_exponent_ofParts {negative : Bool} {m e : Nat} {q : Int} (he : e ≤ 2047)
    (hm : 2 ^ 52 ≤ m) (hq : e ≤ q + 1075) : e ≤ (ofParts negative m q).exponent.val := by
  have hle : e ≤ if m < Nat.pow 2 52 then 0 else (q + 1075).toNat := by
    have hm : ¬m < Nat.pow 2 52 := Nat.not_lt.mpr hm
    rw [if_neg hm]
    omega
  by_cases hfinite : (if m < Nat.pow 2 52 then 0 else (q + 1075).toNat) < 2047
  · rw [ofParts, dif_pos hfinite]
    exact hle
  · rw [ofParts, dif_neg hfinite]
    exact he

/-- A whole number is at least one unless it is zero. -/
theorem le_exponent_ofNat {n : Nat} (hn : n ≠ 0) : 1023 ≤ (ofNat n).exponent.val := by
  have hlog : 2 ^ n.log2 ≤ n := Nat.log2_self_le hn
  -- the quotient at the scale `n.log2 - 53 + k`
  have hquotient : ∀ q k : Int, q = n.log2 - 53 + k → 0 ≤ k → k ≤ 1 →
      2 ^ (53 - k).toNat ≤ n * Nat.pow 2 (-q).toNat / (1 * Nat.pow 2 q.toNat) := by
    intro q k hq hk hk'
    refine (Nat.le_div_iff_mul_le (by rw [Nat.one_mul]; exact Nat.pow_pos (by decide))).mpr ?_
    calc 2 ^ (53 - k).toNat * (1 * 2 ^ q.toNat) = 2 ^ n.log2 * 2 ^ (-q).toNat := by
          rw [Nat.one_mul, ← Nat.pow_add, ← Nat.pow_add]
          congr 1
          omega
      _ ≤ n * 2 ^ (-q).toNat := Nat.mul_le_mul_right _ hlog
  rw [ofNat, ofRatio, if_neg hn]
  extract_lets low scaled q m
  have hlow : low = n.log2 - 53 := by
    show max ((n.log2 : Int) - (Nat.log2 1 : Nat) - 53) (-1074) = _
    rw [show Nat.log2 1 = 0 from rfl]
    omega
  have hq : q = low + 1 :=
    if_neg (Nat.not_lt.mpr (hquotient low 0 (by omega) (by decide) (by decide)))
  have hm : 2 ^ 52 ≤ m :=
    Nat.le_trans (hquotient q 1 (by omega) (by decide) (by decide)) (le_divRound _ _)
  split
  · exact le_exponent_ofParts (by decide) hm (by omega)
  · exact le_exponent_ofParts (by decide) (Nat.le_refl _) (by omega)

/-- The bound of one in terms of the ratio. -/
theorem ratio_le_of_le_exponent {x : Binary64} (h : 1023 ≤ x.exponent.val) :
    x.ratio.2 ≤ x.ratio.1 := by
  have hne : x.exponent ≠ 0 := by
    rintro heq
    rw [heq] at h
    exact absurd h (by decide)
  rw [ratio, significand, if_neg hne]
  calc Nat.pow 2 (-x.scale).toNat ≤ Nat.pow 2 52 := Nat.pow_le_pow_right (by decide) (by
        rw [scale]
        omega)
    _ ≤ (Nat.pow 2 52 + x.fraction.val) * Nat.pow 2 x.scale.toNat :=
        Nat.le_trans (Nat.le_add_right _ _) (Nat.le_mul_of_pos_right _ (Nat.pow_pos (by decide)))

end CommandBridge.Decimal.Binary64
