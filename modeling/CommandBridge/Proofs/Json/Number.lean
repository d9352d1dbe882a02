import CommandBridge.Json.Printer
import CommandBridge.Json.Reader
import CommandBridge.Proofs.Decimal.Finite
import CommandBridge.Proofs.Decimal.Integer

/-! Numbers in JSON text: what the reader makes of digits, that a number which is read is in range,
and that nothing behind a number changes it. -/
namespace CommandBridge.Json

open Decimal

/-- A value that holds no others; a number is as the reader gives it. -/
def InRange : Json → Prop
  | int i => -(2 ^ 63) ≤ i ∧ i < 2 ^ 64
  | float x => x.isFinite = true
  | array _ => False
  | object _ => False
  | _ => True

theorem le_ofDigitChars (ds : List Char) (n : Nat) : n ≤ Nat.ofDigitChars 10 ds n := by
  induction ds generalizing n with
  | nil => exact Nat.le_refl n
  | cons c ds ih => exact Nat.le_trans (by omega) (ih (10 * n + (c.toNat - '0'.toNat)))

theorem takeDigits_of_lt (limit : Nat) {n : Nat} {ds : List Char}
    (hds : ∀ c ∈ ds, c.isDigit = true) (h : Nat.ofDigitChars 10 ds n < limit) :
    takeDigits limit n ds = (Nat.ofDigitChars 10 ds n, ds.length, []) := by
  induction ds generalizing n with
  | nil => rfl
  | cons c ds ih =>
    have hstep : n * 10 + (c.toNat - '0'.toNat) = 10 * n + (c.toNat - '0'.toNat) := by
      rw [Nat.mul_comm]
    have hlt : 10 * n + (c.toNat - '0'.toNat) < limit :=
      Nat.lt_of_le_of_lt (le_ofDigitChars ds _) h
    rw [takeDigits, hstep,
      if_pos (by rw [hds c List.mem_cons_self, decide_eq_true hlt, Bool.and_self]),
      ih (fun c hc => hds c (List.mem_cons_of_mem _ hc)) h]
    rfl

/-- Only zero starts with the digit zero. -/
theorem eq_zero_of_digits {n : Nat} {s : List Char} (h : digits n = '0' :: s) : n = 0 := by
  induction n using Nat.strongRecOn generalizing s with
  | ind n ih =>
    rw [digits] at h
    by_cases hn : n < 10
    · rw [Nat.toDigits_of_lt_base hn, List.cons.injEq] at h
      have hzero : ∀ n < 10, Nat.digitChar n = '0' → n = 0 := by decide
      exact hzero n hn h.1
    · rw [Nat.toDigits_of_base_le (by decide) (by omega)] at h
      cases hd : Nat.toDigits 10 (n / 10) with
      | nil => exact absurd hd Nat.toDigits_ne_nil
      | cons c ds =>
        rw [hd, List.cons_append, List.cons.injEq] at h
        have : n / 10 = 0 := ih (n / 10) (by omega) (s := ds) (by rw [digits, hd, h.1])
        omega

theorem number_digits {n : Nat} (negative : Bool) (hn : n < Nat.pow 2 64) :
    number negative (digits n) = afterInteger negative n [] := by
  by_cases hzero : n = 0
  · rw [hzero]
    rfl
  have hvalue : Nat.ofDigitChars 10 (digits n) 0 = n := Nat.ofDigitChars_ten_toDigits
  have htake := takeDigits_of_lt (Nat.pow 2 64) (n := 0)
    (fun _ hc => isDigit_of_mem_digits hc) (hvalue.symm ▸ hn)
  cases hds : digits n with
  | nil => exact absurd hds (digits_ne_nil n)
  | cons c ds =>
    have hc : c.isDigit = true := isDigit_of_mem_digits (hds ▸ List.mem_cons_self)
    have hne : c ≠ '0' := fun h => hzero (eq_zero_of_digits (h ▸ hds))
    rw [hvalue, hds] at htake
    rw [number.eq_3 _ _ _ hne]
    simp only [htake, hc, startsWithDigit, Bool.not_true, Bool.false_eq_true, if_false]

theorem scalar_of_isDigit {c : Char} (h : c.isDigit = true) (s : List Char) :
    scalar (c :: s) = number false (c :: s) := by
  rw [scalar.eq_6, if_pos h] <;> rintro rfl <;> exact absurd h (by decide)

theorem scalar_intDigits {i : Int} (hi : (int i).InRange) :
    scalar (intDigits i) = .ok (.int i, []) := by
  obtain ⟨hlow, hhigh⟩ := hi
  have hbound : i.natAbs < Nat.pow 2 64 := by
    rw [Nat.pow_eq]
    omega
  rw [intDigits]
  split
  · rename_i hneg
    have hsmall : ¬((i.natAbs = 0 || Nat.pow 2 63 < i.natAbs) = true) := by
      rw [Bool.or_eq_true, decide_eq_true_eq, decide_eq_true_eq, Nat.pow_eq]
      omega
    have habs : -(i.natAbs : Int) = i := by omega
    rw [scalar, number_digits true hbound, afterInteger, if_neg (by decide), if_neg hsmall, habs]
    all_goals exact fun _ h => List.cons_ne_nil _ _ h.symm
  · rename_i hpos
    have habs : (i.natAbs : Int) = i := by omega
    cases hds : digits i.natAbs with
    | nil => exact absurd hds (digits_ne_nil _)
    | cons c ds =>
      have hc : c.isDigit = true := isDigit_of_mem_digits (hds ▸ List.mem_cons_self)
      rw [scalar_of_isDigit hc, ← hds, number_digits false hbound, afterInteger,
        if_pos (by decide), habs]
      all_goals exact fun _ h => List.cons_ne_nil _ _ h.symm

theorem ratio_powerOfTen_le (k : Nat) : (powerOfTen k).ratio.2 ≤ (powerOfTen k).ratio.1 :=
  Binary64.ratio_le_of_le_exponent
    (Binary64.le_exponent_ofNat (Nat.ne_of_gt (Nat.pow_pos (by decide))))

theorem exponent_shrink_le {x : Binary64} {e : Nat} (hlow : 1075 ≤ e) (hhigh : e < 2047)
    (h : x.exponent.val ≤ e) (k : Nat) : (shrink x k).exponent.val ≤ e := by
  fun_induction shrink x k with
  | case1 x k hk => exact Binary64.exponent_divMagnitude_le hlow hhigh h (ratio_powerOfTen_le k)
  | case2 x k hk hzero => exact h
  | case3 x k hk hzero ih =>
    exact ih (Binary64.exponent_divMagnitude_le hlow hhigh h (ratio_powerOfTen_le 308))

theorem isFinite_of_scaled? {negative : Bool} {significand : Nat} {power : Int} {x : Binary64}
    (hs : significand < 2 ^ 64) (h : scaled? negative significand power = some x) :
    x.isFinite = true := by
  have hbound : { Binary64.ofNat significand with negative := negative : Binary64 }.exponent.val ≤
      1087 := Binary64.exponent_ofNat_le hs
  rw [scaled?] at h
  extract_lets y at h
  split at h
  · rw [← Option.some.inj h]
    exact Binary64.isFinite_of_exponent_le (by decide)
      (exponent_shrink_le (by decide) (by decide) hbound power.natAbs)
  · split at h
    · obtain ⟨hfinite, heq⟩ := Option.ite_none_right_eq_some.mp h
      rwa [← Option.some.inj heq]
    · obtain ⟨-, heq⟩ := Option.ite_none_right_eq_some.mp h
      rw [← Option.some.inj heq]
      exact Binary64.isFinite_of_exponent_le (by decide) hbound

/-- What does not go on a number that ends before it. -/
def Ended (rest : List Char) : Prop :=
  ∀ c s, rest = c :: s → c.isDigit = false ∧ c ≠ '.' ∧ c ≠ 'e' ∧ c ≠ 'E'

theorem Ended.nil : Ended [] := by
  rintro c s ⟨⟩

theorem Ended.cons {c : Char} {s : List Char}
    (h : c.isDigit = false ∧ c ≠ '.' ∧ c ≠ 'e' ∧ c ≠ 'E') : Ended (c :: s) := by
  rintro _ _ ⟨⟩
  exact h

theorem Ended.startsWithDigit {rest : List Char} (h : Ended rest) :
    startsWithDigit rest = false := by
  cases rest with
  | nil => rfl
  | cons c s => exact (h c s rfl).1

theorem Ended.ne_point {rest : List Char} (h : Ended rest) (t : List Char) : rest ≠ '.' :: t :=
  fun e => absurd rfl (h _ _ e).2.1

theorem Ended.ne_lower {rest : List Char} (h : Ended rest) (t : List Char) : rest ≠ 'e' :: t :=
  fun e => absurd rfl (h _ _ e).2.2.1

theorem Ended.ne_upper {rest : List Char} (h : Ended rest) (t : List Char) : rest ≠ 'E' :: t :=
  fun e => absurd rfl (h _ _ e).2.2.2

theorem append_ne_cons_of_ne_nil {c : Char} {s rest : List Char} (hs : s ≠ [])
    (h : ∀ t, s ≠ c :: t) (t : List Char) : s ++ rest ≠ c :: t := by
  cases s with
  | nil => exact absurd rfl hs
  | cons a s =>
    intro e
    exact h s (congrArg (· :: s) (List.cons.inj e).1)

theorem append_ne_cons {c : Char} {s rest : List Char} (h : ∀ t, s ≠ c :: t)
    (hrest : ∀ t, rest ≠ c :: t) (t : List Char) : s ++ rest ≠ c :: t := by
  cases s with
  | nil => exact hrest t
  | cons a s => exact append_ne_cons_of_ne_nil (List.cons_ne_nil a s) h t

theorem takeDigits_append {rest : List Char} (hrest : startsWithDigit rest = false)
    (limit n : Nat) (s : List Char) :
    takeDigits limit n (s ++ rest) =
      ((takeDigits limit n s).1, (takeDigits limit n s).2.1,
        (takeDigits limit n s).2.2 ++ rest) := by
  fun_induction takeDigits limit n s with
  | case1 n =>
    cases rest with
    | nil => rfl
    | cons c s =>
      have hc : c.isDigit = false := hrest
      simp [takeDigits, hc]
  | case2 n c s hc m k t hrec ih =>
    rw [List.cons_append, takeDigits, if_pos hc, ih, hrec]
  | case3 n c s hc => rw [List.cons_append, takeDigits, if_neg hc]

theorem takeDigits_lt {limit n : Nat} (h : n < limit) (s : List Char) :
    (takeDigits limit n s).1 < limit := by
  fun_induction takeDigits limit n s with
  | case1 n => exact h
  | case2 n c s hc m k t hrec ih =>
    rw [hrec] at ih
    exact ih (of_decide_eq_true (Bool.and_eq_true_iff.mp hc).2)
  | case3 n c s hc => exact h

theorem takeDigits_suffix (limit n : Nat) (s : List Char) : (takeDigits limit n s).2.2 <:+ s := by
  fun_induction takeDigits limit n s with
  | case1 n => exact List.suffix_rfl
  | case2 n c s hc m k t hrec ih => exact (hrec ▸ ih).trans (List.suffix_cons c s)
  | case3 n c s hc => exact List.suffix_rfl

theorem dropWhile_isDigit_append {rest : List Char} (hrest : startsWithDigit rest = false)
    (s : List Char) :
    (s ++ rest).dropWhile Char.isDigit = s.dropWhile Char.isDigit ++ rest := by
  rw [List.dropWhile_append]
  split
  · rename_i hs
    rw [List.isEmpty_iff.mp hs, List.nil_append]
    cases rest with
    | nil => rfl
    | cons c s => exact List.dropWhile_cons_of_neg (by simpa [startsWithDigit] using hrest)
  · rfl

theorem takeWhile_isDigit_append {rest : List Char} (hrest : startsWithDigit rest = false)
    (s : List Char) :
    (s ++ rest).takeWhile Char.isDigit = s.takeWhile Char.isDigit := by
  rw [List.takeWhile_append]
  split
  · rename_i hs
    have hnone : rest.takeWhile Char.isDigit = [] := by
      cases rest with
      | nil => rfl
      | cons c s => exact List.takeWhile_cons_of_neg (by simpa [startsWithDigit] using hrest)
    rw [hnone, List.append_nil, (List.takeWhile_prefix _).eq_of_length hs]
  · rfl

/-- What `read` reads off a text it also reads when something follows that does not go on a number;
what it leaves is the end of the text. -/
def Contained (read : Reader Json) : Prop :=
  ∀ ⦃s : List Char⦄ ⦃j : Json⦄ ⦃r : List Char⦄, read s = .ok (j, r) →
    j.InRange ∧ r <:+ s ∧ ∀ rest, Ended rest → read (s ++ rest) = .ok (j, r ++ rest)

theorem contained_scaledNumber (negative : Bool) {significand : Nat} (power : Int)
    (hs : significand < 2 ^ 64) : Contained (scaledNumber negative significand power) := by
  intro s j r h
  rw [scaledNumber] at h
  split at h
  · rename_i x hx
    obtain ⟨rfl, rfl⟩ := Prod.mk.inj (Except.ok.inj h)
    exact ⟨isFinite_of_scaled? hs hx, List.suffix_rfl, fun rest _ => by rw [scaledNumber, hx]⟩
  · exact absurd h (by simp)

theorem startsWithDigit_append {rest : List Char} (hrest : Ended rest) (s : List Char) :
    startsWithDigit (s ++ rest) = startsWithDigit s := by
  cases s with
  | nil => exact hrest.startsWithDigit
  | cons c s => rfl

theorem contained_ok {j : Json} (hj : j.InRange) : Contained fun s => .ok (j, s) := by
  rintro s _ r ⟨⟩
  exact ⟨hj, List.suffix_rfl, fun _ _ => rfl⟩

theorem contained_error (e : Fault) : Contained fun _ => .error e := by
  rintro s j r ⟨⟩

theorem Contained.ite {p : Prop} [Decidable p] {f g : Reader Json} (hf : Contained f)
    (hg : Contained g) : Contained fun s => if p then f s else g s := by
  by_cases hp : p
  · simpa only [hp, if_true] using hf
  · simpa only [hp, if_false] using hg

theorem Contained.dropDigits {f : Reader Json} (hf : Contained f) :
    Contained fun s => f (s.dropWhile Char.isDigit) := by
  intro s j r h
  obtain ⟨hrange, hsuffix, hread⟩ := hf h
  refine ⟨hrange, hsuffix.trans (List.dropWhile_suffix _), fun rest hrest => ?_⟩
  simp only [dropWhile_isDigit_append hrest.startsWithDigit, hread rest hrest]

theorem Contained.takeDigits (limit : Nat) {n : Nat} {f : Nat → Nat → Reader Json}
    (hn : n < limit) (hf : ∀ n k, n < limit → Contained (f n k)) :
    Contained fun s =>
      f (takeDigits limit n s).1 (takeDigits limit n s).2.1 (takeDigits limit n s).2.2 := by
  intro s j r h
  obtain ⟨hrange, hsuffix, hread⟩ := hf _ _ (takeDigits_lt hn s) h
  refine ⟨hrange, hsuffix.trans (takeDigits_suffix limit n s), fun rest hrest => ?_⟩
  simp only [takeDigits_append hrest.startsWithDigit, hread rest hrest]

theorem Contained.startsWithDigit {f g : Reader Json} (hf : Contained f) (hg : Contained g) :
    Contained fun s => if Json.startsWithDigit s then f s else g s := by
  intro s j r h
  have hsame : ∀ rest, Ended rest → Json.startsWithDigit (s ++ rest) = Json.startsWithDigit s :=
    fun rest hrest => startsWithDigit_append hrest s
  cases hs : Json.startsWithDigit s with
  | true =>
    obtain ⟨hrange, hsuffix, hread⟩ := hf (by simpa only [hs, if_true] using h)
    refine ⟨hrange, hsuffix, fun rest hrest => ?_⟩
    simp only [hsame rest hrest, hs, if_true, hread rest hrest]
  | false =>
    obtain ⟨hrange, hsuffix, hread⟩ := hg (by simpa only [hs, Bool.false_eq_true, if_false] using h)
    refine ⟨hrange, hsuffix, fun rest hrest => ?_⟩
    simp only [hsame rest hrest, hs, Bool.false_eq_true, if_false, hread rest hrest]

/-- At least one digit is wanted. -/
def digitsWanted (f : Reader Json) : Reader Json := fun s =>
  match s with
  | [] => .error .incomplete
  | c :: _ => if !c.isDigit then .error .malformed else f s

theorem Contained.digitsWanted {f : Reader Json} (hf : Contained f) :
    Contained (digitsWanted f) := by
  intro s j r h
  cases s with
  | nil => exact absurd h (by simp [Json.digitsWanted])
  | cons c s =>
    cases hc : c.isDigit with
    | false => exact absurd h (by simp [Json.digitsWanted, hc])
    | true =>
      obtain ⟨hrange, hsuffix, hread⟩ := hf (by simpa [Json.digitsWanted, hc] using h)
      exact ⟨hrange, hsuffix, fun rest hrest => by
        simpa [Json.digitsWanted, hc] using hread rest hrest⟩

/-- An exponent behind its digits, of which more may follow than were taken. -/
def exponentEnd (down negative : Bool) (significand : Nat) (power : Int) (e : Nat) : Reader Json :=
  fun s =>
    if startsWithDigit s then
      if significand = 0 || down then .ok (.float (.zero negative), s.dropWhile Char.isDigit)
      else .error .malformed
    else
      scaledNumber negative significand
        (if down then max (power - e) (-(int32Max + 1)) else min (power + e) int32Max) s

/-- An exponent behind its sign. -/
def exponentDigits (down negative : Bool) (significand : Nat) (power : Int) : Reader Json :=
  digitsWanted fun s =>
    exponentEnd down negative significand power (takeDigits (Nat.pow 2 31) 0 s).1
      (takeDigits (Nat.pow 2 31) 0 s).2.2

theorem exponentPart_eq (negative : Bool) (significand : Nat) (power : Int) (s : List Char) :
    exponentPart negative significand power s =
      match s with
      | '+' :: t => exponentDigits false negative significand power t
      | '-' :: t => exponentDigits true negative significand power t
      | _ => exponentDigits false negative significand power s := by
  split
  · rfl
  · rfl
  · rename_i hplus hminus
    rw [exponentPart.eq_def]
    split
    rename_i down s' heq
    split at heq
    · exact absurd rfl (hplus _)
    · exact absurd rfl (hminus _)
    · obtain ⟨rfl, rfl⟩ := Prod.mk.inj heq
      rfl

theorem contained_exponentEnd (down negative : Bool) {significand : Nat} (power : Int) (e : Nat)
    (hs : significand < 2 ^ 64) : Contained (exponentEnd down negative significand power e) :=
  have hzero : Contained fun s => .ok (.float (.zero negative), s) := contained_ok rfl
  (hzero.dropDigits.ite (contained_error _)).startsWithDigit (contained_scaledNumber negative _ hs)

theorem contained_exponentDigits (down negative : Bool) {significand : Nat} (power : Int)
    (hs : significand < 2 ^ 64) : Contained (exponentDigits down negative significand power) :=
  have hend := Contained.takeDigits (Nat.pow 2 31) (n := 0) (by decide)
    fun e _ _ => contained_exponentEnd down negative power e hs
  hend.digitsWanted

theorem contained_exponentPart (negative : Bool) {significand : Nat} (power : Int)
    (hs : significand < 2 ^ 64) : Contained (exponentPart negative significand power) := by
  intro s j r h
  rw [exponentPart_eq] at h
  split at h
  · obtain ⟨hrange, hsuffix, hread⟩ := contained_exponentDigits false negative power hs h
    refine ⟨hrange, hsuffix.trans (List.suffix_cons _ _), fun rest hrest => ?_⟩
    rw [List.cons_append, exponentPart_eq]
    exact hread rest hrest
  · obtain ⟨hrange, hsuffix, hread⟩ := contained_exponentDigits true negative power hs h
    refine ⟨hrange, hsuffix.trans (List.suffix_cons _ _), fun rest hrest => ?_⟩
    rw [List.cons_append, exponentPart_eq]
    exact hread rest hrest
  · rename_i hplus hminus
    obtain ⟨hrange, hsuffix, hread⟩ := contained_exponentDigits false negative power hs h
    refine ⟨hrange, hsuffix, fun rest hrest => ?_⟩
    have hne : s ≠ [] := by
      rintro rfl
      exact absurd h (by simp [exponentDigits, digitsWanted])
    rw [exponentPart_eq]
    split
    · exact absurd ‹_› (append_ne_cons_of_ne_nil hne hplus _)
    · exact absurd ‹_› (append_ne_cons_of_ne_nil hne hminus _)
    · exact hread rest hrest

theorem contained_afterDigits (negative : Bool) {significand : Nat} (power : Int)
    (hs : significand < 2 ^ 64) : Contained (afterDigits negative significand power) := by
  intro s j r h
  rw [afterDigits.eq_def] at h
  split at h
  · obtain ⟨hrange, hsuffix, hread⟩ := contained_exponentPart negative power hs h
    exact ⟨hrange, hsuffix.trans (List.suffix_cons _ _), hread⟩
  · obtain ⟨hrange, hsuffix, hread⟩ := contained_exponentPart negative power hs h
    exact ⟨hrange, hsuffix.trans (List.suffix_cons _ _), hread⟩
  · rename_i hlower hupper
    obtain ⟨hrange, hsuffix, hread⟩ := contained_scaledNumber negative power hs h
    refine ⟨hrange, hsuffix, fun rest hrest => ?_⟩
    rw [afterDigits.eq_3 _ _ _ _ (append_ne_cons hlower hrest.ne_lower)
      (append_ne_cons hupper hrest.ne_upper)]
    exact hread rest hrest

theorem contained_fractionPart (negative : Bool) {significand : Nat} (power : Int)
    (hs : significand < 2 ^ 64) : Contained (fractionPart negative significand power) :=
  have hend := Contained.takeDigits (Nat.pow 2 64) hs
    fun _ k hn => (contained_afterDigits negative (power - k) hn).dropDigits
  hend.digitsWanted

theorem contained_wholeNumber (negative : Bool) {n : Nat} (hn : n < 2 ^ 64) :
    Contained fun s =>
      if !negative then .ok (.int n, s)
      else if n = 0 || Nat.pow 2 63 < n then .ok (.float (Binary64.ofNat n).neg, s)
      else .ok (.int (-n), s) := by
  refine Contained.ite (contained_ok ⟨by omega, by omega⟩) ?_
  by_cases hbig : n = 0 || Nat.pow 2 63 < n
  · simp only [hbig, if_true]
    exact contained_ok (Binary64.isFinite_ofNat hn)
  · simp only [hbig, Bool.false_eq_true, if_false]
    rw [Bool.or_eq_true, decide_eq_true_eq, decide_eq_true_eq, Nat.pow_eq] at hbig
    exact contained_ok ⟨by omega, by omega⟩

theorem contained_afterInteger (negative : Bool) {n : Nat} (hn : n < 2 ^ 64) :
    Contained (afterInteger negative n) := by
  intro s j r h
  rw [afterInteger.eq_def] at h
  split at h
  · obtain ⟨hrange, hsuffix, hread⟩ := contained_fractionPart negative 0 hn h
    exact ⟨hrange, hsuffix.trans (List.suffix_cons _ _), hread⟩
  · obtain ⟨hrange, hsuffix, hread⟩ := contained_exponentPart negative 0 hn h
    exact ⟨hrange, hsuffix.trans (List.suffix_cons _ _), hread⟩
  · obtain ⟨hrange, hsuffix, hread⟩ := contained_exponentPart negative 0 hn h
    exact ⟨hrange, hsuffix.trans (List.suffix_cons _ _), hread⟩
  · rename_i hpoint hlower hupper
    obtain ⟨hrange, hsuffix, hread⟩ := contained_wholeNumber negative hn h
    refine ⟨hrange, hsuffix, fun rest hrest => ?_⟩
    rw [afterInteger.eq_4 _ _ _ (append_ne_cons hpoint hrest.ne_point)
      (append_ne_cons hlower hrest.ne_lower) (append_ne_cons hupper hrest.ne_upper)]
    exact hread rest hrest

theorem contained_afterLongInteger (negative : Bool) {n : Nat} (hn : n < 2 ^ 64) :
    Contained (afterLongInteger negative n) := by
  intro s j r h
  have hdrop : ∀ rest, Ended rest →
      (s ++ rest).dropWhile Char.isDigit = s.dropWhile Char.isDigit ++ rest :=
    fun rest hrest => dropWhile_isDigit_append hrest.startsWithDigit s
  have htake : ∀ rest, Ended rest →
      (s ++ rest).takeWhile Char.isDigit = s.takeWhile Char.isDigit :=
    fun rest hrest => takeWhile_isDigit_append hrest.startsWithDigit s
  have hs := List.dropWhile_suffix (l := s) Char.isDigit
  rw [afterLongInteger] at h
  split at h
  · rename_i t ht
    obtain ⟨hrange, hsuffix, hread⟩ := contained_fractionPart negative _ hn h
    rw [ht] at hs
    refine ⟨hrange, (hsuffix.trans (List.suffix_cons _ _)).trans hs, fun rest hrest => ?_⟩
    rw [afterLongInteger, hdrop rest hrest, htake rest hrest, ht]
    exact hread rest hrest
  · rename_i hpoint
    obtain ⟨hrange, hsuffix, hread⟩ := contained_afterDigits negative _ hn h
    refine ⟨hrange, hsuffix.trans hs, fun rest hrest => ?_⟩
    rw [afterLongInteger, hdrop rest hrest, htake rest hrest]
    split
    · exact absurd ‹_› (append_ne_cons hpoint hrest.ne_point _)
    · exact hread rest hrest

theorem contained_number (negative : Bool) : Contained (number negative) := by
  intro s j r h
  rw [number.eq_def] at h
  split at h
  · exact absurd h (by simp)
  · obtain ⟨hrange, hsuffix, hread⟩ :=
      ((contained_error _).startsWithDigit (contained_afterInteger negative (by decide))) h
    exact ⟨hrange, hsuffix.trans (List.suffix_cons _ _), hread⟩
  · rename_i c s hzero
    have hcontained := (Contained.takeDigits (Nat.pow 2 64) (n := 0) (by decide)
      fun _ _ hn => (contained_afterLongInteger negative hn).startsWithDigit
        (contained_afterInteger negative hn)).digitsWanted
    obtain ⟨hrange, hsuffix, hread⟩ := @hcontained (c :: s) j r h
    refine ⟨hrange, hsuffix, fun rest hrest => ?_⟩
    rw [List.cons_append, number.eq_3 _ _ _ hzero]
    exact hread rest hrest

/-- The characters that numbers are written with. -/
def isNumeral (c : Char) : Bool := c.isDigit || c == '-' || c == '+' || c == '.' || c == 'e'

theorem isSpace_of_isNumeral {c : Char} (h : isNumeral c = true) : isSpace c = false := by
  cases hs : isSpace c with
  | false => rfl
  | true =>
    simp only [isSpace, Bool.or_eq_true, beq_iff_eq] at hs
    rcases hs with ((rfl | rfl) | rfl) | rfl <;> exact absurd h (by decide)

/-- The text of a number without a sign. -/
structure Unsigned (s : List Char) : Prop where
  head : startsWithDigit s = true
  all : ∀ c ∈ s, isNumeral c = true

theorem unsigned_digits (n : Nat) : Unsigned (digits n) := by
  constructor
  · cases hds : digits n with
    | nil => exact absurd hds (digits_ne_nil n)
    | cons c t => exact isDigit_of_mem_digits (hds ▸ List.mem_cons_self)
  · intro c hc
    rw [isNumeral, isDigit_of_mem_digits hc]
    rfl

theorem Unsigned.append {s t : List Char} (hs : Unsigned s) (ht : ∀ c ∈ t, isNumeral c = true) :
    Unsigned (s ++ t) := by
  refine ⟨?_, List.forall_mem_append.mpr ⟨hs.all, ht⟩⟩
  cases s with
  | nil => exact absurd hs.head (by simp [startsWithDigit])
  | cons c s => exact hs.head

theorem Unsigned.take {s : List Char} (hs : Unsigned s) {k : Nat} (hk : 0 < k) :
    Unsigned (s.take k) := by
  refine ⟨?_, fun c hc => hs.all c (List.mem_of_mem_take hc)⟩
  cases s with
  | nil => exact absurd hs.head (by simp [startsWithDigit])
  | cons c s =>
    cases k with
    | zero => exact absurd hk (Nat.lt_irrefl 0)
    | succ k => exact hs.head

theorem all_isNumeral_zeros (n : Nat) : ∀ c ∈ List.replicate n '0', isNumeral c = true := by
  intro c hc
  rw [List.eq_of_mem_replicate hc]
  rfl

theorem unsigned_positional (n : Nat) (power : Int) :
    Unsigned (positional .data (digits n) power) := by
  have hds := unsigned_digits n
  rw [positional]
  split
  · exact (hds.append (all_isNumeral_zeros _)).append (List.all_eq_true.mp rfl)
  · extract_lets places
    split
    · rename_i hplaces
      refine (hds.take (Nat.sub_pos_of_lt hplaces)).append (List.forall_mem_cons.mpr ⟨rfl, ?_⟩)
      exact fun c hc => hds.all c (List.mem_of_mem_drop hc)
    · refine ⟨rfl, List.forall_mem_append.mpr ⟨?_, hds.all⟩⟩
      exact List.forall_mem_cons.mpr ⟨rfl, List.forall_mem_cons.mpr ⟨rfl, all_isNumeral_zeros _⟩⟩

theorem unsigned_scientific (n : Nat) (e : Int) : Unsigned (scientific (digits n) e) := by
  have hds := unsigned_digits n
  have htail : ∀ c ∈ (digits n).drop 1, isNumeral c = true :=
    fun c hc => hds.all c (List.mem_of_mem_drop hc)
  have hexponent := (unsigned_digits e.natAbs).all
  rw [scientific]
  refine ((hds.take Nat.one_pos).append ?_).append ?_
  · split
    · exact fun c hc => absurd hc List.not_mem_nil
    · exact List.forall_mem_cons.mpr ⟨rfl, htail⟩
  · refine List.forall_mem_cons.mpr ⟨rfl, List.forall_mem_cons.mpr ⟨?_, hexponent⟩⟩
    split <;> rfl

/-- The text of a number. -/
def Numeral (s : List Char) : Prop := Unsigned s ∨ ∃ t, s = '-' :: t ∧ Unsigned t

theorem numeral_signed {s : List Char} (hs : Unsigned s) (negative : Bool) :
    Numeral ((if negative then ['-'] else []) ++ s) := by
  cases negative with
  | false => exact .inl hs
  | true => exact .inr ⟨s, rfl, hs⟩

theorem numeral_writeFinite (x : Binary64) : Numeral (writeFinite .data x) := by
  rw [writeFinite]
  split
  · exact numeral_signed ⟨rfl, List.all_eq_true.mp rfl⟩ x.negative
  · refine numeral_signed ?_ x.negative
    split
    · exact unsigned_positional _ _
    · exact unsigned_scientific _ _

theorem numeral_intDigits (i : Int) : Numeral (intDigits i) := by
  rw [intDigits]
  split
  · exact .inr ⟨_, rfl, unsigned_digits _⟩
  · exact .inl (unsigned_digits _)

theorem Numeral.all {s : List Char} (h : Numeral s) : ∀ c ∈ s, isNumeral c = true := by
  rcases h with hs | ⟨t, rfl, ht⟩
  · exact hs.all
  · exact List.forall_mem_cons.mpr ⟨rfl, ht.all⟩

/-- Reading the text of a number goes to `number`. -/
theorem Numeral.contained {s r : List Char} {j : Json} (h : Numeral s)
    (hread : scalar s = .ok (j, r)) :
    j.InRange ∧ r <:+ s ∧ ∀ rest, Ended rest → scalar (s ++ rest) = .ok (j, r ++ rest) := by
  rcases h with hs | ⟨t, rfl, ht⟩
  · cases s with
    | nil => exact absurd hs.head (by simp [startsWithDigit])
    | cons c s =>
      rw [scalar_of_isDigit hs.head] at hread
      simp only [List.cons_append, scalar_of_isDigit hs.head]
      exact contained_number false hread
  · obtain ⟨hrange, hsuffix, hrest⟩ := contained_number true hread
    exact ⟨hrange, hsuffix.trans (List.suffix_cons _ _), hrest⟩

theorem Numeral.head {s : List Char} (h : Numeral s) :
    ∃ c t, s = c :: t ∧ (c = '-' ∨ c.isDigit = true) := by
  rcases h with hs | ⟨t, rfl, -⟩
  · cases s with
    | nil => exact absurd hs.head (by simp [startsWithDigit])
    | cons c s => exact ⟨c, s, rfl, .inr hs.head⟩
  · exact ⟨'-', t, rfl, .inl rfl⟩

end CommandBridge.Json
