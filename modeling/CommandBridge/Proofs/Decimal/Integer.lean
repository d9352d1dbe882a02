import CommandBridge.Decimal.Integer

/-! Whole numbers read back from their digits. -/
namespace CommandBridge.Decimal

theorem mem_of_isDigit {c : Char} (h : c.isDigit = true) : c ∈ "0123456789".toList := by
  obtain ⟨hlower, hupper⟩ := (Bool.and_eq_true _ _).mp h
  have hlower : 48 ≤ c.toNat := UInt32.le_iff_toNat_le.mp (of_decide_eq_true hlower)
  have hupper : c.toNat ≤ 57 := UInt32.le_iff_toNat_le.mp (of_decide_eq_true hupper)
  have hdigits : "0123456789".toList = (List.range 10).map fun i => Char.ofNat (48 + i) := by decide
  rw [hdigits]
  refine List.mem_map.mpr ⟨c.toNat - 48, List.mem_range.mpr (by omega), ?_⟩
  rw [Nat.add_sub_cancel' hlower, Char.ofNat_toNat]

theorem isDigit_of_mem_digits {n : Nat} {c : Char} (h : c ∈ digits n) : c.isDigit = true :=
  Nat.isDigit_of_mem_toDigits (by decide) (by decide) h

@[simp] theorem readNat?_digits (n : Nat) : readNat? (digits n) = some n := by
  have hne : (digits n).isEmpty = false := by simp [digits, Nat.toDigits_ne_nil]
  have hall : (digits n).all Char.isDigit = true :=
    List.all_eq_true.mpr fun _ h => isDigit_of_mem_digits h
  rw [readNat?, if_pos (by simp [hne, hall])]
  exact congrArg some Nat.ofDigitChars_ten_toDigits

theorem digits_ne_nil (n : Nat) : digits n ≠ [] := Nat.toDigits_ne_nil

/-- A number without a sign. -/
theorem readInt64?_digits {n : Nat} (h : n < Nat.pow 2 63) :
    readInt64? (digits n) = some (Int64.ofInt n) := by
  have hread := readNat?_digits n
  cases hs : digits n with
  | nil => exact absurd hs (digits_ne_nil n)
  | cons c s =>
    have hc : c.isDigit = true := isDigit_of_mem_digits (hs ▸ List.mem_cons_self)
    rw [hs] at hread
    rw [readInt64?, hread]
    · exact if_pos h
    · rintro t ⟨⟩
      exact absurd hc (by decide)
    · rintro t ⟨⟩
      exact absurd hc (by decide)

theorem mem_int64Digits {i : Int64} {c : Char} (h : c ∈ int64Digits i) :
    c ∈ "-0123456789".toList := by
  rw [int64Digits, intDigits] at h
  split at h
  · rcases List.mem_cons.mp h with rfl | h
    · decide
    · exact List.mem_cons_of_mem _ (mem_of_isDigit (isDigit_of_mem_digits h))
  · exact List.mem_cons_of_mem _ (mem_of_isDigit (isDigit_of_mem_digits h))

theorem exists_isDigit_mem_int64Digits (i : Int64) : ∃ c ∈ int64Digits i, c.isDigit = true := by
  obtain ⟨c, hc⟩ := List.exists_mem_of_ne_nil _ (digits_ne_nil i.toInt.natAbs)
  refine ⟨c, ?_, isDigit_of_mem_digits hc⟩
  rw [int64Digits, intDigits]
  split
  · exact List.mem_cons_of_mem _ hc
  · exact hc

/-- The sign is read apart, so that the least number is read as well. -/
theorem readInt64?_int64Digits (i : Int64) : readInt64? (int64Digits i) = some i := by
  have hlower := i.le_toInt
  have hupper := i.toInt_lt
  rw [int64Digits, intDigits]
  split
  · rename_i hneg
    have hbound : i.toInt.natAbs ≤ Nat.pow 2 63 := by
      rw [Nat.pow_eq]
      omega
    have habs : -(i.toInt.natAbs : Int) = i.toInt := by omega
    rw [readInt64?, readNat?_digits, Option.bind_some, if_pos hbound, habs, Int64.ofInt_toInt]
  · rename_i hpos
    have hbound : i.toInt.natAbs < Nat.pow 2 63 := by
      rw [Nat.pow_eq]
      omega
    have habs : (i.toInt.natAbs : Int) = i.toInt := by omega
    rw [readInt64?_digits hbound, habs, Int64.ofInt_toInt]

end CommandBridge.Decimal
