import CommandBridge.Guid
import CommandBridge.Proofs.Lists
import Mathlib.Algebra.Group.Nat.Defs

/-! Identifiers are read back from their texts. -/
namespace CommandBridge

namespace Guid

theorem hexValue?_digitChar : ∀ d < 16, hexValue? (Nat.digitChar d) = some d := by decide

/-- The lowest `k` digits in base 16, put together again. -/
theorem foldl_digits (n k : Nat) :
    ((List.range k).map fun i => n / 16 ^ (k - 1 - i) % 16).foldl (fun m d => m * 16 + d) 0 =
      n % 16 ^ k := by
  induction k generalizing n with
  | zero => simp [Nat.mod_one]
  | succ k ih =>
    have hhigh : (List.range k).map (fun i => n / 16 ^ (k + 1 - 1 - i) % 16) =
        (List.range k).map (fun i => n / 16 / 16 ^ (k - 1 - i) % 16) := by
      refine List.map_congr_left fun i hi => ?_
      have hi := List.mem_range.mp hi
      rw [Nat.div_div_eq_div_mul, show k + 1 - 1 - i = 1 + (k - 1 - i) by omega, Nat.pow_add,
        Nat.pow_one]
    rw [List.range_succ, List.map_append, List.foldl_append, hhigh, ih]
    have hsplit := Nat.mod_mul (x := n) (a := 16) (b := 16 ^ k)
    simp only [List.map_cons, List.map_nil, List.foldl_cons, List.foldl_nil, Nat.add_sub_cancel,
      Nat.sub_self, Nat.pow_zero, Nat.div_one]
    rw [Nat.pow_succ', hsplit]
    omega

theorem ofDigits?_hexChars (g : Guid) : ofDigits? g.hexChars = some g := by
  have hlength : g.hexChars.length = 32 := by simp [hexChars]
  have hdigits : g.hexChars.mapM hexValue? =
      some ((List.range 32).map fun i => g.bits.toNat / 16 ^ (31 - i) % 16) := by
    rw [hexChars, List.mapM_map]
    exact mapM_eq_some fun i _ => hexValue?_digitChar _ (Nat.mod_lt _ (by decide))
  have hbits : g.bits.toNat % 16 ^ 32 = g.bits.toNat := Nat.mod_eq_of_lt g.bits.isLt
  rw [ofDigits?, if_pos hlength, hdigits, Option.map_some, foldl_digits g.bits.toNat 32, hbits,
    BitVec.ofNat_toNat, BitVec.setWidth_eq]

theorem ofHyphenated?_append {a b c d e : List Char} (ha : a.length = 8) (hb : b.length = 4)
    (hc : c.length = 4) (hd : d.length = 4) (he : e.length = 12) :
    ofHyphenated? (a ++ '-' :: b ++ '-' :: c ++ '-' :: d ++ '-' :: e) =
      ofDigits? (a ++ b ++ c ++ d ++ e) := by
  simp [ofHyphenated?, List.drop_append, List.getElem?_append, ha, hb, hc, hd, he,
    List.drop_of_length_le]

theorem readChars?_chars (g : Guid) : readChars? g.chars = ofDigits? g.hexChars := by
  have hlength : g.hexChars.length = 32 := by simp [hexChars]
  have hchars : g.chars.length = 36 := by simp [chars, hlength]
  have hparts : g.hexChars.take 8 ++ (g.hexChars.drop 8).take 4 ++ (g.hexChars.drop 12).take 4 ++
      (g.hexChars.drop 16).take 4 ++ g.hexChars.drop 20 = g.hexChars := by
    simp [← List.take_add, List.take_append_drop]
  rw [readChars?, if_neg (by omega), if_neg (by simp [hchars]), if_neg (by simp [hchars]), chars,
    ofHyphenated?_append, hparts]
  all_goals simp [hlength]

@[simp] theorem read?_text (g : Guid) : read? g.text = some g := by
  rw [read?, text, String.toList_ofList, readChars?_chars, ofDigits?_hexChars]

end Guid

end CommandBridge
