import CommandBridge.Url.Percent
import Mathlib.Data.List.Flatten

/-! Percent-encoding leaves nothing to encode, loses no character, and can be undone where the text
has no percent signs of its own. -/
namespace CommandBridge.Url

/-- What stands for an encoded character. -/
def escapeChars : List Char := "%0123456789ABCDEF".toList

/-- Whether encoding leaves a character as it is. -/
def isClear (set : List Char) (c : Char) : Bool :=
  !(c.toNat < 0x20 || 0x7f ≤ c.toNat || set.contains c)

section
variable {set : List Char} {c : Char} {s t : List Char}

theorem encodeChar_of_isClear (h : isClear set c = true) : encodeChar set c = [c] := by
  unfold encodeChar
  rw [if_neg]
  simpa [isClear] using h

theorem encodeChar_of_not_isClear (h : isClear set c = false) :
    encodeChar set c = (String.utf8EncodeChar c).flatMap percentByte := by
  unfold encodeChar
  rw [if_pos]
  rwa [isClear, Bool.not_eq_false'] at h

@[simp] theorem encode_nil (set : List Char) : encode set [] = [] := rfl

theorem encode_of_isClear (h : ∀ c ∈ s, isClear set c = true) : encode set s = s := by
  induction s with
  | nil => rfl
  | cons c s ih =>
    rw [List.forall_mem_cons] at h
    rw [encode, List.flatMap_cons, encodeChar_of_isClear h.1, ← encode, ih h.2]
    rfl

theorem mem_percentByte {b : UInt8} (h : c ∈ percentByte b) : c ∈ escapeChars := by
  have hdigit : ∀ n < 16, (Nat.digitChar n).toUpper ∈ escapeChars := by decide +kernel
  have hb := b.toNat_lt
  simp only [percentByte, List.mem_cons, List.not_mem_nil, or_false] at h
  rcases h with rfl | rfl | rfl
  · decide
  · exact hdigit _ (by omega)
  · exact hdigit _ (by omega)

theorem mem_encode_iff : c ∈ encode set s ↔
    (c ∈ s ∧ isClear set c = true) ∨
      ∃ d ∈ s, isClear set d = false ∧ c ∈ (String.utf8EncodeChar d).flatMap percentByte := by
  rw [encode, List.mem_flatMap]
  constructor
  · rintro ⟨d, hd, hc⟩
    cases hclear : isClear set d with
    | true =>
      rw [encodeChar_of_isClear hclear, List.mem_singleton] at hc
      exact .inl ⟨hc ▸ hd, hc ▸ hclear⟩
    | false => exact .inr ⟨d, hd, hclear, encodeChar_of_not_isClear hclear ▸ hc⟩
  · rintro (⟨hmem, hclear⟩ | ⟨d, hd, hclear, hc⟩)
    · exact ⟨c, hmem, by rw [encodeChar_of_isClear hclear, List.mem_singleton]⟩
    · exact ⟨d, hd, by rwa [encodeChar_of_not_isClear hclear]⟩

theorem mem_encode (h : c ∈ encode set s) : (c ∈ s ∧ isClear set c = true) ∨ c ∈ escapeChars := by
  rcases mem_encode_iff.mp h with h | ⟨d, -, -, hc⟩
  · exact .inl h
  · obtain ⟨b, -, hb⟩ := List.mem_flatMap.mp hc
    exact .inr (mem_percentByte hb)

/-- Nothing is left to encode. -/
theorem isClear_of_mem_encode (hset : ∀ d ∈ escapeChars, isClear set d = true)
    (h : c ∈ encode set s) : isClear set c = true := by
  rcases mem_encode h with h | h
  · exact h.2
  · exact hset c h

theorem encodeChar_ne_nil (set : List Char) (c : Char) : encodeChar set c ≠ [] := by
  unfold encodeChar
  split
  · intro h
    have hne := String.utf8EncodeChar_ne_nil (c := c)
    obtain ⟨b, bs, hbytes⟩ := List.exists_cons_of_ne_nil hne
    rw [hbytes, List.flatMap_cons] at h
    exact absurd h (by simp [percentByte])
  · exact List.cons_ne_nil _ _

/-- A text that says as much as one it is a part of is that one. -/
theorem eq_of_encode_eq (hsub : t.Sublist s) (h : encode set t = encode set s) : t = s := by
  induction hsub with
  | slnil => rfl
  | cons c hsub ih =>
    have hle := (hsub.flatMap (encodeChar set)).length_le
    have hlength := congrArg List.length h
    have hpos := List.length_pos_iff.mpr (encodeChar_ne_nil set c)
    simp only [encode, List.flatMap_cons, List.length_append] at hlength
    omega
  | cons_cons c hsub ih =>
    simp only [encode, List.flatMap_cons, List.append_cancel_left_eq] at h
    rw [ih h]

/-! ### Decoding -/

theorem decodeBytes_cons (h : c ≠ '%') (s : List Char) :
    decodeBytes (c :: s) = String.utf8EncodeChar c ++ decodeBytes s := by
  rw [decodeBytes]
  rintro a b rest hc
  cases hc
  exact absurd rfl h

theorem decodeBytes_percentByte (b : UInt8) (s : List Char) :
    decodeBytes (percentByte b ++ s) = b :: decodeBytes s := by
  have hdigit : ∀ n < 16, hexValue? (Nat.digitChar n).toUpper = some n := by decide +kernel
  have hb := b.toNat_lt
  have hvalue : b.toNat / 16 * 16 + b.toNat % 16 = b.toNat := by omega
  simp only [percentByte, List.cons_append, List.nil_append, decodeBytes,
    hdigit (b.toNat / 16) (by omega), hdigit (b.toNat % 16) (by omega), hvalue, UInt8.ofNat_toNat]

theorem decodeBytes_percentBytes (bytes : List UInt8) (s : List Char) :
    decodeBytes (bytes.flatMap percentByte ++ s) = bytes ++ decodeBytes s := by
  induction bytes with
  | nil => rfl
  | cons b bytes ih =>
    rw [List.flatMap_cons, List.append_assoc, decodeBytes_percentByte, ih, List.cons_append]

theorem decodeBytes_encode (set : List Char) (h : '%' ∉ s) :
    decodeBytes (encode set s) = s.flatMap String.utf8EncodeChar := by
  induction s with
  | nil => rfl
  | cons c s ih =>
    rw [List.mem_cons, not_or] at h
    rw [encode, List.flatMap_cons, List.flatMap_cons, ← ih h.2]
    cases hclear : isClear set c with
    | true =>
      rw [encodeChar_of_isClear hclear]
      exact decodeBytes_cons (Ne.symm h.1) _
    | false =>
      rw [encodeChar_of_not_isClear hclear]
      exact decodeBytes_percentBytes _ _

/-- A text without percent signs is what its encoding stands for. -/
theorem decode?_encode (set : List Char) (h : '%' ∉ s) : decode? (encode set s) = some s := by
  have hbytes : (s.flatMap String.utf8EncodeChar).toByteArray = (String.ofList s).toByteArray := by
    rw [String.toByteArray_ofList, List.utf8Encode]
  have hread : String.fromUTF8? (String.ofList s).toByteArray = some (String.ofList s) :=
    dif_pos (String.ofList s).isValidUTF8
  rw [decode?, decodeBytes_encode set h, hbytes, hread, Option.map_some, String.toList_ofList]

/-- Texts without percent signs are told apart when they are encoded. -/
theorem encode_injective (hs : '%' ∉ s) (ht : '%' ∉ t) (h : encode set s = encode set t) :
    s = t := by
  have hdecoded := congrArg decode? h
  rwa [decode?_encode set hs, decode?_encode set ht, Option.some.injEq] at hdecoded

end

end CommandBridge.Url
