/-! White space, and text with the white space at its ends taken off. -/
namespace CommandBridge.Text

/-- The characters with the Unicode property `White_Space`. -/
def isBlank (c : Char) : Bool :=
  let n := c.toNat
  (9 ≤ n && n ≤ 13) || n == 0x20 || n == 0x85 || n == 0xa0 || n == 0x1680 ||
    (0x2000 ≤ n && n ≤ 0x200a) || n == 0x2028 || n == 0x2029 || n == 0x202f || n == 0x205f ||
    n == 0x3000

def dropEndWhile (p : Char → Bool) (s : List Char) : List Char :=
  (s.reverse.dropWhile p).reverse

def trimEnd (s : List Char) : List Char := dropEndWhile isBlank s

def trim (s : List Char) : List Char := trimEnd (s.dropWhile isBlank)

/-- Nothing but white space, or nothing at all. -/
def allBlank (s : List Char) : Bool := s.all isBlank

@[simp] theorem dropEndWhile_nil (p : Char → Bool) : dropEndWhile p [] = [] := rfl

theorem dropEndWhile_of_getLast? {p : Char → Bool} {s : List Char} {c : Char}
    (hlast : s.getLast? = some c) (hc : p c = false) : dropEndWhile p s = s := by
  obtain ⟨t, rfl⟩ := List.getLast?_eq_some_iff.mp hlast
  simp [dropEndWhile, hc]

theorem dropEndWhile_append {p : Char → Bool} {s : List Char} (h : dropEndWhile p s = s)
    (t : List Char) : dropEndWhile p (s ++ t) = s ++ dropEndWhile p t := by
  have hstays : s.reverse.dropWhile p = s.reverse := by
    rw [← List.reverse_inj, List.reverse_reverse]
    exact h
  unfold dropEndWhile
  rw [List.reverse_append, List.dropWhile_append]
  split
  · rename_i hempty
    rw [List.isEmpty_iff.mp hempty, hstays, List.reverse_reverse, List.reverse_nil,
      List.append_nil]
  · rw [List.reverse_append, List.reverse_reverse]

@[simp] theorem trim_nil : trim [] = [] := rfl

end CommandBridge.Text
