/-! Punycode: texts beyond ASCII written with letters, digits and hyphens. -/
namespace CommandBridge.Url.Punycode

/-- The digits are the letters and then the decimal digits. -/
def digit (n : Nat) : Char :=
  if n < 26 then Char.ofNat ('a'.toNat + n) else Char.ofNat ('0'.toNat + (n - 26))

def digitValue? (c : Char) : Option Nat :=
  if c.isDigit then some (c.toNat - '0'.toNat + 26)
  else if c.isAlpha then some (c.toLower.toNat - 'a'.toNat)
  else none

/-- How much of a delta is written at position `k`. -/
def threshold (bias k : Nat) : Nat := min 26 (max 1 (k - bias))

theorem one_le_threshold (bias k : Nat) : 1 ≤ threshold bias k := by unfold threshold; omega

/-- A delta in digits of varying weight, the lightest first. A digit below its threshold is the
last one. -/
def deltaDigits (bias k q : Nat) : List Char :=
  let t := threshold bias k
  if q < t then [digit q]
  else digit (t + (q - t) % (36 - t)) :: deltaDigits bias (k + 36) ((q - t) / (36 - t))
termination_by q
decreasing_by
  have h := one_le_threshold bias k
  exact Nat.lt_of_le_of_lt (Nat.div_le_self ..) (by omega)

def reduceDelta (delta k : Nat) : Nat × Nat :=
  if 455 < delta then reduceDelta (delta / 35) (k + 36) else (delta, k)
termination_by delta
decreasing_by exact Nat.div_lt_self (by omega) (by omega)

/-- The bias after a delta has been written or read. -/
def adapt (delta count : Nat) (first : Bool) : Nat :=
  let delta := if first then delta / 700 else delta / 2
  let (delta, k) := reduceDelta (delta + delta / count) 0
  k + 36 * delta / (delta + 38)

structure Encoding where
  bias : Nat
  delta : Nat
  handled : Nat
  first : Bool
  out : List Char

/-- Passes over the text for one code point: counts those before it and writes a delta for each
occurrence. -/
def Encoding.pass (codePoint : Nat) (e : Encoding) (c : Char) : Encoding :=
  if c.toNat < codePoint then { e with delta := e.delta + 1 }
  else if c.toNat = codePoint then
    { bias := adapt e.delta (e.handled + 1) e.first, delta := 0, handled := e.handled + 1,
      first := false, out := e.out ++ deltaDigits e.bias 36 e.delta }
  else e

def encode (text : List Char) : List Char :=
  let basic := text.filter (·.toNat < 128)
  let points := ((text.filter (128 ≤ ·.toNat)).map Char.toNat).mergeSort.eraseReps
  let start : Encoding :=
    ⟨72, 0, basic.length, true, if basic.isEmpty then [] else basic ++ ['-']⟩
  let step (acc : Encoding × Nat) (codePoint : Nat) : Encoding × Nat :=
    let e := { acc.1 with delta := acc.1.delta + (codePoint - acc.2) * (acc.1.handled + 1) }
    let e := text.foldl (Encoding.pass codePoint) e
    ({ e with delta := e.delta + 1 }, codePoint + 1)
  (points.foldl step (start, 128)).1.out

/-- No number on the way may reach this. -/
def limit : Nat := Nat.pow 2 32

/-- Adds the delta at the start of a text to `i`; what follows it. -/
def readDelta (bias : Nat) : (k weight i : Nat) → List Char → Option (Nat × List Char)
  | _, _, _, [] => none
  | k, weight, i, c :: s => do
    let d ← digitValue? c
    let t := threshold bias k
    if limit ≤ i + d * weight then none
    else if d < t then some (i + d * weight, s)
    else if limit ≤ weight * (36 - t) then none
    else readDelta bias (k + 36) (weight * (36 - t)) (i + d * weight) s

/-- Inserts characters in ascending order: `i` counts the places, round after round, and each
round is for the next code point. Every delta takes a digit at least, so that the number of digits
is enough `fuel`. -/
def insertAll : (fuel bias codePoint i : Nat) → List Char → List Char → Option (List Char)
  | _, _, _, _, out, [] => some out
  | 0, _, _, _, _, _ => none
  | fuel + 1, bias, codePoint, i, out, s => do
    let (j, s) ← readDelta bias 36 1 i s
    let places := out.length + 1
    let n := codePoint + j / places
    if n.isValidChar then
      insertAll fuel (adapt (j - i) places (i == 0)) n (j % places + 1)
        (out.insertIdx (j % places) (Char.ofNat n)) s
    else none

/-- The characters before the last hyphen stand for themselves. -/
def decode? (s : List Char) : Option (List Char) :=
  let digits := (s.reverse.takeWhile (· != '-')).reverse
  let basic := s.take (s.length - digits.length - 1)
  let digits := if basic.isEmpty then s else digits
  insertAll digits.length 72 128 0 basic digits

end CommandBridge.Url.Punycode
