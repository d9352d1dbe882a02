import CommandBridge.Text.Normal.Class
import CommandBridge.Text.Normal.Decomposition

/-! The composed normal form of a text: letters and marks that can be written as one character are
written so, and marks stand in canonical order. -/
namespace CommandBridge.Text

/-! Korean syllables follow a rule: a leading consonant, a vowel and an optional final consonant. -/

def leadingBase : Nat := 0x1100

def vowelBase : Nat := 0x1161

def finalBase : Nat := 0x11a7

def syllableBase : Nat := 0xac00

def syllableParts? (n : Nat) : Option (List Nat) :=
  if syllableBase ≤ n && n < syllableBase + 19 * 588 then
    let i := n - syllableBase
    let pair := [leadingBase + i / 588, vowelBase + i % 588 / 28]
    some (if i % 28 = 0 then pair else pair ++ [finalBase + i % 28])
  else none

def syllable? (a b : Nat) : Option Nat :=
  if leadingBase ≤ a && a < leadingBase + 19 && vowelBase ≤ b && b < vowelBase + 21 then
    some (syllableBase + ((a - leadingBase) * 21 + (b - vowelBase)) * 28)
  else if syllableBase ≤ a && a < syllableBase + 19 * 588 && (a - syllableBase) % 28 = 0
      && finalBase < b && b < finalBase + 28 then
    some (a + (b - finalBase))
  else none

def parts? (n : Nat) : Option (List Nat) :=
  if n < 0xc0 then none
  else (syllableParts? n).or ((composites.lookup n).or (expansions.lookup n))

/-- What a code point stands for in the end. No decomposition takes more than `fuel` steps. -/
def decomposePoint : Nat → Nat → List Nat
  | 0, n => [n]
  | fuel + 1, n =>
    match parts? n with
    | some ps => ps.flatMap (decomposePoint fuel)
    | none => [n]

def decompose (s : List Char) : List Char :=
  s.flatMap fun c => (decomposePoint 5 c.toNat).map Char.ofNat

/-- Puts a character before a text in canonical order: a mark goes behind those of lower class. -/
def insertMark (c : Char) : List Char → List Char
  | [] => [c]
  | d :: s =>
    if 0 < combiningClass d && combiningClass d < combiningClass c then d :: insertMark c s
    else c :: d :: s

def canonicalOrder (s : List Char) : List Char := s.foldr insertMark []

def composite? (a b : Char) : Option Char :=
  if b.toNat < 0x300 then none
  else
    ((syllable? a.toNat b.toNat).or
      ((composites.find? fun e => e.2 == [a.toNat, b.toNat]).map (·.1))).map Char.ofNat

/-- Goes on after `base` and the marks behind it, which it did not take in. A mark is taken in
unless one of its own class or a higher one stands between. -/
def composeAfter (base : Char) (marks : List Char) (highest : Nat) : List Char → List Char
  | [] => base :: marks
  | c :: s =>
    let k := combiningClass c
    match if marks.isEmpty || highest < k then composite? base c else none with
    | some d => composeAfter d marks highest s
    | none =>
      if k = 0 then base :: marks ++ composeAfter c [] 0 s
      else composeAfter base (marks ++ [c]) k s

def compose : List Char → List Char
  | [] => []
  | c :: s => composeAfter c [] 0 s

/-- The composed normal form. -/
def normalForm (s : List Char) : List Char :=
  if s.all (·.toNat < 0x300) then s else compose (canonicalOrder (decompose s))

end CommandBridge.Text
