/-! Binary64 numbers as sign, exponent and fraction, with correctly rounded quotients. -/
namespace CommandBridge.Decimal

/-- The three fields of the interchange format. -/
structure Binary64 where
  negative : Bool
  exponent : Fin 2048
  fraction : Fin (Nat.pow 2 52)
  deriving DecidableEq, Repr

namespace Binary64

def zero (negative : Bool) : Binary64 := ⟨negative, 0, 0⟩

def infinity (negative : Bool) : Binary64 := ⟨negative, 2047, 0⟩

def nan : Binary64 := ⟨false, 2047, ⟨Nat.pow 2 51, by decide⟩⟩

def isFinite (x : Binary64) : Bool := x.exponent ≠ 2047

def isNaN (x : Binary64) : Bool := x.exponent = 2047 && x.fraction ≠ 0

def isZero (x : Binary64) : Bool := x.exponent = 0 && x.fraction = 0

def neg (x : Binary64) : Binary64 := { x with negative := !x.negative }

/-- The magnitude of a finite number is `significand · 2 ^ scale`. -/
def significand (x : Binary64) : Nat :=
  if x.exponent = 0 then x.fraction.val else Nat.pow 2 52 + x.fraction.val

def scale (x : Binary64) : Int := (max x.exponent.val 1 : Nat) - 1075

/-- Numerator and denominator of the magnitude of a finite number. -/
def ratio (x : Binary64) : Nat × Nat :=
  (x.significand * Nat.pow 2 x.scale.toNat, Nat.pow 2 (-x.scale).toNat)

/-- The number with the given significand (below `2 ^ 53`) and scale (at least -1074). -/
def ofParts (negative : Bool) (m : Nat) (q : Int) : Binary64 :=
  let e := if m < Nat.pow 2 52 then 0 else (q + 1075).toNat
  if h : e < 2047 then
    ⟨negative, ⟨e, Nat.lt_of_lt_of_le h (by decide)⟩, Fin.ofNat _ m⟩
  else infinity negative

/-- A quotient rounded to the nearest natural number, a half to the even one. -/
def divRound (n d : Nat) : Nat :=
  let m := n / d
  let r := n % d
  if 2 * r < d || (2 * r = d && m % 2 = 0) then m else m + 1

/-- The binary64 number nearest to `n / d`, the even one of two that are equally near. -/
def ofRatio (negative : Bool) (n d : Nat) : Binary64 :=
  if n = 0 then zero negative
  else
    let low : Int := max ((n.log2 : Int) - d.log2 - 53) (-1074)
    let scaled (q : Int) : Nat × Nat := (n * Nat.pow 2 (-q).toNat, d * Nat.pow 2 q.toNat)
    let q := if (scaled low).1 / (scaled low).2 < Nat.pow 2 53 then low else low + 1
    let m := divRound (scaled q).1 (scaled q).2
    if m < Nat.pow 2 53 then ofParts negative m q else ofParts negative (Nat.pow 2 52) (q + 1)

def ofNat (n : Nat) : Binary64 := ofRatio false n 1

/-- The magnitudes multiplied; the sign is that of `x`. -/
def mulMagnitude (x y : Binary64) : Binary64 :=
  if x.isFinite && y.isFinite then
    ofRatio x.negative (x.ratio.1 * y.ratio.1) (x.ratio.2 * y.ratio.2)
  else infinity x.negative

/-- The magnitude of `x` divided by that of a finite `y` other than zero; the sign is that of
`x`. -/
def divMagnitude (x y : Binary64) : Binary64 :=
  if x.isFinite then ofRatio x.negative (x.ratio.1 * y.ratio.2) (x.ratio.2 * y.ratio.1) else x

end Binary64

end CommandBridge.Decimal
