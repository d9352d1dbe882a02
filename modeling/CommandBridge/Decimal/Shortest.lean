import CommandBridge.Decimal.Binary64

/-! The fewest decimal digits that read back as a given binary64 number. -/
namespace CommandBridge.Decimal

/-- The number `digits · 10 ^ power`. -/
structure Scaled where
  digits : Nat
  power : Int
  deriving DecidableEq, Repr

namespace Binary64

/-- Whether `digits · 10 ^ power` is read as `x`, a positive finite number: it lies between the
middles to the two neighbours, ends included when the significand is even. -/
def readsBack (x : Binary64) (s : Scaled) : Bool :=
  let m := x.significand
  let low := if m = Nat.pow 2 52 && 1 < x.exponent.val then 4 * m - 1 else 4 * m - 2
  let high := 4 * m + 2
  let q := x.scale - 2
  let unit := Nat.pow 2 q.toNat * Nat.pow 10 (-s.power).toNat
  let value := s.digits * Nat.pow 10 s.power.toNat * Nat.pow 2 (-q).toNat
  if m % 2 = 0 then low * unit ≤ value && value ≤ high * unit
  else low * unit < value && value < high * unit

/-- The greatest `e` with `10 ^ e ≤ n / d`. -/
def decimalExponent (n d : Nat) : Int :=
  if d ≤ n then ((Nat.toDigits 10 (n / d)).length : Int) - 1
  else
    let k := (Nat.toDigits 10 (d / n)).length
    if d ≤ n * Nat.pow 10 (k - 1) then 1 - (k : Int) else -(k : Int)

/-- The nearer of the two neighbours of `x` on the grid of multiples of `10 ^ power` that is read as
`x`. Of two that are equally near it is the greater one, or else the even one. -/
def onGrid? (greater : Bool) (x : Binary64) (power : Int) : Option Scaled :=
  let (n, d) := x.ratio
  let num := n * Nat.pow 10 (-power).toNat
  let den := d * Nat.pow 10 power.toNat
  let down : Scaled := ⟨num / den, power⟩
  let up : Scaled := ⟨num / den + 1, power⟩
  let r := num % den
  let downFirst := 2 * r < den || (2 * r = den && !greater && num / den % 2 = 0)
  let first := if downFirst then down else up
  let second := if downFirst then up else down
  if x.readsBack first then some first
  else if x.readsBack second then some second
  else none

/-- Trailing zeros moved into the power. -/
def stripZeros : Nat → Scaled → Scaled
  | 0, s => s
  | fuel + 1, s =>
    if s.digits ≠ 0 && s.digits % 10 = 0 then stripZeros fuel ⟨s.digits / 10, s.power + 1⟩ else s

/-- The shortest decimal that is read as `x`, a finite number other than zero; its sign is left
out. Seventeen digits are always enough. -/
def shortest (greater : Bool) (x : Binary64) : Scaled :=
  let e := decimalExponent x.ratio.1 x.ratio.2
  let found := (List.range 17).findSome? fun (k : Nat) => x.onGrid? greater (e - k)
  stripZeros 20 (found.getD ⟨0, 0⟩)

end Binary64

end CommandBridge.Decimal
