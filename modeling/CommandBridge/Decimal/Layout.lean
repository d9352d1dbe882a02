import CommandBridge.Decimal.Integer
import CommandBridge.Decimal.Shortest

/-! How a binary64 number is laid out as text. -/
namespace CommandBridge.Decimal

/-- A way to write numbers: where positional notation ends, what is added to whole numbers, and
which of two equally near decimals is taken. -/
structure Layout where
  /-- Positional from `10 ^ least` on; `none` is without limit. -/
  least : Option Int
  /-- Positional below `10 ^ limit`. -/
  limit : Option Int
  /-- Written after a whole number. -/
  whole : List Char
  /-- The greater one of two equally near decimals, not the even one. -/
  greater : Bool

/-- Data: positional from 0.00001 to below `10 ^ 16`, whole numbers end in `.0`, and a half goes to
the even decimal. -/
def Layout.data : Layout := ⟨some (-5), some 16, ['.', '0'], false⟩

/-- Text for people: always positional, whole numbers have no point, and a half goes up. -/
def Layout.plain : Layout := ⟨none, none, [], true⟩

def positional (layout : Layout) (ds : List Char) (power : Int) : List Char :=
  if 0 ≤ power then ds ++ List.replicate power.toNat '0' ++ layout.whole
  else
    let places := power.natAbs
    if places < ds.length then
      ds.take (ds.length - places) ++ '.' :: ds.drop (ds.length - places)
    else '0' :: '.' :: List.replicate (places - ds.length) '0' ++ ds

def scientific (ds : List Char) (e : Int) : List Char :=
  let fraction := match ds.drop 1 with
    | [] => []
    | rest => '.' :: rest
  ds.take 1 ++ fraction ++ 'e' :: (if e < 0 then '-' else '+') :: digits e.natAbs

/-- The text of a finite number. -/
def writeFinite (layout : Layout) (x : Binary64) : List Char :=
  let sign := if x.negative then ['-'] else []
  if x.isZero then sign ++ '0' :: layout.whole
  else
    let s := x.shortest layout.greater
    let ds := digits s.digits
    let e := s.power + ds.length - 1
    let inRange := layout.least.all (· ≤ e) && layout.limit.all (e < ·)
    sign ++ if inRange then positional layout ds s.power else scientific ds e

/-- The text for people of any number. -/
def writePlain (x : Binary64) : List Char :=
  if x.isNaN then ['N', 'a', 'N']
  else if x.isFinite then writeFinite .plain x
  else (if x.negative then ['-'] else []) ++ ['i', 'n', 'f']

end CommandBridge.Decimal
