import CommandBridge.Decimal.Integer
import CommandBridge.Url.Percent

/-! Internet addresses as hosts. -/
namespace CommandBridge.Url

def radixValue (radix : Nat) (s : List Char) : Option Nat :=
  s.foldl (fun n c => do
    let d ← hexValue? c
    if d < radix then some ((← n) * radix + d) else none) (some 0)

/-- A number that is decimal, octal after `0`, or hexadecimal after `0x`. -/
def ipv4Number? : List Char → Option Nat
  | [] => none
  | '0' :: 'x' :: s => radixValue 16 s
  | '0' :: 'X' :: s => radixValue 16 s
  | '0' :: c :: s => radixValue 8 (c :: s)
  | s => radixValue 10 s

/-- A host whose last piece is a number is an IPv4 address or nothing. -/
def endsInNumber (s : List Char) : Bool :=
  let pieces := (s.splitOn '.').reverse
  let last := match pieces with
    | [] :: p :: _ => p
    | p :: _ => p
    | [] => []
  (!last.isEmpty && last.all Char.isDigit) || (ipv4Number? last).isSome

/-- Up to four numbers; the last one fills what the others leave. -/
def ipv4? (s : List Char) : Option Nat := do
  let pieces := s.splitOn '.'
  let pieces := if pieces.getLast? = some [] then pieces.dropLast else pieces
  if 4 < pieces.length then none
  let numbers ← pieces.mapM ipv4Number?
  let last ← numbers.getLast?
  let front := numbers.dropLast
  if front.any (255 < ·) || Nat.pow 256 (4 - front.length) ≤ last then none
  return front.foldr (fun n rest => n * Nat.pow 256 3 + rest / 256) 0 + last

def ipv4Text (n : Nat) : List Char :=
  ['.'].intercalate ([n / Nat.pow 256 3 % 256, n / Nat.pow 256 2 % 256, n / 256 % 256, n % 256].map
    Decimal.digits)

/-- A part of a dotted address inside an IPv6 address: 0 to 255 without leading zeros. -/
def octet? (s : List Char) : Option Nat :=
  match s with
  | ['0'] => some 0
  | '0' :: _ => none
  | _ => (Decimal.readNat? s).bind fun n => if n < 256 then some n else none

/-- A dotted address as two groups. -/
def dottedGroups? (s : List Char) : Option (List Nat) := do
  match ← (s.splitOn '.').mapM octet? with
  | [a, b, c, d] => some [a * 256 + b, c * 256 + d]
  | _ => none

/-- Groups with colons between them; the last one may be a dotted address. -/
def groups? : Nat → List Char → Option (List Nat)
  | 0, _ => none
  | fuel + 1, s =>
    let digits := s.takeWhile fun c => c != ':' && c != '.'
    match s.dropWhile fun c => c != ':' && c != '.' with
    | [] => (group? digits).map ([·])
    | '.' :: _ => if digits.isEmpty then none else dottedGroups? s
    | _ :: rest => do
      let g ← group? digits
      return g :: (← groups? fuel rest)
where
  group? (digits : List Char) : Option Nat :=
    if digits.isEmpty || 4 < digits.length then none else radixValue 16 digits

/-- The text before and after the first double colon. -/
def splitDouble : List Char → Option (List Char × List Char)
  | ':' :: ':' :: s => some ([], s)
  | c :: s => (splitDouble s).map fun (a, b) => (c :: a, b)
  | [] => none

/-- Eight groups; a double colon stands for one or more groups of zeros. -/
def ipv6? (s : List Char) : Option (List Nat) := do
  let side (t : List Char) : Option (List Nat) := if t.isEmpty then some [] else groups? 9 t
  match splitDouble s with
  | none =>
    let gs ← groups? 9 s
    if gs.length = 8 then some gs else none
  | some (before, after) =>
    if before.contains '.' then none
    let a ← side before
    let b ← side after
    if a.length + b.length < 8 then
      some (a ++ List.replicate (8 - a.length - b.length) 0 ++ b)
    else none

/-- Start and length of the longest run of zeros, the first of equals, if it has at least two. -/
def longestZeros (gs : List Nat) : Option (Nat × Nat) :=
  let runs := (List.range gs.length).map fun i => (i, ((gs.drop i).takeWhile (· = 0)).length)
  let best := runs.foldl (fun b r => if b.2 < r.2 then r else b) (0, 0)
  if 2 ≤ best.2 then some best else none

def ipv6Text (gs : List Nat) : List Char :=
  let group (l : List Nat) : List Char := [':'].intercalate (l.map (Nat.toDigits 16))
  match longestZeros gs with
  | none => group gs
  | some (i, n) => group (gs.take i) ++ ':' :: ':' :: group (gs.drop (i + n))

end CommandBridge.Url
