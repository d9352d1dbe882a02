import CommandBridge.Json.Basic

/-! JSON text read front to back. The first fault ends the reading. -/
namespace CommandBridge.Json

open Decimal

/-- Why reading failed. -/
inductive Fault where
  /-- The text ended early. -/
  | incomplete
  /-- The text is not JSON. -/
  | malformed
  /-- The value is not of the wanted form. -/
  | mismatch
  deriving DecidableEq, Repr

/-- Reads a value off the front of a text and gives the rest of the text. -/
abbrev Reader (α : Type) := List Char → Except Fault (α × List Char)

def isSpace (c : Char) : Bool := c == ' ' || c == '\n' || c == '\t' || c == '\r'

def skipSpace (s : List Char) : List Char := s.dropWhile isSpace

def utf8Length (s : List Char) : Nat := s.foldr (fun c n => c.utf8Size + n) 0

def keyword (a : α) : List Char → Reader α
  | [], s => .ok (a, s)
  | _ :: _, [] => .error .incomplete
  | w :: ws, c :: s => if c == w then keyword a ws s else .error .malformed

def hexValue? (c : Char) : Option Nat :=
  if c.isDigit then some (c.toNat - '0'.toNat)
  else if 'a' ≤ c && c ≤ 'f' then some (c.toNat - 'a'.toNat + 10)
  else if 'A' ≤ c && c ≤ 'F' then some (c.toNat - 'A'.toNat + 10)
  else none

def hexQuad? (a b c d : Char) : Option Nat := do
  let a ← hexValue? a
  let b ← hexValue? b
  let c ← hexValue? c
  let d ← hexValue? d
  return ((a * 16 + b) * 16 + c) * 16 + d

/-- The fault of an escape that has fewer than four characters left for its digits. -/
def shortEscape (s : List Char) : Fault := if utf8Length s < 4 then .incomplete else .malformed

def isHighSurrogate (n : Nat) : Bool := 0xd800 ≤ n && n < 0xdc00

def isLowSurrogate (n : Nat) : Bool := 0xdc00 ≤ n && n < 0xe000

def consChar (c : Char) :
    Except Fault (List Char × List Char) → Except Fault (List Char × List Char)
  | .ok (cs, s) => .ok (c :: cs, s)
  | .error e => .error e

/-- The characters of a string up to its closing quote. -/
def stringBody : List Char → Except Fault (List Char × List Char)
  | [] => .error .incomplete
  | '"' :: s => .ok ([], s)
  | '\\' :: 'u' :: a :: b :: c :: d :: s =>
    match hexQuad? a b c d with
    | none => .error .malformed
    | some n =>
      if isLowSurrogate n then .error .malformed
      else if isHighSurrogate n then
        match s with
        | '\\' :: 'u' :: e :: f :: g :: h :: t =>
          match hexQuad? e f g h with
          | none => .error .malformed
          | some m =>
            if isLowSurrogate m then
              consChar (Char.ofNat ((n - 0xd800) * 0x400 + (m - 0xdc00) + 0x10000)) (stringBody t)
            else .error .malformed
        | '\\' :: 'u' :: t => .error (shortEscape t)
        | ['\\'] => .error .incomplete
        | [] => .error .incomplete
        | _ => .error .malformed
      else consChar (Char.ofNat n) (stringBody s)
  | '\\' :: 'u' :: s => .error (shortEscape s)
  | '\\' :: c :: s =>
    match c with
    | '"' => consChar '"' (stringBody s)
    | '\\' => consChar '\\' (stringBody s)
    | '/' => consChar '/' (stringBody s)
    | 'b' => consChar '\x08' (stringBody s)
    | 'f' => consChar '\x0c' (stringBody s)
    | 'n' => consChar '\n' (stringBody s)
    | 'r' => consChar '\r' (stringBody s)
    | 't' => consChar '\t' (stringBody s)
    | _ => .error .malformed
  | ['\\'] => .error .incomplete
  | c :: s => if c.toNat < 0x20 then .error .malformed else consChar c (stringBody s)

def powerOfTen (k : Nat) : Binary64 := .ofRatio false (Nat.pow 10 k) 1

/-- Divides by ten `k` times, in steps of at most 308. -/
def shrink (x : Binary64) (k : Nat) : Binary64 :=
  if k ≤ 308 then x.divMagnitude (powerOfTen k)
  else if x.isZero then x
  else shrink (x.divMagnitude (powerOfTen 308)) (k - 308)
termination_by k

/-- The number `significand · 10 ^ power` in binary64 arithmetic; nothing when it is too large. -/
def scaled? (negative : Bool) (significand : Nat) (power : Int) : Option Binary64 :=
  let x := { Binary64.ofNat significand with negative := negative }
  if power < 0 then some (shrink x power.natAbs)
  else if power ≤ 308 then
    let y := x.mulMagnitude (powerOfTen power.toNat)
    if y.isFinite then some y else none
  else if x.isZero then some x
  else none

def scaledNumber (negative : Bool) (significand : Nat) (power : Int) : Reader Json := fun s =>
  match scaled? negative significand power with
  | some x => .ok (.float x, s)
  | none => .error .malformed

/-- Appends decimal digits to a number as long as it stays below `limit`; gives the number, how many
digits were taken, and the rest, which starts with the first digit that did not fit. -/
def takeDigits (limit : Nat) (n : Nat) : List Char → Nat × Nat × List Char
  | [] => (n, 0, [])
  | c :: s =>
    if c.isDigit && n * 10 + (c.toNat - '0'.toNat) < limit then
      let (m, k, t) := takeDigits limit (n * 10 + (c.toNat - '0'.toNat)) s
      (m, k + 1, t)
    else (n, 0, c :: s)

def startsWithDigit : List Char → Bool
  | c :: _ => c.isDigit
  | [] => false

def int32Max : Int := 2147483647

/-- The part after `e`. An exponent beyond 32 bits stands for zero or is out of range. -/
def exponentPart (negative : Bool) (significand : Nat) (power : Int) : Reader Json := fun s =>
  let (down, s) := match s with
    | '+' :: t => (false, t)
    | '-' :: t => (true, t)
    | _ => (false, s)
  match s with
  | [] => .error .incomplete
  | c :: _ =>
    if !c.isDigit then .error .malformed
    else
      let (e, _, rest) := takeDigits (Nat.pow 2 31) 0 s
      if startsWithDigit rest then
        if significand = 0 || down then
          .ok (.float (.zero negative), rest.dropWhile Char.isDigit)
        else .error .malformed
      else
        let total := if down then max (power - e) (-(int32Max + 1)) else min (power + e) int32Max
        scaledNumber negative significand total rest

def afterDigits (negative : Bool) (significand : Nat) (power : Int) : Reader Json
  | 'e' :: s => exponentPart negative significand power s
  | 'E' :: s => exponentPart negative significand power s
  | s => scaledNumber negative significand power s

/-- The part after the point. Digits that no longer fit in 64 bits are dropped. -/
def fractionPart (negative : Bool) (significand : Nat) (power : Int) : Reader Json := fun s =>
  match s with
  | [] => .error .incomplete
  | c :: _ =>
    if !c.isDigit then .error .malformed
    else
      let (n, k, rest) := takeDigits (Nat.pow 2 64) significand s
      afterDigits negative n (power - k) (rest.dropWhile Char.isDigit)

/-- A whole number unless a point or an exponent follows, or it is out of range, or it is minus
zero. -/
def afterInteger (negative : Bool) (n : Nat) : Reader Json
  | '.' :: s => fractionPart negative n 0 s
  | 'e' :: s => exponentPart negative n 0 s
  | 'E' :: s => exponentPart negative n 0 s
  | s =>
    if !negative then .ok (.int n, s)
    else if n = 0 || Nat.pow 2 63 < n then .ok (.float (Binary64.ofNat n).neg, s)
    else .ok (.int (-n), s)

/-- A whole number of more than 64 bits: the digits that do not fit only raise the power. -/
def afterLongInteger (negative : Bool) (n : Nat) : Reader Json := fun s =>
  let power : Int := (s.takeWhile Char.isDigit).length
  match s.dropWhile Char.isDigit with
  | '.' :: t => fractionPart negative n power t
  | t => afterDigits negative n power t

/-- A number without its sign. -/
def number (negative : Bool) : Reader Json
  | [] => .error .incomplete
  | '0' :: s => if startsWithDigit s then .error .malformed else afterInteger negative 0 s
  | c :: s =>
    if !c.isDigit then .error .malformed
    else
      let (n, _, rest) := takeDigits (Nat.pow 2 64) 0 (c :: s)
      if startsWithDigit rest then afterLongInteger negative n rest
      else afterInteger negative n rest

/-- A string after its opening quote. -/
def stringRest : Reader String := fun s =>
  match stringBody s with
  | .ok (cs, rest) => .ok (String.ofList cs, rest)
  | .error e => .error e

/-- A value that holds no other values. -/
def scalar : Reader Json
  | 'n' :: s => keyword .null ['u', 'l', 'l'] s
  | 't' :: s => keyword (.bool true) ['r', 'u', 'e'] s
  | 'f' :: s => keyword (.bool false) ['a', 'l', 's', 'e'] s
  | '-' :: s => number true s
  | '"' :: s =>
    match stringRest s with
    | .ok (str, rest) => .ok (.string str, rest)
    | .error e => .error e
  | c :: s => if c.isDigit then number false (c :: s) else .error .malformed
  | [] => .error .incomplete

/-- The elements of an array after its opening bracket, folded with `item`. There are never more
elements than characters, which is what `fuel` is for. -/
def elements (item : σ → Reader σ) : Nat → Bool → σ → Reader σ
  | 0, _, _, _ => .error .incomplete
  | fuel + 1, first, acc, s =>
    let next (s : List Char) : Except Fault (σ × List Char) :=
      match item acc s with
      | .ok (acc, rest) => elements item fuel false acc rest
      | .error e => .error e
    match skipSpace s with
    | [] => .error .incomplete
    | ']' :: s => .ok (acc, s)
    | c :: s =>
      if first then next (c :: s)
      else if c == ',' then
        match skipSpace s with
        | [] => .error .incomplete
        | ']' :: _ => .error .malformed
        | c :: s => next (c :: s)
      else .error .malformed

/-- The colon after a member's name. -/
def colon : Reader Unit := fun s =>
  match skipSpace s with
  | [] => .error .incomplete
  | ':' :: s => .ok ((), s)
  | _ :: _ => .error .malformed

/-- The members of an object after its opening brace, folded with `member`, which is given what
`name` reads of a name after its opening quote and reads on from behind it. -/
def membersBy (name : Reader ν) (member : σ → ν → Reader σ) : Nat → Bool → σ → Reader σ
  | 0, _, _, _ => .error .incomplete
  | fuel + 1, first, acc, s =>
    let next (s : List Char) : Except Fault (σ × List Char) :=
      match name s with
      | .ok (k, rest) =>
        match member acc k rest with
        | .ok (acc, rest) => membersBy name member fuel false acc rest
        | .error e => .error e
      | .error e => .error e
    match skipSpace s with
    | [] => .error .incomplete
    | '\x7d' :: s => .ok (acc, s)
    | c :: s =>
      if first then (if c == '"' then next s else .error .malformed)
      else if c == ',' then
        match skipSpace s with
        | [] => .error .incomplete
        | '"' :: s => next s
        | _ :: _ => .error .malformed
      else .error .malformed

/-- The members of an object after its opening brace, folded with `member`. -/
def members (member : σ → String → Reader σ) : Nat → Bool → σ → Reader σ :=
  membersBy stringRest member

def consItem (value : Reader Json) (acc : List Json) : Reader (List Json) := fun s =>
  match value s with
  | .ok (j, rest) => .ok (j :: acc, rest)
  | .error e => .error e

def consMember (value : Reader Json) (acc : List (String × Json)) (name : String) :
    Reader (List (String × Json)) := fun s =>
  match colon s with
  | .error e => .error e
  | .ok ((), s) =>
    match value s with
    | .ok (j, rest) => .ok ((name, j) :: acc, rest)
    | .error e => .error e

/-- Any value with at most `depth` containers nested in one another. -/
def value : Nat → Reader Json
  | depth, s =>
    match skipSpace s with
    | '[' :: s =>
      match depth with
      | 0 => .error .malformed
      | depth + 1 =>
        match elements (consItem (value depth)) (s.length + 1) true [] s with
        | .ok (items, rest) => .ok (.array items.reverse, rest)
        | .error e => .error e
    | '\x7b' :: s =>
      match depth with
      | 0 => .error .malformed
      | depth + 1 =>
        match members (consMember (value depth)) (s.length + 1) true [] s with
        | .ok (ms, rest) => .ok (.object ms.reverse, rest)
        | .error e => .error e
    | s => scalar s

/-- How many containers may be nested in one another. -/
def maxDepth : Nat := 127

/-- Nothing but white space may follow what `read` reads. -/
def complete (read : Reader α) (s : List Char) : Except Fault α :=
  match read s with
  | .ok (a, rest) => if (skipSpace rest).isEmpty then .ok a else .error .malformed
  | .error e => .error e

def parse (text : String) : Except Fault Json := complete (value maxDepth) text.toList

end CommandBridge.Json
