import CommandBridge.Decimal.Integer
import CommandBridge.Moment.Basic
import CommandBridge.Text.Blank

/-! Moments written as RFC 3339 dates and read from a relaxed form of them. -/
namespace CommandBridge.Moment

open Text

/-- At least `width` digits, zeros in front. -/
def padded (width n : Nat) : List Char :=
  let ds := Decimal.digits n
  List.replicate (width - ds.length) '0' ++ ds

/-- A year of four digits has no sign. -/
def writeYear (y : Int) : List Char :=
  if 0 ≤ y && y ≤ 9999 then padded 4 y.toNat
  else (if y < 0 then '-' else '+') :: padded 4 y.natAbs

/-- No digits, or as many as are needed of three, six and nine. -/
def writeFraction (nano : Nat) : List Char :=
  if nano = 0 then []
  else if nano % 1000000 = 0 then '.' :: padded 3 (nano / 1000000)
  else if nano % 1000 = 0 then '.' :: padded 6 (nano / 1000)
  else '.' :: padded 9 nano

def writeWith (fraction : Bool) (t : Moment) : List Char :=
  let (y, m, d) := dateOfDay t.day
  let s := t.second.val
  let leap := t.nano.val / 1000000000
  writeYear y ++ '-' :: padded 2 m ++ '-' :: padded 2 d ++ 'T' ::
    padded 2 (s / 3600) ++ ':' :: padded 2 (s / 60 % 60) ++ ':' :: padded 2 (s % 60 + leap) ++
    (if fraction then writeFraction (t.nano.val % 1000000000) else []) ++ ['Z']

/-- The exact text. -/
def text (t : Moment) : String := String.ofList (writeWith true t)

/-- The text to the whole second, the fraction cut off. -/
def textToSecond (t : Moment) : String := String.ofList (writeWith false t)

abbrev Rest := List Char

/-- One to `width` digits. -/
def readDigits? (width : Nat) (s : Rest) : Option (Nat × Rest) :=
  let ds := (s.take width).takeWhile Char.isDigit
  if ds.isEmpty then none else some (Nat.ofDigitChars 10 ds 0, s.drop ds.length)

/-- A field of a date, blanks before it skipped. -/
def readField? (width : Nat) (s : Rest) : Option (Nat × Rest) :=
  readDigits? width (s.dropWhile isBlank)

/-- A year has four digits, or a sign and any number of them. -/
def readYear? (s : Rest) : Option (Int × Rest) :=
  match s.dropWhile isBlank with
  | '-' :: t => (readDigits? t.length t).map fun (n, r) => (-(n : Int), r)
  | '+' :: t => (readDigits? t.length t).map fun (n, r) => ((n : Int), r)
  | t => (readDigits? 4 t).map fun (n, r) => ((n : Int), r)

def readMark? (c : Char) (s : Rest) : Option Rest :=
  match s with
  | x :: t => if x = c then some t else none
  | [] => none

/-- A separator with blanks before it. -/
def readSeparator? (c : Char) (s : Rest) : Option Rest := readMark? c (s.dropWhile isBlank)

/-- Nanoseconds. Digits after the ninth are dropped. -/
def readFraction? (s : Rest) : Option (Nat × Rest) :=
  match s with
  | '.' :: t => (readDigits? 9 t).map fun (n, r) =>
      (n * Nat.pow 10 (9 - (t.length - r.length)), r.dropWhile Char.isDigit)
  | _ => some (0, s)

def digitValue? (c : Char) : Option Nat :=
  if c.isDigit then some (c.toNat - '0'.toNat) else none

/-- Seconds east of UTC: `Z`, `UTC`, or a sign, two digits of hours and two of minutes. -/
def readOffset? (s : Rest) : Option (Int × Rest) :=
  match s with
  | u :: t :: c :: r =>
    if u.toLower = 'u' && t.toLower = 't' && c.toLower = 'c' then some (0, r) else readShift? s
  | _ => readShift? s
where
  readShift? : Rest → Option (Int × Rest)
    | 'Z' :: r => some (0, r)
    | 'z' :: r => some (0, r)
    | '+' :: r => readHours? 1 r
    | '-' :: r => readHours? (-1) r
    | '\u2212' :: r => readHours? (-1) r
    | _ => none
  readHours? (sign : Int) : Rest → Option (Int × Rest)
    | a :: b :: r => do
      let a ← digitValue? a
      let b ← digitValue? b
      match r.dropWhile fun c => c == ':' || isBlank c with
      | c :: d :: r => do
        let c ← digitValue? c
        let d ← digitValue? d
        if c < 6 then some (sign * ((a * 10 + b) * 3600 + (c * 10 + d) * 60 : Nat), r) else none
      | _ => none
    | _ => none

/-- The moment of a date and time at an offset from UTC. -/
def ofFields? (y : Int) (m d hour minute second nano : Nat) (offset : Int) : Option Moment :=
  if -262143 ≤ y && y ≤ 262142 && 1 ≤ m && m ≤ 12 && 1 ≤ d && d ≤ daysInMonth y m &&
      hour < 24 && minute < 60 && second ≤ 60 && -86400 < offset && offset < 86400 then
    let leap := if second = 60 then 1000000000 else 0
    let time : Int := (hour * 3600 + minute * 60 + min second 59 : Nat) - offset
    let day := dayOfDate y m d + time / 86400
    if firstDay ≤ day && day ≤ lastDay then
      some ⟨day, Fin.ofNat _ (time % 86400).toNat, Fin.ofNat _ (nano + leap)⟩
    else none
  else none

def readChars? (s : List Char) : Option Moment := do
  let (y, s) ← readYear? s
  let s ← readSeparator? '-' s
  let (m, s) ← readField? 2 s
  let s ← readSeparator? '-' s
  let (d, s) ← readField? 2 s
  let s ← match s with
    | c :: r => if c = 'T' || c = 't' || c = ' ' then some r else none
    | [] => none
  let (hour, s) ← readField? 2 s
  let s ← readSeparator? ':' s
  let (minute, s) ← readField? 2 s
  let s ← readSeparator? ':' s
  let (second, s) ← readField? 2 s
  let (nano, s) ← readFraction? s
  let (offset, s) ← readOffset? (s.dropWhile isBlank)
  if allBlank s then ofFields? y m d hour minute second nano offset else none

def read? (s : String) : Option Moment := readChars? s.toList

end CommandBridge.Moment
