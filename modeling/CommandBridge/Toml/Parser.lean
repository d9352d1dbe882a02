import CommandBridge.Decimal.Binary64
import CommandBridge.Toml.Basic

/-! TOML text. -/
namespace CommandBridge.Toml

/-- Reads something off the front of a text. -/
abbrev Parser (α : Type) := List Char → Option (α × List Char)

def isBlank (c : Char) : Bool := c == ' ' || c == '\t'

def skipBlanks (s : List Char) : List Char := s.dropWhile isBlank

/-- Characters that may stand in comments and strings. -/
def isPlain (c : Char) : Bool := c == '\t' || (0x20 ≤ c.toNat && c.toNat != 0x7f)

def isBareKeyChar (c : Char) : Bool := c.isAlphanum || c == '-' || c == '_'

/-- A line end, if there is one here. -/
def newline? : List Char → Option (List Char)
  | '\n' :: s => some s
  | '\r' :: '\n' :: s => some s
  | _ => none

/-- The rest of a comment's line. -/
def skipComment (s : List Char) : List Char :=
  match s with
  | '#' :: t => t.dropWhile isPlain
  | _ => s

/-- Blanks, a comment and the end of the line, or of the text. -/
def endOfLine? (s : List Char) : Option (List Char) :=
  match skipComment (skipBlanks s) with
  | [] => some []
  | t => newline? t

/-- Blanks, comments and line ends. -/
def skipFiller : Nat → List Char → List Char
  | 0, s => s
  | fuel + 1, s =>
    let t := skipComment (skipBlanks s)
    match newline? t with
    | some t => skipFiller fuel t
    | none => t

def hexValue? (c : Char) : Option Nat :=
  if c.isDigit then some (c.toNat - '0'.toNat)
  else
    let c := c.toLower
    if 'a' ≤ c && c ≤ 'f' then some (c.toNat - 'a'.toNat + 10) else none

/-- The character with the given hexadecimal number of exactly `width` digits. -/
def unicodeEscape? (width : Nat) : Parser Char := fun s => do
  if s.length < width then none
  let n ← (s.take width).foldlM (fun n c => do return n * 16 + (← hexValue? c)) 0
  if n < 0xd800 || (0xe000 ≤ n && n < 0x110000) then some (Char.ofNat n, s.drop width) else none

/-- An escape after its backslash. -/
def escape? : Parser Char
  | 'b' :: s => some ('\x08', s)
  | 't' :: s => some ('\t', s)
  | 'n' :: s => some ('\n', s)
  | 'f' :: s => some ('\x0c', s)
  | 'r' :: s => some ('\r', s)
  | '"' :: s => some ('"', s)
  | '\\' :: s => some ('\\', s)
  | 'u' :: s => unicodeEscape? 4 s
  | 'U' :: s => unicodeEscape? 8 s
  | _ => none

def consChar (c : Char) (r : Option (List Char × List Char)) : Option (List Char × List Char) :=
  r.map fun (cs, s) => (c :: cs, s)

/-- A basic string after its opening quote. -/
def basicString : Nat → Parser (List Char)
  | 0, _ => none
  | fuel + 1, s =>
    match s with
    | '"' :: s => some ([], s)
    | '\\' :: s => do
      let (c, s) ← escape? s
      consChar c (basicString fuel s)
    | c :: s => if isPlain c then consChar c (basicString fuel s) else none
    | [] => none

/-- A literal string after its opening quote. -/
def literalString : Parser (List Char)
  | '\'' :: s => some ([], s)
  | c :: s => if isPlain c then consChar c (literalString s) else none
  | [] => none

/-- The end of a text of several lines: three quotes, with up to two more that belong to it. -/
def closing? (q : Char) (s : List Char) : Option (List Char × List Char) :=
  let quotes := (s.takeWhile (· == q)).length
  if quotes < 3 || 5 < quotes then none
  else some (List.replicate (quotes - 3) q, s.drop quotes)

/-- Blanks and line ends. -/
def skipLines : Nat → List Char → List Char
  | 0, s => s
  | fuel + 1, s =>
    match newline? (skipBlanks s) with
    | some t => skipLines fuel t
    | none => skipBlanks s

/-- A backslash at the end of a line, after which line ends and blanks are left out. -/
def lineJoin? (s : List Char) : Option (List Char) :=
  (newline? (skipBlanks s)).map fun t => skipLines t.length t

/-- A basic string of several lines after its opening quotes. -/
def longBasicString : Nat → Parser (List Char)
  | 0, _ => none
  | fuel + 1, s =>
    match closing? '"' s with
    | some end_ => some end_
    | none =>
      match s with
      | '\\' :: s =>
        match lineJoin? s with
        | some t => longBasicString fuel t
        | none => do
          let (c, s) ← escape? s
          consChar c (longBasicString fuel s)
      | '\n' :: s => consChar '\n' (longBasicString fuel s)
      | '\r' :: '\n' :: s => consChar '\n' (longBasicString fuel s)
      | c :: s =>
        if c == '"' && (s.takeWhile (· == '"')).length > 4 then none
        else if isPlain c then consChar c (longBasicString fuel s)
        else none
      | [] => none

/-- A literal string of several lines after its opening quotes. -/
def longLiteralString : Nat → Parser (List Char)
  | 0, _ => none
  | fuel + 1, s =>
    match closing? '\'' s with
    | some end_ => some end_
    | none =>
      match s with
      | '\n' :: s => consChar '\n' (longLiteralString fuel s)
      | '\r' :: '\n' :: s => consChar '\n' (longLiteralString fuel s)
      | c :: s =>
        if c == '\'' && (s.takeWhile (· == '\'')).length > 4 then none
        else if isPlain c then consChar c (longLiteralString fuel s)
        else none
      | [] => none

/-- A line end right after the opening quotes is left out. -/
def skipFirstNewline (s : List Char) : List Char := (newline? s).getD s

def string? : Parser String := fun s =>
  let result := match s with
    | '"' :: '"' :: '"' :: s => longBasicString (s.length + 1) (skipFirstNewline s)
    | '\'' :: '\'' :: '\'' :: s => longLiteralString (s.length + 1) (skipFirstNewline s)
    | '"' :: s => basicString (s.length + 1) s
    | '\'' :: s => literalString s
    | _ => none
  result.map fun (cs, s) => (String.ofList cs, s)

/-- A bare key, or one in quotes on one line. -/
def simpleKey? : Parser String := fun s =>
  match s with
  | '"' :: t => (basicString (t.length + 1) t).map fun (cs, s) => (String.ofList cs, s)
  | '\'' :: t => (literalString t).map fun (cs, s) => (String.ofList cs, s)
  | _ =>
    let key := s.takeWhile isBareKeyChar
    if key.isEmpty then none else some (String.ofList key, s.drop key.length)

/-- Keys with dots between them; blanks around them do not matter. -/
def keys? : Nat → Parser (List String)
  | 0, _ => none
  | fuel + 1, s => do
    let (k, s) ← simpleKey? (skipBlanks s)
    match skipBlanks s with
    | '.' :: s => do
      let (ks, s) ← keys? fuel s
      return (k :: ks, s)
    | s => return ([k], s)

/-- How deep values may stand in others, and how many keys may follow on one another. -/
def depthLimit : Nat := 79

def key? (fuel : Nat) : Parser (List String) := fun s => do
  let (ks, s) ← keys? fuel s
  if depthLimit < ks.length then none else some (ks, s)

/-- Digits with single underscores between them. -/
def grouped? (isDigit : Char → Bool) (s : List Char) : Option (List Char) :=
  let rec go (afterDigit : Bool) : List Char → Option (List Char)
    | [] => if afterDigit then some [] else none
    | '_' :: s => if afterDigit then go false s else none
    | c :: s => if isDigit c then (go true s).map (c :: ·) else none
  go false s

def digitsValue (radix : Nat) (ds : List Char) : Nat :=
  ds.foldl (fun n c => n * radix + (hexValue? c).getD 0) 0

def inRange (i : Int) : Option Value :=
  if Int64.minValue.toInt ≤ i && i ≤ Int64.maxValue.toInt then some (.int i) else none

def isHexDigit (c : Char) : Bool := (hexValue? c).isSome

def isOctalDigit (c : Char) : Bool := '0' ≤ c && c ≤ '7'

def isBinaryDigit (c : Char) : Bool := c == '0' || c == '1'

/-- Decimal digits without a zero in front of others. -/
def decimal? (s : List Char) : Option (List Char) := do
  let ds ← grouped? Char.isDigit s
  if ds.head? = some '0' && 1 < ds.length then none else some ds

def unsigned (s : List Char) : List Char :=
  match s with
  | '+' :: t => t
  | '-' :: t => t
  | _ => s

/-- The mantissa and the exponent of a number. -/
def isFloat (s : List Char) : Bool :=
  let s := unsigned s
  if s == ['i', 'n', 'f'] || s == ['n', 'a', 'n'] then true
  else
    let mantissa := s.takeWhile fun c => c != 'e' && c != 'E'
    let exponentOk := match s.dropWhile fun c => c != 'e' && c != 'E' with
      | [] => true
      | _ :: e => (grouped? Char.isDigit (unsigned e)).isSome
    let fractionOk := match mantissa.dropWhile (· != '.') with
      | [] => mantissa.length < s.length
      | _ :: f => (grouped? Char.isDigit f).isSome
    (decimal? (mantissa.takeWhile (· != '.'))).isSome && exponentOk && fractionOk

/-- Whether a number without its sign is read as infinity. -/
def isTooLarge (s : List Char) : Bool :=
  let isMark (c : Char) : Bool := c == 'e' || c == 'E'
  let mantissa := s.takeWhile (!isMark ·)
  let exponent := (s.dropWhile (!isMark ·)).drop 1
  let magnitude : Int := digitsValue 10 ((unsigned exponent).filter Char.isDigit)
  let exponent := if exponent.head? = some '-' then -magnitude else magnitude
  let places := ((mantissa.dropWhile (· != '.')).filter Char.isDigit).length
  let ds := (mantissa.filter Char.isDigit).dropWhile (· == '0')
  let power := exponent - places
  if ds.isEmpty || ds.length + power < 309 then false
  else if 309 < ds.length + power then true
  else
    let n := digitsValue 10 ds * Nat.pow 10 power.toNat
    !(Decimal.Binary64.ofRatio false n (Nat.pow 10 (-power).toNat)).isFinite

/-- A number that is too large is none, unless it is negative. -/
def number? (s : List Char) : Option Value :=
  match s with
  | '0' :: 'x' :: t => do inRange (digitsValue 16 (← grouped? isHexDigit t))
  | '0' :: 'o' :: t => do inRange (digitsValue 8 (← grouped? isOctalDigit t))
  | '0' :: 'b' :: t => do inRange (digitsValue 2 (← grouped? isBinaryDigit t))
  | _ =>
    match decimal? (unsigned s) with
    | some ds =>
      let n : Int := digitsValue 10 ds
      inRange (if s.head? = some '-' then -n else n)
    | none =>
      if isFloat s && (s.head? = some '-' || !isTooLarge (unsigned s)) then some .float else none

/-- Digits of fixed number, as a value in a range. -/
def twoDigits? (low high : Nat) : List Char → Option (List Char)
  | a :: b :: s =>
    let n := digitsValue 10 [a, b]
    if a.isDigit && b.isDigit && low ≤ n && n ≤ high then some s else none
  | _ => none

def mark? (c : Char) : List Char → Option (List Char)
  | x :: s => if x == c then some s else none
  | [] => none

def fullDate? (s : List Char) : Option (List Char) := do
  let year := s.take 4
  if year.length = 4 && year.all Char.isDigit then
    let month := digitsValue 10 ((s.drop 5).take 2)
    let y := digitsValue 10 year
    let leap := y % 4 = 0 && (y % 100 != 0 || y % 400 = 0)
    let days := if month = 2 then (if leap then 29 else 28)
      else if [4, 6, 9, 11].contains month then 30 else 31
    let s ← mark? '-' (s.drop 4)
    let s ← twoDigits? 1 12 s
    let s ← mark? '-' s
    twoDigits? 1 days s
  else none

def partialTime? (s : List Char) : Option (List Char) := do
  let s ← twoDigits? 0 23 s
  let s ← mark? ':' s
  let s ← twoDigits? 0 59 s
  let s ← mark? ':' s
  let s ← twoDigits? 0 60 s
  match s with
  | '.' :: t => if (t.takeWhile Char.isDigit).isEmpty then none else some (t.dropWhile Char.isDigit)
  | _ => some s

/-- The offset of a time, if there is one. -/
def timeOffset? (s : List Char) : Option (List Char) :=
  match s with
  | 'Z' :: t => some t
  | 'z' :: t => some t
  | c :: t =>
    if c == '+' || c == '-' then do
      let t ← twoDigits? 0 23 t
      let t ← mark? ':' t
      twoDigits? 0 59 t
    else some s
  | [] => some []

/-- A date, a time, or both. -/
def date? : Parser Value := fun s =>
  match fullDate? s with
  | some t =>
    let withTime := match t with
      | c :: u =>
        if c == 'T' || c == 't' || c == ' ' then (partialTime? u).bind timeOffset? else none
      | [] => none
    match withTime with
    | some u => some (.date, u)
    | none => some (.date, t)
  | none => (partialTime? s).map fun t => (.date, t)

def isWordChar (c : Char) : Bool := c.isAlphanum || c == '_' || c == '+' || c == '-' || c == '.'

/-- A number, a truth value or a date. -/
def word? : Parser Value := fun s =>
  match date? s with
  | some r => some r
  | none =>
    let word := s.takeWhile isWordChar
    let value :=
      if word = ['t', 'r', 'u', 'e'] then some (Value.bool true)
      else if word = ['f', 'a', 'l', 's', 'e'] then some (.bool false)
      else number? word
    value.map fun v => (v, s.drop word.length)

mutual

/-- A value in which others stand at most `depth` deep. -/
def value? : (fuel depth : Nat) → Parser Value
  | 0, _, _ => none
  | fuel + 1, depth, s =>
    match s with
    | '[' :: s =>
      match depth with
      | 0 => none
      | depth + 1 =>
        (items? fuel depth (skipFiller fuel s)).map fun (vs, s) => (.array vs, s)
    | '\x7b' :: s =>
      match depth with
      | 0 => none
      | depth + 1 =>
        match skipBlanks s with
        | '\x7d' :: s => some (.table [], s)
        | s => do
          let (es, s) ← inlineEntries? fuel depth s
          return (← inlineTable? es, s)
    | '"' :: _ => (string? s).map fun (t, s) => (.string t, s)
    | '\'' :: _ => (string? s).map fun (t, s) => (.string t, s)
    | s => word? s

/-- The items of an array; a comma may follow the last one. -/
def items? : (fuel depth : Nat) → Parser (List Value)
  | 0, _, _ => none
  | fuel + 1, depth, s =>
    match s with
    | ']' :: s => some ([], s)
    | s => do
      let (v, s) ← value? fuel depth s
      match skipFiller fuel s with
      | ']' :: s => return ([v], s)
      | ',' :: s => do
        let (vs, s) ← items? fuel depth (skipFiller fuel s)
        return (v :: vs, s)
      | _ => none

/-- The entries of an inline table, all on one line. -/
def inlineEntries? : (fuel depth : Nat) → Parser (List (List String × Value))
  | 0, _, _ => none
  | fuel + 1, depth, s => do
    let (k, s) ← key? fuel s
    match s with
    | '=' :: s => do
      let (v, s) ← value? fuel depth (skipBlanks s)
      match skipBlanks s with
      | '\x7d' :: s => return ([(k, v)], s)
      | ',' :: s => do
        let (es, s) ← inlineEntries? fuel depth s
        return ((k, v) :: es, s)
      | _ => none
    | _ => none

end

def statement? (fuel : Nat) : Parser Statement := fun s =>
  match s with
  | '[' :: '[' :: s => do
    let (k, s) ← key? fuel s
    match s with
    | ']' :: ']' :: s => return (.arrayHeader k, ← endOfLine? s)
    | _ => none
  | '[' :: s => do
    let (k, s) ← key? fuel s
    match s with
    | ']' :: s => return (.header k, ← endOfLine? s)
    | _ => none
  | s => do
    let (k, s) ← key? fuel s
    match s with
    | '=' :: s => do
      let (v, s) ← value? fuel depthLimit (skipBlanks s)
      return (.entry k v, ← endOfLine? s)
    | _ => none

def statements? : Nat → List Char → Option (List Statement)
  | 0, _ => none
  | fuel + 1, s =>
    match skipFiller fuel s with
    | [] => some []
    | s => do
      let (st, s) ← statement? fuel s
      return st :: (← statements? fuel s)

/-- The document of a text; a byte order mark in front does not matter. -/
def parse? (text : String) : Option Value := do
  let s := match text.toList with
    | '\ufeff' :: s => s
    | s => s
  build? (← statements? (s.length + 2) s)

end CommandBridge.Toml
