/-! Percent-encoding of the parts of a URL. -/
namespace CommandBridge.Url

def percentByte (b : UInt8) : List Char :=
  let digit (n : Nat) : Char := (Nat.digitChar n).toUpper
  ['%', digit (b.toNat / 16), digit (b.toNat % 16)]

/-- Encodes what is beyond ASCII, the controls, and the characters of `set`. -/
def encodeChar (set : List Char) (c : Char) : List Char :=
  if c.toNat < 0x20 || 0x7f ≤ c.toNat || set.contains c then
    (String.utf8EncodeChar c).flatMap percentByte
  else [c]

def encode (set : List Char) (s : List Char) : List Char := s.flatMap (encodeChar set)

def fragmentSet : List Char := [' ', '"', '<', '>', '\x60']

def pathSet : List Char := fragmentSet ++ ['#', '?', '\x7b', '\x7d']

def userinfoSet : List Char := pathSet ++ ['/', ':', ';', '=', '@', '[', '\\', ']', '^', '|']

def querySet : List Char := [' ', '"', '#', '<', '>']

/-- In queries of the schemes with an authority the apostrophe is encoded too. -/
def specialQuerySet : List Char := '\'' :: querySet

def hexValue? (c : Char) : Option Nat :=
  if c.isDigit then some (c.toNat - '0'.toNat)
  else
    let c := c.toLower
    if 'a' ≤ c && c ≤ 'f' then some (c.toNat - 'a'.toNat + 10) else none

/-- The bytes that a text stands for. A percent sign without two hexadecimal digits is itself. -/
def decodeBytes : List Char → List UInt8
  | [] => []
  | '%' :: a :: b :: s =>
    match hexValue? a, hexValue? b with
    | some x, some y => UInt8.ofNat (x * 16 + y) :: decodeBytes s
    | _, _ => String.utf8EncodeChar '%' ++ decodeBytes (a :: b :: s)
  | c :: s => String.utf8EncodeChar c ++ decodeBytes s

/-- The text that a text stands for, if its bytes are UTF-8. -/
def decode? (s : List Char) : Option (List Char) :=
  (String.fromUTF8? (decodeBytes s).toByteArray).map String.toList

end CommandBridge.Url
