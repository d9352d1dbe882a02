/-! Identifiers of 128 bits in their usual written forms. -/
namespace CommandBridge

structure Guid where
  bits : BitVec 128
  deriving DecidableEq, Repr

namespace Guid

/-- The 32 hexadecimal digits. -/
def hexChars (g : Guid) : List Char :=
  (List.range 32).map fun i => Nat.digitChar (g.bits.toNat / Nat.pow 16 (31 - i) % 16)

/-- Groups of 8, 4, 4, 4 and 12 digits with hyphens between them. -/
def chars (g : Guid) : List Char :=
  let h := g.hexChars
  h.take 8 ++ '-' :: (h.drop 8).take 4 ++ '-' :: (h.drop 12).take 4 ++ '-' ::
    (h.drop 16).take 4 ++ '-' :: h.drop 20

def text (g : Guid) : String := String.ofList g.chars

def hexValue? (c : Char) : Option Nat :=
  if c.isDigit then some (c.toNat - '0'.toNat)
  else
    let c := c.toLower
    if 'a' ≤ c && c ≤ 'f' then some (c.toNat - 'a'.toNat + 10) else none

/-- Exactly 32 digits. -/
def ofDigits? (s : List Char) : Option Guid :=
  if s.length = 32 then
    (s.mapM hexValue?).map fun ds => ⟨BitVec.ofNat 128 (ds.foldl (fun n d => n * 16 + d) 0)⟩
  else none

def ofHyphenated? (s : List Char) : Option Guid :=
  if s.length = 36 && [8, 13, 18, 23].all (fun i => s[i]? == some '-') then
    ofDigits? (s.take 8 ++ (s.drop 9).take 4 ++ (s.drop 14).take 4 ++ (s.drop 19).take 4 ++
      s.drop 24)
  else none

/-- Plain digits, or the hyphenated form, which may be in braces or follow `urn:uuid:` in any
case. -/
def readChars? (s : List Char) : Option Guid :=
  if s.length = 32 then ofDigits? s
  else if s.length = 38 && s.head? == some '\x7b' && s.getLast? == some '\x7d' then
    ofHyphenated? (s.drop 1).dropLast
  else if s.length = 45 && (s.take 9).map Char.toLower == "urn:uuid:".toList then
    ofHyphenated? (s.drop 9)
  else ofHyphenated? s

def read? (s : String) : Option Guid := readChars? s.toList

end Guid

end CommandBridge
