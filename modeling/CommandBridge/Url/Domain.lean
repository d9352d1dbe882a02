import CommandBridge.Text.Direction
import CommandBridge.Text.Joining
import CommandBridge.Text.Normal.Basic
import CommandBridge.Url.Domain.Mapping
import CommandBridge.Url.Punycode

/-! Domain names in their ASCII form. -/
namespace CommandBridge.Url

open Text

def forbiddenInDomain : List Char :=
  ['%', '#', '/', ':', '<', '>', '?', '@', '[', '\\', ']', '^', '|']

def isDomainChar (c : Char) : Bool :=
  128 ≤ c.toNat || (0x20 < c.toNat && c.toNat != 0x7f && !forbiddenInDomain.contains c)

def isAscii (s : List Char) : Bool := s.all (·.toNat < 128)

/-- What the label of a domain says. One that starts with `xn--` is read as Punycode, and has to
say what no shorter or plainer form says. -/
def labelText? (label : List Char) : Option (List Char) :=
  if "xn--".toList.isPrefixOf label then
    let digits := label.drop 4
    if !isAscii label || label.getLast? = some '-' || 2000 < digits.length then none
    else do
      let text ← Punycode.decode? digits
      if text.all (fun c => domainChar? c = some [c] && isDomainChar c) && normalForm text = text
      then some text
      else none
  else some label

/-- Whether the nearest letter, past its marks, has property `p`. -/
def faces (p : Char → Bool) (s : List Char) : Bool := ((s.dropWhile isTransparent).head?).any p

/-- Joiners stand after a mark that leaves out a vowel; the zero-width non-joiner also stands
between letters that would connect. `before` is what precedes, nearest character first. -/
def joinersFit (before : List Char) : List Char → Bool
  | [] => true
  | c :: s =>
    let afterVirama := before.head?.any (combiningClass · == 9)
    (if c = '\u200c' then afterVirama || (faces joinsNext before && faces joinsPrevious s)
      else c != '\u200d' || afterVirama) && joinersFit (c :: before) s

def isSoundLabel (text : List Char) : Bool :=
  !text.head?.any isMark && joinersFit [] text && (isAscii text || text.length ≤ 1000)

/-- Whether a label goes one way only: it starts with a letter and ends with a letter or a digit of
that direction, and digits of two kinds do not mix. -/
def goesOneWay (text : List Char) : Bool :=
  let ds := text.map direction
  let last := (ds.filter (· != .nonspacing)).getLast?
  match ds with
  | [] => true
  | .leftToRight :: _ =>
    last.any [.leftToRight, .europeanNumber].contains
      && !ds.any [.rightToLeft, .arabicNumber].contains
  | .rightToLeft :: _ =>
    last.any [.rightToLeft, .europeanNumber, .arabicNumber].contains
      && !ds.contains .leftToRight && !(ds.contains .europeanNumber && ds.contains .arabicNumber)
  | _ => false

def isRightToLeft (text : List Char) : Bool :=
  text.any fun c => [.rightToLeft, .arabicNumber].contains (direction c)

def asciiLabel (label : List Char) : List Char :=
  if isAscii label then label else "xn--".toList ++ Punycode.encode label

/-- The ASCII form of a domain. Once a label goes from right to left, every label has to go one
way. -/
def asciiDomain? (s : List Char) : Option (List Char) := do
  let domain := normalForm (← s.mapM domainChar?).flatten
  let labels := domain.splitOn '.'
  let texts ← labels.mapM labelText?
  if domain.all isDomainChar && texts.all isSoundLabel
      && (!texts.any isRightToLeft || texts.all goesOneWay) then
    some (['.'].intercalate (labels.map asciiLabel))
  else none

end CommandBridge.Url
