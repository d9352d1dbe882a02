/-! Text compared without regard to the case of the letters A to Z. -/
namespace CommandBridge.Text

/-- The same text once `A` to `Z` are read as `a` to `z`. -/
def sameIgnoringAsciiCase (s t : String) : Bool :=
  s.toList.map Char.toLower == t.toList.map Char.toLower

def sameCharsIgnoringAsciiCase (s t : List Char) : Bool :=
  s.map Char.toLower == t.map Char.toLower

end CommandBridge.Text
