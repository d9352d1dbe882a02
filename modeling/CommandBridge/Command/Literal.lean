import CommandBridge.Command.Basic
import CommandBridge.Command.Quoting
import CommandBridge.Decimal.Integer
import CommandBridge.Text.Ascii
import CommandBridge.Text.Blank

/-! Literals: the typed value that a piece of command text stands for. -/
namespace CommandBridge.Command

open Text

def isComma (c : Char) : Bool := c == ','

/-- One item of a comma list. Blank text is no item; quotes around an item are taken off. -/
def listItem? (piece : List Char) : Option String :=
  let s := trim piece
  if s.isEmpty then none else some (String.ofList (unquote s))

def splitList (s : List Char) : List String := (pieces isComma none s).filterMap listItem?

def hasComma (s : List Char) : Bool := 1 < (pieces isComma none s).length

/-- The value of a literal that has no white space around it. Markers come first, then quoted text,
lists and numbers; anything else is a string. -/
def literalOfTrimmed (s : List Char) : Value :=
  if sameCharsIgnoringAsciiCase s "$true".toList then .bool true
  else if sameCharsIgnoringAsciiCase s "$false".toList then .bool false
  else if sameCharsIgnoringAsciiCase s "$null".toList then .null
  else
    match stripQuotes? s with
    | some inner => .string (String.ofList inner)
    | none =>
      if hasComma s then .list (splitList s)
      else
        match Decimal.readInt64? s with
        | some n => .int n
        | none => .string (String.ofList s)

def literal (s : List Char) : Value := literalOfTrimmed (trim s)

/-- The value that the text of a literal stands for. -/
def Value.ofText (s : String) : Value := literal s.toList

end CommandBridge.Command
