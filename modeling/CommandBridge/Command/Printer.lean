import CommandBridge.Command.Literal

/-! Pipelines as command lines. There are no escapes, so text that holds both kinds of quote is
shown, but does not compile to itself. -/
namespace CommandBridge.Command

open Text

def needsQuotes (s : List Char) : Bool :=
  s.isEmpty || s.head? == some '-' ||
    s.any fun c => isBlank c || c == ',' || c == '|' || isQuote c

/-- Wrapped in the quote that the text does not hold. -/
def quote (s : List Char) : List Char :=
  let q := if s.contains '\'' then '"' else '\''
  q :: s ++ [q]

def printItem (s : String) : List Char := if needsQuotes s.toList then quote s.toList else s.toList

/-- Quoted unless the bare text is a literal for the same string. -/
def printString (s : String) : List Char :=
  if needsQuotes s.toList || literal s.toList ≠ .string s then quote s.toList else s.toList

def Value.print : Value → List Char
  | .null => "$null".toList
  | .bool true => "$true".toList
  | .bool false => "$false".toList
  | .int n => Decimal.int64Digits n
  | .string s => printString s
  | .list items => [','].intercalate (items.map printItem)

def Parameter.print : Parameter → List Char
  | .named key (.bool true) => " -".toList ++ key.toList
  | .named key value => " -".toList ++ key.toList ++ ' ' :: value.print
  | .positional values => ' ' :: ", ".toList.intercalate (values.map printItem)

def Stage.print (s : Stage) : List Char := s.name.toList ++ s.parameters.flatMap Parameter.print

def printChars (p : Pipeline) : List Char := " | ".toList.intercalate (p.map Stage.print)

def Value.display (v : Value) : String := String.ofList v.print

/-- The command line of a pipeline. -/
def display (p : Pipeline) : String := String.ofList (printChars p)

end CommandBridge.Command
