import CommandBridge.Command.Literal
import CommandBridge.Text.Letter

/-! Pipelines from command lines. Nothing is refused: what is not a command is left out. -/
namespace CommandBridge.Command

open Text

/-- The tokens of each stage. Tokens keep their quotes, so that a quoted number stays text. -/
def scan (s : List Char) : List (List (List Char)) :=
  (pieces (· == '|') none (closed s)).map fun stage =>
    (pieces isBlank none stage).filter (· ≠ [])

/-- A dash followed by a letter, so that `-1` stays a value. -/
def isParameterName : List Char → Bool
  | '-' :: c :: _ => isLetter c
  | _ => false

/-- The key and the value bound to it by a colon, of a token that starts with a dash. -/
def splitParameter (token : List Char) : List Char × Option (List Char) :=
  let body := token.drop 1
  match body.dropWhile (· != ':') with
  | _ :: c :: value => (body.takeWhile (· != ':'), some (c :: value))
  | _ => (body.takeWhile (· != ':'), none)

/-- The tokens before the first parameter name, and each parameter name with the tokens that
follow it. -/
def groupTokens : List (List Char) → List (List Char) × List (List Char × List (List Char))
  | [] => ([], [])
  | t :: ts =>
    let (values, groups) := groupTokens ts
    if isParameterName t then ([], (t, values) :: groups) else (t :: values, groups)

def joinTokens (tokens : List (List Char)) : List Char := [' '].intercalate tokens

def trimSeparators (s : List Char) : List Char := dropEndWhile (fun c => c == ',' || isBlank c) s

/-- A parameter name without a value is a switch. -/
def valueOfTokens (tokens : List (List Char)) : Value :=
  match trimSeparators (joinTokens tokens) with
  | [] => .bool true
  | s => literal s

def namedParameter (group : List Char × List (List Char)) : Parameter :=
  let (key, inline) := splitParameter group.1
  .named (String.ofList key) (valueOfTokens (inline.toList ++ group.2))

def positionalParameters (tokens : List (List Char)) : List Parameter :=
  match splitList (joinTokens tokens) with
  | [] => []
  | values => [.positional values]

/-- A stage without a name is no stage. -/
def buildStage : List (List Char) → Option Stage
  | [] => none
  | first :: rest =>
    let name := unquote first
    if allBlank name then none
    else
      let (values, groups) := groupTokens rest
      some ⟨String.ofList name, positionalParameters values ++ groups.map namedParameter⟩

def compileChars (s : List Char) : Pipeline := (scan s).filterMap buildStage

def compile (command : String) : Pipeline := compileChars command.toList

end CommandBridge.Command
