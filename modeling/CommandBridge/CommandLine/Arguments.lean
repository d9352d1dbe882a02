/-! The arguments of the command-line tool. -/
namespace CommandBridge.CommandLine

inductive Task where
  /-- Shows the pipeline of a command line. -/
  | compile (command : String)
  /-- Runs a command line. -/
  | run (command : String)
  deriving DecidableEq, Repr

structure Arguments where
  configFile : Option String
  task : Task
  deriving DecidableEq, Repr

/-- What there is help on. -/
inductive Topic where
  | tool
  | compile
  | run
  | help
  deriving DecidableEq, Repr

/-- What arguments ask for. -/
inductive Wish where
  | help (topic : Topic)
  | perform (arguments : Arguments)
  deriving DecidableEq, Repr

/-- Arguments that start with a dash are options; a dash by itself is a value. -/
def isOption (argument : String) : Bool := argument.startsWith "-" && argument != "-"

/-- Letters after `-h` do not matter. -/
def asksForHelp (argument : String) : Bool := argument = "--help" || argument.startsWith "-h"

/-- The wish behind a task's arguments, `value` being the command line among those before. After two
dashes everything is a value. -/
def taskWish? (topic : Topic) (wish : String → Wish) : Option String → List String → Option Wish
  | value, [] => value.map wish
  | value, argument :: rest =>
    if argument = "--" then
      match value.toList ++ rest with
      | [value] => some (wish value)
      | _ => none
    else if asksForHelp argument then some (.help topic)
    else if isOption argument || value.isSome then none
    else taskWish? topic wish (some argument) rest

/-- The wish for help on a task. -/
def helpWish? : List String → Option Wish
  | [] => some (.help .tool)
  | ["compile"] => some (.help .compile)
  | ["run"] => some (.help .run)
  | ["help"] => some (.help .help)
  | _ => none

def wish? (file : Option String) : List String → Option Wish
  | "compile" :: rest => taskWish? .compile (fun s => .perform ⟨file, .compile s⟩) none rest
  | "run" :: rest => taskWish? .run (fun s => .perform ⟨file, .run s⟩) none rest
  | "help" :: rest => helpWish? rest
  | argument :: _ => if asksForHelp argument then some (.help .tool) else none
  | [] => none

/-- The text after a leading part. -/
def after? (start argument : List Char) : Option (List Char) :=
  if start.isPrefixOf argument then some (argument.drop start.length) else none

/-- The file that an option names in the same argument. -/
def attachedFile? (argument : String) : Option (List Char) :=
  let s := argument.toList
  (after? "--config=".toList s).or ((after? "-c=".toList s).or
    ((after? "-c".toList s).filter (· ≠ [])))

/-- The file named before the task, and the arguments from the task on. A file that is named twice
or has no name is refused. -/
def configFile? : List String → Option (Option String × List String)
  | [] => some (none, [])
  | argument :: rest =>
    if argument = "--config" || argument = "-c" then
      match rest with
      | [] => none
      | file :: rest =>
        if isOption file || file.isEmpty then none else some (some file, rest)
    else
      match attachedFile? argument with
      | some [] => none
      | some file => some (some (String.ofList file), rest)
      | none => some (none, argument :: rest)

/-- The wish behind the arguments of the tool, unless they are wrong. -/
def Wish.ofList? (arguments : List String) : Option Wish := do
  let (file, rest) ← configFile? arguments
  wish? file rest

end CommandBridge.CommandLine
