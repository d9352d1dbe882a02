import CommandBridge.Config.Basic
import CommandBridge.Toml.Parser

/-! Configurations read from structured data. Settings that are left out have their defaults, and
unknown ones do not matter. -/
namespace CommandBridge.Config

/-- What a format makes of an array that stands for a section, and of a name that is given as a
section of its own. -/
structure Dialect where
  /-- Whether an array may hold more values than there are settings. -/
  surplus : Bool
  /-- Whether a value says nothing. -/
  isUnit : Json → Bool

def Dialect.json : Dialect where
  surplus := false
  isUnit
    | .null => true
    | _ => false

def Dialect.toml : Dialect where
  surplus := true
  isUnit
    | .object [] => true
    | .array [] => true
    | _ => false

/-- The values of the named settings of a section, which is an object or an array in the order of
the names. -/
def settings? (d : Dialect) (names : List String) (j : Json) : Option (List (Option Json)) :=
  match j with
  | .object _ => some (names.map j.field?)
  | .array items =>
    if names.length < items.length && !d.surplus then none
    else some ((List.range names.length).map (items[·]?))
  | _ => none

/-- The value of a setting, or its default. -/
def setting (default : α) (f : Json → Option α) : Option Json → Option α
  | some j => f j
  | none => some default

def seconds? : Json → Option Nat
  | .int i => if 0 ≤ i then some i.toNat else none
  | _ => none

def mechanism? (d : Dialect) : Json → Option Mechanism
  | .string s => Mechanism.ofName? s
  | .object [(name, v)] => if d.isUnit v then Mechanism.ofName? name else none
  | _ => none

def remote? (d : Dialect) (j : Json) : Option Remote := do
  match ← settings? d ["endpoint", "configuration_scope", "auth_mechanism"] j with
  | [some endpoint, scope, mechanism] =>
    return ⟨← endpoint.string?, ← setting defaultScope Json.string? scope,
      ← setting .kerberos (mechanism? d) mechanism⟩
  | _ => none

def timeouts? (d : Dialect) (j : Json) : Option Timeouts := do
  match ← settings? d ["open_timeout_secs", "execution_timeout_secs"] j with
  | [opening, execution] =>
    return ⟨← setting defaultTimeouts.opening seconds? opening,
      ← setting defaultTimeouts.execution seconds? execution⟩
  | _ => none

def logging? (d : Dialect) (j : Json) : Option Logging := do
  match ← settings? d ["level", "format"] j with
  | [level, format] =>
    return ⟨← setting defaultLogging.level Json.string? level,
      ← setting defaultLogging.format Json.string? format⟩
  | _ => none

def ofJsonWith? (d : Dialect) (j : Json) : Option Config := do
  match ← settings? d ["remote", "timeouts", "logging"] j with
  | [some remote, timeouts, logging] =>
    return ⟨← remote? d remote, ← setting defaultTimeouts (timeouts? d) timeouts,
      ← setting defaultLogging (logging? d) logging⟩
  | _ => none

def ofJson? (j : Json) : Option Config := ofJsonWith? .json j

/-- A configuration file's text. -/
def ofToml (text : String) : Except Failure Config :=
  match (Toml.parse? text).bind fun v => ofJsonWith? .toml v.toJson with
  | some c => .ok c
  | none => .error (.config "Failed to parse config")

/-- Why there is no file at the end of a path. -/
inductive FileFault where
  | missing
  /-- The path goes on behind a file. -/
  | notFolder
  | folder
  | longName
  deriving DecidableEq, Repr

def FileFault.message : FileFault → String
  | .missing => "No such file or directory (os error 2)"
  | .notFolder => "Not a directory (os error 20)"
  | .folder => "Is a directory (os error 21)"
  | .longName => "File name too long (os error 36)"

/-- What is found where a configuration file should be. -/
inductive File where
  | absent (fault : FileFault)
  | bytes (content : List UInt8)

def ofFile : File → Except Failure Config
  | .absent fault => .error (.io fault.message)
  | .bytes content =>
    match String.fromUTF8? content.toByteArray with
    | some text => ofToml text
    | none => .error (.io "stream did not contain valid UTF-8")

end CommandBridge.Config
