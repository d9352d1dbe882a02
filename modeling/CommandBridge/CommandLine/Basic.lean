import CommandBridge.Bridge.Schedule
import CommandBridge.Command.Compile
import CommandBridge.CommandLine.Help
import CommandBridge.Config.Reader
import CommandBridge.Gateway.Endpoint
import CommandBridge.Json.Printer
import CommandBridge.Record.Flatten

/-! What the command-line tool does with its arguments. -/
namespace CommandBridge.CommandLine

/-- How the tool ends. -/
structure Exit where
  code : Nat
  output : String
  error : String
  deriving DecidableEq, Repr

/-- What the tool finds around it. -/
structure Surroundings where
  environment? : String → Option String
  file : String → Config.File

/-- The credential in the environment: a user name with a password, or else a token. -/
def Surroundings.credential? (s : Surroundings) : Option Credential :=
  match s.environment? "BRIDGE_USERNAME", s.environment? "BRIDGE_PASSWORD" with
  | some username, some password => some (.password username ⟨password⟩)
  | _, _ => (s.environment? "BRIDGE_TOKEN").map fun token => .token ⟨token⟩

def Exit.usage : Exit := ⟨2, "", ""⟩

def Exit.success (j : Json) : Exit := ⟨0, j.pretty ++ "\n", ""⟩

def Exit.failure (e : Failure) : Exit := ⟨1, "", s!"Error: {e.message}"⟩

/-- The causes below a context, numbered when there are several. -/
def causeLines : List String → List String
  | [cause] => [s!"    {cause}"]
  | causes => causes.zipIdx.map fun (cause, i) => s!"    {i}: {cause}"

def Exit.failureWithin (context : String) (e : Failure) : Exit :=
  ⟨1, "", s!"Error: {context}\n\nCaused by:\n" ++ "\n".intercalate (causeLines e.chain)⟩

/-- The configuration in force, if it can be read and is valid. -/
def Surroundings.config (s : Surroundings) (file : Option String) : Except Exit Config := do
  let config ← match file with
    | none => pure Config.development
    | some path => (Config.ofFile (s.file path)).mapError (Exit.failureWithin s!"loading {path}")
  config.validate.mapError Exit.failure
  return config

def setup (network : Http.Network σ) (c : Config) : Setup σ Record :=
  let executionLimit := 1000 * c.timeouts.execution
  ⟨Gateway.endpoint ⟨network, executionLimit⟩, 1000 * c.timeouts.opening, executionLimit⟩

/-- A bridge for one command line: it is given the credential, runs the command line and is shut
down. -/
def session (s : Setup σ Record) (t : Target) (credential : Option Credential) (command : String)
    (remote : σ) : Bridge σ Record × Option (Answer Record) :=
  let b := Bridge.new t remote
  let b := match credential with
    | some k => b.run s (.session (.setCredential k))
    | none => b
  let id := b.calls.length
  let b := b.run s (.invoke ⟨Command.compile command, Command.Extra.empty⟩)
  (b.run s .shutdown, b.answer? id)

def exitOf : Option (Answer Record) → Exit
  | some (.failed e) => .failure e
  | some (.records rs) =>
    .success (.array ((Flattened.flattenAll Record.view rs).map Flattened.toJson))
  | _ => .success (.array [])

/-- Runs a command line against the configured endpoint. -/
def runCommand (network : Http.Network σ) (c : Config) (credential : Option Credential)
    (command : String) (remote : σ) : σ × Exit :=
  match c.target with
  | .error e => (remote, .failure e)
  | .ok t =>
    let (b, answer) := session (setup network c) t credential command remote
    (b.remote, exitOf answer)

/-- The whole tool. -/
def perform (network : Http.Network σ) (s : Surroundings) (arguments : List String) (remote : σ) :
    σ × Exit :=
  match Wish.ofList? arguments with
  | none => (remote, .usage)
  | some (.help topic) => (remote, ⟨0, helpText topic, ""⟩)
  | some (.perform a) =>
    match s.config a.configFile with
    | .error e => (remote, e)
    | .ok c =>
      match a.task with
      | .compile command => (remote, .success (Command.toJson (Command.compile command)))
      | .run command => runCommand network c s.credential? command remote

end CommandBridge.CommandLine
