import CommandBridge.Command.Json
import CommandBridge.Endpoint.Basic
import CommandBridge.Json.Fields
import CommandBridge.Json.Wanted
import CommandBridge.Record.Codec
import CommandBridge.Text.Base64

/-! The bodies of requests to a gateway and of its answers. -/
namespace CommandBridge.Gateway

open Command (OutOfBand Parameter Stage)

def openBody (t : Target) : Json :=
  .object [("configurationName", .string t.scope), ("authMechanism", .string t.mechanism.name)]

def outOfBandJson : OutOfBand → Json
  | .binary bytes => .object [("$binary", .string (String.ofList (Text.base64 bytes)))]
  | .secret s => .object [("$secure", .string s.expose)]
  | .value v => v.toJson

def parameterJson : Parameter → Json
  | .named key value => .object [("name", .string key), ("value", value.toJson)]
  | .positional values => .object [("value", .strings values)]

def extraJson (extra : String × OutOfBand) : Json :=
  .object [("name", .string extra.1), ("value", outOfBandJson extra.2)]

def stageJson (s : Stage) (extras : List (String × OutOfBand)) : Json :=
  .object [("name", .string s.name),
    ("parameters", .array (s.parameters.map parameterJson ++ extras.map extraJson))]

/-- The last stage also carries the out-of-band values. -/
def stagesJson (extras : List (String × OutOfBand)) : Command.Pipeline → List Json
  | [] => []
  | [last] => [stageJson last extras]
  | s :: rest => stageJson s [] :: stagesJson extras rest

def pipelineBody (i : Invocation) : Json :=
  .object [("commands", .array (stagesJson i.extra.entries i.pipeline))]

open Json (Body DepthReader default? list? listOf required? structOf whole)

/-- The answer to a handshake. -/
def openedBody : DepthReader := structOf [("sessionId", Json.value)]

def errorBody : DepthReader := structOf [("message", Json.value)]

/-- The answer to a pipeline. -/
def outputBody : DepthReader := structOf [("output", Json.value), ("errors", listOf errorBody)]

/-- The name of the session in the answer to a handshake. -/
def sessionId? (text : String) : Option String := do
  let opened ← (whole openedBody text).toOption
  match ← (← Body.ofJson? opened).arguments? ["sessionId"] with
  | [id] => required? Json.string? id
  | _ => none

def errorMessage? (j : Json) : Option String := do
  match ← (← Body.ofJson? j).arguments? ["message"] with
  | [message] => required? Json.string? message
  | _ => none

/-- The answer to a pipeline; null records do not count. -/
def output? (text : String) : Option (Output Record) := do
  let answer ← (whole outputBody text).toOption
  match ← (← Body.ofJson? answer).arguments? ["output", "errors"] with
  | [output, errors] =>
    let records ← default? [] (list? Record.ofNamedJson?) output
    return ⟨records.filter (!·.isNull), ← default? [] (list? errorMessage?) errors⟩
  | _ => none

end CommandBridge.Gateway
