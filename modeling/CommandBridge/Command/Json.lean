import CommandBridge.Command.Basic
import CommandBridge.Json.Basic

/-! Pipelines as JSON. -/
namespace CommandBridge.Command

def Value.toJson : Value → Json
  | .null => .null
  | .bool b => .bool b
  | .int n => .int n.toInt
  | .string s => .string s
  | .list items => .strings items

def Parameter.toJson : Parameter → Json
  | .named key value =>
    .object [("kind", .string "named"), ("key", .string key), ("value", value.toJson)]
  | .positional values => .object [("kind", .string "positionalList"), ("values", .strings values)]

def Stage.toJson (s : Stage) : Json :=
  .object [("name", .string s.name), ("parameters", .array (s.parameters.map Parameter.toJson))]

def toJson (p : Pipeline) : Json := .array (p.map Stage.toJson)

end CommandBridge.Command
