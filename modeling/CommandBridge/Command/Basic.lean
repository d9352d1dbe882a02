/-! Commands: typed values, the parameters of a stage, and pipelines of stages. -/
namespace CommandBridge.Command

/-- What the text of a parameter stands for. -/
inductive Value where
  | null
  | bool (b : Bool)
  | int (n : Int64)
  | string (s : String)
  | list (items : List String)
  deriving DecidableEq, Repr

inductive Parameter where
  | named (key : String) (value : Value)
  | positional (values : List String)
  deriving DecidableEq, Repr

structure Stage where
  name : String
  parameters : List Parameter
  deriving DecidableEq, Repr

/-- Stages in the order in which each feeds the next. -/
abbrev Pipeline := List Stage

def Value.typeName : Value → String
  | .null => "null"
  | .bool _ => "bool"
  | .int _ => "int64"
  | .string _ => "string"
  | .list _ => "stringArray"

def Parameter.typeName : Parameter → String
  | .named _ v => v.typeName
  | .positional _ => "positionalList"

end CommandBridge.Command
