import CommandBridge.Command.Basic
import CommandBridge.Text.Ascii

/-! Parameters of a stage, looked up by name or by place. -/
namespace CommandBridge.Command

/-- The value of the first parameter of that name; case does not matter. -/
def Stage.parameter? (s : Stage) (key : String) : Option Value :=
  s.parameters.findSome? fun
    | .named k value => if Text.sameIgnoringAsciiCase k key then some value else none
    | .positional _ => none

def Stage.positional? (s : Stage) : Option (List String) :=
  s.parameters.findSome? fun
    | .positional values => some values
    | .named _ _ => none

end CommandBridge.Command
