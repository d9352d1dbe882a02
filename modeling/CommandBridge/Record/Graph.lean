import CommandBridge.Record.View

/-! Graphs of objects that may refer back to themselves. -/
namespace CommandBridge

/-- Other objects are named by their place in the graph. -/
structure GraphNode where
  render : String
  scalar : Option Scalar
  enumName : Option String
  elements : Option (List (Option Nat))
  properties : List (String × Except String (Option Nat))

abbrev Graph := List GraphNode

namespace Graph

/-- A place outside the graph holds an object that can do nothing. -/
def node (g : Graph) (i : Nat) : GraphNode := g[i]?.getD ⟨"", none, none, none, []⟩

def view (g : Graph) : View Nat where
  render i := (g.node i).render
  scalar? i := (g.node i).scalar
  enumName? i := (g.node i).enumName
  elements? i := (g.node i).elements
  properties i := (g.node i).properties

end Graph

end CommandBridge
