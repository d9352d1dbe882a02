import CommandBridge.Record.Basic
import CommandBridge.Record.Graph

/-! Result objects of either kind. -/
namespace CommandBridge

inductive Item where
  | record (r : Record)
  | node (g : Graph) (place : Nat)

namespace Item

def rendering : Item → String
  | record r => r.rendering
  | node g i => g.view.render i

def view : View Item where
  render := rendering
  scalar? x := match x with
    | record r => r.scalar?
    | node g i => g.view.scalar? i
  enumName? x := match x with
    | record r => r.enumName?
    | node g i => g.view.enumName? i
  elements? x := match x with
    | record r => r.elements?.map (·.map (·.map record))
    | node g i => (g.view.elements? i).map (·.map (·.map (node g)))
  properties x := match x with
    | record r => r.properties.map fun (name, p) => (name, p.map (·.map record))
    | node g i => (g.view.properties i).map fun (name, p) => (name, p.map (·.map (node g)))

end Item

end CommandBridge
