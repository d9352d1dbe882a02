import CommandBridge.Decimal.Binary64

/-! JSON values. Objects keep their members in order, repeated names included. -/
namespace CommandBridge

inductive Json where
  | null
  | bool (b : Bool)
  | int (i : Int)
  | float (x : Decimal.Binary64)
  | string (s : String)
  | array (items : List Json)
  | object (members : List (String × Json))
  deriving Inhabited

namespace Json

/-- The value of the last member of that name. -/
def field? (j : Json) (name : String) : Option Json :=
  match j with
  | object members => (members.reverse.find? (·.1 == name)).map (·.2)
  | _ => none

def string? : Json → Option String
  | string s => some s
  | _ => none

def int? : Json → Option Int
  | int i => some i
  | _ => none

def bool? : Json → Option Bool
  | bool b => some b
  | _ => none

def array? : Json → Option (List Json)
  | array items => some items
  | _ => none

def strings (items : List String) : Json := array (items.map string)

mutual

/-- How many containers are nested in one another, at most. -/
def height : Json → Nat
  | array items => itemsHeight items + 1
  | object members => membersHeight members + 1
  | _ => 0

def itemsHeight : List Json → Nat
  | [] => 0
  | j :: js => max j.height (itemsHeight js)

def membersHeight : List (String × Json) → Nat
  | [] => 0
  | (_, j) :: ms => max j.height (membersHeight ms)

end

/-- A value or null. -/
def ofOption (f : α → Json) : Option α → Json
  | some a => f a
  | none => null

end Json

end CommandBridge
