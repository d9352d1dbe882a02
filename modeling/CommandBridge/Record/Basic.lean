import CommandBridge.Decimal.Layout
import CommandBridge.Guid
import CommandBridge.Moment.Rfc3339
import CommandBridge.Record.View
import CommandBridge.Text.Ascii

/-! Result records as endpoints send them. -/
namespace CommandBridge

/-- A property may have a value, an error, both or neither. -/
structure Property (ρ : Type) where
  name : String
  value : Option ρ
  error : Option String

inductive Record where
  | null
  | string (value : String)
  | bool (value : Bool)
  | int (value : Int64)
  | float (value : Decimal.Binary64)
  | moment (value : Moment)
  | guid (value : Guid)
  | enum (name : String) (value : Option Int64)
  | collection (items : List Record)
  | object (text : String) (typeNames : List String) (properties : List (Property Record))

namespace Record

def isNull : Record → Bool
  | null => true
  | _ => false

mutual

/-- The text that stands for a record. -/
def render : Record → List Char
  | null => []
  | string s => s.toList
  | bool true => ['T', 'r', 'u', 'e']
  | bool false => ['F', 'a', 'l', 's', 'e']
  | int n => Decimal.int64Digits n
  | float x => Decimal.writePlain x
  | moment t => t.textToSecond.toList
  | guid g => g.chars
  | enum name _ => name.toList
  | collection items => renderItems items
  | object text _ _ => text.toList

/-- The renderings with a space between them. -/
def renderItems : List Record → List Char
  | [] => []
  | [r] => render r
  | r :: rs => render r ++ ' ' :: renderItems rs

end

def rendering (r : Record) : String := String.ofList r.render

def scalar? : Record → Option Scalar
  | string s => some (.string s)
  | bool b => some (.bool b)
  | int n => some (.int n)
  | float x => some (.float x)
  | moment t => some (.moment t)
  | guid g => some (.string g.text)
  | _ => none

def enumName? : Record → Option String
  | enum name _ => some name
  | _ => none

def nonNull? (r : Record) : Option Record := if r.isNull then none else some r

def elements? : Record → Option (List (Option Record))
  | collection items => some (items.map nonNull?)
  | _ => none

/-- An error makes a property unreadable; a null value makes it empty. -/
def readProperty (p : Property Record) : String × Except String (Option Record) :=
  match p.error with
  | some e => (p.name, .error e)
  | none => (p.name, .ok (p.value.bind nonNull?))

def properties : Record → List (String × Except String (Option Record))
  | object _ _ ps => ps.map readProperty
  | _ => []

def view : View Record := ⟨rendering, scalar?, enumName?, elements?, properties⟩

/-- The value of the first property of that name; case does not matter. -/
def property? (r : Record) (name : String) : Option Record :=
  match r with
  | object _ _ ps =>
    (ps.find? fun p => Text.sameIgnoringAsciiCase p.name name).bind fun p => p.value
  | _ => none

/-- An object with the given text. -/
def renderedObject (text : String) (ps : List (String × Record)) : Record :=
  object text [] (ps.map fun (name, r) => ⟨name, some r, none⟩)

/-- An object whose text lists its properties. -/
def ofProperties (ps : List (String × Record)) : Record :=
  let listed := (ps.map fun (name, r) => name.toList ++ '=' :: r.render)
  renderedObject (String.ofList ('@' :: '\x7b' :: "; ".toList.intercalate listed ++ ['\x7d'])) ps

end Record

end CommandBridge
