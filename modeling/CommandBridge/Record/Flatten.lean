import CommandBridge.Json.Basic
import CommandBridge.Moment.Rfc3339
import CommandBridge.Ordered
import CommandBridge.Record.View

/-! Remote objects as trees of limited depth. -/
namespace CommandBridge

inductive Flattened where
  | null
  | scalar (s : Scalar)
  | list (items : List Flattened)
  | map (entries : List (String × Flattened))

namespace Flattened

def string (s : String) : Flattened := scalar (.string s)

/-- The deepest level at which an object is taken apart. -/
def maxDepth : Nat := 5

/-- A rendering that says enough: some text without `\x7b` and `;`. -/
def isSimple (rendering : String) : Bool :=
  !rendering.isEmpty && !rendering.toList.contains '\x7b' && !rendering.toList.contains ';'

/-- Enters one property; the last readable one of a name counts. -/
def addProperty (flat : ρ → Flattened) (entries : List (String × Flattened))
    (property : String × Except String (Option ρ)) : List (String × Flattened) :=
  match property.2 with
  | .ok (some r) => insertNamed property.1 (flat r) entries
  | .ok none => insertNamed property.1 null entries
  | .error _ => entries

/-- One level of flattening, with `flat` for the level below. -/
def ofLevel (v : View ρ) (flat : ρ → Flattened) (r : ρ) : Flattened :=
  match v.scalar? r with
  | some s => scalar s
  | none =>
    match v.enumName? r with
    | some name => string name
    | none =>
      match v.elements? r with
      | some elements => list ((elements.filterMap id).map flat)
      | none =>
        if isSimple (v.render r) then string (v.render r)
        else map ((v.properties r).foldl (addProperty flat) [])

/-- Flattens `levels` levels; below them an object is its rendering. -/
def ofLevels (v : View ρ) : Nat → ρ → Flattened
  | 0, r => string (v.render r)
  | levels + 1, r => ofLevel v (ofLevels v levels) r

/-- Flattens an object that stands `depth` levels deep. -/
def flatten (v : View ρ) (r : ρ) (depth : Nat) : Flattened := ofLevels v (maxDepth + 1 - depth) r

def flattenAll (v : View ρ) (records : List ρ) : List Flattened := records.map (flatten v · 0)

def asString? : Flattened → Option String
  | scalar (.string s) => some s
  | _ => none

def asList? : Flattened → Option (List Flattened)
  | list items => some items
  | _ => none

def asMap? : Flattened → Option (List (String × Flattened))
  | map entries => some entries
  | _ => none

def get? (f : Flattened) (key : String) : Option Flattened :=
  f.asMap?.bind fun entries => (entries.find? (·.1 == key)).map (·.2)

def scalarJson : Scalar → Json
  | .string s => .string s
  | .bool b => .bool b
  | .int n => .int n.toInt
  | .float x => .float x
  | .moment t => .string t.text

mutual

def toJson : Flattened → Json
  | null => .null
  | scalar s => scalarJson s
  | list items => .array (itemsJson items)
  | map entries => .object (entriesJson entries)

def itemsJson : List Flattened → List Json
  | [] => []
  | f :: fs => f.toJson :: itemsJson fs

def entriesJson : List (String × Flattened) → List (String × Json)
  | [] => []
  | (name, f) :: es => (name, f.toJson) :: entriesJson es

end

end Flattened

end CommandBridge
