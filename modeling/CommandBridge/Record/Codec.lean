import CommandBridge.Json.Fields
import CommandBridge.Json.Reader
import CommandBridge.Record.Basic

/-! Records as JSON. The member `kind` says what the others mean, wherever it stands; an array with
the values in their usual order is read too. -/
namespace CommandBridge.Record

open Json (Body default? list? optional? required? single?)

inductive Kind where
  | null
  | string
  | bool
  | int
  | float
  | dateTime
  | guid
  | enum
  | collection
  | object
  deriving DecidableEq, Repr

namespace Kind

/-- All kinds; their places are their numbers. -/
def all : List Kind :=
  [null, string, bool, int, float, dateTime, guid, enum, collection, object]

def name : Kind → String
  | null => "null"
  | string => "string"
  | bool => "bool"
  | int => "int"
  | float => "float"
  | dateTime => "dateTime"
  | guid => "guid"
  | enum => "enum"
  | collection => "collection"
  | object => "object"

def ofName? (s : String) : Option Kind := all.find? (·.name == s)

/-- Inside another record a kind may also be given by its number. -/
def ofJson? : Json → Option Kind
  | .string s => ofName? s
  | .int i => if 0 ≤ i then all[i.toNat]? else none
  | _ => none

end Kind

def typeNamesField : List String → List (String × Json)
  | [] => []
  | names => [("typeNames", .strings names)]

mutual

def toJson : Record → Json
  | null => .object [("kind", .string "null")]
  | string s => .object [("kind", .string "string"), ("value", .string s)]
  | bool b => .object [("kind", .string "bool"), ("value", .bool b)]
  | int n => .object [("kind", .string "int"), ("value", .int n.toInt)]
  | float x => .object [("kind", .string "float"), ("value", .float x)]
  | moment t => .object [("kind", .string "dateTime"), ("value", .string t.text)]
  | guid g => .object [("kind", .string "guid"), ("value", .string g.text)]
  | enum name none => .object [("kind", .string "enum"), ("name", .string name)]
  | enum name (some n) =>
    .object [("kind", .string "enum"), ("name", .string name), ("value", .int n.toInt)]
  | collection items => .object [("kind", .string "collection"), ("items", .array (listJson items))]
  | object text typeNames properties =>
    .object (("kind", .string "object") :: ("text", .string text) :: typeNamesField typeNames ++
      [("properties", .array (propertiesJson properties))])

def listJson : List Record → List Json
  | [] => []
  | r :: rs => toJson r :: listJson rs

def propertiesJson : List (Property Record) → List Json
  | [] => []
  | p :: ps => propertyJson p :: propertiesJson ps

def propertyJson : Property Record → Json
  | ⟨name, value, error⟩ =>
    .object (("name", .string name) :: valueField value ++
      match error with
      | some e => [("error", .string e)]
      | none => [])

def valueField : Option Record → List (String × Json)
  | some r => [("value", toJson r)]
  | none => []

end

def int64? : Json → Option Int64
  | .int i =>
    if Int64.minValue.toInt ≤ i && i ≤ Int64.maxValue.toInt then some (Int64.ofInt i) else none
  | _ => none

def float? : Json → Option Decimal.Binary64
  | .float x => some x
  | .int i => some { Decimal.Binary64.ofNat i.natAbs with negative := i < 0 }
  | _ => none

def propertyOf? (sub : Json → Option Record) (j : Json) : Option (Property Record) := do
  match ← (← Body.ofJson? j).arguments? ["name", "value", "error"] with
  | [name, value, error] =>
    return ⟨← required? Json.string? name, ← optional? sub value, ← optional? Json.string? error⟩
  | _ => none

/-- The record of a kind with the given body; `sub` reads the records inside it. -/
def ofBody? (sub : Json → Option Record) : Kind → Body → Option Record
  | .null, .members _ => some null
  | .null, .items js => if js.isEmpty then some null else none
  | .string, b => do (required? Json.string? (← one? b)).map string
  | .bool, b => do (required? Json.bool? (← one? b)).map bool
  | .int, b => do (required? int64? (← one? b)).map int
  | .float, b => do (required? float? (← one? b)).map float
  | .dateTime, b => do (required? (·.string?.bind Moment.read?) (← one? b)).map moment
  | .guid, b => do (required? (·.string?.bind Guid.read?) (← one? b)).map guid
  | .enum, b => do
    match ← b.arguments? ["name", "value"] with
    | [name, value] => return enum (← required? Json.string? name) (← optional? int64? value)
    | _ => none
  | .collection, b => do
    match ← b.arguments? ["items"] with
    | [items] => return collection (← default? [] (list? sub) items)
    | _ => none
  | .object, b => do
    match ← b.arguments? ["text", "typeNames", "properties"] with
    | [text, typeNames, properties] =>
      return object (← default? "" Json.string? text) (← default? [] (list? Json.string?) typeNames)
        (← default? [] (list? (propertyOf? sub)) properties)
    | _ => none
where
  one? (b : Body) : Option (Option Json) := do
    match ← b.arguments? ["value"] with
    | [value] => some value
    | _ => none

/-- The kind as it is written, and what stands beside it. -/
def splitKind? : Json → Option (Json × Body)
  | .object ms => do
    match ← single? "kind" ms with
    | some k => some (k, .members (ms.filter (·.1 != "kind")))
    | none => none
  | .array (k :: js) => some (k, .items js)
  | _ => none

/-- Records nested at most `levels` deep. -/
def ofJsonWithin? : Nat → Json → Option Record
  | 0, _ => none
  | levels + 1, j => do
    let (k, body) ← splitKind? j
    ofBody? (ofJsonWithin? levels) (← Kind.ofJson? k) body

/-- A record inside other JSON. -/
def ofJson? (j : Json) : Option Record := ofJsonWithin? j.height j

/-- A record that is not inside another one; only its name can say its kind. -/
def ofNamedJson? (j : Json) : Option Record := do
  let (kind, _) ← splitKind? j
  if kind.string?.isSome then ofJson? j else none

open Json (Reader)

/-- A kind by its name. It is looked at as soon as it is read. -/
def readKind : Reader Kind := fun s =>
  match Json.skipSpace s with
  | '"' :: s =>
    match Json.stringRest s with
    | .ok (name, rest) =>
      match Kind.ofName? name with
      | some k => .ok (k, rest)
      | none => .error .mismatch
    | .error e => .error e
  | '[' :: _ => .error .mismatch
  | '\x7b' :: _ => .error .mismatch
  | s =>
    match Json.scalar s with
    | .ok _ => .error .mismatch
    | .error e => .error e

/-- What is known so far of a record that is being read, newest first. -/
structure Draft (α : Type) where
  kind : Option Kind
  others : List α

def readMember (depth : Nat) (acc : Draft (String × Json)) (name : String) :
    Reader (Draft (String × Json)) := fun s =>
  if name = "kind" then
    if acc.kind.isSome then .error .mismatch
    else do
      let ((), s) ← Json.colon s
      let (k, s) ← readKind s
      return (⟨some k, acc.others⟩, s)
  else do
    let (ms, s) ← Json.consMember (Json.value depth) acc.others name s
    return (⟨acc.kind, ms⟩, s)

def readItem (depth : Nat) (acc : Draft Json) : Reader (Draft Json) := fun s =>
  match acc.kind with
  | none => do
    let (k, s) ← readKind s
    return (⟨some k, []⟩, s)
  | some k => do
    let (js, s) ← Json.consItem (Json.value depth) acc.others s
    return (⟨some k, js⟩, s)

def finish (kind : Option Kind) (body : Body) (height : Nat) (rest : List Char) :
    Except Json.Fault (Record × List Char) :=
  match kind.bind fun k => ofBody? (ofJsonWithin? height) k body with
  | some r => .ok (r, rest)
  | none => .error .mismatch

/-- Reads a record with at most `depth` containers nested in one another. -/
def reader (depth : Nat) : Reader Record := fun s =>
  match Json.skipSpace s with
  | '\x7b' :: s => do
    if depth = 0 then throw .malformed
    let (p, s) ← Json.members (readMember (depth - 1)) (s.length + 1) true ⟨none, []⟩ s
    finish p.kind (.members p.others.reverse) (Json.membersHeight p.others) s
  | '[' :: s => do
    if depth = 0 then throw .malformed
    let (p, s) ← Json.elements (readItem (depth - 1)) (s.length + 1) true ⟨none, []⟩ s
    finish p.kind (.items p.others.reverse) (Json.itemsHeight p.others) s
  | s =>
    match Json.scalar s with
    | .ok _ => .error .mismatch
    | .error e => .error e

def parse (text : String) : Except Json.Fault Record :=
  Json.complete (reader Json.maxDepth) text.toList

end CommandBridge.Record
