import CommandBridge.Json.Basic

/-! TOML documents: statements in order, and the tables they add up to. -/
namespace CommandBridge.Toml

inductive Value where
  | string (s : String)
  | int (i : Int)
  | float
  | bool (b : Bool)
  | date
  | array (items : List Value)
  | table (entries : List (String × Value))

inductive Statement where
  /-- `[a.b]` -/
  | header (path : List String)
  /-- `[[a.b]]` -/
  | arrayHeader (path : List String)
  /-- `a.b = value` -/
  | entry (path : List String) (value : Value)

mutual

/-- The same value in JSON. A date is an object with one member that nothing else has. -/
def Value.toJson : Value → Json
  | .string s => .string s
  | .int i => .int i
  | .float => .float (.zero false)
  | .bool b => .bool b
  | .date => .object [("\x00date", .null)]
  | .array items => .array (itemsJson items)
  | .table entries => .object (entriesJson entries)

def itemsJson : List Value → List Json
  | [] => []
  | v :: vs => v.toJson :: itemsJson vs

def entriesJson : List (String × Value) → List (String × Json)
  | [] => []
  | (k, v) :: es => (k, v.toJson) :: entriesJson es

end

/-- Something that is being built. A table knows whether it was only implied by a longer path, and
whether that path was a dotted key. -/
inductive Node where
  | value (v : Value)
  | table (implied dotted : Bool) (entries : List (String × Node))
  | tables (items : List (List (String × Node)))

/-- The entries of a table together with how it came about. -/
structure Table where
  implied : Bool
  dotted : Bool
  entries : List (String × Node)

def Table.node (t : Table) : Node := .table t.implied t.dotted t.entries

def find? (entries : List (String × Node)) (key : String) : Option Node :=
  (entries.find? (·.1 == key)).map (·.2)

def set (key : String) (n : Node) : List (String × Node) → List (String × Node)
  | [] => [(key, n)]
  | (k, m) :: rest => if k == key then (k, n) :: rest else (k, m) :: set key n rest

/-- Changes the table that a path leads to, and makes the tables on the way that are missing. A
path of dotted keys may not lead into a table that was written with a header. An array of tables
stands for its last table. -/
def change (dotted : Bool) (f : Table → Option Table) : List String → Table → Option Table
  | [], t => f t
  | key :: path, t => do
    match find? t.entries key with
    | none =>
      let inner ← change dotted f path ⟨true, dotted, []⟩
      return { t with entries := set key inner.node t.entries }
    | some (.value _) => none
    | some (.table implied d entries) =>
      if dotted && !implied then none
      let inner ← change dotted f path ⟨implied, d, entries⟩
      return { t with entries := set key inner.node t.entries }
    | some (.tables items) =>
      let last ← items.getLast?
      let inner ← change dotted f path ⟨false, false, last⟩
      return { t with entries := set key (.tables (items.dropLast ++ [inner.entries])) t.entries }

/-- Enters a value. A key may be given once, and a table is either written with dotted keys or
not. -/
def enter (path : List String) (v : Value) (t : Table) : Option Table :=
  match path.getLast? with
  | none => none
  | some key =>
    let put (t : Table) : Option Table :=
      if t.dotted == path.dropLast.isEmpty then none
      else if (find? t.entries key).isSome then none
      else some { t with entries := t.entries ++ [(key, .value v)] }
    change true put path.dropLast t

/-- Opens the table of a header, which may so far only have been implied. -/
def openTable (path : List String) (t : Table) : Option Table :=
  match path.getLast? with
  | none => none
  | some key =>
    let start (t : Table) : Option Table :=
      match find? t.entries key with
      | none => some { t with entries := t.entries ++ [(key, .table false false [])] }
      | some (.table true false entries) =>
        some { t with entries := set key (.table false false entries) t.entries }
      | some _ => none
    change false start path.dropLast t

/-- Adds an empty table to an array of tables. -/
def openArray (path : List String) (t : Table) : Option Table :=
  match path.getLast? with
  | none => none
  | some key =>
    let start (t : Table) : Option Table :=
      match find? t.entries key with
      | none => some { t with entries := t.entries ++ [(key, .tables [[]])] }
      | some (.tables items) =>
        some { t with entries := set key (.tables (items ++ [[]])) t.entries }
      | some _ => none
    change false start path.dropLast t

/-- The document so far, and the table that entries go to. -/
structure Building where
  root : Table
  current : List String

def addStatement (b : Building) : Statement → Option Building
  | .header path => do return ⟨← openTable path b.root, path⟩
  | .arrayHeader path => do return ⟨← openArray path b.root, path⟩
  | .entry path v => do return ⟨← change false (enter path v) b.current b.root, b.current⟩

mutual

def Node.toValue : Node → Value
  | .value v => v
  | .table _ _ entries => .table (entryValues entries)
  | .tables items => .array (tableValues items)

def entryValues : List (String × Node) → List (String × Value)
  | [] => []
  | (k, n) :: es => (k, n.toValue) :: entryValues es

def tableValues : List (List (String × Node)) → List Value
  | [] => []
  | t :: ts => .table (entryValues t) :: tableValues ts

end

def emptyTable : Table := ⟨false, false, []⟩

/-- The document that the statements make, unless one of them is not allowed. -/
def build? (statements : List Statement) : Option Value := do
  let b ← statements.foldlM addStatement ⟨emptyTable, []⟩
  return .table (entryValues b.root.entries)

/-- An inline table of entries. -/
def inlineTable? (entries : List (List String × Value)) : Option Value := do
  let t ← entries.foldlM (fun t e => enter e.1 e.2 t) emptyTable
  return .table (entryValues t.entries)

end CommandBridge.Toml
