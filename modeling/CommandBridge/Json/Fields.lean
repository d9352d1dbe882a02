import CommandBridge.Json.Basic

/-! The fields of a structure in JSON: members by name, or values in the order of the fields. -/
namespace CommandBridge.Json

inductive Body where
  | members (ms : List (String × Json))
  | items (js : List Json)

def Body.ofJson? : Json → Option Body
  | .object ms => some (.members ms)
  | .array js => some (.items js)
  | _ => none

/-- The value of the member of that name, if there is one; two are a fault. -/
def single? (name : String) (ms : List (String × Json)) : Option (Option Json) :=
  match ms.filter (·.1 == name) with
  | [] => some none
  | [m] => some (some m.2)
  | _ => none

/-- The values under the given names. Unknown members do not matter, but values in order may not be
more than there are names. -/
def Body.arguments? (names : List String) : Body → Option (List (Option Json))
  | members ms => names.mapM (single? · ms)
  | items js =>
    if js.length ≤ names.length then some ((List.range names.length).map (js[·]?)) else none

def required? (f : Json → Option α) : Option Json → Option α
  | some j => f j
  | none => none

def default? (d : α) (f : Json → Option α) : Option Json → Option α
  | some j => f j
  | none => some d

/-- Absent and null are alike. -/
def optional? (f : Json → Option α) : Option Json → Option (Option α)
  | none => some none
  | some .null => some none
  | some j => (f j).map some

def list? (f : Json → Option α) : Json → Option (List α)
  | .array js => js.mapM f
  | _ => none

end CommandBridge.Json
