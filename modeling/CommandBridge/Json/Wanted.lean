import CommandBridge.Json.Skipping

/-! Objects of which only some members are wanted. The others are passed over. -/
namespace CommandBridge.Json

/-- Reads a value with at most so many containers nested in one another. -/
abbrev DepthReader := Nat → Reader Json

/-- An array with `item` for its elements. -/
def listOf (item : DepthReader) : DepthReader
  | 0, _ => .error .mismatch
  | depth + 1, s =>
    match skipSpace s with
    | '[' :: s =>
      match elements (consItem (item depth)) (s.length + 1) true [] s with
      | .ok (items, rest) => .ok (.array items.reverse, rest)
      | .error e => .error e
    | _ => .error .mismatch

/-- A member is read if it is wanted. -/
def wantedMember (wanted : List (String × DepthReader)) (depth : Nat) (acc : List (String × Json))
    (name : String) : Reader (List (String × Json)) := fun s =>
  match wanted.lookup name with
  | some value => consMember (value depth) acc name s
  | none =>
    match skipMember skip s with
    | .ok ((), rest) => .ok (acc, rest)
    | .error e => .error e

/-- Values without names are those of the wanted members, in order. -/
def wantedItem (wanted : List (String × DepthReader)) (depth : Nat) (acc : List Json) :
    Reader (List Json) := fun s =>
  match wanted[acc.length]? with
  | some (_, value) => consItem (value depth) acc s
  | none => .error .mismatch

/-- The wanted members of an object, or their values in order. -/
def structOf (wanted : List (String × DepthReader)) : DepthReader
  | 0, _ => .error .mismatch
  | depth + 1, s =>
    match skipSpace s with
    | '[' :: s =>
      match elements (wantedItem wanted depth) (s.length + 1) true [] s with
      | .ok (items, rest) => .ok (.array items.reverse, rest)
      | .error e => .error e
    | '\x7b' :: s =>
      match members (wantedMember wanted depth) (s.length + 1) true [] s with
      | .ok (ms, rest) => .ok (.object ms.reverse, rest)
      | .error e => .error e
    | _ => .error .mismatch

/-- The value that the whole text is, read with `value`. -/
def whole (value : DepthReader) (text : String) : Except Fault Json :=
  complete (value maxDepth) text.toList

end CommandBridge.Json
