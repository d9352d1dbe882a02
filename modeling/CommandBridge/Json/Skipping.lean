import CommandBridge.Json.Reader

/-! JSON text that is passed over: it must have the form of JSON, but its numbers may be out of
range, its strings need not stand for text, and its containers may be nested as deep as it is
long. -/
namespace CommandBridge.Json

/-- One digit and those that follow it. -/
def skipDigits : Reader Unit
  | [] => .error .incomplete
  | c :: s => if c.isDigit then .ok ((), s.dropWhile Char.isDigit) else .error .malformed

/-- The part after `e`. -/
def skipExponent : Reader Unit
  | '+' :: s => skipDigits s
  | '-' :: s => skipDigits s
  | s => skipDigits s

def skipAfterDigits : Reader Unit
  | 'e' :: s => skipExponent s
  | 'E' :: s => skipExponent s
  | s => .ok ((), s)

/-- What may follow the digits before the point. -/
def skipAfterInteger : Reader Unit
  | '.' :: s =>
    match skipDigits s with
    | .ok ((), rest) => skipAfterDigits rest
    | .error e => .error e
  | s => skipAfterDigits s

/-- A number without its sign. -/
def skipNumber : Reader Unit
  | '0' :: s => if startsWithDigit s then .error .malformed else skipAfterInteger s
  | s =>
    match skipDigits s with
    | .ok ((), rest) => skipAfterInteger rest
    | .error e => .error e

/-- A string after its opening quote. -/
def skipString : Reader Unit
  | [] => .error .incomplete
  | '"' :: s => .ok ((), s)
  | '\\' :: 'u' :: a :: b :: c :: d :: s =>
    match hexQuad? a b c d with
    | none => .error .malformed
    | some _ => skipString s
  | '\\' :: 'u' :: s => .error (shortEscape s)
  | '\\' :: c :: s =>
    if ['"', '\\', '/', 'b', 'f', 'n', 'r', 't'].contains c then skipString s
    else .error .malformed
  | ['\\'] => .error .incomplete
  | c :: s => if c.toNat < 0x20 then .error .malformed else skipString s

/-- A value that holds no other values. -/
def skipScalar : Reader Unit
  | 'n' :: s => keyword () ['u', 'l', 'l'] s
  | 't' :: s => keyword () ['r', 'u', 'e'] s
  | 'f' :: s => keyword () ['a', 'l', 's', 'e'] s
  | '-' :: s => skipNumber s
  | '"' :: s => skipString s
  | c :: s => if c.isDigit then skipNumber (c :: s) else .error .malformed
  | [] => .error .incomplete

def skipMember (value : Reader Unit) : Reader Unit := fun s =>
  match colon s with
  | .error e => .error e
  | .ok ((), s) => value s

/-- Any value with at most `depth` containers nested in one another. -/
def skipWithin : Nat → Reader Unit
  | depth, s =>
    match skipSpace s with
    | '[' :: s =>
      match depth with
      | 0 => .error .malformed
      | depth + 1 => elements (fun _ => skipWithin depth) (s.length + 1) true () s
    | '\x7b' :: s =>
      match depth with
      | 0 => .error .malformed
      | depth + 1 =>
        membersBy skipString (fun _ _ => skipMember (skipWithin depth)) (s.length + 1) true () s
    | s => skipScalar s

/-- Any value. -/
def skip : Reader Unit := fun s => skipWithin s.length s

end CommandBridge.Json
