/-! Locks that pass from call to call in the order in which they are asked for. -/
namespace CommandBridge

/-- Calls are known by their numbers. -/
structure Lock where
  holder : Option Nat
  /-- The calls in line, the first to come first. -/
  waiting : List Nat
  deriving DecidableEq, Repr

namespace Lock

def free : Lock := ⟨none, []⟩

/-- Takes the lock if it is free, and a place in the line if not. -/
def request (l : Lock) (id : Nat) : Lock :=
  match l.holder with
  | none => { l with holder := some id }
  | some _ => { l with waiting := l.waiting ++ [id] }

/-- Passes the lock on to the first call in the line. -/
def pass (l : Lock) : Lock := ⟨l.waiting.head?, l.waiting.tail⟩

end Lock

end CommandBridge
