import CommandBridge.Command.Printer
import CommandBridge.Ordered
import CommandBridge.Secret

/-! Parameters given beside the command text, for the last stage of a pipeline. -/
namespace CommandBridge.Command

inductive OutOfBand where
  | binary (bytes : List UInt8)
  | secret (s : Secret)
  | value (v : Value)
  deriving DecidableEq

/-- Out-of-band values in the order of their names. -/
structure Extra where
  entries : List (String × OutOfBand)
  ascending : Ascending entries

namespace Extra

def empty : Extra := ⟨[], List.Pairwise.nil⟩

/-- A value of the same name is replaced. -/
def insert (e : Extra) (name : String) (v : OutOfBand) : Extra :=
  ⟨insertNamed name v e.entries, ascending_insertNamed e.ascending⟩

def ofList (items : List (String × OutOfBand)) : Extra :=
  items.foldl (fun e item => e.insert item.1 item.2) empty

def isEmpty (e : Extra) : Bool := e.entries.isEmpty

def names (e : Extra) : List String := e.entries.map (·.1)

instance : DecidableEq Extra := fun a b =>
  decidable_of_iff (a.entries = b.entries) <| by
    cases a
    cases b
    simp

/-- The secrets that hold any text. -/
def secrets (e : Extra) : List String :=
  e.entries.filterMap fun
    | (_, .secret s) => if s.isEmpty then none else some s.expose
    | _ => none

end Extra

/-- Shown without its content. -/
def OutOfBand.display : OutOfBand → String
  | .binary bytes => s!"Binary({bytes.length} bytes)"
  | .secret s => s!"Secret({s.display})"
  | .value _ => s!"Value({redactionMark})"

/-- The command line of a pipeline with the names of its out-of-band parameters. -/
def describe (p : Pipeline) (e : Extra) : String :=
  String.ofList
    (printChars p ++ e.names.flatMap fun n =>
      " -".toList ++ n.toList ++ ' ' :: redactionMark.toList)

end CommandBridge.Command
