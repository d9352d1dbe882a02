import CommandBridge.Decimal.Binary64
import CommandBridge.Moment.Basic

/-! What can be asked of a remote object. Objects have no reliable type, so a view only says what an
object can do. -/
namespace CommandBridge

inductive Scalar where
  | string (s : String)
  | bool (b : Bool)
  | int (n : Int64)
  | float (x : Decimal.Binary64)
  | moment (t : Moment)
  deriving DecidableEq, Repr

/-- The questions, for objects of any kind, which may refer back to themselves. -/
structure View (ρ : Type u) where
  /-- The text that stands for the object. -/
  render : ρ → String
  scalar? : ρ → Option Scalar
  enumName? : ρ → Option String
  /-- The elements of a collection; `none` stands for a null element. -/
  elements? : ρ → Option (List (Option ρ))
  /-- The properties; one that is not readable has a reason instead of a value. -/
  properties : ρ → List (String × Except String (Option ρ))

end CommandBridge
