import CommandBridge.Command.Extra
import CommandBridge.Failure
import CommandBridge.Session.Basic

/-! What a management endpoint does when it is called. -/
namespace CommandBridge

/-- A pipeline with the values bound to its last stage. -/
structure Invocation where
  pipeline : Command.Pipeline
  extra : Command.Extra
  deriving DecidableEq

/-- The command line as it may be shown. -/
def Invocation.command (i : Invocation) : String := Command.describe i.pipeline i.extra

/-- What an endpoint gives back for a pipeline. -/
structure Output (ρ : Type) where
  records : List ρ
  errors : List String
  deriving DecidableEq

def Output.map (f : ρ → ρ') (o : Output ρ) : Output ρ' := ⟨o.records.map f, o.errors⟩

/-- The first reaction of an endpoint. -/
inductive Response (α : Type) where
  | now (a : α)
  /-- The answer comes after a delay in milliseconds, or never. -/
  | later (delay : Option Nat)

/-- An endpoint with a state. A call that is not answered at once has a second function, which gives
the answer when the delay is over; a call that is given up before has none. -/
structure Endpoint (σ ρ : Type) where
  /-- The answer to a handshake is the name of the new connection. -/
  connect : Target → Credential → σ → σ × Response (Except Failure String)
  connected : Target → Credential → σ → σ × Except Failure String
  execute : Connection → Invocation → σ → σ × Response (Except Failure (Output ρ))
  executed : Connection → Invocation → σ → σ × Except Failure (Output ρ)
  /-- The answer to a close may be a remark for the log. -/
  close : Connection → σ → σ × Response (Except Failure (Option String))
  closed : Connection → σ → σ × Except Failure (Option String)

/-- Answers at once unless there is a delay. -/
def Response.ofDelay (delay : Nat) (answer : σ → σ × α) (s : σ) : σ × Response α :=
  if delay = 0 then
    let (s, a) := answer s
    (s, .now a)
  else (s, .later (some delay))

end CommandBridge
