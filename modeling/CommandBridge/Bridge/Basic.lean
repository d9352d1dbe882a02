import CommandBridge.Bridge.Call
import CommandBridge.Bridge.Event
import CommandBridge.Bridge.Lock

/-! The state of a bridge and the updates that everything it does is made of. -/
namespace CommandBridge

/-- What a bridge is built with; the limits are in milliseconds. -/
structure Setup (σ ρ : Type) where
  endpoint : Endpoint σ ρ
  openLimit : Nat
  executionLimit : Nat

/-- A bridge between calls and an endpoint in state `σ`, on a clock of milliseconds. -/
structure Bridge (σ ρ : Type) where
  now : Nat
  remote : σ
  session : Session
  /-- Held by the invocation or shutdown whose turn it is. -/
  turn : Lock
  /-- Held by the call that is at the session. -/
  access : Lock
  /-- Every call there has been; its number is its place. -/
  calls : List (Call ρ)
  /-- The calls that a lock was passed to and that have not gone on yet, in that order. -/
  ready : List Nat
  /-- What has happened, with the time. -/
  history : List (Nat × Event)

namespace Bridge

def new (t : Target) (remote : σ) : Bridge σ ρ where
  now := 0
  remote := remote
  session := .new t
  turn := .free
  access := .free
  calls := []
  ready := []
  history := [(0, .created t)]

variable {σ ρ : Type}

def record (b : Bridge σ ρ) (e : Event) : Bridge σ ρ :=
  { b with history := b.history ++ [(b.now, e)] }

def request? (b : Bridge σ ρ) (id : Nat) : Option Request := b.calls[id]?.map (·.request)

def phase? (b : Bridge σ ρ) (id : Nat) : Option (Phase ρ) := b.calls[id]?.map (·.phase)

def setPhase (b : Bridge σ ρ) (id : Nat) (p : Phase ρ) : Bridge σ ρ :=
  { b with calls := b.calls.modify id fun c => { c with phase := p } }

def addCall (b : Bridge σ ρ) (r : Request) : Bridge σ ρ :=
  { b with calls := b.calls ++ [⟨r, .queued⟩] }

/-- Ends a call. -/
def finish (b : Bridge σ ρ) (id : Nat) (a : Answer ρ) : Bridge σ ρ := b.setPhase id (.ended a)

def passTurn (b : Bridge σ ρ) : Bridge σ ρ :=
  let lock := b.turn.pass
  { b with turn := lock, ready := b.ready ++ lock.holder.toList }

def passAccess (b : Bridge σ ρ) : Bridge σ ρ :=
  let lock := b.access.pass
  { b with access := lock, ready := b.ready ++ lock.holder.toList }

/-- Goes on with the turn if it is free, and waits for it if not. -/
def withTurn (b : Bridge σ ρ) (id : Nat) (go : Bridge σ ρ → Bridge σ ρ) : Bridge σ ρ :=
  let b := { b with turn := b.turn.request id }
  if b.turn.holder = some id then go b else b.setPhase id .queued

/-- Goes on with the session if it is free, and waits for it if not. -/
def withAccess (b : Bridge σ ρ) (id : Nat) (waiting : Phase ρ)
    (go : Bridge σ ρ → Bridge σ ρ) : Bridge σ ρ :=
  let b := { b with access := b.access.request id }
  if b.access.holder = some id then go b else b.setPhase id waiting

def withRemote (b : Bridge σ ρ) (remote : σ) : Bridge σ ρ := { b with remote }

def withSession (b : Bridge σ ρ) (session : Session) : Bridge σ ρ := { b with session }

end Bridge

end CommandBridge
