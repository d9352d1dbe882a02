import CommandBridge.Endpoint.Basic

/-! Calls of a bridge: what can be asked for, where a call stands, and what it answers. -/
namespace CommandBridge

/-- What a call does with the session while no other call is at it. -/
inductive SessionAction where
  | setCredential (credential : Credential)
  | clearCredential
  | setTarget (target : Target)
  /-- Answers with the live connection, after a handshake if there is none. -/
  | ensureOpen
  | invalidate (connection : Connection)
  | takeRetired
  | retireAll
  | isOpen
  | isAuthenticated
  | target
  | generation

inductive Request where
  | invoke (invocation : Invocation)
  | shutdown
  | session (action : SessionAction)
  /-- Goes past the bridge to a connection. -/
  | execute (connection : Connection) (invocation : Invocation)
  | close (connection : Connection)

inductive Answer (ρ : Type) where
  | done
  | flag (b : Bool)
  | count (n : Nat)
  | target (t : Target)
  | connection (c : Connection)
  | connections (cs : List Connection)
  | records (rs : List ρ)
  /-- Everything that the endpoint gave, as it gave it. -/
  | output (o : Output ρ)
  | failed (e : Failure)

/-- No wait is longer than thirty years. -/
def longestWait : Nat := 30 * 365 * 24 * 60 * 60 * 1000

/-- When a wait for the endpoint ends, as times on the clock. -/
structure Timer where
  /-- `none` when the endpoint never answers. -/
  answer : Option Nat
  /-- `none` when the call waits without limit. -/
  limit : Option Nat

namespace Timer

/-- The earlier of the two. -/
def due? (t : Timer) : Option Nat :=
  match t.answer, t.limit with
  | some a, some l => some (min a l)
  | some a, none => some a
  | none, l => l

/-- An answer is in time also at the limit itself. -/
def isInTime (t : Timer) : Bool := t.answer.any fun a => t.limit.all (a ≤ ·)

def start (now : Nat) (delay limit : Option Nat) : Timer :=
  ⟨delay.map (now + min longestWait ·), limit.map (now + min longestWait ·)⟩

end Timer

inductive Phase (ρ : Type) where
  /-- Waits for its turn among the invocations. -/
  | queued
  /-- Waits for the session. -/
  | waiting (action : SessionAction)
  /-- Waits for the session, to take a lost connection out of it and fail. -/
  | losing (connection : Connection) (failure : Failure)
  /-- Waits for a handshake and keeps the session meanwhile. -/
  | opening (target : Target) (credential : Credential) (timer : Timer)
  | executing (connection : Connection) (timer : Timer)
  /-- Waits for a connection to close, with more to close after it. -/
  | closing (connection : Connection) (rest : List Connection) (timer : Timer)
  | ended (answer : Answer ρ)
  | cancelled

namespace Phase

/-- When the call goes on by itself. -/
def due? : Phase ρ → Option Nat
  | opening _ _ t => t.due?
  | executing _ t => t.due?
  | closing _ _ t => t.due?
  | _ => none

def isFinal : Phase ρ → Bool
  | ended _ => true
  | cancelled => true
  | _ => false

end Phase

structure Call (ρ : Type) where
  request : Request
  phase : Phase ρ

end CommandBridge
