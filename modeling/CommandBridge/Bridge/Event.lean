import CommandBridge.Bridge.Audit
import CommandBridge.Failure
import CommandBridge.Session.Basic

/-! What happens at a bridge. -/
namespace CommandBridge

/-- Events that belong to a call have its number. -/
inductive Event where
  | created (target : Target)
  | credentialSet (credential : Credential)
  | targetSet (target : Target)
  | shuttingDown
  | started (call : Nat) (command : String)
  | finished (call : Nat) (command : String) (outcome : Outcome)
  /-- The endpoint is asked for a handshake. -/
  | handshake (call : Nat) (target : Target) (credential : Credential)
  /-- A handshake has given the session its live connection. -/
  | opened (connection : Connection) (credential : Credential) (generation : Nat)
  | handshakeFailed (target : Target) (failure : Failure)
  | handshakeTimedOut (target : Target)
  /-- The endpoint is given a pipeline. -/
  | executing (call : Nat) (connection : Connection)
  /-- An invocation timed out, or lost the connection it was executing on. -/
  | lost (call : Nat) (connection : Connection)
  /-- An invocation was cancelled while it was executing. -/
  | abandoned (call : Nat) (connection : Connection)
  /-- Records came together with errors. -/
  | advised (records errors : Nat)
  /-- Retired connections became a call's. -/
  | handedOut (call : Nat) (connections : List Connection)
  /-- The endpoint is asked to close a connection. -/
  | closing (call : Nat) (connection : Connection)
  | closeFailed (connection : Connection) (failure : Failure)
  | closeTimedOut (connection : Connection)
  | remarked (text : String)

namespace Event

/-- The line that an event leaves in the log. -/
def logLine? : Event → Option LogLine
  | created t => some (.info s!"Remote bridge targeting {t.display}")
  | credentialSet c =>
    let principal := c.username?.getD "token principal"
    some (.info s!"Credential updated for {principal}")
  | targetSet t => some (.info s!"Management target set to {t.display}")
  | shuttingDown => some (.info "Shutting down remote bridge")
  | started _ command => some (.info s!"Running remote command: {command}")
  | finished _ _ o => some o.logLine
  | handshake _ _ _ => none
  | opened c _ _ => some (.info s!"Connection {c.id} opened to {c.target.display}")
  | handshakeFailed t e => some (.warn s!"Handshake with {t.display} failed: {e.message}")
  | handshakeTimedOut t => some (.warn s!"Handshake with {t.display} timed out")
  | executing _ _ => none
  | lost _ _ => none
  | abandoned _ c =>
    some (.warn s!"Invocation cancelled while running on connection {c.id}, abandoning it")
  | advised n m =>
    some (.warn s!"Remote command returned {n} record(s) with {m} advisory error(s)")
  | handedOut _ _ => none
  | closing _ _ => none
  | closeFailed c e => some (.warn s!"Failed to close connection {c.id}: {e.message}")
  | closeTimedOut c => some (.warn s!"Timed out closing connection {c.id}")
  | remarked text => some (.warn text)

/-- The connection that the endpoint is asked to close. -/
def closing? : Event → Option Connection
  | closing _ c => some c
  | _ => none

end Event

end CommandBridge
