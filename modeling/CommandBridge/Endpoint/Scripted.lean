import CommandBridge.Endpoint.Simulated
import CommandBridge.Record.Item

/-! A simulated endpoint some of whose answers are prescribed. -/
namespace CommandBridge

/-- What closing a connection does. -/
inductive CloseMode where
  | ok
  | fail
  | hang
  deriving DecidableEq, Repr

structure Scripted where
  simulated : Simulated := {}
  closeMode : CloseMode := .ok
  /-- The failures of the next handshakes that are not refused anyway. -/
  handshakes : List Failure := []
  /-- The answers to the next executions, which do not reach the simulated endpoint. -/
  executions : List (Except Failure (Output Item)) := []

namespace Scripted

def connected (t : Target) (c : Credential) (s : Scripted) : Scripted × Except Failure String :=
  match s.handshakes, s.simulated.failingHandshakes with
  | e :: rest, 0 => ({ s with handshakes := rest }, .error e)
  | _, _ =>
    let (simulated, r) := s.simulated.connected t c
    ({ s with simulated }, r)

def connect (t : Target) (c : Credential) (s : Scripted) :
    Scripted × Response (Except Failure String) :=
  Response.ofDelay s.simulated.handshakeLatency (connected t c)
    { s with simulated := s.simulated.greeted c }

def executed (c : Connection) (i : Invocation) (s : Scripted) :
    Scripted × Except Failure (Output Item) :=
  let (simulated, r) := s.simulated.executed c i
  ({ s with simulated }, r.map (·.map .record))

def execute (c : Connection) (i : Invocation) (s : Scripted) :
    Scripted × Response (Except Failure (Output Item)) :=
  match s.executions with
  | r :: rest => ({ s with executions := rest }, .now r)
  | [] =>
    match s.simulated.execute c i with
    | (simulated, .now r) => ({ s with simulated }, .now (r.map (·.map .record)))
    | (simulated, .later d) => ({ s with simulated }, .later d)

def closed (c : Connection) (s : Scripted) : Scripted × Except Failure (Option String) :=
  let (simulated, r) := s.simulated.closeNow c
  ({ s with simulated }, r)

def close (c : Connection) (s : Scripted) : Scripted × Response (Except Failure (Option String)) :=
  match s.closeMode with
  | .ok =>
    let (s, r) := s.closed c
    (s, .now r)
  | .fail => (s, .now (.error (.connection "close refused")))
  | .hang => (s, .later none)

def endpoint : Endpoint Scripted Item := ⟨connect, connected, execute, executed, close, closed⟩

end Scripted

end CommandBridge
