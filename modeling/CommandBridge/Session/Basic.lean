import CommandBridge.Session.Target

/-! The one session with a management endpoint: at most one live connection, and those that have
been replaced and wait to be closed. -/
namespace CommandBridge

/-- An open connection, by the name that the endpoint gave it. -/
structure Connection where
  id : String
  /-- Where it was opened. -/
  target : Target
  deriving DecidableEq

structure Session where
  target : Target
  credential : Option Credential
  live : Option Connection
  retired : List Connection
  /-- How often the place of the live connection has been reset. -/
  generation : Nat
  /-- Names of connections given up in the middle of a call, not yet acted on. -/
  abandoned : List String
  deriving DecidableEq

namespace Session

def new (t : Target) : Session := ⟨t, none, none, [], 0, []⟩

/-- The live connection, if there is one, joins the retired ones. -/
def retire (s : Session) : Session :=
  { s with
    live := none
    retired := s.retired ++ s.live.toList
    generation := s.generation + 1 }

/-- Acts on the connections that were given up. -/
def discardAbandoned (s : Session) : Session :=
  if s.live.any fun c => s.abandoned.contains c.id then { s with abandoned := [] }.retire
  else { s with abandoned := [] }

def setCredential (s : Session) (c : Credential) : Session := { s with credential := some c }.retire

def clearCredential (s : Session) : Session := { s with credential := none }.retire

def setTarget (s : Session) (t : Target) : Session := { s with target := t }.retire

/-- A connection that is no longer the live one is left alone. -/
def invalidate (s : Session) (c : Connection) : Session :=
  if s.live.any fun l => l.id == c.id then s.retire else s

/-- Gives a connection up without looking at the session. -/
def abandon (s : Session) (c : Connection) : Session :=
  { s with abandoned := s.abandoned ++ [c.id] }

def install (s : Session) (c : Connection) : Session := { s with live := some c }

/-- The retired connections are now the caller's. -/
def takeRetired (s : Session) : List Connection × Session :=
  let s := s.discardAbandoned
  (s.retired, { s with retired := [] })

/-- All connections are now the caller's. -/
def retireAll (s : Session) : List Connection × Session :=
  let s := s.retire
  (s.retired, { s with retired := [] })

end Session

end CommandBridge
