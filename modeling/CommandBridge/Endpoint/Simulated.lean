import CommandBridge.Command.Lookup
import CommandBridge.Endpoint.Basic
import CommandBridge.Record.Basic
import CommandBridge.Text.Lowercase

/-! An endpoint without a network, which serves fixed records for each command. -/
namespace CommandBridge

/-- A pipeline that has run. -/
structure JournalEntry where
  connection : Connection
  invocation : Invocation

structure Simulated where
  /-- Records by command in lower case, the latest first. -/
  datasets : List (String × List Record) := []
  /-- Error messages by command in lower case, the latest first. -/
  errors : List (String × List String) := []
  /-- How many of the next handshakes are refused. -/
  failingHandshakes : Nat := 0
  failingExecutions : Nat := 0
  latency : Nat := 0
  handshakeLatency : Nat := 0
  handshakes : Nat := 0
  opened : Nat := 0
  credentials : List Credential := []
  closed : List String := []
  journal : List JournalEntry := []
  active : Nat := 0
  maxActive : Nat := 0

namespace Simulated

def setDataset (s : Simulated) (command : String) (records : List Record) : Simulated :=
  { s with datasets := (Text.lowercase command, records) :: s.datasets }

def setErrors (s : Simulated) (command : String) (messages : List String) : Simulated :=
  { s with errors := (Text.lowercase command, messages) :: s.errors }

def unknownCommand (name : String) : String :=
  s!"The term '{name}' is not recognized as the name of a cmdlet."

/-- The columns that the last projecting stage asks for. -/
def projection? (p : Command.Pipeline) : Option (List String) :=
  (p.reverse.find? fun s => Text.sameIgnoringAsciiCase s.name "Select-Object").bind
    Command.Stage.positional?

/-- A column that a record does not have is null. -/
def project (columns : List String) (r : Record) : Record :=
  .ofProperties (columns.map fun c => (c, (r.property? c).getD .null))

/-- The records kept by a limit on their number, if the stage has one. -/
def limited (s : Command.Stage) (records : List Record) : List Record :=
  match s.parameter? "ResultSize" with
  | some (.int n) => records.take n.toInt.toNat
  | _ => records

def projected (p : Command.Pipeline) (records : List Record) : List Record :=
  match projection? p with
  | some columns => records.map (project columns)
  | none => records

/-- What a pipeline gives; its first stage names the records. -/
def output (s : Simulated) (p : Command.Pipeline) : Output Record :=
  match p with
  | [] => ⟨[], []⟩
  | first :: _ =>
    let key := Text.lowercase first.name
    let errors := (s.errors.lookup key).getD []
    match s.datasets.lookup key with
    | some records => ⟨projected p (limited first records), errors⟩
    | none => ⟨[], if errors.isEmpty then [unknownCommand first.name] else errors⟩

/-- Names are numbered in the order in which connections are opened. -/
def connected (t : Target) (_ : Credential) (s : Simulated) : Simulated × Except Failure String :=
  if s.failingHandshakes = 0 then
    ({ s with opened := s.opened + 1 }, .ok s!"c{s.opened + 1}")
  else
    ({ s with failingHandshakes := s.failingHandshakes - 1 },
      .error (.connection s!"{t.endpoint.text} refused the connection"))

/-- Notes that a handshake has begun. -/
def greeted (s : Simulated) (c : Credential) : Simulated :=
  { s with handshakes := s.handshakes + 1, credentials := s.credentials ++ [c] }

def connect (t : Target) (c : Credential) (s : Simulated) :
    Simulated × Response (Except Failure String) :=
  Response.ofDelay s.handshakeLatency (connected t c) (s.greeted c)

def executed (c : Connection) (i : Invocation) (s : Simulated) :
    Simulated × Except Failure (Output Record) :=
  let done := { s with journal := s.journal ++ [⟨c, i⟩], active := s.active - 1 }
  if s.failingExecutions = 0 then (done, .ok (s.output i.pipeline))
  else
    ({ done with failingExecutions := s.failingExecutions - 1 },
      .error (.connection "connection reset by peer"))

/-- An execution counts as active until it is answered. -/
def execute (c : Connection) (i : Invocation) (s : Simulated) :
    Simulated × Response (Except Failure (Output Record)) :=
  if s.closed.contains c.id then (s, .now (.error (.connection "connection is closed")))
  else
    let active := s.active + 1
    Response.ofDelay s.latency (executed c i)
      { s with active := active, maxActive := max s.maxActive active }

def closeNow (c : Connection) (s : Simulated) : Simulated × Except Failure (Option String) :=
  ({ s with closed := if s.closed.contains c.id then s.closed else s.closed ++ [c.id] }, .ok none)

def close (c : Connection) (s : Simulated) :
    Simulated × Response (Except Failure (Option String)) :=
  let (s, r) := closeNow c s
  (s, .now r)

def endpoint : Endpoint Simulated Record :=
  ⟨connect, connected, execute, executed, close, closeNow⟩

end Simulated

end CommandBridge
