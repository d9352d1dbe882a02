import CommandBridge.Bridge.Conduct

/-! Who goes on, and when. A call runs until it has to wait; then the calls that a lock was passed
to go on, in that order; when all wait, the clock moves to the next time at which one goes on. -/
namespace CommandBridge.Bridge

variable {σ ρ : Type}

/-- Takes a new call as far as it gets; its number is the number of calls before it. -/
def submit (s : Setup σ ρ) (b : Bridge σ ρ) (r : Request) : Bridge σ ρ :=
  let id := b.calls.length
  let b := b.addCall r
  match r with
  | .invoke i =>
    if i.pipeline.isEmpty then b.finish id (.records []) else b.withTurn id (takeTurn s · id)
  | .shutdown => (b.record .shuttingDown).withTurn id (takeTurn s · id)
  | .session a => b.waitToAct s id a
  | .execute c i => b.execute s id c i none
  | .close c => b.close s id c

/-- Gives a connection up from outside, without a call. -/
def abandon (b : Bridge σ ρ) (c : Connection) : Bridge σ ρ := b.withSession (b.session.abandon c)

/-- A call goes on with the lock that was passed to it. -/
def goOn (s : Setup σ ρ) (b : Bridge σ ρ) (id : Nat) : Bridge σ ρ :=
  match b.phase? id with
  | some .queued => b.takeTurn s id
  | some (.waiting a) => b.act s id a
  | some (.losing c e) => b.failLost id c e
  | _ => b

/-- The first of the calls that a lock was passed to goes on. -/
def resume (s : Setup σ ρ) (b : Bridge σ ρ) : Bridge σ ρ :=
  match b.ready with
  | [] => b
  | id :: rest => goOn s { b with ready := rest } id

/-- A call goes on because its time has come: with the endpoint's answer, or without. -/
def expire (s : Setup σ ρ) (b : Bridge σ ρ) (id : Nat) : Bridge σ ρ :=
  match b.phase? id with
  | some (.opening t k timer) =>
    if timer.isInTime then
      let (remote, r) := s.endpoint.connected t k b.remote
      (b.withRemote remote).connected s id t k r
    else b.handshakeTimedOut s id t
  | some (.executing c timer) =>
    match b.request? id with
    | some (.invoke i) =>
      if timer.isInTime then
        let (remote, r) := s.endpoint.executed c i b.remote
        (b.withRemote remote).executed id c r
      else b.executionTimedOut s id c
    | some (.execute _ i) =>
      let (remote, r) := s.endpoint.executed c i b.remote
      (b.withRemote remote).executed id c r
    | _ => b
  | some (.closing c rest timer) =>
    if timer.isInTime then
      let (remote, r) := s.endpoint.closed c b.remote
      (b.withRemote remote).closed s id c rest r
    else (b.record (.closeTimedOut c)).closeAll s id rest
  | _ => b

/-- Takes a call out of a line, or passes on the lock it has. -/
def leaveTurn (b : Bridge σ ρ) (id : Nat) : Bridge σ ρ :=
  if b.turn.holder = some id then b.passTurn
  else { b with turn := { b.turn with waiting := b.turn.waiting.erase id } }

def leaveAccess (b : Bridge σ ρ) (id : Nat) : Bridge σ ρ :=
  if b.access.holder = some id then b.passAccess
  else { b with access := { b.access with waiting := b.access.waiting.erase id } }

/-- An invocation that stops in the middle of executing gives its connection up, since the endpoint
may still be at it. -/
def giveUp (b : Bridge σ ρ) (id : Nat) : Bridge σ ρ :=
  match b.request? id, b.phase? id with
  | some (.invoke _), some (.executing c _) => (b.record (.abandoned id c)).abandon c
  | _, _ => b

/-- Stops a call where it waits. -/
def cancel (b : Bridge σ ρ) (id : Nat) : Bridge σ ρ :=
  match b.phase? id with
  | none => b
  | some p =>
    if p.isFinal then b
    else
      let b := { b.giveUp id with ready := b.ready.erase id }
      ((b.leaveAccess id).leaveTurn id).setPhase id .cancelled

/-- A call is passed a lock four times at most: its turn, and the session three times. -/
def locksPerCall : Nat := 4

/-- A call waits at most for a handshake, for an execution, and, since it opens no more than one
connection, for one connection to close. -/
def timersPerCall : Nat := 3

def settleWithin (s : Setup σ ρ) : Nat → Bridge σ ρ → Bridge σ ρ
  | 0, b => b
  | n + 1, b => if b.ready.isEmpty then b else settleWithin s n (b.resume s)

/-- All calls go on as far as they get without time passing. -/
def settle (s : Setup σ ρ) (b : Bridge σ ρ) : Bridge σ ρ :=
  settleWithin s (locksPerCall * b.calls.length) b

/-- The earliest time at which a call goes on by itself, and that call. -/
def nextDue? (b : Bridge σ ρ) : Option (Nat × Nat) :=
  b.calls.zipIdx.foldl
    (fun best (c, id) =>
      match c.phase.due?, best with
      | some due, some (least, _) => if due < least then some (due, id) else best
      | some due, none => some (due, id)
      | none, _ => best)
    none

/-- Moves the clock to the earliest time at which a call goes on by itself. -/
def wake (s : Setup σ ρ) (b : Bridge σ ρ) : Bridge σ ρ :=
  match b.nextDue? with
  | some (due, id) => expire s { b with now := due } id
  | none => b

def hasEnded (b : Bridge σ ρ) (id : Nat) : Bool := (b.phase? id).all Phase.isFinal

def awaitWithin (s : Setup σ ρ) (id : Nat) : Nat → Bridge σ ρ → Bridge σ ρ
  | 0, b => b
  | n + 1, b =>
    if b.hasEnded id || b.nextDue?.isNone then b else awaitWithin s id n ((b.wake s).settle s)

/-- Time passes until the call has ended, or nothing more will happen. -/
def await (s : Setup σ ρ) (b : Bridge σ ρ) (id : Nat) : Bridge σ ρ :=
  awaitWithin s id (timersPerCall * b.calls.length) (b.settle s)

def passTimeWithin (s : Setup σ ρ) (time : Nat) : Nat → Bridge σ ρ → Bridge σ ρ
  | 0, b => { b with now := time }
  | n + 1, b =>
    if b.nextDue?.any (·.1 ≤ time) then passTimeWithin s time n ((b.wake s).settle s)
    else { b with now := time }

/-- Time passes, whatever happens meanwhile. -/
def passTime (s : Setup σ ρ) (b : Bridge σ ρ) (ms : Nat) : Bridge σ ρ :=
  passTimeWithin s (b.now + min longestWait ms) (timersPerCall * b.calls.length) (b.settle s)

/-- Submits a call and waits for it. -/
def run (s : Setup σ ρ) (b : Bridge σ ρ) (r : Request) : Bridge σ ρ :=
  (b.submit s r).await s b.calls.length

def answer? (b : Bridge σ ρ) (id : Nat) : Option (Answer ρ) :=
  match b.phase? id with
  | some (.ended a) => some a
  | _ => none

end CommandBridge.Bridge
