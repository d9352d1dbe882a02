import CommandBridge.Bridge.Basic
import CommandBridge.Bridge.Result
import CommandBridge.Span

/-! What a call does from one wait to the next. The last part of a call comes first, so that each
part can go on with the next one. -/
namespace CommandBridge

/-- How long a connection may take to close. -/
def closeLimit : Nat := 5000

namespace Bridge

variable {σ ρ : Type}

/-- The end of an invocation. -/
def conclude (b : Bridge σ ρ) (id : Nat) (i : Invocation) (r : Except Failure (Output ρ)) :
    Bridge σ ρ :=
  let b := (b.record (.finished id i.command (.ofResult r))).passTurn
  match r with
  | .ok o => b.finish id (.records o.records)
  | .error e => b.finish id (.failed e)

/-- The end of an invocation that is at the session because it lost its connection. -/
def failLost (b : Bridge σ ρ) (id : Nat) (c : Connection) (e : Failure) : Bridge σ ρ :=
  let b := (b.withSession (b.session.invalidate c)).passAccess
  match b.request? id with
  | some (.invoke i) => b.conclude id i (.error e)
  | _ => b.finish id (.failed e)

def lose (b : Bridge σ ρ) (id : Nat) (c : Connection) (e : Failure) : Bridge σ ρ :=
  (b.record (.lost id c)).withAccess id (.losing c e) (·.failLost id c e)

/-- An invocation that has its answer. -/
def answered (b : Bridge σ ρ) (id : Nat) (i : Invocation) (c : Connection)
    (r : Except Failure (Output ρ)) : Bridge σ ρ :=
  match r with
  | .error e => if e.isRetryable then b.lose id c e else b.conclude id i (.error e)
  | .ok o =>
    match i.accept o with
    | .error e => b.conclude id i (.error e)
    | .ok o =>
      let b := if o.errors.isEmpty then b else b.record (.advised o.records.length o.errors.length)
      b.conclude id i (.ok o)

def executed (b : Bridge σ ρ) (id : Nat) (c : Connection) (r : Except Failure (Output ρ)) :
    Bridge σ ρ :=
  match b.request? id, r with
  | some (.invoke i), r => b.answered id i c r
  | _, .ok o => b.finish id (.output o)
  | _, .error e => b.finish id (.failed e)

def executionTimedOut (s : Setup σ ρ) (b : Bridge σ ρ) (id : Nat) (c : Connection) : Bridge σ ρ :=
  b.lose id c (.connection s!"remote command timed out after {spanText s.executionLimit}")

/-- Without any time to wait a call does not wait at all. -/
def execute (s : Setup σ ρ) (b : Bridge σ ρ) (id : Nat) (c : Connection) (i : Invocation)
    (limit : Option Nat) : Bridge σ ρ :=
  let b := b.record (.executing id c)
  match s.endpoint.execute c i b.remote with
  | (remote, .now r) => (b.withRemote remote).executed id c r
  | (remote, .later delay) =>
    let b := b.withRemote remote
    if limit = some 0 && delay != some 0 then b.executionTimedOut s id c
    else b.setPhase id (.executing c (.start b.now delay limit))

/-- A call that has got the live connection. -/
def opened (s : Setup σ ρ) (b : Bridge σ ρ) (id : Nat) (c : Connection) : Bridge σ ρ :=
  match b.request? id with
  | some (.invoke i) => b.execute s id c i (some s.executionLimit)
  | _ => b.finish id (.connection c)

def notOpened (b : Bridge σ ρ) (id : Nat) (e : Failure) : Bridge σ ρ :=
  match b.request? id with
  | some (.invoke i) => b.conclude id i (.error e)
  | _ => b.finish id (.failed e)

/-- A call whose handshake has been answered. -/
def connected (s : Setup σ ρ) (b : Bridge σ ρ) (id : Nat) (t : Target) (k : Credential)
    (r : Except Failure String) : Bridge σ ρ :=
  match r with
  | .ok name =>
    let c : Connection := ⟨name, t⟩
    let b := b.record (.opened c k b.session.generation)
    (b.withSession (b.session.install c)).passAccess.opened s id c
  | .error e => (b.record (.handshakeFailed t e)).passAccess.notOpened id e

def handshakeTimedOut (s : Setup σ ρ) (b : Bridge σ ρ) (id : Nat) (t : Target) : Bridge σ ρ :=
  (b.record (.handshakeTimedOut t)).passAccess.notOpened id
    (.connection s!"handshake timed out after {spanText s.openLimit}")

/-- A call at the session that wants its connection. -/
def ensureOpen (s : Setup σ ρ) (b : Bridge σ ρ) (id : Nat) : Bridge σ ρ :=
  let b := b.withSession b.session.discardAbandoned
  match b.session.live, b.session.credential with
  | some c, _ => b.passAccess.opened s id c
  | none, none => b.passAccess.notOpened id .unauthenticated
  | none, some k =>
    let t := b.session.target
    let b := b.record (.handshake id t k)
    match s.endpoint.connect t k b.remote with
    | (remote, .now r) => (b.withRemote remote).connected s id t k r
    | (remote, .later delay) =>
      let b := b.withRemote remote
      if s.openLimit = 0 && delay != some 0 then b.handshakeTimedOut s id t
      else b.setPhase id (.opening t k (.start b.now delay (some s.openLimit)))

/-- A call that has closed the connections it had to close. -/
def allClosed (s : Setup σ ρ) (b : Bridge σ ρ) (id : Nat) : Bridge σ ρ :=
  match b.request? id with
  | some (.invoke _) => b.withAccess id (.waiting .ensureOpen) (ensureOpen s · id)
  | _ => b.passTurn.finish id .done

/-- Nobody waits for the answer to a close, but the log tells what was wrong. -/
def noteClosed (b : Bridge σ ρ) (c : Connection) (r : Except Failure (Option String)) :
    Bridge σ ρ :=
  match r with
  | .ok none => b
  | .ok (some text) => b.record (.remarked text)
  | .error e => b.record (.closeFailed c e)

/-- Closes one connection after the other. -/
def closeAll (s : Setup σ ρ) (b : Bridge σ ρ) (id : Nat) : List Connection → Bridge σ ρ
  | [] => b.allClosed s id
  | c :: rest =>
    let b := b.record (.closing id c)
    match s.endpoint.close c b.remote with
    | (remote, .now r) => ((b.withRemote remote).noteClosed c r).closeAll s id rest
    | (remote, .later delay) =>
      (b.withRemote remote).setPhase id (.closing c rest (.start b.now delay (some closeLimit)))

/-- A call whose connection has closed, or has failed to. -/
def closed (s : Setup σ ρ) (b : Bridge σ ρ) (id : Nat) (c : Connection) (rest : List Connection)
    (r : Except Failure (Option String)) : Bridge σ ρ :=
  match b.request? id, r with
  | some (.close _), .error e => b.finish id (.failed e)
  | some (.close _), .ok remark => (b.noteClosed c (.ok remark)).finish id .done
  | _, r => (b.noteClosed c r).closeAll s id rest

/-- Closes a connection for its caller alone. -/
def close (s : Setup σ ρ) (b : Bridge σ ρ) (id : Nat) (c : Connection) : Bridge σ ρ :=
  let b := b.record (.closing id c)
  match s.endpoint.close c b.remote with
  | (remote, .now r) => (b.withRemote remote).closed s id c [] r
  | (remote, .later delay) =>
    (b.withRemote remote).setPhase id (.closing c [] (.start b.now delay none))

/-- Connections that a call has taken out of the session: its own to close, or its answer. -/
def handOut (s : Setup σ ρ) (b : Bridge σ ρ) (id : Nat) (taken : List Connection × Session) :
    Bridge σ ρ :=
  let b := ((b.withSession taken.2).record (.handedOut id taken.1)).passAccess
  match b.request? id with
  | some (.session _) => b.finish id (.connections taken.1)
  | _ => b.closeAll s id taken.1

/-- A call at the session. -/
def act (s : Setup σ ρ) (b : Bridge σ ρ) (id : Nat) : SessionAction → Bridge σ ρ
  | .setCredential k =>
    ((b.record (.credentialSet k)).withSession (b.session.setCredential k)).passAccess.finish id
      .done
  | .clearCredential => (b.withSession b.session.clearCredential).passAccess.finish id .done
  | .setTarget t =>
    ((b.record (.targetSet t)).withSession (b.session.setTarget t)).passAccess.finish id .done
  | .ensureOpen => b.ensureOpen s id
  | .invalidate c => (b.withSession (b.session.invalidate c)).passAccess.finish id .done
  | .takeRetired => b.handOut s id b.session.takeRetired
  | .retireAll => b.handOut s id b.session.retireAll
  | .isOpen =>
    let session := b.session.discardAbandoned
    (b.withSession session).passAccess.finish id (.flag session.live.isSome)
  | .isAuthenticated => b.passAccess.finish id (.flag b.session.credential.isSome)
  | .target => b.passAccess.finish id (.target b.session.target)
  | .generation => b.passAccess.finish id (.count b.session.generation)

def waitToAct (s : Setup σ ρ) (b : Bridge σ ρ) (id : Nat) (a : SessionAction) : Bridge σ ρ :=
  b.withAccess id (.waiting a) (act s · id a)

/-- A call whose turn has come. -/
def takeTurn (s : Setup σ ρ) (b : Bridge σ ρ) (id : Nat) : Bridge σ ρ :=
  match b.request? id with
  | some (.invoke i) => (b.record (.started id i.command)).waitToAct s id .takeRetired
  | _ => b.waitToAct s id .retireAll

end Bridge

end CommandBridge
