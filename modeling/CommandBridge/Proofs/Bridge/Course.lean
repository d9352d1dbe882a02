import CommandBridge.Proofs.Bridge.Step

/-! The course of a call from one wait to the next, cut into single moves. Each part of a call's
conduct is a chain of moves, so what every move keeps is kept by the whole. -/
namespace CommandBridge

variable {σ ρ : Type}

/-- An invocation with anything to run, or a shutdown. -/
def Request.needsTurn : Request → Bool
  | .invoke i => !i.pipeline.isEmpty
  | .shutdown => true
  | _ => false

/-- What a call does next. -/
inductive Point (ρ : Type) where
  | turn
  | approach (action : SessionAction)
  | act (action : SessionAction)
  | connected (target : Target) (credential : Credential) (result : Except Failure String)
  | handshakeTimedOut (target : Target)
  | opened (connection : Connection)
  | notOpened (failure : Failure)
  | execute (connection : Connection) (invocation : Invocation) (limit : Option Nat)
  | executed (connection : Connection) (result : Except Failure (Output ρ))
  | lose (connection : Connection) (failure : Failure)
  | failLost (connection : Connection) (failure : Failure)
  | conclude (invocation : Invocation) (result : Except Failure (Output ρ))
  | close (connections : List Connection)
  | closeOwn (connection : Connection)
  | closed (connection : Connection) (rest : List Connection)
      (result : Except Failure (Option String))
  /-- It stops, for now or for good. -/
  | park (phase : Phase ρ)

namespace SessionAction

/-- What an action makes of the session, apart from a handshake. -/
def update : SessionAction → Session → Session
  | setCredential k, x => x.setCredential k
  | clearCredential, x => x.clearCredential
  | setTarget t, x => x.setTarget t
  | invalidate c, x => x.invalidate c
  | ensureOpen, x | isOpen, x => x.discardAbandoned
  | takeRetired, x => x.takeRetired.2
  | retireAll, x => x.retireAll.2
  | isAuthenticated, x | target, x | generation, x => x

def events : SessionAction → List Event
  | setCredential k => [.credentialSet k]
  | setTarget t => [.targetSet t]
  | _ => []

/-- The answer of an action that needs neither a handshake nor the retired connections. -/
def answer? (x : Session) : SessionAction → Option (Answer ρ)
  | setCredential _ | clearCredential | setTarget _ | invalidate _ => some .done
  | isOpen => some (.flag x.discardAbandoned.live.isSome)
  | isAuthenticated => some (.flag x.credential.isSome)
  | target => some (.target x.target)
  | generation => some (.count x.generation)
  | ensureOpen | takeRetired | retireAll => none

/-- The connections that an action takes out of the session. -/
def taken? (x : Session) : SessionAction → Option (List Connection)
  | takeRetired => some x.takeRetired.1
  | retireAll => some x.retireAll.1
  | _ => none

end SessionAction

def Answer.ofResult : Except Failure (Output ρ) → Answer ρ
  | .ok o => .records o.records
  | .error e => .failed e

/-- The lines that the answer to a close leaves in the log. -/
def closeNotes (c : Connection) : Except Failure (Option String) → List Event
  | .ok none => []
  | .ok (some text) => [.remarked text]
  | .error e => [.closeFailed c e]

namespace Bridge

def recordAll (b : Bridge σ ρ) (es : List Event) : Bridge σ ρ :=
  { b with history := b.history ++ es.map (b.now, ·) }

theorem recordAll_nil (b : Bridge σ ρ) : b.recordAll [] = b := by simp [recordAll]

theorem noteClosed_eq (b : Bridge σ ρ) (c : Connection) (r : Except Failure (Option String)) :
    b.noteClosed c r = b.recordAll (closeNotes c r) := by
  unfold noteClosed closeNotes
  split <;> simp [recordAll, record]

/-- The failure of an execution that takes too long. -/
def executionFailure (s : Setup σ ρ) : Failure :=
  .connection s!"remote command timed out after {spanText s.executionLimit}"

def handshakeFailure (s : Setup σ ρ) : Failure :=
  .connection s!"handshake timed out after {spanText s.openLimit}"

/-- One move of a running call. -/
inductive Moves (s : Setup σ ρ) (id : Nat) :
    Bridge σ ρ → Point ρ → Bridge σ ρ → Point ρ → Prop where
  | start {b i} (hr : b.request? id = some (.invoke i)) :
      Moves s id b .turn (b.record (.started id i.command)) (.approach .takeRetired)
  | shutDown {b} (hr : ∀ i, b.request? id ≠ some (.invoke i)) :
      Moves s id b .turn b (.approach .retireAll)
  | enter {b a} (h : (b.access.request id).holder = some id) :
      Moves s id b (.approach a) { b with access := b.access.request id } (.act a)
  | wait {b a} (h : (b.access.request id).holder ≠ some id) :
      Moves s id b (.approach a) { b with access := b.access.request id } (.park (.waiting a))
  | serve {b a answer} (h : a.answer? b.session = some answer) :
      Moves s id b (.act a)
        ((b.recordAll a.events).withSession (a.update b.session)).passAccess
        (.park (.ended answer))
  | handOut {b a cs} (h : a.taken? b.session = some cs)
      (hr : ∃ a, b.request? id = some (.session a)) :
      Moves s id b (.act a)
        ((b.withSession (a.update b.session)).record (.handedOut id cs)).passAccess
        (.park (.ended (.connections cs)))
  | collect {b a cs} (h : a.taken? b.session = some cs)
      (hr : ∀ a, b.request? id ≠ some (.session a)) :
      Moves s id b (.act a)
        ((b.withSession (a.update b.session)).record (.handedOut id cs)).passAccess
        (.close cs)
  | reuse {b c} (h : b.session.discardAbandoned.live = some c) :
      Moves s id b (.act .ensureOpen) (b.withSession b.session.discardAbandoned).passAccess
        (.opened c)
  | refuse {b} (hl : b.session.discardAbandoned.live = none)
      (hk : b.session.discardAbandoned.credential = none) :
      Moves s id b (.act .ensureOpen) (b.withSession b.session.discardAbandoned).passAccess
        (.notOpened .unauthenticated)
  | connect {b t k remote r} (hl : b.session.discardAbandoned.live = none)
      (hk : b.session.discardAbandoned.credential = some k)
      (ht : b.session.discardAbandoned.target = t)
      (he : s.endpoint.connect t k b.remote = (remote, .now r)) :
      Moves s id b (.act .ensureOpen)
        (((b.withSession b.session.discardAbandoned).record (.handshake id t k)).withRemote remote)
        (.connected t k r)
  | connectNever {b t k remote delay} (hl : b.session.discardAbandoned.live = none)
      (hk : b.session.discardAbandoned.credential = some k)
      (ht : b.session.discardAbandoned.target = t)
      (he : s.endpoint.connect t k b.remote = (remote, .later delay))
      (hd : s.openLimit = 0 ∧ delay ≠ some 0) :
      Moves s id b (.act .ensureOpen)
        (((b.withSession b.session.discardAbandoned).record (.handshake id t k)).withRemote remote)
        (.handshakeTimedOut t)
  | connectLater {b t k remote delay} (hl : b.session.discardAbandoned.live = none)
      (hk : b.session.discardAbandoned.credential = some k)
      (ht : b.session.discardAbandoned.target = t)
      (he : s.endpoint.connect t k b.remote = (remote, .later delay))
      (hd : ¬ (s.openLimit = 0 ∧ delay ≠ some 0)) :
      Moves s id b (.act .ensureOpen)
        (((b.withSession b.session.discardAbandoned).record (.handshake id t k)).withRemote remote)
        (.park (.opening t k (.start b.now delay (some s.openLimit))))
  | install {b t k name} :
      Moves s id b (.connected t k (.ok name))
        ((b.record (.opened ⟨name, t⟩ k b.session.generation)).withSession
          (b.session.install ⟨name, t⟩)).passAccess
        (.opened ⟨name, t⟩)
  | fail {b t k e} :
      Moves s id b (.connected t k (.error e)) (b.record (.handshakeFailed t e)).passAccess
        (.notOpened e)
  | timeOut {b t} :
      Moves s id b (.handshakeTimedOut t) (b.record (.handshakeTimedOut t)).passAccess
        (.notOpened (handshakeFailure s))
  | run {b c i} (hr : b.request? id = some (.invoke i)) :
      Moves s id b (.opened c) b (.execute c i (some s.executionLimit))
  | give {b c} (hr : ∀ i, b.request? id ≠ some (.invoke i)) :
      Moves s id b (.opened c) b (.park (.ended (.connection c)))
  | giveIn {b e i} (hr : b.request? id = some (.invoke i)) :
      Moves s id b (.notOpened e) b (.conclude i (.error e))
  | giveFailure {b e} (hr : ∀ i, b.request? id ≠ some (.invoke i)) :
      Moves s id b (.notOpened e) b (.park (.ended (.failed e)))
  | execute {b c i limit remote r} (he : s.endpoint.execute c i b.remote = (remote, .now r)) :
      Moves s id b (.execute c i limit) ((b.record (.executing id c)).withRemote remote)
        (.executed c r)
  | executeNever {b c i limit remote delay}
      (he : s.endpoint.execute c i b.remote = (remote, .later delay))
      (hd : limit = some 0 ∧ delay ≠ some 0) :
      Moves s id b (.execute c i limit) ((b.record (.executing id c)).withRemote remote)
        (.lose c (executionFailure s))
  | executeLater {b c i limit remote delay}
      (he : s.endpoint.execute c i b.remote = (remote, .later delay))
      (hd : ¬ (limit = some 0 ∧ delay ≠ some 0)) :
      Moves s id b (.execute c i limit) ((b.record (.executing id c)).withRemote remote)
        (.park (.executing c (.start b.now delay limit)))
  | breakDown {b c i e} (hr : b.request? id = some (.invoke i)) (h : e.isRetryable = true) :
      Moves s id b (.executed c (.error e)) b (.lose c e)
  | rejected {b c i e} (hr : b.request? id = some (.invoke i)) (h : e.isRetryable = false) :
      Moves s id b (.executed c (.error e)) b (.conclude i (.error e))
  | refused {b c i o e} (hr : b.request? id = some (.invoke i)) (h : i.accept o = .error e) :
      Moves s id b (.executed c (.ok o)) b (.conclude i (.error e))
  | accept {b c i o o'} (hr : b.request? id = some (.invoke i)) (h : i.accept o = .ok o')
      (he : o'.errors = []) :
      Moves s id b (.executed c (.ok o)) b (.conclude i (.ok o'))
  | advise {b c i o o'} (hr : b.request? id = some (.invoke i)) (h : i.accept o = .ok o')
      (he : o'.errors ≠ []) :
      Moves s id b (.executed c (.ok o))
        (b.record (.advised o'.records.length o'.errors.length)) (.conclude i (.ok o'))
  | output {b c o} (hr : ∀ i, b.request? id ≠ some (.invoke i)) :
      Moves s id b (.executed c (.ok o)) b (.park (.ended (.output o)))
  | outputFailure {b c e} (hr : ∀ i, b.request? id ≠ some (.invoke i)) :
      Moves s id b (.executed c (.error e)) b (.park (.ended (.failed e)))
  | lose {b c e} (h : (b.access.request id).holder = some id) :
      Moves s id b (.lose c e)
        { b.record (.lost id c) with access := b.access.request id } (.failLost c e)
  | loseLater {b c e} (h : (b.access.request id).holder ≠ some id) :
      Moves s id b (.lose c e)
        { b.record (.lost id c) with access := b.access.request id } (.park (.losing c e))
  | failLost {b c e i} (hr : b.request? id = some (.invoke i)) :
      Moves s id b (.failLost c e) (b.withSession (b.session.invalidate c)).passAccess
        (.conclude i (.error e))
  | failOther {b c e} (hr : ∀ i, b.request? id ≠ some (.invoke i)) :
      Moves s id b (.failLost c e) (b.withSession (b.session.invalidate c)).passAccess
        (.park (.ended (.failed e)))
  | conclude {b i r} :
      Moves s id b (.conclude i r)
        (b.record (.finished id i.command (.ofResult r))).passTurn (.park (.ended (.ofResult r)))
  | proceed {b i} (hr : b.request? id = some (.invoke i)) :
      Moves s id b (.close []) b (.approach .ensureOpen)
  | leave {b} (hr : ∀ i, b.request? id ≠ some (.invoke i)) :
      Moves s id b (.close []) b.passTurn (.park (.ended .done))
  | close {b c rest remote r} (he : s.endpoint.close c b.remote = (remote, .now r)) :
      Moves s id b (.close (c :: rest))
        (((b.record (.closing id c)).withRemote remote).recordAll (closeNotes c r)) (.close rest)
  | closeLater {b c rest remote delay} (he : s.endpoint.close c b.remote = (remote, .later delay)) :
      Moves s id b (.close (c :: rest)) ((b.record (.closing id c)).withRemote remote)
        (.park (.closing c rest (.start b.now delay (some closeLimit))))
  | closeOwn {b c remote r} (he : s.endpoint.close c b.remote = (remote, .now r)) :
      Moves s id b (.closeOwn c) ((b.record (.closing id c)).withRemote remote) (.closed c [] r)
  | closeOwnLater {b c remote delay} (he : s.endpoint.close c b.remote = (remote, .later delay)) :
      Moves s id b (.closeOwn c) ((b.record (.closing id c)).withRemote remote)
        (.park (.closing c [] (.start b.now delay none)))
  | closedOwn {b c rest text} (hr : ∃ c, b.request? id = some (.close c)) :
      Moves s id b (.closed c rest (.ok text)) (b.recordAll (closeNotes c (.ok text)))
        (.park (.ended .done))
  | closeFailed {b c rest e} (hr : ∃ c, b.request? id = some (.close c)) :
      Moves s id b (.closed c rest (.error e)) b (.park (.ended (.failed e)))
  | closed {b c rest r} (hr : ∀ c, b.request? id ≠ some (.close c)) :
      Moves s id b (.closed c rest r) (b.recordAll (closeNotes c r)) (.close rest)

/-- Moves until the call stops. -/
inductive Leads (s : Setup σ ρ) (id : Nat) : Point ρ → Bridge σ ρ → Bridge σ ρ → Prop where
  | park {b ph} : Leads s id (.park ph) b (b.setPhase id ph)
  | move {b p b' p' b''} (h : Moves s id b p b' p') (hl : Leads s id p' b' b'') :
      Leads s id p b b''

section
variable {s : Setup σ ρ} {id : Nat}

theorem leads_conclude (b : Bridge σ ρ) (i : Invocation) (r : Except Failure (Output ρ)) :
    Leads s id (.conclude i r) b (b.conclude id i r) := by
  cases r <;> exact .move .conclude .park

theorem leads_failLost (b : Bridge σ ρ) (c : Connection) (e : Failure) :
    Leads s id (.failLost c e) b (b.failLost id c e) := by
  unfold Bridge.failLost
  dsimp only
  split
  · rename_i i hr
    exact .move (.failLost hr) (leads_conclude _ _ _)
  · rename_i hr
    exact .move (.failOther hr) .park

theorem leads_lose (b : Bridge σ ρ) (c : Connection) (e : Failure) :
    Leads s id (.lose c e) b (b.lose id c e) := by
  unfold Bridge.lose withAccess
  dsimp only
  split
  · rename_i h
    exact .move (.lose h) (leads_failLost _ _ _)
  · rename_i h
    exact .move (.loseLater h) .park

theorem leads_executed (b : Bridge σ ρ) (c : Connection) (r : Except Failure (Output ρ)) :
    Leads s id (.executed c r) b (b.executed id c r) := by
  unfold Bridge.executed
  split
  · rename_i i hr
    unfold answered
    split
    · rename_i e
      split
      · exact .move (.breakDown hr ‹_›) (leads_lose _ _ _)
      · rename_i h
        exact .move (.rejected hr (by simpa using h)) (leads_conclude _ _ _)
    · split
      · exact .move (.refused hr ‹_›) (leads_conclude _ _ _)
      · rename_i o' ha
        dsimp only
        split
        · rename_i h
          exact .move (.accept hr ha (by simpa using h)) (leads_conclude _ _ _)
        · rename_i h
          exact .move (.advise hr ha (by simpa using h)) (leads_conclude _ _ _)
  · rename_i hr
    exact .move (.output hr) .park
  · rename_i hr
    exact .move (.outputFailure hr) .park

theorem leads_execute (b : Bridge σ ρ) (c : Connection) (i : Invocation) (limit : Option Nat) :
    Leads s id (.execute c i limit) b (b.execute s id c i limit) := by
  unfold Bridge.execute
  dsimp only
  split
  · rename_i he
    exact .move (.execute he) (leads_executed _ _ _)
  · rename_i he
    split
    · rename_i h
      exact .move (.executeNever he (by simpa using h)) (leads_lose _ _ _)
    · rename_i h
      exact .move (.executeLater he (by simpa using h)) .park

theorem leads_opened (b : Bridge σ ρ) (c : Connection) :
    Leads s id (.opened c) b (b.opened s id c) := by
  unfold Bridge.opened
  split
  · rename_i hr
    exact .move (.run hr) (leads_execute _ _ _ _)
  · rename_i hr
    exact .move (.give hr) .park

theorem leads_notOpened (b : Bridge σ ρ) (e : Failure) :
    Leads s id (.notOpened e) b (b.notOpened id e) := by
  unfold Bridge.notOpened
  split
  · rename_i hr
    exact .move (.giveIn hr) (leads_conclude _ _ _)
  · rename_i hr
    exact .move (.giveFailure hr) .park

theorem leads_connected (b : Bridge σ ρ) (t : Target) (k : Credential)
    (r : Except Failure String) : Leads s id (.connected t k r) b (b.connected s id t k r) := by
  cases r with
  | ok name => exact .move .install (leads_opened _ _)
  | error e => exact .move .fail (leads_notOpened _ _)

theorem leads_handshakeTimedOut (b : Bridge σ ρ) (t : Target) :
    Leads s id (.handshakeTimedOut t) b (b.handshakeTimedOut s id t) :=
  .move .timeOut (leads_notOpened _ _)

theorem leads_ensureOpen (b : Bridge σ ρ) :
    Leads s id (.act .ensureOpen) b (b.ensureOpen s id) := by
  unfold Bridge.ensureOpen
  dsimp only
  split
  · rename_i hl
    exact .move (.reuse hl) (leads_opened _ _)
  · rename_i hl hk
    exact .move (.refuse hl hk) (leads_notOpened _ _)
  · rename_i hl hk
    split
    · rename_i he
      exact .move (.connect hl hk rfl he) (leads_connected _ _ _ _)
    · rename_i he
      split
      · rename_i h
        exact .move (.connectNever hl hk rfl he (by simpa using h)) (leads_handshakeTimedOut _ _)
      · rename_i h
        exact .move (.connectLater hl hk rfl he (by simpa using h)) .park

theorem leads_closeAll (b : Bridge σ ρ) (cs : List Connection) :
    Leads s id (.close cs) b (b.closeAll s id cs) := by
  induction cs generalizing b with
  | nil =>
    unfold closeAll allClosed
    split
    · rename_i hr
      refine .move (.proceed hr) ?_
      unfold withAccess
      dsimp only
      split
      · exact .move (.enter ‹_›) (leads_ensureOpen _)
      · exact .move (.wait ‹_›) .park
    · rename_i hr
      exact .move (.leave hr) .park
  | cons c rest ih =>
    unfold closeAll
    dsimp only
    split
    · rename_i he
      rw [noteClosed_eq]
      exact .move (.close he) (ih _)
    · rename_i he
      exact .move (.closeLater he) .park

theorem leads_closed (b : Bridge σ ρ) (c : Connection) (rest : List Connection)
    (r : Except Failure (Option String)) :
    Leads s id (.closed c rest r) b (b.closed s id c rest r) := by
  unfold Bridge.closed
  split
  · rename_i hr
    exact .move (.closeFailed ⟨_, hr⟩) .park
  · rename_i hr
    rw [noteClosed_eq]
    exact .move (.closedOwn ⟨_, hr⟩) .park
  · rename_i r _ _ h1 h2
    rw [noteClosed_eq]
    refine .move (.closed fun c' hr => ?_) (leads_closeAll _ _)
    rcases r with e | text
    · exact h1 _ _ hr rfl
    · exact h2 _ _ hr rfl

theorem leads_close (b : Bridge σ ρ) (c : Connection) :
    Leads s id (.closeOwn c) b (b.close s id c) := by
  unfold Bridge.close
  dsimp only
  split
  · rename_i he
    exact .move (.closeOwn he) (leads_closed _ _ _ _)
  · rename_i he
    exact .move (.closeOwnLater he) .park

theorem leads_handOut (b : Bridge σ ρ) {a : SessionAction} {taken : List Connection × Session}
    (h : a.taken? b.session = some taken.1) (hu : a.update b.session = taken.2) :
    Leads s id (.act a) b (b.handOut s id taken) := by
  unfold Bridge.handOut
  dsimp only
  rw [← hu]
  split
  · rename_i hr
    exact .move (.handOut h ⟨_, hr⟩) .park
  · rename_i hr
    exact .move (.collect h hr) (leads_closeAll _ _)

theorem leads_serve (b : Bridge σ ρ) {a : SessionAction} {answer : Answer ρ}
    (h : a.answer? b.session = some answer) :
    Leads s id (.act a) b
      (((b.recordAll a.events).withSession (a.update b.session)).passAccess.finish id answer) :=
  .move (.serve h) .park

theorem leads_serve_silently (b : Bridge σ ρ) {a : SessionAction} {answer : Answer ρ}
    (h : a.answer? b.session = some answer) (he : a.events = []) :
    Leads s id (.act a) b
      ((b.withSession (a.update b.session)).passAccess.finish id answer) := by
  simpa only [he, recordAll_nil] using leads_serve b h

theorem leads_act (b : Bridge σ ρ) (a : SessionAction) :
    Leads s id (.act a) b (b.act s id a) := by
  cases a with
  | setCredential k => exact leads_serve b rfl
  | setTarget t => exact leads_serve b rfl
  | ensureOpen => exact leads_ensureOpen b
  | takeRetired => exact leads_handOut b rfl rfl
  | retireAll => exact leads_handOut b rfl rfl
  | clearCredential | invalidate | isOpen | isAuthenticated | target | generation =>
    exact leads_serve_silently b rfl rfl

theorem leads_waitToAct (b : Bridge σ ρ) (a : SessionAction) :
    Leads s id (.approach a) b (b.waitToAct s id a) := by
  unfold waitToAct withAccess
  dsimp only
  split
  · exact .move (.enter ‹_›) (leads_act _ _)
  · exact .move (.wait ‹_›) .park

theorem leads_takeTurn (b : Bridge σ ρ) : Leads s id .turn b (b.takeTurn s id) := by
  unfold takeTurn
  split
  · rename_i hr
    exact .move (.start hr) (leads_waitToAct _ _)
  · rename_i hr
    exact .move (.shutDown hr) (leads_waitToAct _ _)

end

end Bridge

end CommandBridge
