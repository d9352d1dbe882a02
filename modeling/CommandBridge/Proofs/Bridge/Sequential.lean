import CommandBridge.Proofs.Bridge.Deadlock
import CommandBridge.Proofs.Bridge.Undisturbed

/-! An invocation that is awaited while no other call is under way: the schedule takes it through
its parts one after the other, whatever the endpoint answers. -/
namespace CommandBridge

variable {σ ρ : Type}

theorem Phase.due?_of_isFinal {ph : Phase ρ} (h : ph.isFinal = true) : ph.due? = none := by
  cases ph with
  | ended | cancelled => rfl
  | _ => simp [isFinal] at h

namespace Bridge

/-- Every call is over, so that nobody has a lock or waits for one. -/
structure Resting (b : Bridge σ ρ) : Prop where
  ended : ∀ c ∈ b.calls, c.phase.isFinal = true
  turn : b.turn = .free
  access : b.access = .free
  ready : b.ready = []

/-- A bridge at rest that has a credential. -/
structure Authenticated (b : Bridge σ ρ) : Prop extends b.Resting where
  credential : b.session.credential.isSome = true

/-- The newest call asks for `q` after the calls `old`, which are over, and has the turn; the
endpoint is at `m`. -/
structure Newest (old : List (Call ρ)) (q : Request) (m : σ) (b : Bridge σ ρ) : Prop where
  ended : ∀ c ∈ old, c.phase.isFinal = true
  calls : ∃ ph, b.calls = old ++ [⟨q, ph⟩]
  turn : b.turn = ⟨some old.length, []⟩
  ready : b.ready = []
  remote : b.remote = m

/-- The invocation `i` after the calls `old`, which are over, has the turn; the session and the
endpoint are at `x` and `m`. -/
structure Alone (old : List (Call ρ)) (i : Invocation) (atSession : Option Nat) (x : Session)
    (m : σ) (b : Bridge σ ρ) : Prop where
  ended : ∀ c ∈ old, c.phase.isFinal = true
  calls : ∃ ph, b.calls = old ++ [⟨.invoke i, ph⟩]
  turn : b.turn = ⟨some old.length, []⟩
  access : b.access = ⟨atSession, []⟩
  ready : b.ready = []
  session : b.session = x
  remote : b.remote = m

/-- The invocation `i` after the calls `old` has ended with the result `r`. -/
structure Concluded (old : List (Call ρ)) (i : Invocation) (r : Except Failure (Output ρ))
    (x : Session) (m : σ) (b : Bridge σ ρ) : Prop where
  ended : ∀ c ∈ old, c.phase.isFinal = true
  calls : b.calls = old ++ [⟨.invoke i, .ended (.ofResult r)⟩]
  turn : b.turn = .free
  access : b.access = .free
  ready : b.ready = []
  session : b.session = x
  remote : b.remote = m
  /-- Nothing has happened since it was reported. -/
  reported : b.history.getLast? = some (b.now, .finished old.length i.command (.ofResult r))

/-- Awaited for `n` moments or more, the call comes to a state with `P`. -/
structure Comes (s : Setup σ ρ) (id : Nat) (P : Bridge σ ρ → Prop) (n : Nat)
    (b : Bridge σ ρ) : Prop where
  begun : id < b.calls.length
  ready : b.ready = []
  holds : ∀ k, n ≤ k → P (b.awaitWithin s id k)

theorem conclude_eq (b : Bridge σ ρ) (id : Nat) (i : Invocation) (r : Except Failure (Output ρ)) :
    b.conclude id i r =
      (b.record (.finished id i.command (.ofResult r))).passTurn.finish id (.ofResult r) := by
  cases r <;> rfl

section
variable {s : Setup σ ρ} {P : Bridge σ ρ → Prop} {b : Bridge σ ρ} {old : List (Call ρ)}
variable {i : Invocation} {r : Except Failure (Output ρ)} {a : Option Nat} {x : Session} {m : σ}
variable {c : Connection} {n : Nat}

theorem authenticated_setCredential (s : Setup σ ρ) (t : Target) (k : Credential) (m : σ) :
    ((Bridge.new t m).run s (.session (.setCredential k))).Authenticated := by
  have hc : ((Bridge.new t m).run s (.session (.setCredential k))).calls =
      [⟨.session (.setCredential k), .ended .done⟩] := rfl
  refine { ended := ?_, turn := rfl, access := rfl, ready := rfl, credential := rfl }
  rw [hc]
  exact List.forall_mem_singleton.mpr rfl

/-- When all calls are over, a bridge is at rest. -/
theorem Visited.resting {mayStop : Bridge σ ρ → Nat → Prop} {t : Target} {remote : σ}
    (h : Visited s mayStop t remote b none) (hf : ∀ c ∈ b.calls, c.phase.isFinal = true) :
    b.Resting := by
  have hover (j : Nat) : ¬b.Unfinished j := by
    rintro ⟨ph, hp, hn⟩
    obtain ⟨c, hc, rfl⟩ := Option.map_eq_some_iff.mp hp
    exact Bool.false_ne_true (hn.symm.trans (hf c (List.mem_of_getElem? hc)))
  have hfree (g : Gate) : b.locks g = .free := by
    have hholder : (b.locks g).holder = none := by
      rw [Option.eq_none_iff_forall_ne_some]
      intro j hl
      exact hover j (h.held hl)
    have hwaiting := (Locks.orderly h.inOrder g).idle hholder
    cases hl : b.locks g with
    | mk holder waiting =>
      rw [hl] at hholder hwaiting
      dsimp only at hholder hwaiting
      rw [hholder, hwaiting]
      rfl
  refine ⟨hf, hfree .turn, hfree .access, List.eq_nil_iff_forall_not_mem.mpr ?_⟩
  intro j hj
  obtain ⟨g, hw, -⟩ := h.canGoOn_iff.mpr hj
  obtain ⟨ph, hp, hg⟩ := Option.bind_eq_some_iff.mp hw
  exact hover j ⟨ph, hp, Phase.isFinal_of_gate hg⟩

theorem settle_of_ready (h : b.ready = []) : b.settle s = b := by
  rw [settle]
  cases locksPerCall * b.calls.length with
  | zero => rfl
  | succ n => simp [settleWithin, h]

theorem Concluded.resting (h : Concluded old i r x m b) : b.Resting := by
  refine ⟨fun c hc => ?_, h.turn, h.access, h.ready⟩
  rw [h.calls, List.mem_append, List.mem_singleton] at hc
  rcases hc with hc | rfl
  · exact h.ended c hc
  · rfl

theorem Concluded.phase? (h : Concluded old i r x m b) :
    b.phase? old.length = some (.ended (.ofResult r)) := by
  simp [Bridge.phase?, h.calls]

theorem Concluded.answer? (h : Concluded old i r x m b) :
    b.answer? old.length = some (.ofResult r) := by
  simp [Bridge.answer?, h.phase?]

theorem Comes.of_ended {id : Nat} {ph : Phase ρ} (hready : b.ready = [])
    (hp : b.phase? id = some ph) (hf : ph.isFinal = true) (hP : P b) : Comes s id P n b := by
  obtain ⟨c, hc, -⟩ := Option.map_eq_some_iff.mp hp
  refine ⟨(List.getElem?_eq_some_iff.mp hc).1, hready, fun k _ => ?_⟩
  cases k with
  | zero => exact hP
  | succ k => simpa [awaitWithin, hasEnded, hp, hf] using hP

theorem Concluded.comes (h : Concluded old i r x m b) (hP : P b) :
    Comes s old.length P n b :=
  .of_ended h.ready h.phase? rfl hP

theorem Comes.mono {k : Nat} (h : Comes s k P n b) {n' : Nat} (hn : n ≤ n') :
    Comes s k P n' b :=
  ⟨h.begun, h.ready, fun j hj => h.holds j (hn.trans hj)⟩

/-- There are three moments in a run for each call so far. -/
theorem Comes.run {q : Request} (h : Comes s b.calls.length P n (b.submit s q))
    (hn : n ≤ timersPerCall * (b.calls.length + 1)) : P (b.run s q) := by
  rw [Bridge.run, await, settle_of_ready h.ready]
  apply h.holds
  exact hn.trans (Nat.mul_le_mul_left _ h.begun)

namespace Newest

variable {q : Request}

theorem record (h : Newest old q m b) (e : Event) : Newest old q m (b.record e) :=
  { h with }

theorem noteClosed (h : Newest old q m b) (r : Except Failure (Option String)) :
    Newest old q m (b.noteClosed c r) := by
  rw [noteClosed_eq]
  exact { h with }

theorem withRemote (h : Newest old q m b) (m' : σ) : Newest old q m' (b.withRemote m') :=
  { h with remote := rfl }

theorem atTime (h : Newest old q m b) (time : Nat) : Newest old q m { b with now := time } :=
  { h with }

theorem calls_setPhase (h : Newest old q m b) (ph : Phase ρ) :
    (b.setPhase old.length ph).calls = old ++ [⟨q, ph⟩] := by
  obtain ⟨ph', hc⟩ := h.calls
  simp [Bridge.setPhase, hc, List.modify_eq_take_drop]

theorem setPhase (h : Newest old q m b) (ph : Phase ρ) :
    Newest old q m (b.setPhase old.length ph) :=
  { h with calls := ⟨ph, h.calls_setPhase ph⟩ }

theorem request? (h : Newest old q m b) : b.request? old.length = some q := by
  obtain ⟨ph, hc⟩ := h.calls
  simp [Bridge.request?, hc]

theorem phase?_setPhase (h : Newest old q m b) (ph : Phase ρ) :
    (b.setPhase old.length ph).phase? old.length = some ph := by
  simp [Bridge.phase?, h.calls_setPhase]

/-- Another call's time does not come, and this one's comes in any case. -/
theorem nextDue? (h : Newest old q m b) {due : Nat}
    (hd : (b.phase? old.length).bind Phase.due? = some due) :
    b.nextDue? = some (due, old.length) := by
  obtain ⟨⟨due', id⟩, hn⟩ := exists_nextDue hd
  have hd' := due_of_nextDue hn
  obtain ⟨ph, hp, hdue⟩ := Option.bind_eq_some_iff.mp hd'
  obtain ⟨c, hc, rfl⟩ := Option.map_eq_some_iff.mp hp
  obtain ⟨ph', hcalls⟩ := h.calls
  have hid : id = old.length := by
    rw [hcalls, List.getElem?_append] at hc
    split at hc
    · have hf := h.ended c (List.mem_of_getElem? hc)
      rw [Phase.due?_of_isFinal hf] at hdue
      cases hdue
    · obtain ⟨hlt, -⟩ := List.getElem?_eq_some_iff.mp hc
      simp only [List.length_singleton] at hlt
      omega
  subst hid
  rw [hn, ← Option.some.inj (hd.symm.trans hd')]

/-- A call that waits goes on when its time has come. -/
theorem wait (h : Newest old q m b) {ph : Phase ρ} (hd : ∃ due, ph.due? = some due)
    (hc : ∀ b', Newest old q m b' → b'.phase? old.length = some ph → b'.session = b.session →
      b'.access = b.access → Comes s old.length P n (expire s b' old.length)) :
    Comes s old.length P (n + 1) (b.setPhase old.length ph) := by
  obtain ⟨due, hd⟩ := hd
  have hp := h.phase?_setPhase ph
  have hc := hc _ ((h.setPhase ph).atTime due) hp rfl rfl
  refine ⟨by simp [h.calls_setPhase], h.ready, fun k hk => ?_⟩
  obtain ⟨k, rfl⟩ : ∃ j, k = j + 1 := ⟨k - 1, by omega⟩
  have hphase : (((b.setPhase old.length ph).phase? old.length).bind Phase.due?) = some due := by
    rw [hp]
    exact hd
  have hn := (h.setPhase ph).nextDue? hphase
  have he : (b.setPhase old.length ph).hasEnded old.length = false := by
    rw [hasEnded, hp, Option.all_some, Bool.eq_false_iff]
    intro hf
    rw [Phase.due?_of_isFinal hf] at hd
    cases hd
  have hw : (b.setPhase old.length ph).wake s =
      expire s { b.setPhase old.length ph with now := due } old.length := by
    rw [wake, hn]
  rw [awaitWithin, he, hn, hw, settle_of_ready hc.ready]
  exact hc.holds k (by omega)

/-- The call asks the endpoint to close a connection, and waits for it at most once. -/
theorem closeAll_cons (h : Newest old q m b) (hq : ∀ c, q ≠ .close c) {rest : List Connection}
    (hrest : ∀ b', Newest old q (s.close c m) b' → b'.session = b.session → b'.access = b.access →
      Comes s old.length P n (b'.closeAll s old.length rest)) :
    Comes s old.length P (n + 1) (b.closeAll s old.length (c :: rest)) := by
  have h₁ := h.record (.closing old.length c)
  have hclose {p : σ × Except Failure (Option String)}
      (hp : settled closeLimit (s.endpoint.close c m) (s.endpoint.closed c) (.ok none) = p) :
      s.close c m = p.1 := congrArg Prod.fst hp
  rw [Bridge.closeAll, h₁.remote]
  cases hm : s.endpoint.close c m with
  | mk m' response =>
    have h₂ := h₁.withRemote m'
    cases response with
    | now r =>
      rw [hclose (settled_now hm)] at hrest
      refine (hrest _ (h₂.noteClosed r) ?_ ?_).mono (Nat.le_succ n)
      · rw [noteClosed_eq]; rfl
      · rw [noteClosed_eq]; rfl
    | later d =>
      refine h₂.wait (Timer.exists_due (by simp [Timer.start])) fun b' h' hp hs ha => ?_
      have hclosed (b'' : Bridge σ ρ) (h'' : b''.request? old.length = some q)
          (r : Except Failure (Option String)) :
          b''.closed s old.length c rest r = (b''.noteClosed c r).closeAll s old.length rest := by
        unfold Bridge.closed
        rw [h'']
        cases q with
        | close c => exact absurd rfl (hq c)
        | _ => rfl
      simp only [expire, hp, h'.remote]
      split
      · rename_i htime
        rw [hclose (settled_inTime hm htime)] at hrest
        have h₃ := h'.withRemote (s.endpoint.closed c m').1
        rw [hclosed _ h₃.request?]
        refine hrest _ (h₃.noteClosed _) ?_ ?_
        · rw [noteClosed_eq]
          exact hs
        · rw [noteClosed_eq]
          exact ha
      · rename_i htime
        rw [hclose (settled_late hm htime)] at hrest
        exact hrest _ (h'.record _) hs ha

end Newest

namespace Alone

theorem record (h : Alone old i a x m b) (e : Event) : Alone old i a x m (b.record e) :=
  { h with }

theorem noteClosed (h : Alone old i a x m b) (r : Except Failure (Option String)) :
    Alone old i a x m (b.noteClosed c r) := by
  rw [noteClosed_eq]
  exact { h with }

theorem withRemote (h : Alone old i a x m b) (m' : σ) : Alone old i a x m' (b.withRemote m') :=
  { h with remote := rfl }

theorem withSession (h : Alone old i a x m b) (x' : Session) :
    Alone old i a x' m (b.withSession x') :=
  { h with session := rfl }

theorem passAccess (h : Alone old i a x m b) : Alone old i none x m b.passAccess :=
  have hp : b.access.pass = .free := by rw [h.access]; rfl
  { h with access := hp, ready := by simp [Bridge.passAccess, hp, Lock.free, h.ready] }

theorem newest (h : Alone old i a x m b) : Newest old (.invoke i) m b := { h with }

theorem of_newest (h : Newest old (.invoke i) m b) (hx : b.session = x) (ha : b.access = ⟨a, []⟩) :
    Alone old i a x m b :=
  { h with session := hx, access := ha }

theorem calls_setPhase (h : Alone old i a x m b) (ph : Phase ρ) :
    (b.setPhase old.length ph).calls = old ++ [⟨.invoke i, ph⟩] :=
  h.newest.calls_setPhase ph

theorem request? (h : Alone old i a x m b) : b.request? old.length = some (.invoke i) :=
  h.newest.request?

theorem withAccess (h : Alone old i none x m b) (waiting : Phase ρ)
    (go : Bridge σ ρ → Bridge σ ρ) : ∃ b', Alone old i (some old.length) x m b' ∧
      b.withAccess old.length waiting go = go b' := by
  have ha : b.access.request old.length = ⟨some old.length, []⟩ := by rw [h.access]; rfl
  refine ⟨{ b with access := b.access.request old.length }, { h with access := ha }, ?_⟩
  rw [Bridge.withAccess]
  exact if_pos (congrArg Lock.holder ha)

/-- A call that waits goes on when its time has come. -/
theorem wait (h : Alone old i a x m b) {ph : Phase ρ} (hd : ∃ due, ph.due? = some due)
    (hc : ∀ b', Alone old i a x m b' → b'.phase? old.length = some ph →
      Comes s old.length P n (expire s b' old.length)) :
    Comes s old.length P (n + 1) (b.setPhase old.length ph) :=
  h.newest.wait hd fun b' h' hp hs ha =>
    hc b' (.of_newest h' (hs.trans h.session) (ha.trans h.access)) hp

theorem conclude (h : Alone old i none x m b) (r : Except Failure (Output ρ)) :
    Concluded old i r x m (b.conclude old.length i r) := by
  rw [conclude_eq]
  have hp : b.turn.pass = .free := by rw [h.turn]; rfl
  exact ⟨h.ended, h.calls_setPhase (.ended (.ofResult r)), hp, h.access,
    by simp [passTurn, Bridge.record, finish, Bridge.setPhase, hp, h.ready, Lock.free],
    h.session, h.remote, List.getLast?_concat⟩

theorem lose (h : Alone old i none x m b) (e : Failure) :
    Concluded old i (.error e) (x.invalidate c) m (b.lose old.length c e) := by
  obtain ⟨b', ha, hb⟩ := (h.record (.lost old.length c)).withAccess (.losing c e)
    (·.failLost old.length c e)
  have hf := (ha.withSession (x.invalidate c)).passAccess
  rw [Bridge.lose, hb]
  simp only [failLost, ha.session, hf.request?]
  exact hf.conclude (.error e)

/-- The part of an execution that follows its answer. -/
theorem executed (h : Alone old i none x m b) (r : Except Failure (Output ρ)) :
    Concluded old i (r >>= i.accept) (x.after c r) m (b.executed old.length c r) := by
  simp only [Bridge.executed, h.request?]
  cases r with
  | error e =>
    simp only [answered, Session.after]
    split
    · exact h.lose e
    · exact h.conclude (.error e)
  | ok o =>
    simp only [answered, Session.after]
    show Concluded old i (i.accept o) x m _
    cases hi : i.accept o with
    | error e => exact h.conclude (.error e)
    | ok o' =>
      dsimp only
      split
      · exact h.conclude (.ok o')
      · exact (h.record _).conclude (.ok o')

theorem executionTimedOut (h : Alone old i none x m b) :
    Concluded old i (.error (executionFailure s)) (x.invalidate c) m
      (b.executionTimedOut s old.length c) :=
  h.lose (executionFailure s)

/-- The call asks the endpoint to run its pipeline, and waits for it at most once. -/
theorem execute (h : Alone old i none x m b)
    (hP : ∀ m' r, s.execute c i m = (m', r) →
      ∀ b', Concluded old i (r >>= i.accept) (x.after c r) m' b' → P b') :
    Comes s old.length P 1 (b.execute s old.length c i (some s.executionLimit)) := by
  have h₁ := h.record (.executing old.length c)
  rw [Bridge.execute, h₁.remote]
  cases hm : s.endpoint.execute c i m with
  | mk m' response =>
    have h₂ := h₁.withRemote m'
    cases response with
    | now r => exact (h₂.executed r).comes (hP m' r (settled_now hm) _ (h₂.executed r))
    | later d =>
      dsimp only
      split
      · rename_i hlimit
        simp only [Option.some.injEq, Bool.and_eq_true, decide_eq_true_eq, bne_iff_ne] at hlimit
        have htime := Timer.isInTime_start_zero hlimit.1 hlimit.2 b.now
        exact h₂.executionTimedOut.comes
          (hP _ _ (settled_late hm htime) _ h₂.executionTimedOut)
      · refine h₂.wait (Timer.exists_due (by simp [Timer.start])) fun b' h' hp => ?_
        simp only [expire, hp, h'.request?, h'.remote]
        split
        · rename_i htime
          have hc := (h'.withRemote (s.endpoint.executed c i m').1).executed (c := c)
            (s.endpoint.executed c i m').2
          exact hc.comes (hP _ _ (settled_inTime hm htime) _ hc)
        · rename_i htime
          exact h'.executionTimedOut.comes
            (hP _ _ (settled_late hm htime) _ h'.executionTimedOut)

theorem opened (h : Alone old i none x m b) :
    b.opened s old.length c = b.execute s old.length c i (some s.executionLimit) := by
  simp only [Bridge.opened, h.request?]

theorem notOpened (h : Alone old i none x m b) (e : Failure) :
    Concluded old i (.error e) x m (b.notOpened old.length e) := by
  simp only [Bridge.notOpened, h.request?]
  exact h.conclude (.error e)

theorem connected (h : Alone old i a x m b) {t : Target} {k : Credential}
    {answer : Except Failure String}
    (hok : ∀ name, answer = .ok name → ∀ b', Alone old i none (x.install ⟨name, t⟩) m b' →
      Comes s old.length P n (b'.opened s old.length ⟨name, t⟩))
    (herror : ∀ e, answer = .error e → ∀ b', Concluded old i (.error e) x m b' → P b') :
    Comes s old.length P n (b.connected s old.length t k answer) := by
  obtain rfl := h.session
  cases answer with
  | ok name =>
    exact hok name rfl _ ((h.record (.opened ⟨name, t⟩ k b.session.generation)).withSession
      (b.session.install ⟨name, t⟩)).passAccess
  | error e =>
    have hc := ((h.record (.handshakeFailed t e)).passAccess).notOpened e
    exact hc.comes (herror e rfl _ hc)

theorem handshakeTimedOut (h : Alone old i a x m b) {t : Target} :
    Concluded old i (.error (handshakeFailure s)) x m (b.handshakeTimedOut s old.length t) :=
  (h.record (.handshakeTimedOut t)).passAccess.notOpened (handshakeFailure s)

/-- The call asks for a handshake, and waits for it at most once. -/
theorem handshake (h : Alone old i (some old.length) x m b) {k : Credential}
    (hx : b.session.discardAbandoned = x) (hl : x.live = none) (hk : x.credential = some k)
    (hok : ∀ name m', settled s.openLimit (s.endpoint.connect x.target k m)
        (s.endpoint.connected x.target k) (.error (handshakeFailure s)) = (m', .ok name) →
      ∀ b', Alone old i none (x.install ⟨name, x.target⟩) m' b' →
        Comes s old.length P n (b'.opened s old.length ⟨name, x.target⟩))
    (herror : ∀ e m', settled s.openLimit (s.endpoint.connect x.target k m)
        (s.endpoint.connected x.target k) (.error (handshakeFailure s)) = (m', .error e) →
      ∀ b', Concluded old i (.error e) x m' b' → P b') :
    Comes s old.length P (n + 1) (b.ensureOpen s old.length) := by
  have h₁ := (h.withSession x).record (.handshake old.length x.target k)
  rw [Bridge.ensureOpen, hx, (h.withSession x).session, hl, hk]
  dsimp only
  rw [h₁.remote]
  cases hm : s.endpoint.connect x.target k m with
  | mk m' response =>
    have h₂ := h₁.withRemote m'
    cases response with
    | now answer =>
      apply Comes.mono _ (Nat.le_succ n)
      apply h₂.connected
      · rintro name rfl
        exact hok name m' (settled_now hm)
      · rintro e rfl
        exact herror e m' (settled_now hm)
    | later d =>
      dsimp only
      split
      · rename_i hlimit
        simp only [Bool.and_eq_true, decide_eq_true_eq, bne_iff_ne] at hlimit
        have htime := Timer.isInTime_start_zero hlimit.1 hlimit.2 b.now
        exact h₂.handshakeTimedOut.comes
          (herror _ m' (settled_late hm htime) _ h₂.handshakeTimedOut)
      · refine h₂.wait (Timer.exists_due (by simp [Timer.start])) fun b' h' hp => ?_
        simp only [expire, hp, h'.remote]
        split
        · rename_i htime
          apply (h'.withRemote (s.endpoint.connected x.target k m').1).connected
          · intro name ha
            exact hok name _ ((settled_inTime hm htime).trans (Prod.ext rfl ha))
          · intro e ha
            exact herror e _ ((settled_inTime hm htime).trans (Prod.ext rfl ha))
        · rename_i htime
          exact h'.handshakeTimedOut.comes
            (herror _ m' (settled_late hm htime) _ h'.handshakeTimedOut)

/-- The call has the session and asks for its connection, and waits for a handshake at most
once. -/
theorem ensureOpen (h : Alone old i (some old.length) x m b) (hx : x.abandoned = [])
    (hok : ∀ c x' m', s.ensureOpen x m = (.ok c, x', m') → ∀ b', Alone old i none x' m' b' →
      Comes s old.length P n (b'.opened s old.length c))
    (herror : ∀ e x' m', s.ensureOpen x m = (.error e, x', m') →
      ∀ b', Concluded old i (.error e) x' m' b' → P b') :
    Comes s old.length P (n + 1) (b.ensureOpen s old.length) := by
  have hdiscard : b.session.discardAbandoned = x := by
    rw [h.session, Session.discardAbandoned_of_nil hx]
  have h₁ := (h.withSession x).passAccess
  unfold Setup.ensureOpen at hok herror
  cases hl : x.live with
  | some c =>
    simp only [hl] at hok
    apply Comes.mono _ (Nat.le_succ n)
    rw [Bridge.ensureOpen, hdiscard, (h.withSession x).session, hl]
    exact hok c x m rfl _ h₁
  | none =>
    cases hk : x.credential with
    | none =>
      simp only [hl, hk] at herror
      rw [Bridge.ensureOpen, hdiscard, (h.withSession x).session, hl, hk]
      have hc := h₁.notOpened .unauthenticated
      exact hc.comes (herror _ x m rfl _ hc)
    | some k =>
      simp only [hl, hk] at hok herror
      apply h.handshake hdiscard hl hk
      · intro name m' heq
        apply hok
        rw [heq]
      · intro e m' heq
        apply herror
        rw [heq]

theorem closeAll_cons (h : Alone old i none x m b) {rest : List Connection}
    (hrest : ∀ b', Alone old i none x (s.close c m) b' →
      Comes s old.length P n (b'.closeAll s old.length rest)) :
    Comes s old.length P (n + 1) (b.closeAll s old.length (c :: rest)) :=
  h.newest.closeAll_cons (fun _ => Request.noConfusion) fun b' h' hs ha =>
    hrest b' (.of_newest h' (hs.trans h.session) (ha.trans h.access))

/-- Before it goes on to the session a call closes what there is to close. -/
theorem closeAll_nil (h : Alone old i none x m b)
    (hq : ∀ b', Alone old i (some old.length) x m b' →
      Comes s old.length P n (b'.ensureOpen s old.length)) :
    Comes s old.length P n (b.closeAll s old.length []) := by
  obtain ⟨b', h', hb⟩ := h.withAccess (.waiting .ensureOpen) (Bridge.ensureOpen s · old.length)
  rw [Bridge.closeAll, allClosed, h.request?]
  simp only [hb]
  exact hq b' h'

theorem closeAll (h : Alone old i none x m b) (cs : List Connection)
    (hq : ∀ b', Alone old i (some old.length) x (s.closeAll m cs) b' →
      Comes s old.length P n (b'.ensureOpen s old.length)) :
    Comes s old.length P (n + cs.length) (b.closeAll s old.length cs) := by
  induction cs generalizing m b with
  | nil => exact h.closeAll_nil hq
  | cons c rest ih =>
    apply h.closeAll_cons
    intro b' h'
    exact ih h' hq

theorem closeAll_at_once (hs : s.ClosesAtOnce) (h : Alone old i none x m b) (cs : List Connection)
    (hq : ∀ b', Alone old i (some old.length) x (s.closeAll m cs) b' →
      Comes s old.length P n (b'.ensureOpen s old.length)) :
    Comes s old.length P n (b.closeAll s old.length cs) := by
  induction cs generalizing m b with
  | nil => exact h.closeAll_nil hq
  | cons c rest ih =>
    have h₁ := h.record (.closing old.length c)
    obtain ⟨m', r, hm⟩ := hs c m
    have hclose : s.close c m = m' := congrArg Prod.fst (settled_now hm)
    rw [Bridge.closeAll, h₁.remote, hm]
    apply ih ((h₁.withRemote m').noteClosed r)
    rw [← hclose]
    exact hq

end Alone

/-- An invocation that is submitted to a bridge at rest begins with what there is to close. -/
theorem Resting.submit (h : b.Resting) (hi : i.pipeline.isEmpty = false)
    (hq : ∀ b', Alone b.calls i none b.session.takeRetired.2 b.remote b' →
      Comes s b.calls.length P n (b'.closeAll s b.calls.length b.session.takeRetired.1)) :
    Comes s b.calls.length P n (b.submit s (.invoke i)) := by
  have ht : b.turn.request b.calls.length = ⟨some b.calls.length, []⟩ := by rw [h.turn]; rfl
  let started : Bridge σ ρ :=
    { b.addCall (.invoke i) with turn := b.turn.request b.calls.length }
  have h₁ : Alone b.calls i none b.session b.remote started :=
    ⟨h.ended, ⟨.queued, rfl⟩, ht, h.access, h.ready, rfl, rfl⟩
  have hs : b.submit s (.invoke i) = started.takeTurn s b.calls.length := by
    rw [Bridge.submit]
    simp only [hi, Bool.false_eq_true, if_false, withTurn]
    exact if_pos (congrArg Lock.holder ht)
  obtain ⟨b', h₂, hb⟩ := (h₁.record (.started b.calls.length i.command)).withAccess
    (.waiting .takeRetired) (act s · b.calls.length .takeRetired)
  have h₃ := ((h₂.withSession b.session.takeRetired.2).record
    (.handedOut b.calls.length b.session.takeRetired.1)).passAccess
  rw [hs, takeTurn, h₁.request?]
  dsimp only
  rw [waitToAct, hb]
  simp only [act, handOut, h₂.session, h₃.request?]
  exact hq _ h₃

/-- An invocation that is submitted to a bridge at rest runs from its beginning to its end with
nothing between. -/
theorem Resting.comes_invoke (h : b.Resting) (hi : i.pipeline.isEmpty = false)
    (hclose : ∀ b', Alone b.calls i none b.session.takeRetired.2 b.remote b' →
      (∀ b'', Alone b.calls i (some b.calls.length) b.session.takeRetired.2
          (s.closeAll b.remote b.session.takeRetired.1) b'' →
        Comes s b.calls.length P 2 (b''.ensureOpen s b.calls.length)) →
      Comes s b.calls.length P n (b'.closeAll s b.calls.length b.session.takeRetired.1))
    (hP : ∀ b', Concluded b.calls i (s.invoke i b.session b.remote).1
      (s.invoke i b.session b.remote).2.1 (s.invoke i b.session b.remote).2.2 b' → P b') :
    Comes s b.calls.length P n (b.submit s (.invoke i)) := by
  apply h.submit hi
  intro b₁ h₁
  apply hclose b₁ h₁
  intro b₂ h₂
  apply h₂.ensureOpen b.session.abandoned_takeRetired
  · intro c x m hopen b₃ h₃
    have happroach : s.approach b.session b.remote = (.ok c, x, m) := hopen
    rw [h₃.opened]
    apply h₃.execute
    intro m' r hexecute b₄ h₄
    apply hP
    simp only [Setup.invoke, happroach, hexecute]
    exact h₄
  · intro e x m hopen b₃ h₃
    have happroach : s.approach b.session b.remote = (.error e, x, m) := hopen
    apply hP
    simp only [Setup.invoke, happroach]
    exact h₃

/-- There is a moment for each close if there have been as many calls as connections wait to be
closed. -/
theorem Resting.concluded_run (h : b.Resting) (hi : i.pipeline.isEmpty = false)
    (hr : s.ClosesAtOnce ∨ b.session.retired.length ≤ b.calls.length) :
    Concluded b.calls i (s.invoke i b.session b.remote).1 (s.invoke i b.session b.remote).2.1
      (s.invoke i b.session b.remote).2.2 (b.run s (.invoke i)) := by
  rcases hr with hs | hr
  · have hcomes := h.comes_invoke (s := s) (n := 2) hi
      (fun b' h' => h'.closeAll_at_once hs _) fun b' h' => h'
    apply hcomes.run
    rw [timersPerCall]
    omega
  · have hcomes := h.comes_invoke (s := s) hi (fun b' h' => h'.closeAll _) fun b' h' => h'
    have hlength := b.session.length_takeRetired_le
    apply hcomes.run
    rw [timersPerCall]
    omega

/-- The next run finds the bridge so too. -/
theorem Authenticated.run (h : b.Authenticated) (hi : i.pipeline.isEmpty = false)
    (hr : s.ClosesAtOnce ∨ b.session.retired.length ≤ b.calls.length) :
    (b.run s (.invoke i)).Authenticated := by
  have hc := h.concluded_run hi hr
  refine { hc.resting with credential := ?_ }
  rw [hc.session, s.invoke_credential]
  exact h.credential

end
end Bridge
end CommandBridge
