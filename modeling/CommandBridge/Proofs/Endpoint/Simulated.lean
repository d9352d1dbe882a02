import CommandBridge.Endpoint.Simulated
import CommandBridge.Proofs.Bridge.Sequential
import Std.Data.String.ToNat

/-! An undisturbed invocation on a simulated endpoint that is not told to fail. -/
namespace CommandBridge.Simulated

def setup (openLimit executionLimit : Nat) : Setup Simulated Record :=
  ⟨endpoint, openLimit, executionLimit⟩

/-- The part of the state that is given from outside. -/
def script (m : Simulated) : Simulated where
  datasets := m.datasets
  errors := m.errors
  failingHandshakes := m.failingHandshakes
  failingExecutions := m.failingExecutions
  latency := m.latency
  handshakeLatency := m.handshakeLatency

/-- Nothing is to fail, and nothing takes too long. -/
structure Quiet (openLimit executionLimit : Nat) (m : Simulated) : Prop where
  handshakes : m.failingHandshakes = 0
  executions : m.failingExecutions = 0
  handshakeLatency : m.handshakeLatency ≤ openLimit
  latency : m.latency ≤ executionLimit

/-- The name of a connection by its number. -/
def connectionName (n : Nat) : String := s!"c{n}"

/-- How many connections have been opened, and which are closed. -/
def books (m : Simulated) : Nat × List String := (m.opened, m.closed)

/-- How a handshake ends: with a connection of the next number, or with none. -/
inductive Greets (m m' : Simulated) : Except Failure String → Prop where
  | opened (ho : m'.opened = m.opened + 1) (hc : m'.closed = m.closed) :
      Greets m m' (.ok (connectionName (m.opened + 1)))
  | refused (h : m'.books = m.books) (e : Failure) : Greets m m' (.error e)

/-- The names of the connections that are closed or wait to be closed. -/
def gone (m : Simulated) (x : Session) : List String := m.closed ++ x.retired.map (·.id)

/-- The endpoint and the session agree on the connections: the live one is open, and no name that is
yet to be given has been used. -/
structure Agrees (m : Simulated) (x : Session) : Prop where
  live : ∀ c, x.live = some c → c.id ∉ gone m x
  fresh : ∀ n, m.opened < n →
    connectionName n ∉ gone m x ∧ ∀ c, x.live = some c → c.id ≠ connectionName n

theorem connectionName_injective {n n' : Nat} (h : connectionName n = connectionName n') :
    n = n' := by
  apply Nat.repr_injective
  exact (String.append_right_inj "c").mp (by simpa [connectionName] using h)

section
variable {m m' : Simulated} {x x' : Session} {c : Connection} {k : Credential}
variable {openLimit executionLimit : Nat} {α : Type}

theorem Quiet.of_script (h : Quiet openLimit executionLimit m) (hs : m'.script = m.script) :
    Quiet openLimit executionLimit m' := by
  have hm : Quiet openLimit executionLimit m.script := ⟨h.1, h.2, h.3, h.4⟩
  rw [← hs] at hm
  exact ⟨hm.1, hm.2, hm.3, hm.4⟩

theorem output_of_script (hs : m'.script = m.script) (p : Command.Pipeline) :
    m'.output p = m.output p := by
  have houtput (m : Simulated) : m.script.output p = m.output p := rfl
  rw [← houtput, hs, houtput]

theorem output_eq {p : Command.Pipeline} {first : Command.Stage} {records : List Record}
    (hfirst : p.head? = some first)
    (hrecords : m.datasets.lookup (Text.lowercase first.name) = some records) :
    m.output p = ⟨projected p (limited first records),
      (m.errors.lookup (Text.lowercase first.name)).getD []⟩ := by
  cases p with
  | nil => cases hfirst
  | cons s rest =>
    obtain rfl := Option.some.inj hfirst
    simp only [output, hrecords]

theorem ofDelay_now {σ : Type} {delay : Nat} {answer : σ → σ × α} {s s' : σ} {a : α}
    (h : Response.ofDelay delay answer s = (s', .now a)) : answer s = (s', a) := by
  unfold Response.ofDelay at h
  split at h
  · obtain ⟨rfl, ha⟩ := Prod.mk.inj h
    rw [← Response.now.inj ha]
  · cases (Prod.mk.inj h).2

theorem ofDelay_later {σ : Type} {delay : Nat} {answer : σ → σ × α} {s s' : σ}
    {delay' : Option Nat} (h : Response.ofDelay delay answer s = (s', .later delay')) : s' = s := by
  unfold Response.ofDelay at h
  split at h
  · cases (Prod.mk.inj h).2
  · exact (Prod.mk.inj h).1.symm

theorem ofDelay_cases {σ : Type} (delay : Nat) (answer : σ → σ × α) (s : σ) :
    (Response.ofDelay delay answer s).1 = (answer s).1 ∨
      (Response.ofDelay delay answer s).1 = s := by
  unfold Response.ofDelay
  split
  · exact .inl rfl
  · exact .inr rfl

theorem settled_ofDelay_cases {σ : Type} (delay limit : Nat) (answer : σ → σ × α) (s : σ)
    (late : α) : settled limit (Response.ofDelay delay answer s) answer late = answer s ∨
      settled limit (Response.ofDelay delay answer s) answer late = (s, late) := by
  unfold Response.ofDelay
  split
  · exact .inl rfl
  · unfold settled
    dsimp only
    split
    · exact .inl rfl
    · exact .inr rfl

/-- An answer that takes no longer than the limit is given. -/
theorem settled_ofDelay {σ : Type} {delay limit : Nat} (h : delay ≤ limit) (answer : σ → σ × α)
    (s : σ) (late : α) :
    settled limit (Response.ofDelay delay answer s) answer late = answer s := by
  unfold Response.ofDelay
  split
  · rfl
  · apply if_pos
    rw [Option.any_some, decide_eq_true_eq]
    omega

theorem Agrees.retire (h : Agrees m x) : Agrees m x.retire := by
  constructor
  · intro c hc
    cases hc
  · intro n hn
    obtain ⟨hgone, hlive⟩ := h.fresh n hn
    constructor
    · intro hmem
      simp only [gone, Session.retire, List.map_append, List.mem_append] at hmem hgone
      rcases hmem with hmem | hmem | hmem
      · exact hgone (.inl hmem)
      · exact hgone (.inr hmem)
      · obtain ⟨c, hc, hid⟩ := List.mem_map.mp hmem
        exact hlive c (Option.mem_toList.mp hc) hid
    · intro c hc
      cases hc

theorem Agrees.discardAbandoned (h : Agrees m x) : Agrees m x.discardAbandoned := by
  have h' : Agrees m { x with abandoned := [] } := ⟨h.live, h.fresh⟩
  unfold Session.discardAbandoned
  split
  · exact h'.retire
  · exact h'

theorem closesAtOnce_setup (openLimit executionLimit : Nat) :
    (setup openLimit executionLimit).ClosesAtOnce :=
  fun c m => ⟨(closeNow c m).1, (closeNow c m).2, rfl⟩

theorem mem_closed_closeNow {name : String} :
    name ∈ (closeNow c m).1.closed ↔ name ∈ m.closed ∨ name = c.id := by
  unfold closeNow
  dsimp only
  split
  · rename_i h
    have hc : c.id ∈ m.closed := by simpa using h
    constructor
    · exact .inl
    · rintro (h | rfl)
      · exact h
      · exact hc
  · simp

theorem closeAll_spec (openLimit executionLimit : Nat) (cs : List Connection) (m : Simulated) :
    ((setup openLimit executionLimit).closeAll m cs).script = m.script ∧
      ((setup openLimit executionLimit).closeAll m cs).opened = m.opened ∧
      ∀ name, name ∈ ((setup openLimit executionLimit).closeAll m cs).closed ↔
        name ∈ m.closed ∨ name ∈ cs.map (·.id) := by
  induction cs generalizing m with
  | nil => simp [Setup.closeAll]
  | cons c cs ih =>
    obtain ⟨hscript, hopened, hclosed⟩ := ih (closeNow c m).1
    refine ⟨hscript, hopened, fun name => (hclosed name).trans ?_⟩
    rw [mem_closed_closeNow, List.map_cons, List.mem_cons, or_assoc]

/-- Closing what is retired leaves both in agreement. -/
theorem Agrees.takeRetired (h : Agrees m x) :
    Agrees ((setup openLimit executionLimit).closeAll m x.takeRetired.1) x.takeRetired.2 := by
  have h' := h.discardAbandoned
  obtain ⟨-, hopened, hclosed⟩ :=
    closeAll_spec openLimit executionLimit x.discardAbandoned.retired m
  have hgone (name : String) :
      name ∈ gone ((setup openLimit executionLimit).closeAll m x.takeRetired.1) x.takeRetired.2 ↔
        name ∈ gone m x.discardAbandoned := by
    simp only [gone, Session.takeRetired, List.map_nil, List.append_nil, List.mem_append]
    exact hclosed name
  constructor
  · intro c hc
    rw [hgone]
    exact h'.live c hc
  · intro n hn
    rw [hgone]
    exact h'.fresh n (hopened ▸ hn)

theorem Agrees.of_books (h : Agrees m x) (hb : m'.books = m.books) : Agrees m' x := by
  obtain ⟨hopened, hclosed⟩ := Prod.mk.inj hb
  have hgone : gone m' x = gone m x := congrArg (· ++ _) hclosed
  constructor
  · rw [hgone]
    exact h.live
  · rw [hgone, hopened]
    exact h.fresh

/-- A new connection has a name of its own. -/
theorem Agrees.install (h : Agrees m x) (hopened : m'.opened = m.opened + 1)
    (hclosed : m'.closed = m.closed) :
    Agrees m' (x.install ⟨connectionName (m.opened + 1), x.target⟩) := by
  have hgone : gone m' (x.install ⟨connectionName (m.opened + 1), x.target⟩) = gone m x :=
    congrArg (· ++ _) hclosed
  constructor
  · rintro c ⟨⟩
    rw [hgone]
    exact (h.fresh (m.opened + 1) (Nat.lt_succ_self _)).1
  · intro n hn
    rw [hopened] at hn
    constructor
    · rw [hgone]
      exact (h.fresh n (Nat.lt_of_succ_lt hn)).1
    · rintro c ⟨⟩ hname
      exact absurd (connectionName_injective hname) (Nat.ne_of_lt hn)

theorem greets_connected {t : Target} {r : Except Failure String}
    (h : connected t k m = (m', r)) : Greets m m' r := by
  unfold connected at h
  split at h
  · obtain ⟨rfl, rfl⟩ := Prod.mk.inj h
    exact .opened rfl rfl
  · obtain ⟨rfl, rfl⟩ := Prod.mk.inj h
    refine .refused ?_ _
    rfl

theorem Greets.of_greeted {r : Except Failure String} (h : Greets (m.greeted k) m' r) :
    Greets m m' r := by
  cases h with
  | opened ho hc => exact .opened ho hc
  | refused hb e =>
    refine .refused ?_ e
    exact hb

theorem greets_settled {t : Target} {e : Failure} {r : Except Failure String}
    (h : settled openLimit (connect t k m) (connected t k) (.error e) = (m', r)) :
    Greets m m' r := by
  unfold connect at h
  rcases settled_ofDelay_cases m.handshakeLatency openLimit (connected t k) (m.greeted k)
    (.error e) with hs | hs
  · rw [hs] at h
    exact (greets_connected h).of_greeted
  · rw [hs] at h
    obtain ⟨rfl, rfl⟩ := Prod.mk.inj h
    refine .refused ?_ e
    rfl

theorem Agrees.ensureOpen (h : Agrees m x) {answer : Except Failure Connection}
    (ho : (setup openLimit executionLimit).ensureOpen x m = (answer, x', m')) :
    Agrees m' x' ∧ ∀ c, answer = .ok c → x'.live = some c := by
  unfold Setup.ensureOpen at ho
  split at ho
  · rename_i hl
    obtain ⟨rfl, rfl, rfl⟩ := ho
    exact ⟨h, fun c hc => hl.trans (congrArg some (Except.ok.inj hc))⟩
  · obtain ⟨rfl, rfl, rfl⟩ := ho
    exact ⟨h, nofun⟩
  · split at ho
    · rename_i hs
      obtain ⟨rfl, rfl, rfl⟩ := ho
      cases greets_settled hs with
      | opened hopened hclosed =>
        exact ⟨h.install hopened hclosed, fun c hc => congrArg some (Except.ok.inj hc)⟩
    · rename_i hs
      obtain ⟨rfl, rfl, rfl⟩ := ho
      cases greets_settled hs with
      | refused hb => exact ⟨h.of_books hb, nofun⟩

theorem executed_books (c : Connection) (i : Invocation) (m : Simulated) :
    (executed c i m).1.books = m.books := by
  unfold executed
  dsimp only
  split <;> rfl

theorem execute_books (limit : Nat) (c : Connection) (i : Invocation) (m : Simulated)
    (late : Except Failure (Output Record)) :
    (settled limit (execute c i m) (executed c i) late).1.books = m.books := by
  unfold execute
  split
  · rfl
  · dsimp only
    rcases settled_ofDelay_cases m.latency limit (executed c i)
      { m with active := m.active + 1, maxActive := max m.maxActive (m.active + 1) } late with
      hs | hs
    · rw [hs]
      exact executed_books c i _
    · rw [hs]
      rfl

/-- An invocation leaves both in agreement, however it ends. -/
theorem Agrees.invoke (h : Agrees m x) (i : Invocation) :
    Agrees ((setup openLimit executionLimit).invoke i x m).2.2
      ((setup openLimit executionLimit).invoke i x m).2.1 := by
  unfold Setup.invoke
  split
  · rename_i hopen
    exact (h.takeRetired.ensureOpen hopen).1
  · rename_i c x₁ m₁ hopen
    have h₁ : Agrees ((setup openLimit executionLimit).execute c i m₁).1 x₁ :=
      (h.takeRetired.ensureOpen hopen).1.of_books (execute_books executionLimit c i m₁
        (.error (Bridge.executionFailure (setup openLimit executionLimit))))
    unfold Session.after Session.invalidate
    dsimp only
    split
    · split
      · split
        · exact h₁.retire
        · exact h₁
      · exact h₁
    · exact h₁

theorem connect_quiet (hq : Quiet openLimit executionLimit m) (t : Target)
    (late : Except Failure String) :
    settled openLimit (connect t k m) (connected t k) late =
      ({ m.greeted k with opened := m.opened + 1 }, .ok (connectionName (m.opened + 1))) := by
  unfold connect
  rw [settled_ofDelay hq.handshakeLatency]
  exact if_pos hq.handshakes

theorem ensureOpen_quiet (hq : Quiet openLimit executionLimit m)
    (hk : x.credential.isSome = true) :
    ∃ c x' m', (setup openLimit executionLimit).ensureOpen x m = (.ok c, x', m') ∧
      m'.script = m.script := by
  obtain ⟨k, hk⟩ := Option.isSome_iff_exists.mp hk
  unfold Setup.ensureOpen
  cases hl : x.live with
  | some c => exact ⟨c, x, m, rfl, rfl⟩
  | none =>
    simp only [hk, setup, endpoint, connect_quiet hq]
    exact ⟨_, _, _, rfl, rfl⟩

theorem execute_quiet (hq : Quiet openLimit executionLimit m) (hc : c.id ∉ m.closed)
    (i : Invocation) : ∃ m', (setup openLimit executionLimit).execute c i m =
      (m', .ok (m.output i.pipeline)) ∧ m'.script = m.script := by
  have hopen : m.closed.contains c.id = false := by simpa using hc
  unfold Setup.execute
  simp only [setup, endpoint, execute, hopen, Bool.false_eq_true, if_false]
  rw [settled_ofDelay hq.latency, executed, if_pos hq.executions]
  exact ⟨_, rfl, rfl⟩

/-- The result is what the endpoint has for the pipeline. -/
theorem invoke_quiet (h : Agrees m x) (hq : Quiet openLimit executionLimit m)
    (hk : x.credential.isSome = true) (i : Invocation) :
    ∃ x' m', (setup openLimit executionLimit).invoke i x m =
      (i.accept (m.output i.pipeline), x', m') ∧ m'.script = m.script := by
  have hscript := (closeAll_spec openLimit executionLimit x.takeRetired.1 m).1
  have hcredential := x.takeRetired_credential
  obtain ⟨c, x₁, m₁, hopen, hscript₁⟩ :=
    ensureOpen_quiet (hq.of_script hscript) (x := x.takeRetired.2) (hcredential ▸ hk)
  obtain ⟨hagrees, hlive⟩ := h.takeRetired.ensureOpen hopen
  have hc : c.id ∉ m₁.closed := fun hmem =>
    hagrees.live c (hlive c rfl) (List.mem_append_left _ hmem)
  obtain ⟨m₂, hexecute, hscript₂⟩ :=
    execute_quiet (hq.of_script (hscript₁.trans hscript)) hc i
  have happroach : (setup openLimit executionLimit).approach x m = (.ok c, x₁, m₁) := hopen
  rw [output_of_script (hscript₁.trans hscript)] at hexecute
  refine ⟨x₁, m₂, ?_, hscript₂.trans (hscript₁.trans hscript)⟩
  simp only [Setup.invoke, happroach, hexecute]
  rfl

end

/-- A bridge at rest whose next invocation is not going to fail on the way. -/
structure Ready (openLimit executionLimit : Nat) (b : Bridge Simulated Record) : Prop
    extends b.Authenticated where
  agrees : Agrees b.remote b.session
  quiet : b.remote.Quiet openLimit executionLimit

section
variable {b : Bridge Simulated Record} {openLimit executionLimit : Nat}

/-- Every invocation on a bridge at rest leaves the session and the endpoint in agreement. -/
theorem agrees_run (hb : b.Resting) (h : Agrees b.remote b.session) {i : Invocation}
    (hi : i.pipeline.isEmpty = false) :
    Agrees (b.run (setup openLimit executionLimit) (.invoke i)).remote
      (b.run (setup openLimit executionLimit) (.invoke i)).session := by
  have hc := hb.concluded_run hi (.inl (closesAtOnce_setup openLimit executionLimit))
  rw [hc.session, hc.remote]
  exact h.invoke i

/-- An invocation gets what the endpoint has for its pipeline, and the next one is not going to fail
either. -/
theorem Ready.run (h : Ready openLimit executionLimit b) {i : Invocation}
    (hi : i.pipeline.isEmpty = false) :
    Ready openLimit executionLimit (b.run (setup openLimit executionLimit) (.invoke i)) ∧
      (b.run (setup openLimit executionLimit) (.invoke i)).remote.script = b.remote.script ∧
      ∃ x m, Bridge.Concluded b.calls i (i.accept (b.remote.output i.pipeline)) x m
        (b.run (setup openLimit executionLimit) (.invoke i)) := by
  have hclose := closesAtOnce_setup openLimit executionLimit
  obtain ⟨x, m, hinvoke, hscript⟩ := invoke_quiet h.agrees h.quiet h.credential i
  have hc := h.concluded_run hi (.inl hclose)
  rw [hinvoke] at hc
  have hscript' : (b.run (setup openLimit executionLimit) (.invoke i)).remote.script =
      b.remote.script := by
    rw [hc.remote]
    exact hscript
  refine ⟨{ h.toAuthenticated.run hi (.inl hclose) with agrees := ?_, quiet := ?_ }, hscript',
    x, m, hc⟩
  · exact agrees_run h.toResting h.agrees hi
  · exact h.quiet.of_script hscript'

/-- A new session agrees with an endpoint that has closed nothing yet. -/
theorem agrees_new (t : Target) {m : Simulated} (hm : m.closed = []) :
    Agrees m (Session.new t) := by
  constructor
  · rintro c ⟨⟩
  · intro n _
    constructor
    · show connectionName n ∉ m.closed ++ []
      rw [hm]
      exact List.not_mem_nil
    · rintro c ⟨⟩

/-- A new bridge with a credential is so on an endpoint that has closed nothing yet. -/
theorem ready_setCredential (t : Target) (k : Credential) {m : Simulated}
    (hq : m.Quiet openLimit executionLimit) (hm : m.closed = []) :
    Ready openLimit executionLimit
      ((Bridge.new t m).run (setup openLimit executionLimit) (.session (.setCredential k))) := by
  have hnew := (agrees_new t hm).retire
  exact { Bridge.authenticated_setCredential (setup openLimit executionLimit) t k m with
          agrees := ⟨hnew.live, hnew.fresh⟩, quiet := hq }

end

end CommandBridge.Simulated
