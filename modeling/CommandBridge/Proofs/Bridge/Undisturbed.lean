import CommandBridge.Proofs.Bridge.Course

/-! What an invocation comes to when nothing else comes between its parts. -/
namespace CommandBridge

variable {σ ρ α : Type}

/-- What a question to an endpoint comes to: the answer at once, the answer after a while, or
nothing in time. -/
inductive Yields (asked : σ × Response α) (answer : σ → σ × α) (late : α) : σ × α → Prop where
  | now {m : σ} {a : α} (h : asked = (m, .now a)) : Yields asked answer late (m, a)
  | inTime {m : σ} {d : Option Nat} (h : asked = (m, .later d)) :
      Yields asked answer late (answer m)
  | late {m : σ} {d : Option Nat} (h : asked = (m, .later d)) : Yields asked answer late (m, late)

/-- What a question to an endpoint comes to for one who waits no longer than `limit`. -/
def settled (limit : Nat) (asked : σ × Response α) (answer : σ → σ × α) (late : α) : σ × α :=
  match asked with
  | (m, .now a) => (m, a)
  | (m, .later d) =>
    if d.any (min longestWait · ≤ min longestWait limit) then answer m else (m, late)

theorem yields_settled (limit : Nat) (asked : σ × Response α) (answer : σ → σ × α) (late : α) :
    Yields asked answer late (settled limit asked answer late) := by
  obtain ⟨m, a | d⟩ := asked
  · exact .now rfl
  · unfold settled
    dsimp only
    split
    · exact .inTime rfl
    · exact .late rfl

theorem Timer.isInTime_start (now limit : Nat) (d : Option Nat) :
    (Timer.start now d (some limit)).isInTime =
      d.any (min longestWait · ≤ min longestWait limit) := by
  cases d with
  | none => rfl
  | some d => simp [Timer.start, isInTime]

theorem settled_now {limit : Nat} {asked : σ × Response α} {answer : σ → σ × α} {late a : α} {m : σ}
    (h : asked = (m, .now a)) : settled limit asked answer late = (m, a) := by
  rw [h]
  rfl

theorem settled_inTime {now limit : Nat} {asked : σ × Response α} {answer : σ → σ × α} {late : α}
    {m : σ} {d : Option Nat} (h : asked = (m, .later d))
    (ht : (Timer.start now d (some limit)).isInTime = true) :
    settled limit asked answer late = answer m := by
  rw [h, settled]
  rw [Timer.isInTime_start] at ht
  exact if_pos ht

theorem settled_late {now limit : Nat} {asked : σ × Response α} {answer : σ → σ × α} {late : α}
    {m : σ} {d : Option Nat} (h : asked = (m, .later d))
    (ht : ¬(Timer.start now d (some limit)).isInTime = true) :
    settled limit asked answer late = (m, late) := by
  rw [h, settled]
  rw [Timer.isInTime_start] at ht
  exact if_neg ht

/-- Without any time to wait only an answer that takes no time is in time. -/
theorem Timer.isInTime_start_zero {d : Option Nat} {limit : Nat} (hl : limit = 0) (h : d ≠ some 0)
    (now : Nat) : ¬(Timer.start now d (some limit)).isInTime = true := by
  rw [isInTime_start, hl]
  cases d with
  | none => exact Bool.false_ne_true
  | some d =>
    have hlongest : 0 < longestWait := by decide
    have hd : d ≠ 0 := fun hd => h (congrArg some hd)
    simp only [Option.any_some, decide_eq_true_eq]
    omega

/-- The session after an execution on a connection. -/
def Session.after (x : Session) (c : Connection) : Except Failure (Output ρ) → Session
  | .error e => if e.isRetryable then x.invalidate c else x
  | .ok _ => x

/-- Ways to the connection of a session: the live one, or the one that a handshake gives. -/
inductive Opens (s : Setup σ ρ) (k : Credential) (x : Session) (m : σ) :
    Except Failure Connection → Session → σ → Prop where
  | live {c : Connection} (h : x.live = some c) : Opens s k x m (.ok c) x m
  | handshake {m' : σ} {name : String} (h : x.live = none)
      (hy : Yields (s.endpoint.connect x.target k m) (s.endpoint.connected x.target k)
        (.error (Bridge.handshakeFailure s)) (m', .ok name)) :
      Opens s k x m (.ok ⟨name, x.target⟩) (x.install ⟨name, x.target⟩) m'
  | failed {m' : σ} {e : Failure} (h : x.live = none)
      (hy : Yields (s.endpoint.connect x.target k m) (s.endpoint.connected x.target k)
        (.error (Bridge.handshakeFailure s)) (m', .error e)) :
      Opens s k x m (.error e) x m'

namespace Setup

/-- The endpoint after a connection has been closed. -/
def close (s : Setup σ ρ) (c : Connection) (m : σ) : σ :=
  (settled closeLimit (s.endpoint.close c m) (s.endpoint.closed c) (.ok none)).1

/-- No close takes any time. -/
def ClosesAtOnce (s : Setup σ ρ) : Prop :=
  ∀ c m, ∃ m' r, s.endpoint.close c m = (m', .now r)

def closeAll (s : Setup σ ρ) (m : σ) (cs : List Connection) : σ :=
  cs.foldl (fun m c => s.close c m) m

/-- The connection of a session: its live one, or the one that a handshake gives. -/
def ensureOpen (s : Setup σ ρ) (x : Session) (m : σ) : Except Failure Connection × Session × σ :=
  match x.live, x.credential with
  | some c, _ => (.ok c, x, m)
  | none, none => (.error .unauthenticated, x, m)
  | none, some k =>
    match settled s.openLimit (s.endpoint.connect x.target k m) (s.endpoint.connected x.target k)
        (.error (Bridge.handshakeFailure s)) with
    | (m, .ok name) => (.ok ⟨name, x.target⟩, x.install ⟨name, x.target⟩, m)
    | (m, .error e) => (.error e, x, m)

/-- What comes before the pipeline of an invocation: what is retired is closed, and there is a
connection if there can be one. -/
def approach (s : Setup σ ρ) (x : Session) (m : σ) : Except Failure Connection × Session × σ :=
  s.ensureOpen x.takeRetired.2 (s.closeAll m x.takeRetired.1)

def execute (s : Setup σ ρ) (c : Connection) (i : Invocation) (m : σ) :
    σ × Except Failure (Output ρ) :=
  settled s.executionLimit (s.endpoint.execute c i m) (s.endpoint.executed c i)
    (.error (Bridge.executionFailure s))

/-- A whole invocation that nothing else comes between: its result, and where it leaves the session
and the endpoint. -/
def invoke (s : Setup σ ρ) (i : Invocation) (x : Session) (m : σ) :
    Except Failure (Output ρ) × Session × σ :=
  match s.approach x m with
  | (.error e, x, m) => (.error e, x, m)
  | (.ok c, x, m) =>
    let (m, r) := s.execute c i m
    (r >>= i.accept, x.after c r, m)

theorem yields_close (s : Setup σ ρ) (c : Connection) (m : σ) :
    ∃ r, Yields (s.endpoint.close c m) (s.endpoint.closed c) (.ok none) (s.close c m, r) :=
  ⟨_, yields_settled closeLimit _ _ _⟩

theorem yields_execute (s : Setup σ ρ) (c : Connection) (i : Invocation) (m : σ) :
    Yields (s.endpoint.execute c i m) (s.endpoint.executed c i)
      (.error (Bridge.executionFailure s)) (s.execute c i m) :=
  yields_settled s.executionLimit _ _ _

theorem ensureOpen_credential {s : Setup σ ρ} {x x' : Session} {m m' : σ}
    {answer : Except Failure Connection} (h : s.ensureOpen x m = (answer, x', m')) :
    x'.credential = x.credential := by
  unfold ensureOpen at h
  split at h
  · obtain ⟨-, rfl, -⟩ := h
    rfl
  · obtain ⟨-, rfl, -⟩ := h
    rfl
  · split at h
    · obtain ⟨-, rfl, -⟩ := h
      rfl
    · obtain ⟨-, rfl, -⟩ := h
      rfl

theorem opens_of_ensureOpen {s : Setup σ ρ} {k : Credential} {x x' : Session} {m m' : σ}
    {answer : Except Failure Connection} (hk : x.credential = some k)
    (h : s.ensureOpen x m = (answer, x', m')) : Opens s k x m answer x' m' := by
  unfold ensureOpen at h
  cases hl : x.live with
  | some c =>
    simp only [hl, Prod.mk.injEq] at h
    obtain ⟨rfl, rfl, rfl⟩ := h
    exact .live hl
  | none =>
    have hy := yields_settled s.openLimit (s.endpoint.connect x.target k m)
      (s.endpoint.connected x.target k) (.error (Bridge.handshakeFailure s))
    simp only [hl, hk] at h
    split at h
    · rename_i name heq
      obtain ⟨rfl, rfl, rfl⟩ := h
      exact .handshake hl (heq ▸ hy)
    · rename_i e heq
      obtain ⟨rfl, rfl, rfl⟩ := h
      exact .failed hl (heq ▸ hy)

end Setup

namespace Session

theorem discardAbandoned_of_nil {x : Session} (h : x.abandoned = []) : x.discardAbandoned = x := by
  obtain ⟨t, k, live, retired, generation, abandoned⟩ := x
  subst h
  simp [discardAbandoned]

theorem takeRetired_of_nil {x : Session} (h : x.abandoned = []) :
    x.takeRetired = (x.retired, { x with retired := [] }) := by
  rw [takeRetired, discardAbandoned_of_nil h]

theorem abandoned_takeRetired (x : Session) : x.takeRetired.2.abandoned = [] := by
  unfold takeRetired discardAbandoned
  dsimp only
  split <;> rfl

theorem takeRetired_credential (x : Session) : x.takeRetired.2.credential = x.credential := by
  unfold takeRetired discardAbandoned
  dsimp only
  split <;> rfl

theorem after_credential (x : Session) (c : Connection) (r : Except Failure (Output ρ)) :
    (x.after c r).credential = x.credential := by
  unfold after invalidate
  split
  · split
    · split <;> rfl
    · rfl
  · rfl

/-- Only the live connection can have joined the retired ones by then. -/
theorem length_takeRetired_le (x : Session) : x.takeRetired.1.length ≤ x.retired.length + 1 := by
  unfold takeRetired discardAbandoned
  dsimp only
  split
  · cases hl : x.live <;> simp [retire]
  · exact Nat.le_succ _

end Session

theorem Setup.invoke_credential (s : Setup σ ρ) (i : Invocation) (x : Session) (m : σ) :
    (s.invoke i x m).2.1.credential = x.credential := by
  unfold invoke approach
  split
  · rename_i hopen
    exact (ensureOpen_credential hopen).trans x.takeRetired_credential
  · rename_i c x₁ m₁ hopen
    calc (x₁.after c (s.execute c i m₁).2).credential
        = x₁.credential := x₁.after_credential c _
      _ = x.takeRetired.2.credential := ensureOpen_credential hopen
      _ = x.credential := x.takeRetired_credential

end CommandBridge
