import CommandBridge.Proofs.Bridge.Connections
import CommandBridge.Proofs.Bridge.Taint

/-! A session makes one handshake at a time, and has one connection in a generation at most. -/
namespace CommandBridge

variable {σ ρ : Type}

/-- The connection that a call has just been given, or answers with. -/
def Point.gives? : Point ρ → Option Connection
  | opened c | park (.ended (.connection c)) => some c
  | _ => none

namespace Bridge

section
variable {s : Setup σ ρ} {mayStop : Bridge σ ρ → Nat → Prop} {t : Target} {remote : σ}
variable {b b' : Bridge σ ρ} {id : Nat} {p p' : Point ρ}

theorem Starts.gives? (h : Starts s b b' id p) : p.gives? = none := by
  cases h <;> rfl

/-- A call is given the live connection. -/
theorem Moves.gives (h : Moves s id b p b' p') {c : Connection} (hc : p'.gives? = some c) :
    b'.session.live = some c ∨ p = .opened c ∧ b' = b := by
  cases h with
  | reuse hl =>
    cases hc
    exact .inl hl
  | install =>
    cases hc
    exact .inl rfl
  | give =>
    cases hc
    exact .inr ⟨rfl, rfl⟩
  | @serve a answer ha =>
    cases a <;> simp only [SessionAction.answer?, Option.some.injEq, reduceCtorEq] at ha <;>
      subst ha <;> simp [Point.gives?] at hc
  | conclude =>
    rename_i r
    cases r <;> simp [Point.gives?, Answer.ofResult] at hc
  | _ => simp [Point.gives?] at hc

theorem Visited.gives (h : Visited s mayStop t remote b (some (id, p))) {c : Connection}
    (hc : p.gives? = some c) : b.session.live = some c := by
  have opened {b : Bridge σ ρ} (h : Visited s mayStop t remote b (some (id, .opened c))) :
      b.session.live = some c := by
    cases h with
    | start _ hs => exact nomatch hs.gives?
    | move _ hm =>
      rcases hm.gives rfl with hl | ⟨rfl, -⟩
      · exact hl
      · cases hm
  cases h with
  | start _ hs => exact nomatch hc.symm.trans hs.gives?
  | move h hm =>
    rcases hm.gives hc with hl | ⟨rfl, rfl⟩
    · exact hl
    · exact opened h

/-- A call that waits for a handshake, or has just got its answer, is at the session. -/
theorem Visited.has_of_handshake {f : Option (Nat × Point ρ)}
    (h : Visited s mayStop t remote b f) {x : Target × Credential} (hp : b.spot f id = some p)
    (hx : p.handshake? = some x) : b.stances f id .access = .has := by
  obtain ⟨r, hr, -⟩ := h.suits id p hp
  simp only [stances, hr, hp]
  exact has_of_handshake? hx

/-- How handshakes go with the generations of a session. -/
structure OneHandshake (s : Setup σ ρ) (mayStop : Bridge σ ρ → Nat → Prop) (b : Bridge σ ρ)
    (f : Option (Nat × Point ρ)) : Prop where
  /-- Two calls are never at a handshake at once. -/
  single : ∀ i j p q, b.spot f i = some p → b.spot f j = some q → p.handshake? ≠ none →
    q.handshake? ≠ none → i = j
  bounded : (b.told Event.installed?).length ≤ b.session.generation + 1
  /-- As long as the generation stays the same, one connection is installed at most. -/
  installed : ∀ m, Later s mayStop (b, f) m → m.1.session.generation = b.session.generation →
    m.1.told Event.installed? = b.told Event.installed? ∨
      ∃ c, m.1.told Event.installed? = b.told Event.installed? ++ [c]
  /-- And all calls are given the same one. -/
  shared : ∀ i p c, f = some (i, p) → p.gives? = some c → ∀ b' j q c',
    Later s mayStop (b, f) (b', some (j, q)) → b'.session.generation = b.session.generation →
      q.gives? = some c' → c' = c

/-- This holds between any two moves, whichever calls are made or stopped. -/
theorem Visited.oneHandshake {f : Option (Nat × Point ρ)} (h : Visited s mayStop t remote b f) :
    b.OneHandshake s mayStop f := by
  refine ⟨fun i j p q hp hq hi hj => ?_, ?_, fun m hl hg => ?_,
    fun i p c hf hc b' j q c' hl hg hc' => ?_⟩
  · obtain ⟨x, hx⟩ := Option.ne_none_iff_exists'.mp hi
    obtain ⟨y, hy⟩ := Option.ne_none_iff_exists'.mp hj
    exact h.inOrder.has_unique (h.has_of_handshake hp hx) (h.has_of_handshake hq hy)
  · have hb : b.ledger.Bounded := Ledger.Later.bounded h.ledger (Nat.zero_le _)
    have hlive : b.session.live.toList.length ≤ 1 := by cases b.session.live <;> simp
    have hle : (b.told Event.installed?).length ≤
        b.session.generation + b.session.live.toList.length := hb
    omega
  · have hs := Ledger.Later.settled (Later.ledger hl h) hg
    rcases hs.opened with ho | ⟨-, ho⟩
    · exact .inl ho
    · exact .inr ho
  · subst hf
    have hlive : b.session.live = some c := h.gives hc
    have hlive' : b'.session.live = some c' := (Later.visited hl h).gives hc'
    have hs := Ledger.Later.settled (Later.ledger hl h) hg
    have hkept : b'.session.live = some c := hs.live c hlive
    exact Option.some.inj (hlive'.symm.trans hkept)

end

/-- Two callers that want a connection, of which the first waits for a handshake. -/
def twoCallers : Bridge Nat Unit :=
  let b := (Bridge.new localTarget 0).submit droppingSetup
    (.session (.setCredential (.token ⟨"k"⟩)))
  (b.submit droppingSetup (.session .ensureOpen)).submit droppingSetup (.session .ensureOpen)

/-- The first of them has got its connection. -/
def firstServed : Bridge Nat Unit :=
  ((((twoCallers.withRemote 1).record (.opened ⟨"0", localTarget⟩ (.token ⟨"k"⟩) 1)).withSession
    (twoCallers.session.install ⟨"0", localTarget⟩))).passAccess

theorem visited_firstServed : Visited droppingSetup (fun _ _ => True) localTarget 0 firstServed
    (some (1, .opened ⟨"0", localTarget⟩)) := by
  have hr : Reachable droppingSetup (fun _ _ => True) localTarget 0 twoCallers := by
    unfold twoCallers
    exact .step (.step (.step .new (.submit _)) (.submit _)) (.submit _)
  have hp : twoCallers.phase? 1 = some (.opening localTarget (.token ⟨"k"⟩)
      ⟨some 1000, some 30000⟩) := rfl
  have hs := hr.visited.start (.connected hp rfl rfl)
  exact hs.move .install

/-- The second one has got the same, without a handshake of its own. -/
def bothServed : Bridge Nat Unit :=
  let b := firstServed.setPhase 1 (.ended (.connection ⟨"0", localTarget⟩))
  ({ b with ready := b.ready.erase 2 }.withSession b.session.discardAbandoned).passAccess

theorem oneHandshake_firstServed :
    firstServed.OneHandshake droppingSetup (fun _ _ => True)
        (some (1, .opened ⟨"0", localTarget⟩)) ∧
      Later droppingSetup (fun _ _ => True) (firstServed, some (1, .opened ⟨"0", localTarget⟩))
          (bothServed, some (2, .opened ⟨"0", localTarget⟩)) ∧
        bothServed.session.generation = firstServed.session.generation := by
  have hr : firstServed.request? 1 = some (.session .ensureOpen) := rfl
  have hgive (i : Invocation) : firstServed.request? 1 ≠ some (.invoke i) :=
    fun hi => nomatch hr.symm.trans hi
  have hready : 2 ∈ firstServed.ready := List.mem_singleton_self 2
  have hp : (firstServed.setPhase 1 (.ended (.connection ⟨"0", localTarget⟩))).phase? 2 =
      some (.waiting .ensureOpen) := rfl
  refine ⟨visited_firstServed.oneHandshake, ?_, rfl⟩
  refine .head (.move (.give hgive)) (.head .park ?_)
  exact .head (.start (.waiting hready hp)) (.single (.move (.reuse rfl)))

end Bridge

end CommandBridge
