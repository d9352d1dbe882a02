import CommandBridge.Proofs.Gateway.Exchange
import CommandBridge.Proofs.Gateway.Request

/-! One run after another on a bridge to a gateway: which requests each run sends, what its result
is, and where it leaves the session. -/
namespace CommandBridge.Gateway

open Http (Delivery Script)

/-- Where the session stands between two runs. -/
inductive Standing where
  | live (c : Connection)
  | shut
  /-- Shut because the last run lost the connection. -/
  | lost (c : Connection)

namespace Standing

def live? : Standing → Option Connection
  | live c => some c
  | _ => none

def lost? : Standing → Option Connection
  | lost c => some c
  | _ => none

/-- A connection that was lost is closed before anything else. -/
def closings : Standing → List (Except Failure Http.Request)
  | lost c => [closeRequest c]
  | _ => []

/-- A handshake is made unless the session is live. -/
def openings (t : Target) (k : Credential) : Standing → List (Except Failure Http.Request)
  | live _ => []
  | _ => [openRequest t k]

/-- The session shows it between two runs. -/
structure Shows (st : Standing) (t : Target) (k : Credential) (x : Session) : Prop where
  target : x.target = t
  credential : x.credential = some k
  live : x.live = st.live?
  retired : x.retired = st.lost?.toList
  abandoned : x.abandoned = []

end Standing

/-- The connection of a run: the live one, or the one that its handshake gives. -/
def connection? (t : Target) (k : Credential) (st : Standing) (m : Script) : Option Connection :=
  match st with
  | .live c => some c
  | _ => granted? t ((m.sendAll st.closings).reply? (openRequest t k))

/-- How a run of `i` on a connection ends: where it leaves the session, and its result. -/
inductive Ending (c : Connection) (i : Invocation) :
    Option Delivery → Standing → Except Failure (Output Record) → Prop where
  | records {a : Http.Answer} {rs : List Record} {errors : List String}
      (hs : Http.isSuccess a.status = true) (hd : decoded? a.body = some (rs, errors))
      (h : nonNull rs ≠ [] ∨ errors = []) :
      Ending c i (some (.answered a)) (.live c)
        (.ok ⟨nonNull rs, Command.redact errors i.extra⟩)
  | errors {a : Http.Answer} {rs : List Record} {errors : List String}
      (hs : Http.isSuccess a.status = true) (hd : decoded? a.body = some (rs, errors))
      (hr : nonNull rs = []) (he : errors ≠ []) :
      Ending c i (some (.answered a)) (.live c)
        (.error (.remote (Command.redact errors i.extra)))
  | rejected {a : Http.Answer} (hs : a.status = 400 ∨ a.status = 422) (message : String) :
      Ending c i (some (.answered a)) (.live c) (.error (.remote [message]))
  | broken {d : Option Delivery}
      (h : ∀ a, d = some (.answered a) → a.status ≠ 400 ∧ a.status ≠ 422 ∧
        (Http.isSuccess a.status = true → decoded? a.body = none))
      (cause : String) : Ending c i d (.lost c) (.error (.connection cause))

/-- What a run of `i` sends, where it leaves the session, and its result. -/
inductive Course (t : Target) (k : Credential) (i : Invocation) (st : Standing) (m : Script) :
    List (Except Failure Http.Request) → Standing → Except Failure (Output Record) → Prop where
  | unopened (h : connection? t k st m = none) (cause : String) :
      Course t k i st m (st.closings ++ st.openings t k) .shut (.error (.connection cause))
  | ran {c : Connection} {st' : Standing} {r : Except Failure (Output Record)}
      (h : connection? t k st m = some c)
      (he : Ending c i
        ((m.sendAll (st.closings ++ st.openings t k)).reply? (pipelineRequest c i)) st' r) :
      Course t k i st m (st.closings ++ st.openings t k ++ [pipelineRequest c i]) st' r

/-- A run of `i` leads from one state of a bridge to another. -/
def Round (t : Target) (k : Credential) (i : Invocation) (st : Standing)
    (b : Bridge Script Record) (st' : Standing) (b' : Bridge Script Record) : Prop :=
  ∃ requests r, Course t k i st b.remote requests st' r ∧
    b'.remote = b.remote.sendAll requests ∧
    b'.remote.requests = b.remote.requests ++ requests.filterMap Except.toOption ∧
    b'.answer? b.calls.length = some (.ofResult r)

/-- Run after run, each from where the one before has left the session. -/
inductive Rounds (s : Setup Script Record) (t : Target) (k : Credential) :
    Standing → Bridge Script Record → List Invocation → Standing → Bridge Script Record →
      Prop where
  | nil {st : Standing} {b : Bridge Script Record} (h : st.Shows t k b.session) :
      Rounds s t k st b [] st b
  | cons {st st' st'' : Standing} {b b' : Bridge Script Record} {i : Invocation}
      {rest : List Invocation} (h : st.Shows t k b.session)
      (hr : Round t k i st b st' (b.run s (.invoke i)))
      (hrest : Rounds s t k st' (b.run s (.invoke i)) rest st'' b') :
      Rounds s t k st b (i :: rest) st'' b'

theorem redact_eq_nil {errors : List String} {extra : Command.Extra} :
    Command.redact errors extra = [] ↔ errors = [] :=
  List.map_eq_nil_iff

theorem ending_of_decoded {c : Connection} {i : Invocation} {a : Http.Answer} {rs : List Record}
    {errors : List String} (hs : Http.isSuccess a.status = true)
    (hd : decoded? a.body = some (rs, errors)) :
    Ending c i (some (.answered a)) (.live c) (i.accept ⟨nonNull rs, errors⟩) := by
  simp only [Invocation.accept]
  split
  · rename_i h
    simp only [Bool.and_eq_true, Bool.not_eq_true', List.isEmpty_eq_false_iff, ne_eq,
      redact_eq_nil, List.isEmpty_iff] at h
    exact .errors hs hd h.2 h.1
  · rename_i h
    simp only [Bool.and_eq_true, Bool.not_eq_true', List.isEmpty_eq_false_iff, ne_eq,
      redact_eq_nil, List.isEmpty_iff, not_and_or, not_not] at h
    exact .records hs hd h.symm

theorem ending_of_rejected {c : Connection} {i : Invocation} {a : Http.Answer}
    (hs : a.status = 400 ∨ a.status = 422) (message : String) :
    Ending c i (some (.answered a)) (.live c) (i.accept ⟨[], [message]⟩) :=
  .rejected hs _

/-- What the answer to a pipeline says is all that the end of its run depends on. -/
theorem ending_of_heard {c : Connection} {i : Invocation} {d : Option Delivery}
    {r : Except Failure (Output Record)} (h : Heard (answered c) d r) :
    (∃ o, r = .ok o ∧ Ending c i d (.live c) (i.accept o)) ∨
      ∃ cause, r = .error (.connection cause) ∧
        Ending c i d (.lost c) (.error (.connection cause)) := by
  cases h with
  | not hd cause => exact .inr ⟨cause, rfl, .broken (fun a ha => absurd ha (hd a)) cause⟩
  | answered a =>
    have lost (cause : String) (h : a.status ≠ 400 ∧ a.status ≠ 422 ∧
        (Http.isSuccess a.status = true → decoded? a.body = none)) :
        Ending c i (some (.answered a)) (.lost c) (.error (.connection cause)) :=
      .broken (fun a' ha => by cases ha; exact h) cause
    unfold answered
    split
    · rename_i hs
      have hn : a.status ≠ 400 ∧ a.status ≠ 422 := by
        simp only [Http.isSuccess, Bool.and_eq_true, decide_eq_true_eq] at hs
        omega
      rw [output?_eq]
      cases hd : decoded? a.body with
      | none => exact .inr ⟨_, rfl, lost _ ⟨hn.1, hn.2, fun _ => hd⟩⟩
      | some p => exact .inl ⟨_, rfl, ending_of_decoded hs hd⟩
    · rename_i hs
      simp only [Bool.or_eq_true, decide_eq_true_eq]
      split
      · exact .inr ⟨_, rfl, lost _ ⟨by omega, by omega, fun h => absurd h hs⟩⟩
      · split
        · exact .inl ⟨_, rfl, ending_of_rejected ‹_› _⟩
        · exact .inr ⟨_, rfl, lost _ ⟨by omega, by omega, fun h => absurd h hs⟩⟩

section
variable {t : Target} {k : Credential} {i : Invocation} {st : Standing} {b : Bridge Script Record}
variable {old : List (Call Record)} {x : Session} {m : Script} {c : Connection}
variable {P : Bridge Script Record → Prop} {requestLimit openLimit executionLimit : Nat}

theorem shows_invalidate (h : (Standing.live c).Shows t k x) :
    (Standing.lost c).Shows t k (x.invalidate c) := by
  have hl : x.invalidate c = x.retire := if_pos (by simp [h.live, Standing.live?])
  rw [hl]
  refine ⟨h.target, h.credential, rfl, ?_, h.abandoned⟩
  simp [Session.retire, h.retired, h.live, Standing.live?, Standing.lost?]

/-- A run that has its connection. -/
theorem comes_opened (h : Bridge.Alone old i none x m b) (hx : (Standing.live c).Shows t k x)
    (hP : ∀ st' r x' b', Ending c i (m.reply? (pipelineRequest c i)) st' r →
      st'.Shows t k x' → Bridge.Concluded old i r x' (m.send (pipelineRequest c i)) b' → P b') :
    Bridge.Comes (setup requestLimit openLimit executionLimit) old.length P 1
      (b.opened (setup requestLimit openLimit executionLimit) old.length c) := by
  rw [h.opened]
  refine h.execute fun m' p he b' hc => ?_
  have hy := Setup.yields_execute (setup requestLimit openLimit executionLimit) c i m
  simp only [endpoint_setup, endpoint_eq, he] at hy
  have hm := send_of_yields hy
  dsimp only at hm
  rw [hm] at hc
  have hd : Heard (answered c) (m.reply? (pipelineRequest c i)) p :=
    heard_of_yields hy (fun _ => pipelineRequest_error) ⟨_, rfl⟩
  rcases ending_of_heard hd with ⟨o, ho, he⟩ | ⟨cause, ho, he⟩
  · rw [ho] at hc
    exact hP _ _ _ b' he hx hc
  · rw [ho] at hc
    exact hP _ _ _ b' he (shows_invalidate hx) hc

/-- A run that has its connection, after what it has sent. -/
theorem comes_ran {m₀ : Script} (h : Bridge.Alone old i none x m b)
    (hx : (Standing.live c).Shows t k x) (hc : connection? t k st m₀ = some c)
    (hm : m = m₀.sendAll (st.closings ++ st.openings t k))
    (hP : ∀ requests st' r x' b', Course t k i st m₀ requests st' r → st'.Shows t k x' →
      Bridge.Concluded old i r x' (m₀.sendAll requests) b' → P b') :
    Bridge.Comes (setup requestLimit openLimit executionLimit) old.length P 1
      (b.opened (setup requestLimit openLimit executionLimit) old.length c) := by
  refine comes_opened h hx fun st' r x' b' he hx' hb => ?_
  rw [hm] at he hb
  refine hP _ st' r x' b' (.ran hc he) hx' ?_
  rw [Script.sendAll_concat]
  exact hb

theorem connection?_shut :
    connection? t k .shut m = granted? t (m.reply? (openRequest t k)) := rfl

theorem sendAll_openings_shut :
    m.sendAll (Standing.shut.closings ++ Standing.shut.openings t k) = m.send (openRequest t k) :=
  rfl

/-- A run that has nothing to close. -/
theorem comes_closed (h : Bridge.Alone old i none x m b) (hx : st.Shows t k x)
    (hl : st.lost? = none)
    (hP : ∀ requests st' r x' b', Course t k i st m requests st' r → st'.Shows t k x' →
      Bridge.Concluded old i r x' (m.sendAll requests) b' → P b') :
    Bridge.Comes (setup requestLimit openLimit executionLimit) old.length P 2
      (b.closeAll (setup requestLimit openLimit executionLimit) old.length []) := by
  refine h.closeAll_nil fun b₁ h₁ => ?_
  cases st with
  | lost => cases hl
  | live c' =>
    refine h₁.ensureOpen hx.abandoned (fun c x' m' ho b₂ h₂ => ?_) fun e x' m' ho => ?_
    · cases Setup.opens_of_ensureOpen hx.credential ho with
      | live hc =>
        have hc' : c' = c := Option.some.inj (hx.live.symm.trans hc)
        exact comes_ran h₂ (hc' ▸ hx) (hc' ▸ rfl) rfl hP
      | handshake hc => cases hx.live.symm.trans hc
    · cases Setup.opens_of_ensureOpen hx.credential ho with
      | failed hc => cases hx.live.symm.trans hc
  | shut =>
    refine h₁.ensureOpen hx.abandoned (fun c x' m' ho b₂ h₂ => ?_) fun e x' m' ho b₂ hb => ?_
    · cases Setup.opens_of_ensureOpen hx.credential ho with
      | live hc => cases hx.live.symm.trans hc
      | handshake hc hy =>
        simp only [endpoint_setup, endpoint_eq, hx.target] at hy h₂ ⊢
        have hg := granted_of_heard (heard_of_yields hy (fun _ => openRequest_error) ⟨_, rfl⟩)
        rw [← connection?_shut] at hg
        refine comes_ran h₂ ?_ hg ?_ hP
        · exact ⟨hx.target, hx.credential, rfl, hx.retired, hx.abandoned⟩
        · rw [sendAll_openings_shut]
          exact send_of_yields hy
    · cases Setup.opens_of_ensureOpen hx.credential ho with
      | failed hc hy =>
        simp only [endpoint_setup, endpoint_eq, hx.target] at hy
        obtain ⟨hg, cause, rfl⟩ := not_granted_of_heard
          (heard_of_yields hy (fun _ => openRequest_error) ⟨_, rfl⟩)
        rw [← connection?_shut] at hg
        refine hP _ _ _ _ b₂ (.unopened hg cause) hx ?_
        rw [sendAll_openings_shut, ← send_of_yields hy]
        exact hb

theorem sendAll_closing : m.sendAll ((Standing.lost c).closings ++ (Standing.lost c).openings t k) =
    (m.send (closeRequest c)).sendAll (Standing.shut.closings ++ Standing.shut.openings t k) := by
  simp only [Standing.closings, Standing.openings, List.cons_append, List.nil_append,
    Script.sendAll_cons]

theorem connection?_lost :
    connection? t k (.lost c) m = connection? t k .shut (m.send (closeRequest c)) := by
  simp only [connection?, Standing.closings, Script.sendAll_cons]

/-- The request that closes a lost connection comes before everything that a run without it would
do. -/
theorem Course.after_closing {requests : List (Except Failure Http.Request)} {st' : Standing}
    {r : Except Failure (Output Record)}
    (h : Course t k i .shut (m.send (closeRequest c)) requests st' r) :
    Course t k i (.lost c) m (closeRequest c :: requests) st' r := by
  cases h with
  | unopened h cause =>
    rw [← connection?_lost] at h
    exact .unopened h cause
  | ran h he =>
    rw [← connection?_lost] at h
    rw [← sendAll_closing] at he
    exact .ran h he

/-- A run, with the connection that the last one has lost. -/
theorem comes_run (h : Bridge.Alone old i none { x with retired := [] } m b)
    (hx : st.Shows t k x)
    (hP : ∀ requests st' r x' b', Course t k i st m requests st' r → st'.Shows t k x' →
      Bridge.Concluded old i r x' (m.sendAll requests) b' → P b') :
    Bridge.Comes (setup requestLimit openLimit executionLimit) old.length P 3
      (b.closeAll (setup requestLimit openLimit executionLimit) old.length x.retired) := by
  rw [hx.retired]
  cases st with
  | live | shut =>
    have hx' : { x with retired := [] } = x := by rw [← show x.retired = [] from hx.retired]
    exact (comes_closed (hx' ▸ h) hx rfl hP).mono (Nat.le_succ 2)
  | lost c =>
    refine h.closeAll_cons fun b' h' => ?_
    obtain ⟨r, hy⟩ := Setup.yields_close (setup requestLimit openLimit executionLimit) c m
    simp only [endpoint_setup, endpoint_eq] at hy
    have hm := send_of_yields hy
    dsimp only at hm
    rw [hm] at h'
    have hx' : Standing.shut.Shows t k { x with retired := [] } :=
      ⟨hx.target, hx.credential, hx.live, rfl, hx.abandoned⟩
    refine comes_closed h' hx' rfl fun requests st' r x' b'' hc hx' hb => ?_
    refine hP _ st' r x' b'' hc.after_closing hx' ?_
    rw [Script.sendAll_cons]
    exact hb

/-- What one run does, and that it leaves the bridge ready for the next. -/
theorem round (requestLimit openLimit executionLimit : Nat) (hb : b.Resting)
    (hx : st.Shows t k b.session) (hi : i.pipeline.isEmpty = false) :
    ∃ st', Round t k i st b st' (b.run (setup requestLimit openLimit executionLimit) (.invoke i)) ∧
      (b.run (setup requestLimit openLimit executionLimit) (.invoke i)).Resting ∧
      st'.Shows t k (b.run (setup requestLimit openLimit executionLimit) (.invoke i)).session := by
  refine Bridge.Comes.run (P := fun b' => ∃ st', Round t k i st b st' b' ∧ b'.Resting ∧
    st'.Shows t k b'.session) (hb.submit hi fun b₁ h₁ => ?_)
    (Nat.le_mul_of_pos_right _ (Nat.succ_pos _))
  rw [Session.takeRetired_of_nil hx.abandoned] at h₁ ⊢
  refine comes_run h₁ hx fun requests st' r x' b' hc hx' hb' => ?_
  refine ⟨st', ⟨requests, r, hc, hb'.remote, ?_, hb'.answer?⟩, hb'.resting, hb'.session ▸ hx'⟩
  rw [hb'.remote, Script.requests_sendAll]

/-- Over every sequence of runs, and for every script. -/
theorem rounds_runs (requestLimit openLimit executionLimit : Nat) (hb : b.Resting)
    (hx : st.Shows t k b.session) (runs : List Invocation)
    (hi : ∀ i ∈ runs, i.pipeline.isEmpty = false) :
    ∃ st', Rounds (setup requestLimit openLimit executionLimit) t k st b runs st'
      (runs.foldl
        (fun b i => b.run (setup requestLimit openLimit executionLimit) (.invoke i)) b) := by
  induction runs generalizing b st with
  | nil => exact ⟨st, .nil hx⟩
  | cons i rest ih =>
    obtain ⟨st', hr, hb', hx'⟩ := round requestLimit openLimit executionLimit hb hx
      (hi i (List.mem_cons_self ..))
    obtain ⟨st'', hrest⟩ := ih hb' hx' fun j hj => hi j (List.mem_cons_of_mem i hj)
    exact ⟨st'', .cons hx hr hrest⟩

end

theorem resting_setCredential (s : Setup Script Record) (t : Target) (k : Credential) (m : Script) :
    ((Bridge.new t m).run s (.session (.setCredential k))).Resting :=
  (Bridge.authenticated_setCredential s t k m).toResting

theorem shows_setCredential (s : Setup Script Record) (t : Target) (k : Credential) (m : Script) :
    Standing.shut.Shows t k ((Bridge.new t m).run s (.session (.setCredential k))).session :=
  ⟨rfl, rfl, rfl, rfl, rfl⟩

/-- The gateway gives a null record and another one, does not know the session any more by the
second run, and rejects a pipeline in the next session. -/
def expiring : Script where
  posts := [.answered ⟨200, "\x7b\"sessionId\": \"s1\"\x7d"⟩,
    .answered ⟨200, "\x7b\"output\": [\x7b\"kind\": \"null\"\x7d, " ++
      "\x7b\"kind\": \"bool\", \"value\": true\x7d]\x7d"⟩,
    .answered ⟨404, ""⟩, .answered ⟨200, "\x7b\"sessionId\": \"s2\"\x7d"⟩, .answered ⟨422, "no"⟩]

def opening (k : Credential) (m : Script) : Bridge Script Record :=
  (Bridge.new gatewayTarget m).run (setup 1000 30000 5000) (.session (.setCredential k))

theorem rounds_runs_expiring :
    (∀ i ∈ List.replicate 3 Bridge.singleStage, i.pipeline.isEmpty = false) ∧
    (opening (.token ⟨"k"⟩) expiring).Resting ∧
    Standing.shut.Shows gatewayTarget (.token ⟨"k"⟩) (opening (.token ⟨"k"⟩) expiring).session ∧
    ∃ st', Rounds (setup 1000 30000 5000) gatewayTarget (.token ⟨"k"⟩) .shut
      (opening (.token ⟨"k"⟩) expiring) (List.replicate 3 Bridge.singleStage) st'
      ((List.replicate 3 Bridge.singleStage).foldl
        (fun b i => b.run (setup 1000 30000 5000) (.invoke i))
        (opening (.token ⟨"k"⟩) expiring)) := by
  have hi : ∀ i ∈ List.replicate 3 Bridge.singleStage, i.pipeline.isEmpty = false := by decide
  have hb := resting_setCredential (setup 1000 30000 5000) gatewayTarget (.token ⟨"k"⟩) expiring
  have hx := shows_setCredential (setup 1000 30000 5000) gatewayTarget (.token ⟨"k"⟩) expiring
  exact ⟨hi, hb, hx, rounds_runs 1000 30000 5000 hb hx _ hi⟩

example : (((List.replicate 3 Bridge.singleStage).foldl
    (fun b i => b.run (setup 1000 30000 5000) (.invoke i))
    (opening (.token ⟨"k"⟩) expiring)).remote.requests.map (·.method)) =
      [.post, .post, .post, .delete, .post, .post] := by
  decide +kernel

/-- The token is of the right kind, but a line break cannot stand in a header. -/
theorem no_handshake_sent :
    (authorization gatewayTarget.mechanism (.token ⟨"k\n"⟩)).toOption.isSome = true ∧
    (opening (.token ⟨"k\n"⟩) expiring).session.live = none ∧
    Bridge.singleStage.pipeline ≠ [] ∧
    ((opening (.token ⟨"k\n"⟩) expiring).run (setup 1000 30000 5000)
      (.invoke Bridge.singleStage)).remote.requests = [] := by
  refine ⟨rfl, rfl, by decide, List.isEmpty_iff.mp ?_⟩
  decide +kernel

end CommandBridge.Gateway
