import CommandBridge.Proofs.Bridge.Openings
import CommandBridge.Proofs.Endpoint.Simulated
import CommandBridge.Proofs.Gateway.Exchange
import CommandBridge.Proofs.Gateway.Request
import CommandBridge.Proofs.Json.Wanted
import CommandBridge.Proofs.Record.RoundTrip

/-! An invocation over a gateway ends as it does on a simulated endpoint that has the records and
the messages of the gateway's answer. -/
namespace CommandBridge

/-- Call `id`, which is the invocation `i`, has returned `r`, and the last thing to be reported was
its end. -/
structure Bridge.Reports {σ ρ : Type} (b : Bridge σ ρ) (id : Nat) (i : Invocation)
    (r : Except Failure (Output ρ)) : Prop where
  answer : b.answer? id = some (.ofResult r)
  finished : b.history.getLast? = some (b.now, .finished id i.command (.ofResult r))

theorem Bridge.Concluded.reports {σ ρ : Type} {b : Bridge σ ρ} {old : List (Call ρ)}
    {i : Invocation} {r : Except Failure (Output ρ)} {x : Session} {m : σ}
    (h : b.Concluded old i r x m) : b.Reports old.length i r :=
  ⟨h.answer?, h.reported⟩

namespace Gateway

open Http (Script)

/-- The JSON of an answer to a pipeline. -/
def answerJson (rs : List Record) (messages : List String) : Json :=
  .object [("output", .array (rs.map Record.toJson)),
    ("errors", .array (messages.map fun m => .object [("message", .string m)]))]

section
variable {rs : List Record} {messages : List String}

theorem readsAs_errorJson {depth : Nat} (hdepth : 0 < depth) (m : String) :
    Json.ReadsAs errorBody depth (.object [("message", .string m)])
      (.object [("message", .string m)]) := by
  obtain ⟨depth, rfl⟩ := Nat.exists_eq_add_one.mpr hdepth
  exact Json.readsAs_structOf (.wanted rfl (Json.readsOff_string m depth) .nil)

theorem readsAs_answerJson
    (hfinite : ∀ r ∈ rs, ∀ x, Record.float x ∈ r.atoms → x.isFinite = true)
    (hfaithful : ∀ r ∈ rs, r.Faithful) (hheight : (answerJson rs messages).height ≤ Json.maxDepth) :
    Json.ReadsAs outputBody Json.maxDepth (answerJson rs messages) (answerJson rs messages) := by
  have hrecords : (Json.array (rs.map Record.toJson)).Leaves Json.Rereads := by
    refine Json.itemLeaves_iff.mpr (List.forall_mem_map.mpr fun r hr => ?_)
    apply Record.leaves_toJson
    intro x hx
    exact (hfaithful r hr).float x hx (hfinite r hr x hx)
  have houtput : (Json.array (rs.map Record.toJson)).ReadsOff 126 := by
    refine Json.readsOff _ hrecords (Nat.le_of_succ_le_succ (Nat.le_trans ?_ hheight))
    exact Nat.succ_le_succ (Nat.le_max_left _ _)
  have herrors : Json.ReadsAs (Json.listOf errorBody) 126
      (.array (messages.map fun m => .object [("message", .string m)]))
      (.array (messages.map fun m => .object [("message", .string m)])) := by
    apply Json.readsAs_listOf
    rw [List.forall₂_same]
    exact List.forall_mem_map.mpr fun m _ => readsAs_errorJson (by decide) m
  exact Json.readsAs_structOf (.wanted rfl houtput (.wanted rfl herrors .nil))

theorem errorMessage?_object (m : String) :
    errorMessage? (.object [("message", .string m)]) = some m := rfl

/-- Nothing in an answer is lost but the null records. -/
theorem output?_answerJson
    (hfinite : ∀ r ∈ rs, ∀ x, Record.float x ∈ r.atoms → x.isFinite = true)
    (hfaithful : ∀ r ∈ rs, r.Faithful) (hheight : (answerJson rs messages).height ≤ Json.maxDepth) :
    output? (answerJson rs messages).compact = some ⟨nonNull rs, messages⟩ := by
  have hread : (Json.whole outputBody (answerJson rs messages).compact).toOption =
      some (answerJson rs messages) := by
    rw [(readsAs_answerJson hfinite hfaithful hheight).whole]
    rfl
  have hrecords : Json.list? Record.ofNamedJson? (.array (rs.map Record.toJson)) = some rs :=
    Record.list?_map fun r hr => Record.ofNamedJson?_toJson (hfaithful r hr).moment
  have hmessages : Json.list? errorMessage?
      (.array (messages.map fun m => .object [("message", .string m)])) = some messages :=
    Record.list?_map fun m _ => errorMessage?_object m
  rw [output?_eq, decoded?, hread]
  simp [answerJson, Json.Body.ofJson?, Json.Body.arguments?, Json.single?, Json.default?, hrecords,
    hmessages]

end

section
variable {σ : Type} {g : Gateway σ} {openLimit executionLimit : Nat} {b : Bridge σ Record}
variable {i : Invocation} {a : Http.Answer}

def withLimits (g : Gateway σ) (openLimit executionLimit : Nat) : Setup σ Record :=
  ⟨g.endpoint, openLimit, executionLimit⟩

/-- The next invocation on a bridge at rest comes to send its pipeline, and `a` is the answer. -/
def Hears (g : Gateway σ) (openLimit executionLimit : Nat) (b : Bridge σ Record) (i : Invocation)
    (a : Http.Answer) : Prop :=
  ∃ c x m request m',
    (g.withLimits openLimit executionLimit).approach b.session b.remote = (.ok c, x, m) ∧
    pipelineRequest c i = .ok request ∧ g.network.deliver request m = (m', .answered a)

theorem answered_of_output? {c : Connection} {o : Output Record}
    (hs : Http.isSuccess a.status = true) (h : output? a.body = some o) :
    answered c a = .ok o := by
  simp only [answered, hs, if_true, h]

theorem execute_withLimits (c : Connection) (i : Invocation) (m : σ) :
    (g.withLimits openLimit executionLimit).endpoint.execute c i m =
      g.exchange (pipelineRequest c i) (answered c) m := by
  simp only [withLimits, endpoint]

theorem connect_withLimits (t : Target) (k : Credential) (m : σ) :
    (g.withLimits openLimit executionLimit).endpoint.connect t k m =
      g.exchange (openRequest t k) (opened t) m := by
  simp only [withLimits, endpoint]

theorem exchange_answered {request : Http.Request} {m m' : σ} {α : Type}
    {read : Http.Answer → Except Failure α} (h : g.network.deliver request m = (m', .answered a)) :
    g.exchange (.ok request) read m = (m', .now (read a)) := by
  simp only [exchange, h]

theorem ensureOpen_answered (openLimit executionLimit : Nat) {x : Session} {k : Credential}
    {request : Http.Request} {m m' : σ} {name : String} (hl : x.live = none)
    (hk : x.credential = some k) (hrequest : openRequest x.target k = .ok request)
    (hdeliver : g.network.deliver request m = (m', .answered a))
    (hname : opened x.target a = .ok name) :
    (g.withLimits openLimit executionLimit).ensureOpen x m =
      (.ok ⟨name, x.target⟩, x.install ⟨name, x.target⟩, m') := by
  have hasked : (g.withLimits openLimit executionLimit).endpoint.connect x.target k m =
      (m', .now (.ok name)) := by
    rw [connect_withLimits, hrequest, exchange_answered hdeliver, hname]
  simp only [Setup.ensureOpen, hl, hk, settled_now hasked]

theorem Hears.invoke (h : Hears g openLimit executionLimit b i a) :
    ∃ c x m, (g.withLimits openLimit executionLimit).invoke i b.session b.remote =
      (answered c a >>= i.accept, x, m) := by
  obtain ⟨c, x, m, request, m', happroach, hrequest, hdeliver⟩ := h
  have hasked : (g.withLimits openLimit executionLimit).endpoint.execute c i m =
      (m', .now (answered c a)) := by
    rw [execute_withLimits, hrequest, exchange_answered hdeliver]
  have hexecute : (g.withLimits openLimit executionLimit).execute c i m = (m', answered c a) :=
    settled_now hasked
  refine ⟨c, x.after c (answered c a), m', ?_⟩
  simp only [Setup.invoke, happroach, hexecute]

end

/-- Without a projecting stage and a limit on the number of records the endpoint gives what it
has. -/
theorem output_of_plain {m : Simulated} {p : Command.Pipeline} {first : Command.Stage}
    {records : List Record} (hfirst : p.head? = some first)
    (hselect : ∀ s ∈ p, Text.sameIgnoringAsciiCase s.name "Select-Object" = false)
    (hsize : first.parameter? "ResultSize" = none)
    (hrecords : m.datasets.lookup (Text.lowercase first.name) = some records) :
    m.output p = ⟨records, (m.errors.lookup (Text.lowercase first.name)).getD []⟩ := by
  have hfind : p.reverse.find? (fun s => Text.sameIgnoringAsciiCase s.name "Select-Object") =
      none := by
    rw [List.find?_eq_none]
    intro s hs
    simp [hselect s (List.mem_reverse.mp hs)]
  rw [Simulated.output_eq hfirst hrecords, Simulated.projected, Simulated.projection?, hfind,
    Simulated.limited, hsize]
  rfl

section
variable {σ : Type} {g : Gateway σ} {openLimit executionLimit openLimit' executionLimit' : Nat}
variable {mayStop : Bridge σ Record → Nat → Prop} {t : Target} {remote : σ}
variable {b : Bridge σ Record} {b' : Bridge Simulated Record} {i : Invocation}
variable {first : Command.Stage} {rs : List Record} {messages : List String}

theorem runs_agree
    (hb : Bridge.Reachable (g.withLimits openLimit executionLimit) mayStop t remote b)
    (hended : ∀ c ∈ b.calls, c.phase.isFinal = true)
    (hb' : Simulated.Ready openLimit' executionLimit' b')
    (hfirst : i.pipeline.head? = some first)
    (hselect : ∀ s ∈ i.pipeline, Text.sameIgnoringAsciiCase s.name "Select-Object" = false)
    (hsize : first.parameter? "ResultSize" = none)
    (hfinite : ∀ r ∈ rs, ∀ x, Record.float x ∈ r.atoms → x.isFinite = true)
    (hfaithful : ∀ r ∈ rs, r.Faithful) (hheight : (answerJson rs messages).height ≤ Json.maxDepth)
    (hhears : Hears g openLimit executionLimit b i ⟨200, (answerJson rs messages).compact⟩)
    (hrecords : b'.remote.datasets.lookup (Text.lowercase first.name) = some (nonNull rs))
    (hmessages : (b'.remote.errors.lookup (Text.lowercase first.name)).getD [] = messages) :
    ∃ r, (b.run (g.withLimits openLimit executionLimit) (.invoke i)).Reports b.calls.length i r ∧
      (b'.run (Simulated.setup openLimit' executionLimit') (.invoke i)).Reports b'.calls.length i
        r := by
  obtain ⟨rest, hp⟩ := List.head?_eq_some_iff.mp hfirst
  have hi : i.pipeline.isEmpty = false := congrArg List.isEmpty hp
  refine ⟨i.accept ⟨nonNull rs, messages⟩, ?_, ?_⟩
  · obtain ⟨c, x, m, hinvoke⟩ := hhears.invoke
    have hanswered : answered c ⟨200, (answerJson rs messages).compact⟩ =
        .ok ⟨nonNull rs, messages⟩ :=
      answered_of_output? rfl (output?_answerJson hfinite hfaithful hheight)
    have hc := (hb.visited.resting hended).concluded_run
      (s := g.withLimits openLimit executionLimit) hi (.inr hb.visited.retired_le)
    rw [hinvoke, hanswered] at hc
    exact hc.reports
  · obtain ⟨-, -, x, m, hc⟩ := hb'.run hi
    rw [output_of_plain hfirst hselect hsize hrecords, hmessages] at hc
    exact hc.reports

end

/-- The gateway opens a session and answers its first pipeline with a null record, another one and a
message. -/
def serving : Script where
  posts := [.answered ⟨200, "\x7b\"sessionId\": \"s1\"\x7d"⟩,
    .answered ⟨200, (answerJson [.null, Record.assortment] ["no quota for ~7"]).compact⟩]

/-- The endpoint with the same records and messages. -/
def prepared : Simulated :=
  ({ latency := 5000 : Simulated }.setDataset "GET-Mailbox" [Record.assortment]).setErrors
    "get-mailbox" ["no quota for ~7"]

/-- The message has the secret in it. -/
def secretive : Invocation :=
  ⟨[⟨"Get-MAILBOX", []⟩, ⟨"Sort-Object", []⟩], .ofList [("Password", .secret ⟨"~7"⟩)]⟩

def authenticated (m : Script) : Bridge Script Record :=
  (Bridge.new gatewayTarget m).run ((scripted 1000).withLimits 30000 5000)
    (.session (.setCredential (.token ⟨"k"⟩)))

theorem deliver_post {m : Script} {request : Http.Request} {d : Http.Delivery}
    {posts : List Http.Delivery} (hmethod : request.method = .post)
    (hposts : m.posts = d :: posts) :
    (scripted 1000).network.deliver request m =
      ({ m with posts, requests := m.requests ++ [request] }, d) := by
  simp only [scripted, Script.network, Script.deliver, Script.next, hmethod, hposts]

theorem exists_of_isPost {r : Except Failure Http.Request}
    (h : r.toOption.any (·.method = .post) = true) :
    ∃ request, r = .ok request ∧ request.method = .post := by
  cases r with
  | error e => cases h
  | ok request => exact ⟨request, rfl, of_decide_eq_true h⟩

theorem hears_serving : Hears (scripted 1000) 30000 5000 (authenticated serving) secretive
    ⟨200, (answerJson [.null, Record.assortment] ["no quota for ~7"]).compact⟩ := by
  obtain ⟨request, hrequest, hmethod⟩ :=
    exists_of_isPost (r := openRequest gatewayTarget (.token ⟨"k"⟩)) (by decide +kernel)
  obtain ⟨request', hrequest', hmethod'⟩ :=
    exists_of_isPost (r := pipelineRequest ⟨"s1", gatewayTarget⟩ secretive) (by decide +kernel)
  have hname : opened gatewayTarget ⟨200, "\x7b\"sessionId\": \"s1\"\x7d"⟩ = .ok "s1" := rfl
  have hopen := ensureOpen_answered 30000 5000 (x := (authenticated serving).session) rfl rfl
    hrequest (deliver_post (m := serving) hmethod rfl) hname
  exact ⟨_, _, _, request', _, hopen, hrequest', deliver_post hmethod' rfl⟩

theorem runs_agree_serving :
    Bridge.Reachable ((scripted 1000).withLimits 30000 5000) (fun _ _ => True) gatewayTarget serving
      (authenticated serving) ∧
    (authenticated serving).Authenticated ∧
    Simulated.Ready 30000 5000 ((Bridge.new Bridge.localTarget prepared).run
      (Simulated.setup 30000 5000) (.session (.setCredential (.token ⟨"k"⟩)))) ∧
    (answerJson [.null, Record.assortment] ["no quota for ~7"]).height = 9 ∧
    ∃ r, ((authenticated serving).run ((scripted 1000).withLimits 30000 5000)
        (.invoke secretive)).Reports 1 secretive r ∧
      (((Bridge.new Bridge.localTarget prepared).run (Simulated.setup 30000 5000)
          (.session (.setCredential (.token ⟨"k"⟩)))).run (Simulated.setup 30000 5000)
        (.invoke secretive)).Reports 1 secretive r := by
  have hreach : Bridge.Reachable ((scripted 1000).withLimits 30000 5000) (fun _ _ => True)
      gatewayTarget serving (authenticated serving) :=
    Bridge.Reachable.new.run _
  have hb := Bridge.authenticated_setCredential ((scripted 1000).withLimits 30000 5000)
    gatewayTarget (.token ⟨"k"⟩) serving
  have hquiet : prepared.Quiet 30000 5000 := ⟨rfl, rfl, Nat.zero_le _, Nat.le_refl _⟩
  have hb' := Simulated.ready_setCredential Bridge.localTarget (.token ⟨"k"⟩) hquiet rfl
  have hfinite : ∀ r ∈ [.null, Record.assortment], ∀ x, Record.float x ∈ r.atoms →
      x.isFinite = true := by
    intro r hr x hx
    obtain rfl | rfl := List.mem_pair.mp hr
    · simp [Record.atoms] at hx
    · obtain rfl : x = Record.oneAndAHalf := by simpa [Record.atoms_assortment] using hx
      rfl
  have hnull : Record.null.Faithful := by
    constructor <;> simp [Record.atoms]
  have hfaithful : ∀ r ∈ [.null, Record.assortment], r.Faithful :=
    List.forall_mem_cons.mpr ⟨hnull, List.forall_mem_singleton.mpr Record.faithful_assortment⟩
  have hkey : Text.lowercase "GET-Mailbox" = Text.lowercase "Get-MAILBOX" := by decide +kernel
  have hkey' : Text.lowercase "get-mailbox" = Text.lowercase "Get-MAILBOX" := by decide +kernel
  have hdataset : prepared.datasets.lookup (Text.lowercase "Get-MAILBOX") =
      some [Record.assortment] := by
    show [(Text.lowercase "GET-Mailbox", _)].lookup _ = _
    rw [hkey, List.lookup_cons_self]
  have herrors : (prepared.errors.lookup (Text.lowercase "Get-MAILBOX")).getD [] =
      ["no quota for ~7"] := by
    show ([(Text.lowercase "get-mailbox", _)].lookup _).getD [] = _
    rw [hkey', List.lookup_cons_self]
    rfl
  refine ⟨hreach, hb, hb', rfl, ?_⟩
  exact runs_agree hreach hb.ended hb' rfl (by decide +kernel) rfl hfinite hfaithful
    (by decide) hears_serving hdataset herrors

end Gateway

end CommandBridge
