import CommandBridge.Proofs.Bridge.AuditTrace
import CommandBridge.Proofs.Command.Redaction

/-! Secrets in what is shown of an invocation. The bridge itself never shows one; what the endpoint
says is shown as it says it, but for the secrets given with a pipeline in the errors it reports. -/
namespace CommandBridge

variable {σ ρ : Type}

def Outcome.texts : Outcome → List String
  | succeeded _ => []
  | advised _ messages => messages
  | failed e => [e]

/-- The texts that the audit is told with an event. -/
def Event.texts : Event → List String
  | started _ command => [command]
  | finished _ command o => command :: o.texts
  | _ => []

namespace Bridge

/-- What a bridge says of its own accord, apart from command lines. -/
def wording (s : Setup σ ρ) : List String :=
  [redactionMark, " -", "Remote execution failed:", Failure.unauthenticated.message,
    (handshakeFailure s).message, (executionFailure s).message]

/-- A character of the text occurs nowhere in the command line, in the names of the values given
with it, or in what the bridge says of its own accord. -/
def Foreign (s : Setup σ ρ) (i : Invocation) (text : String) : Prop :=
  ∃ c ∈ text.toList, c ∉ (Command.display i.pipeline).toList ∧
    (∀ name ∈ i.extra.names, c ∉ name.toList) ∧ ∀ w ∈ wording s, c ∉ w.toList

/-- What is shown of call `k`: to the audit, and to its caller if it fails. -/
def outward (b : Bridge σ ρ) (k : Nat) : List String :=
  (b.audit.filter (·.caller? == some k)).flatMap Event.texts ++
    match b.phase? k with
    | some (.ended (.failed e)) => [e.message]
    | _ => []

/-- The endpoint has said a text to call `k`, which is the invocation `i`: in a failure, or in the
errors that it reported. Of these a secret given with the pipeline is taken out. -/
inductive Echo (s : Setup σ ρ) (k : Nat) (i : Invocation) (trail : List (Nat × Point ρ))
    (text : String) : Prop where
  | handshake {t c e} (h : (k, .connected t c (.error e)) ∈ trail) (hg : s.Greets t c (.error e))
      (hs : Reveals e.message text)
  | execution {c e} (h : (k, .executed c (.error e)) ∈ trail) (ha : s.Answers c i (.error e))
      (hs : Reveals e.message text)
  | reported {c o} (h : (k, .executed c (.ok o)) ∈ trail) (ha : s.Answers c i (.ok o))
      (hs : Reveals (Failure.remote (Command.redact o.errors i.extra)).message text)
      (hp : OnePiece text → text ∉ i.extra.secrets ∧ ∃ message ∈ o.errors, Reveals message text)

section
variable {s : Setup σ ρ} {mayStop : Bridge σ ρ → Nat → Prop} {t : Target} {remote : σ}
variable {b : Bridge σ ρ} {trail : List (Nat × Point ρ)} {k : Nat} {i : Invocation} {text : String}

theorem Foreign.not_wording (h : Foreign s i text) {w : String} (hw : w ∈ wording s) :
    ¬ Reveals w text := by
  obtain ⟨c, hc, -, -, hword⟩ := h
  exact fun hr => hword w hw (hr.subset hc)

theorem Foreign.ne_nil (h : Foreign s i text) : text.toList ≠ [] := by
  obtain ⟨c, hc, -⟩ := h
  exact List.ne_nil_of_mem hc

theorem Foreign.apart (h : Foreign s i text) (hp : OnePiece text) : Command.Apart text.toList where
  opening hm := hp '<' hm (by decide)
  closing hm := hp '>' hm (by decide)
  word hi := by
    have hmark : "redacted".toList <:+: redactionMark.toList := ⟨['<'], ['>'], rfl⟩
    exact h.not_wording List.mem_cons_self (hi.trans hmark)

/-- The command line that is shown has none of the values in it that were given with it. -/
theorem Foreign.not_command (h : Foreign s i text) : ¬ Reveals i.command text := by
  obtain ⟨c, hc, hdisplay, hnames, hword⟩ := h
  intro hr
  have hmark : c ∉ redactionMark.toList := hword redactionMark (by simp [wording])
  have hdash : c ∉ " -".toList := hword " -" (by simp [wording])
  have hspace : c ≠ ' ' := fun he => hdash (he ▸ List.mem_cons_self)
  have hm : c ∈ i.command.toList := hr.subset hc
  rw [Invocation.command, Command.describe, String.toList_ofList] at hm
  rcases List.mem_append.mp hm with hm | hm
  · rw [Command.display, String.toList_ofList] at hdisplay
    exact hdisplay hm
  · obtain ⟨name, hn, hm⟩ := List.mem_flatMap.mp hm
    rcases List.mem_append.mp hm with hm | hm
    · rcases List.mem_append.mp hm with hm | hm
      · exact hdash hm
      · exact hnames name hn hm
    · rcases List.mem_cons.mp hm with hm | hm
      · exact hspace hm
      · exact hmark hm

/-- A secret that is shown in redacted errors was in the errors, and was not to be taken out. -/
theorem Foreign.echo_reported (h : Foreign s i text) {c : Connection} {o : Output ρ}
    (hx : (k, .executed c (.ok o)) ∈ trail) (ha : s.Answers c i (.ok o))
    (hs : Reveals (Failure.remote (Command.redact o.errors i.extra)).message text) :
    Echo s k i trail text := by
  refine .reported hx ha hs fun hp => ?_
  have hapart := h.apart hp
  have hword : ¬ Reveals "Remote execution failed:" text := h.not_wording (by simp [wording])
  obtain ⟨redacted, hm, hr⟩ := Failure.reveals_of_remote hp h.ne_nil hword hs
  obtain ⟨message, hmem, rfl⟩ := List.mem_map.mp hm
  refine ⟨fun hsecret => ?_, message, hmem, Command.reveals_of_redactMessage hapart _ hr⟩
  exact Command.not_reveals_redactMessage hapart h.ne_nil hsecret message hr

theorem Trail.echo (htr : Trail s mayStop t remote (b, none) trail)
    (hi : b.request? k = some (.invoke i)) (hf : Foreign s i text) {r : Except Failure (Output ρ)}
    {shown : String} (h : Reason s k i trail r) (hm : shown ∈ (Outcome.ofResult r).texts)
    (hs : Reveals shown text) : Echo s k i trail text := by
  cases h with
  | unauthenticated | handshakeTimedOut | executionTimedOut =>
    obtain rfl := List.mem_singleton.mp hm
    exact absurd hs (hf.not_wording (by simp [wording]))
  | handshake hx =>
    obtain rfl := List.mem_singleton.mp hm
    exact .handshake hx (htr.greets hx) hs
  | execution hx =>
    obtain rfl := List.mem_singleton.mp hm
    exact .execution hx (htr.answers hi hx) hs
  | @output c o hx =>
    refine hf.echo_reported hx (htr.answers hi hx) ?_
    rcases accept_cases i o with ⟨-, ha⟩ | ⟨-, -, ha⟩ | ⟨-, -, hne, ha⟩
    · rw [ha] at hm
      simp [Outcome.ofResult, Outcome.texts] at hm
    · rw [ha] at hm
      obtain rfl := List.mem_singleton.mp hm
      exact hs
    · rw [ha, ofResult_advised hne] at hm
      exact Failure.reveals_remote hm hs

/-- Whatever text with a character of its own is shown of an invocation, the endpoint has given it
away to that invocation. -/
theorem Trail.echo_of_shown (h : Trail s mayStop t remote (b, none) trail)
    (hi : b.request? k = some (.invoke i)) (hf : Foreign s i text) {shown : String}
    (hm : shown ∈ b.outward k) (hs : Reveals shown text) : Echo s k i trail text := by
  obtain ⟨blocks, hb⟩ := h.audited
  rcases List.mem_append.mp hm with hm | hm
  · obtain ⟨e, he, hshown⟩ := List.mem_flatMap.mp hm
    obtain ⟨he, hk⟩ := List.mem_filter.mp he
    rw [hb.audit] at he
    obtain ⟨x, hx, he⟩ := List.mem_flatMap.mp he
    obtain ⟨i', ht⟩ := hb.tells x hx
    rcases x.of_mem_events he with rfl | ⟨o, ho, rfl⟩
    · obtain rfl : x.call = k := by simpa [Event.caller?] using hk
      obtain rfl := Request.invoke.inj (Option.some.inj (ht.request.symm.trans hi))
      obtain rfl := List.mem_singleton.mp hshown
      exact absurd (ht.command ▸ hs) hf.not_command
    · obtain rfl : x.call = k := by simpa [Event.caller?] using hk
      obtain rfl := Request.invoke.inj (Option.some.inj (ht.request.symm.trans hi))
      rcases List.mem_cons.mp hshown with rfl | hshown
      · exact absurd (ht.command ▸ hs) hf.not_command
      · obtain ⟨r, rfl, -, hreason⟩ := ht.ended o ho
        exact h.echo hi hf hreason hshown hs
  · split at hm
    · rename_i e hp
      obtain rfl := List.mem_singleton.mp hm
      have hreason : Reason s k i trail (.error e) := h.reason hi (spot_resting hp) rfl
      exact h.echo hi hf hreason List.mem_cons_self hs
    · simp at hm

end

/-- An endpoint that loses every connection on which a pipeline is executed, and says why. -/
def echoingSetup : Setup Nat Unit :=
  let echo := Except.error (.connection "rejected ~7")
  ⟨{ countingEndpoint with execute := fun _ _ n => (n, .now echo) }, 30000, 5000⟩

/-- A pipeline of one stage with a password. -/
def withPassword : Invocation :=
  ⟨[⟨"Get-Mailbox", []⟩], .ofList [("Password", .secret ⟨"~7"⟩)]⟩

def echoed : Bridge Nat Unit :=
  ((Bridge.new localTarget 0).submit echoingSetup
    (.session (.setCredential (.token ⟨"k"⟩)))).submit echoingSetup (.invoke withPassword)

theorem reachable_echoed : Reachable echoingSetup (fun _ _ => True) localTarget 0 echoed :=
  .step (.step .new (.submit _)) (.submit _)

theorem foreign_password : Foreign echoingSetup withPassword "~7" :=
  ⟨'~', by decide, by decide +kernel, by decide +kernel, by decide +kernel⟩

theorem echo_echoed : echoed.request? 1 = some (.invoke withPassword) ∧
    ∃ shown ∈ echoed.outward 1, Reveals shown "~7" ∧
      ∃ trail, Trail echoingSetup (fun _ _ => True) localTarget 0 (echoed, none) trail ∧
        Echo echoingSetup 1 withPassword trail "~7" := by
  have hm : "Connection to management endpoint failed: rejected ~7" ∈ echoed.outward 1 := by
    decide +kernel
  have hs : Reveals "Connection to management endpoint failed: rejected ~7" "~7" := by
    decide +kernel
  obtain ⟨trail, h⟩ := reachable_echoed.exists_trail
  exact ⟨rfl, _, hm, hs, trail, h, h.echo_of_shown rfl foreign_password hm hs⟩

/-- The password of the pipeline is shown, although it was given as a secret and occurs nowhere
else. -/
theorem shown_echoed : Reachable echoingSetup (fun _ _ => True) localTarget 0 echoed ∧
    echoed.request? 1 = some (.invoke withPassword) ∧ "~7" ∈ withPassword.extra.secrets ∧
      '~' ∉ localTarget.display.toList ∧ Foreign echoingSetup withPassword "~7" ∧
        ∃ shown ∈ echoed.outward 1, Reveals shown "~7" := by
  refine ⟨reachable_echoed, rfl, by decide +kernel, by decide +kernel, foreign_password, ?_⟩
  exact ⟨"Connection to management endpoint failed: rejected ~7", by decide +kernel,
    by decide +kernel⟩

end Bridge

end CommandBridge
