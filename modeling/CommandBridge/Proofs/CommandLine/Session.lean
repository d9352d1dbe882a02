import CommandBridge.CommandLine.Basic
import CommandBridge.Proofs.Gateway.Address
import CommandBridge.Proofs.Gateway.Tour

/-! The session of the command-line tool: whatever the gateway does, it is given back when the
command line has been run. -/
namespace CommandBridge.CommandLine

open Gateway (Tour Unused exists_target_of_validate tour_of_run)
open Http (Network Script)

variable {σ : Type}

def invocation (command : String) : Invocation := ⟨Command.compile command, Command.Extra.empty⟩

/-- A new bridge with the credential, if there is one. -/
def signedIn (s : Setup σ Record) (t : Target) (credential : Option Credential) (remote : σ) :
    Bridge σ Record :=
  match credential with
  | some k => (Bridge.new t remote).run s (.session (.setCredential k))
  | none => Bridge.new t remote

/-- The bridge when the command line has been run, before it is shut down. -/
def ran (s : Setup σ Record) (t : Target) (credential : Option Credential) (command : String)
    (remote : σ) : Bridge σ Record :=
  (signedIn s t credential remote).run s (.invoke (invocation command))

/-- What goes to the standard output: an array with each record that was returned, taken apart from
its top level. -/
def printed : Except Failure (Output Record) → String
  | .ok o =>
    (Json.array (o.records.map fun r => (Flattened.flatten Record.view r 0).toJson)).pretty ++ "\n"
  | .error _ => ""

section
variable (s : Setup σ Record) (t : Target) (credential : Option Credential) (command : String)
variable (m : σ)

theorem session_eq : session s t credential command m =
    ((ran s t credential command m).run s .shutdown,
      (ran s t credential command m).answer? (signedIn s t credential m).calls.length) :=
  rfl

theorem resting_signedIn : (signedIn s t credential m).Resting := by
  cases credential with
  | none => exact ⟨List.forall_mem_nil _, rfl, rfl, rfl⟩
  | some k => exact (Bridge.authenticated_setCredential s t k m).toResting

theorem unused_signedIn : Unused t credential (signedIn s t credential m).session := by
  cases credential with
  | none => exact ⟨rfl, rfl, rfl, rfl, rfl⟩
  | some k => exact ⟨rfl, rfl, rfl, rfl, rfl⟩

theorem remote_signedIn : (signedIn s t credential m).remote = m := by
  cases credential <;> rfl

theorem tour_ran {g : Gateway σ} (hs : s.endpoint = g.endpoint) : ∃ before closing r,
      Tour g.network t (invocation command) m credential before closing r ∧
      (ran s t credential command m).answer? (signedIn s t credential m).calls.length =
        some (.ofResult r) ∧
      (ran s t credential command m).remote = g.network.sendAll m before ∧
      ((ran s t credential command m).run s .shutdown).remote =
        g.network.sendAll m (before ++ closing) := by
  obtain ⟨before, x, r, htour, hover⟩ := tour_of_run hs (resting_signedIn s t credential m)
    (unused_signedIn s t credential m) (invocation command)
  rw [remote_signedIn] at htour hover
  rw [← ran] at hover
  exact ⟨before, _, r, htour, hover.answer, hover.remote, htour.run_shutdown hs hover⟩

end

theorem exitOf_ofResult (r : Except Failure (Output Record)) :
    (exitOf (some (.ofResult r))).output = printed r ∧
      ((exitOf (some (.ofResult r))).code = 0 ↔ r.isOk = true) := by
  cases r with
  | ok o =>
    have hrecords : (Flattened.flattenAll Record.view o.records).map Flattened.toJson =
        o.records.map fun r => (Flattened.flatten Record.view r 0).toJson := List.map_map
    refine ⟨?_, iff_of_true rfl rfl⟩
    rw [printed, ← hrecords]
    rfl
  | error e => exact ⟨rfl, iff_of_false Nat.one_ne_zero Bool.false_ne_true⟩

theorem validate_of_checked {config c : Config}
    (h : (do config.validate.mapError Exit.failure; return config) = Except.ok c) :
    c.validate = .ok () := by
  cases hvalid : config.validate with
  | error e =>
    rw [hvalid] at h
    cases h
  | ok =>
    rw [hvalid] at h
    cases h
    exact hvalid

/-- A configuration in force is valid, wherever it comes from. -/
theorem validate_of_config {s : Surroundings} {file : Option String} {c : Config}
    (h : s.config file = .ok c) : c.validate = .ok () := by
  unfold Surroundings.config at h
  cases file with
  | none => exact @validate_of_checked .development c h
  | some path =>
    dsimp only at h
    cases hfile : Config.ofFile (s.file path) with
    | error e =>
      rw [hfile] at h
      cases h
    | ok config =>
      rw [hfile] at h
      exact validate_of_checked h

/-- How the tool runs a command line: what is attempted before there is an answer to it and what is
attempted after, when the session is given back, and how the tool ends. The network keeps what it is
asked. -/
structure GivesBack (n : Network σ) (c : Config) (t : Target) (credential : Option Credential)
    (command : String) (m : σ) (before closing : List (Except Failure Http.Request))
    (r : Except Failure (Output Record))
    (ended : (σ × List (Http.Request × Http.Delivery)) × Exit) : Prop where
  target : c.target = .ok t
  tour : Tour n t (invocation command) m credential before closing r
  posts : ∀ q, .ok q ∈ before → q.method = .post
  deletions : ∀ q, .ok q ∈ closing → q.method = .delete
  /-- There is an answer before the shutdown begins. -/
  answered : (ran (setup n.logged c) t credential command (m, [])).answer?
    (signedIn (setup n.logged c) t credential (m, [])).calls.length = some (.ofResult r)
  sent : (ran (setup n.logged c) t credential command (m, [])).remote =
    (n.sendAll m before, n.exchanges m before)
  shutdown : ended.1 = ((ran (setup n.logged c) t credential command (m, [])).run
    (setup n.logged c) .shutdown).remote
  all : ended.1 = (n.sendAll m (before ++ closing), n.exchanges m (before ++ closing))
  output : ended.2.output = printed r
  code : ended.2.code = 0 ↔ r.isOk = true

/-- Whatever the gateway does, a session that was opened is given back once there is an answer to
the command line; a command line that is only shown does not reach any gateway. -/
theorem session_given_back (n : Network σ) (s : Surroundings) (arguments : List String) (m : σ)
    (a : Arguments) (ha : Wish.ofList? arguments = some (.perform a)) :
    (∀ command, a.task = .compile command → (perform n.logged s arguments (m, [])).1 = (m, [])) ∧
    ∀ command c, a.task = .run command → s.config a.configFile = .ok c → ∃ t before closing r,
      GivesBack n c t s.credential? command m before closing r
        (perform n.logged s arguments (m, [])) := by
  refine ⟨fun command htask => ?_, fun command c htask hc => ?_⟩
  · rw [perform, ha]
    cases hc : s.config a.configFile with
    | error e => simp only [hc]
    | ok c => simp only [hc, htask]
  · obtain ⟨t, ht, -⟩ := exists_target_of_validate (validate_of_config hc)
    obtain ⟨before, closing, r, htour, hanswer, hsent, hall⟩ :=
      tour_ran (setup n.logged c) t s.credential? command (m, []) (g := ⟨n.logged, _⟩) rfl
    have hperform : perform n.logged s arguments (m, []) =
        (((ran (setup n.logged c) t s.credential? command (m, [])).run
            (setup n.logged c) .shutdown).remote,
          exitOf ((ran (setup n.logged c) t s.credential? command (m, [])).answer?
            (signedIn (setup n.logged c) t s.credential? (m, [])).calls.length)) := by
      rw [perform, ha]
      simp only [hc, htask]
      rw [runCommand, ht]
      simp only [session_eq]
    rw [hanswer] at hperform
    simp only [Network.sendAll_logged, List.nil_append] at hsent hall
    have hended : (perform n.logged s arguments (m, [])).1 =
        ((ran (setup n.logged c) t s.credential? command (m, [])).run
          (setup n.logged c) .shutdown).remote := by rw [hperform]
    have hexit : (perform n.logged s arguments (m, [])).2 = exitOf (some (.ofResult r)) := by
      rw [hperform]
    obtain ⟨houtput, hcode⟩ := exitOf_ofResult r
    rw [← hexit] at houtput hcode
    obtain ⟨hposts, hdeletions⟩ := htour.methods
    exact ⟨t, before, closing, r, ht, htour.of_logged, hposts, hdeletions, hanswer, hsent, hended,
      hended.trans hall, houtput, hcode⟩

/-- The gateway opens a session and answers its pipeline with a record, and with a number that is
out of range in a member that nobody wants. -/
def answering : Script where
  posts := [.answered ⟨200, "\x7b\"sessionId\": \"s1\"\x7d"⟩,
    .answered ⟨200, "\x7b\"output\": [\x7b\"kind\": \"object\", \"properties\": [" ++
      "\x7b\"name\": \"Name\", \"value\": \x7b\"kind\": \"string\", \"value\": \"ada\"\x7d\x7d" ++
      "]\x7d], \"errors\": [], \"took\": 1e999\x7d"⟩]

/-- There are a user name and a password, and no files. -/
def operator : Surroundings where
  environment? name := [("BRIDGE_USERNAME", "ops"), ("BRIDGE_PASSWORD", "pw")].lookup name
  file _ := .absent .missing

theorem session_given_back_answering :
    Wish.ofList? ["run", "Get-Mailbox"] = some (.perform ⟨none, .run "Get-Mailbox"⟩) ∧
    Wish.ofList? ["compile", "Get-Mailbox"] = some (.perform ⟨none, .compile "Get-Mailbox"⟩) ∧
    operator.config none = .ok .development ∧
    (∃ t before closing r,
      GivesBack Script.network .development t operator.credential? "Get-Mailbox" answering before
        closing r
        (perform Script.network.logged operator ["run", "Get-Mailbox"] (answering, []))) ∧
    ((perform Script.network.logged operator ["run", "Get-Mailbox"] (answering, [])).1.2.map
        (·.1.method) = [.post, .post, .delete] ∧
      (perform Script.network.logged operator ["run", "Get-Mailbox"] (answering, [])).2.output =
        "[\n  \x7b\n    \"Name\": \"ada\"\n  \x7d\n]\n") ∧
    (perform Script.network.logged operator ["compile", "Get-Mailbox"] (answering, [])).1 =
      (answering, []) := by
  have hrun : Wish.ofList? ["run", "Get-Mailbox"] =
      some (.perform ⟨none, .run "Get-Mailbox"⟩) := by decide +kernel
  have hcompile : Wish.ofList? ["compile", "Get-Mailbox"] =
      some (.perform ⟨none, .compile "Get-Mailbox"⟩) := by decide +kernel
  have hconfig : operator.config none = .ok .development := rfl
  obtain ⟨-, hran⟩ := session_given_back Script.network operator ["run", "Get-Mailbox"] answering
    _ hrun
  obtain ⟨hcompiled, -⟩ := session_given_back Script.network operator ["compile", "Get-Mailbox"]
    answering _ hcompile
  exact ⟨hrun, hcompile, hconfig, hran "Get-Mailbox" .development rfl hconfig, by decide +kernel,
    hcompiled "Get-Mailbox" rfl⟩

end CommandBridge.CommandLine
