import CommandBridge.Gateway.Endpoint
import CommandBridge.Http.Script
import CommandBridge.Proofs.Bridge.Sequential

/-! What becomes of a request to a gateway, whatever the network and the time limits; and of one to
a gateway that answers from a script. -/
namespace CommandBridge

variable {σ α : Type}

namespace Http.Network

/-- Sends a request if it could be built. -/
def send (n : Network σ) (m : σ) : Except Failure Request → σ
  | .ok r => (n.deliver r m).1
  | .error _ => m

def sendAll (n : Network σ) (m : σ) (requests : List (Except Failure Request)) : σ :=
  requests.foldl n.send m

/-- What becomes of a request; `none` if it could not be built. -/
def reply? (n : Network σ) (m : σ) (request : Except Failure Request) : Option Delivery :=
  request.toOption.map fun r => (n.deliver r m).2

end Http.Network

namespace Http.Script

/-- Sends a request if it could be built. -/
def send (m : Script) (request : Except Failure Request) : Script :=
  match request with
  | .ok r => (m.deliver r).1
  | .error _ => m

def sendAll (m : Script) (requests : List (Except Failure Request)) : Script :=
  requests.foldl send m

theorem sendAll_cons (m : Script) (request : Except Failure Request)
    (requests : List (Except Failure Request)) :
    m.sendAll (request :: requests) = (m.send request).sendAll requests := rfl

theorem sendAll_concat (m : Script) (requests : List (Except Failure Request))
    (request : Except Failure Request) :
    m.sendAll (requests ++ [request]) = (m.sendAll requests).send request := by
  simp [sendAll]

/-- What becomes of a request; `none` if it could not be built. -/
def reply? (m : Script) (request : Except Failure Request) : Option Delivery :=
  request.toOption.map fun r => (m.next r.method).1

theorem network_send (m : Script) (request : Except Failure Request) :
    Script.network.send m request = m.send request := by
  cases request <;> rfl

theorem requests_send (m : Script) (request : Except Failure Request) :
    (m.send request).requests = m.requests ++ request.toOption.toList := by
  cases request with
  | error e => simp [send, Except.toOption]
  | ok r =>
    simp only [send, deliver, next, Except.toOption, Option.toList_some]
    split <;> split <;> rfl

theorem requests_sendAll (m : Script) (requests : List (Except Failure Request)) :
    (m.sendAll requests).requests = m.requests ++ requests.filterMap Except.toOption := by
  induction requests generalizing m with
  | nil => simp [sendAll]
  | cons r rest ih =>
    rw [sendAll, List.foldl_cons, ← sendAll, ih, requests_send]
    cases r <;> simp [Except.toOption, List.filterMap_cons]

end Http.Script

namespace Gateway

open Http (Delivery Script)

/-- A request that is not answered is a failure of the connection, whatever the reason. -/
inductive Heard (read : Http.Answer → Except Failure α) :
    Option Delivery → Except Failure α → Prop where
  | answered (a : Http.Answer) : Heard read (some (.answered a)) (read a)
  | not {d : Option Delivery} (h : ∀ a, d ≠ some (.answered a)) (cause : String) :
      Heard read d (.error (.connection cause))

section
variable {g : Gateway σ} {request : Except Failure Http.Request}
variable {read : Http.Answer → Except Failure α} {m : σ} {late : Except Failure α}
variable {p : σ × Except Failure α}

theorem exchange_ok (r : Http.Request) :
    g.exchange (.ok r) read m = ((g.network.deliver r m).1,
      match (g.network.deliver r m).2 with
      | .answered a => .now (read a)
      | .failed => .now (.error (failure (.sending r.url)))
      | .silent => .later (some g.requestLimit)) := by
  rw [exchange]
  rcases g.network.deliver r m with ⟨m', d⟩
  cases d <;> rfl

theorem sent_of_yields (h : Yields (g.exchange request read m) (expire request) late p) :
    p.1 = g.network.send m request := by
  cases request with
  | error e =>
    cases h with
    | now h | inTime h | late h => exact (Prod.mk.inj h).1.symm
  | ok r =>
    cases h with
    | now h | inTime h | late h => exact (Prod.mk.inj ((exchange_ok r).symm.trans h)).1.symm

theorem reply_of_yields (h : Yields (g.exchange request read m) (expire request) late p)
    (hr : ∀ e, request = .error e → ∃ cause, e = .connection cause)
    (hl : ∃ cause, late = .error (.connection cause)) :
    Heard read (g.network.reply? m request) p.2 := by
  obtain ⟨cause, rfl⟩ := hl
  cases request with
  | error e =>
    obtain ⟨cause', rfl⟩ := hr e rfl
    cases h with
    | now h =>
      obtain ⟨-, ha⟩ := Prod.mk.inj h
      cases ha
      exact .not (by simp [Http.Network.reply?, Except.toOption]) cause'
    | inTime h | late h => cases h
  | ok r =>
    have hd : g.network.reply? m (.ok r) = some (g.network.deliver r m).2 := rfl
    rw [exchange_ok] at h
    rw [hd]
    cases hn : (g.network.deliver r m).2 with
    | answered a =>
      rw [hn] at h
      cases h with
      | now h =>
        cases h
        exact .answered a
      | inTime h | late h => cases h
    | failed =>
      rw [hn] at h
      cases h with
      | now h =>
        cases h
        exact .not (by simp) _
      | inTime h | late h => cases h
    | silent =>
      rw [hn] at h
      cases h with
      | now h => cases h
      | inTime h | late h => exact .not (by simp) _

end

theorem endpoint_eq (g : Gateway σ) : g.endpoint = {
    connect := fun t k m => g.exchange (openRequest t k) (opened t) m
    connected := fun t k m => expire (openRequest t k) m
    execute := fun c i m => g.exchange (pipelineRequest c i) (answered c) m
    executed := fun c i m => expire (pipelineRequest c i) m
    close := fun c m => g.exchange (closeRequest c) (closed c) m
    closed := fun c m => expire (closeRequest c) m } :=
  rfl

/-- A gateway that answers from a script. -/
def scripted (requestLimit : Nat) : Gateway Script := ⟨Script.network, requestLimit⟩

def setup (requestLimit openLimit executionLimit : Nat) : Setup Script Record :=
  ⟨(scripted requestLimit).endpoint, openLimit, executionLimit⟩

theorem endpoint_setup (requestLimit openLimit executionLimit : Nat) :
    (setup requestLimit openLimit executionLimit).endpoint = (scripted requestLimit).endpoint :=
  rfl

section
variable {limit : Nat} {request : Except Failure Http.Request}
variable {read : Http.Answer → Except Failure α} {m : Script} {late : Except Failure α}
variable {p : Script × Except Failure α}

theorem send_of_yields
    (h : Yields ((scripted limit).exchange request read m) (expire request) late p) :
    p.1 = m.send request :=
  (sent_of_yields h).trans (Script.network_send m request)

theorem heard_of_yields
    (h : Yields ((scripted limit).exchange request read m) (expire request) late p)
    (hr : ∀ e, request = .error e → ∃ cause, e = .connection cause)
    (hl : ∃ cause, late = .error (.connection cause)) : Heard read (m.reply? request) p.2 :=
  reply_of_yields h hr hl

end

theorem build_error {method : Http.Method} {address : String} {own : Option String}
    {body : Option Json} {e : Failure} (h : build method address own body = .error e) :
    ∃ cause, e = .connection cause := by
  rw [build] at h
  cases hb : Http.Request.build method address own body with
  | error f =>
    rw [hb] at h
    cases h
    exact ⟨_, rfl⟩
  | ok r =>
    rw [hb] at h
    cases h

theorem authorization_error {mechanism : Mechanism} {k : Credential} {e : Failure}
    (h : authorization mechanism k = .error e) : ∃ cause, e = .connection cause := by
  unfold authorization at h
  split at h
  · exact absurd h (by simp)
  · exact ⟨_, (Except.error.inj h).symm⟩
  · exact absurd h (by simp)
  · exact ⟨_, (Except.error.inj h).symm⟩

theorem openRequest_error {t : Target} {k : Credential} {e : Failure}
    (h : openRequest t k = .error e) : ∃ cause, e = .connection cause := by
  unfold openRequest at h
  cases ha : authorization t.mechanism k with
  | ok value =>
    simp only [ha, bind, Except.bind] at h
    exact build_error h
  | error e' =>
    simp only [ha, bind, Except.bind] at h
    exact authorization_error (Except.error.inj h ▸ ha)

theorem pipelineRequest_error {c : Connection} {i : Invocation} {e : Failure}
    (h : pipelineRequest c i = .error e) : ∃ cause, e = .connection cause := by
  unfold pipelineRequest at h
  exact build_error h

/-- The records and the messages in the answer to a pipeline, with the null records. -/
def decoded? (text : String) : Option (List Record × List String) := do
  let answer ← (Json.whole outputBody text).toOption
  match ← (← Json.Body.ofJson? answer).arguments? ["output", "errors"] with
  | [output, errors] =>
    let records ← Json.default? [] (Json.list? Record.ofNamedJson?) output
    return (records, ← Json.default? [] (Json.list? errorMessage?) errors)
  | _ => none

def nonNull (records : List Record) : List Record := records.filter (!·.isNull)

theorem output?_eq (text : String) :
    output? text = (decoded? text).map fun p => ⟨nonNull p.1, p.2⟩ := by
  unfold output? decoded?
  cases (Json.whole outputBody text).toOption with
  | none => rfl
  | some j =>
    cases hb : Json.Body.ofJson? j with
    | none => simp [hb]
    | some body =>
      cases ha : body.arguments? ["output", "errors"] with
      | none => simp [hb, ha]
      | some arguments =>
        simp only [hb, ha, Option.bind_eq_bind, Option.bind_some]
        rcases arguments with _ | ⟨output, _ | ⟨errors, _ | ⟨more, arguments⟩⟩⟩
        · rfl
        · rfl
        · cases ho : Json.default? [] (Json.list? Record.ofNamedJson?) output <;>
            cases he : Json.default? [] (Json.list? errorMessage?) errors <;>
            simp [ho, he, nonNull]
        · rfl

/-- The connection that a handshake gives. -/
def granted? (t : Target) : Option Delivery → Option Connection
  | some (.answered a) => (opened t a).toOption.map (⟨·, t⟩)
  | _ => none

theorem opened_error {t : Target} {a : Http.Answer} {e : Failure} (h : opened t a = .error e) :
    ∃ cause, e = .connection cause := by
  unfold opened at h
  split at h
  · split at h
    · exact absurd h (by simp)
    · exact ⟨_, (Except.error.inj h).symm⟩
  · split at h <;> exact ⟨_, (Except.error.inj h).symm⟩

theorem granted_of_heard {t : Target} {d : Option Delivery} {name : String}
    (h : Heard (opened t) d (.ok name)) : granted? t d = some ⟨name, t⟩ := by
  generalize hr : Except.ok name = r at h
  cases h with
  | answered a => rw [granted?, ← hr]; rfl
  | not => cases hr

theorem not_granted_of_heard {t : Target} {d : Option Delivery} {e : Failure}
    (h : Heard (opened t) d (.error e)) : granted? t d = none ∧ ∃ cause, e = .connection cause := by
  generalize hr : Except.error e = r at h
  cases h with
  | answered a => exact ⟨by rw [granted?, ← hr]; rfl, opened_error hr.symm⟩
  | not hd cause =>
    cases hr
    refine ⟨?_, cause, rfl⟩
    unfold granted?
    split
    · exact absurd rfl (hd _)
    · rfl

end Gateway
end CommandBridge
