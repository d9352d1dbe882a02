import CommandBridge.Gateway.Message
import CommandBridge.Http.Basic
import CommandBridge.Http.Status

/-! A management gateway, spoken to over HTTP. -/
namespace CommandBridge

/-- A way to gateways. -/
structure Gateway (σ : Type) where
  network : Http.Network σ
  /-- How long to wait for one answer, in milliseconds. -/
  requestLimit : Nat

namespace Gateway

/-- The address of an endpoint without slashes at its end. -/
def base (t : Target) : String :=
  String.ofList (Text.dropEndWhile (· == '/') t.endpoint.chars)

def sessionsAddress (t : Target) : String := base t ++ "/sessions"

def sessionAddress (c : Connection) : String := sessionsAddress c.target ++ "/" ++ c.id

def failure (f : Http.Fault) : Failure := .connection f.message

/-- The header value for a credential: each mechanism takes one kind. -/
def authorization : Mechanism → Credential → Except Failure String
  | .basic, .password username password =>
    .ok (Http.basicAuthorization username password.expose)
  | .basic, .token _ =>
    .error (.connection "Basic authentication requires a username and password")
  | m, .token token => .ok s!"{m.scheme} {token.expose}"
  | m, .password _ _ =>
    .error (.connection s!"{m.scheme} authentication requires a pre-acquired token")

def build (method : Http.Method) (address : String) (authorization : Option String)
    (body : Option Json) : Except Failure Http.Request :=
  (Http.Request.build method address authorization body).mapError failure

def openRequest (t : Target) (k : Credential) : Except Failure Http.Request := do
  build .post (sessionsAddress t) (some (← authorization t.mechanism k)) (some (openBody t))

def pipelineRequest (c : Connection) (i : Invocation) : Except Failure Http.Request :=
  build .post (sessionAddress c ++ "/pipelines") none (some (pipelineBody i))

def closeRequest (c : Connection) : Except Failure Http.Request :=
  build .delete (sessionAddress c) none none

/-- The text of a body without a byte order mark and without the white space at its ends. -/
def bodyText (a : Http.Answer) : String :=
  match a.body.toList with
  | '\ufeff' :: s => String.ofList (Text.trim s)
  | s => String.ofList (Text.trim s)

def opened (t : Target) (a : Http.Answer) : Except Failure String :=
  if Http.isSuccess a.status then
    match sessionId? a.body with
    | some id => .ok id
    | none => .error (failure .decoding)
  else if a.status = 401 || a.status = 403 then
    .error (.connection s!"credential rejected by {base t} ({Http.statusText a.status})")
  else
    .error (.connection
      s!"handshake failed with status {Http.statusText a.status}: {bodyText a}")

/-- A pipeline that the gateway rejects is an error of the pipeline, not of the connection. -/
def answered (c : Connection) (a : Http.Answer) : Except Failure (Output Record) :=
  if Http.isSuccess a.status then
    match output? a.body with
    | some o => .ok o
    | none => .error (failure .decoding)
  else if a.status = 404 || a.status = 410 then
    .error (.connection s!"gateway session {c.id} has expired")
  else if a.status = 400 || a.status = 422 then
    .ok ⟨[], [s!"gateway rejected the pipeline: {bodyText a}"]⟩
  else
    .error (.connection s!"pipeline request failed with status {Http.statusText a.status}")

/-- A session that the gateway does not know any more is closed. -/
def closed (c : Connection) (a : Http.Answer) : Except Failure (Option String) :=
  if Http.isSuccess a.status || a.status = 404 then .ok none
  else .ok (some s!"Closing gateway session {c.id} returned {Http.statusText a.status}")

/-- Sends a request, if there is one, and reads the answer. -/
def exchange (g : Gateway σ) (request : Except Failure Http.Request)
    (read : Http.Answer → Except Failure α) (s : σ) : σ × Response (Except Failure α) :=
  match request with
  | .error e => (s, .now (.error e))
  | .ok r =>
    match g.network.deliver r s with
    | (s, .answered a) => (s, .now (read a))
    | (s, .failed) => (s, .now (.error (failure (.sending r.url))))
    | (s, .silent) => (s, .later (some g.requestLimit))

/-- Gives up waiting for the answer to a request. -/
def expire (request : Except Failure Http.Request) (s : σ) : σ × Except Failure α :=
  match request with
  | .error e => (s, .error e)
  | .ok r => (s, .error (failure (.sending r.url)))

def endpoint (g : Gateway σ) : Endpoint σ Record where
  connect t k s := g.exchange (openRequest t k) (opened t) s
  connected t k s := expire (openRequest t k) s
  execute c i s := g.exchange (pipelineRequest c i) (answered c) s
  executed c i s := expire (pipelineRequest c i) s
  close c s := g.exchange (closeRequest c) (closed c) s
  closed c s := expire (closeRequest c) s

end Gateway

end CommandBridge
