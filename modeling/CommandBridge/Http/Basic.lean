import CommandBridge.Json.Basic
import CommandBridge.Text.Base64
import CommandBridge.Url.Parser

/-! HTTP requests and what becomes of them. -/
namespace CommandBridge

inductive Http.Method where
  | post
  | delete
  deriving DecidableEq, Repr

structure Http.Request where
  method : Http.Method
  /-- Without a user name and a password. -/
  url : Url
  /-- The values of the authorization headers. -/
  authorization : List String
  body : Option Json

structure Http.Answer where
  status : Nat
  body : String

inductive Http.Delivery where
  | answered (a : Http.Answer)
  /-- There was nobody to ask, or the connection broke. -/
  | failed
  | silent

/-- A network with everything that can be reached through it. -/
structure Http.Network (σ : Type) where
  deliver : Http.Request → σ → σ × Http.Delivery

namespace Http

/-- A network through which nothing can be reached. -/
def Network.unreachable : Network Unit := ⟨fun _ s => (s, .failed)⟩

/-- Why there is no usable answer. -/
inductive Fault where
  | url (f : UrlFault)
  | scheme (u : Url)
  | uri (u : Url)
  | header
  | sending (u : Url)
  | decoding
  deriving DecidableEq

def Fault.message : Fault → String
  | .url f => s!"builder error: {f.message}"
  | .scheme u => s!"builder error for url ({u.text}): URL scheme is not allowed"
  | .uri u => s!"builder error for url ({u.text}): Parsed Url is not a valid Uri"
  | .header => "builder error: failed to parse header value"
  | .sending u => s!"error sending request for url ({u.text})"
  | .decoding => "error decoding response body"

/-- The header value for a user name and a password. -/
def basicAuthorization (username password : String) : String :=
  "Basic " ++ String.ofList (Text.base64 s!"{username}:{password}".toUTF8.toList)

/-- Header values hold no control characters but tabs. -/
def isHeaderValue (s : String) : Bool :=
  s.toList.all fun c => c == '\t' || (0x20 ≤ c.toNat && c.toNat != 0x7f)

def hasHost (u : Url) : Bool := u.host.any (· ≠ [])

/-- The header value for the user name and the password in a URL, and the URL without them. -/
def takeUserinfo (u : Url) : Option String × Url :=
  if u.username.isEmpty && u.password.isEmpty then (none, u)
  else
    match Url.decode? u.username with
    | none => (none, u)
    | some username =>
      let password := (Url.decode? u.password).getD []
      if username.isEmpty && password.isEmpty then (none, u)
      else
        (some (basicAuthorization (String.ofList username) (String.ofList password)),
          { u with username := [], password := [] })

/-- Requests can be sent to fewer hosts than URLs can name, and only to URLs of some length. -/
def isRequestUri (u : Url) : Bool :=
  !(u.host.getD []).any ['"', '\x60', '\x7b', '\x7d'].contains && u.chars.length < 65535

/-- A request to the address that a text gives. -/
def Request.build (method : Method) (address : String) (authorization : Option String)
    (body : Option Json) : Except Fault Request :=
  match Url.read address with
  | .error f => .error (.url f)
  | .ok u =>
    if !hasHost u then .error (.scheme u)
    else if authorization.any (!isHeaderValue ·) then .error .header
    else
      let (own, u) := takeUserinfo u
      if u.scheme ≠ "http".toList && u.scheme ≠ "https".toList then .error (.scheme u)
      else if !isRequestUri u then .error (.uri u)
      else .ok ⟨method, u, own.toList ++ authorization.toList, body⟩

end Http

end CommandBridge
