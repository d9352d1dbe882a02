import CommandBridge.Secret
import CommandBridge.Text.Lowercase
import CommandBridge.Text.Quoted
import CommandBridge.Url.Basic

/-! Where a session connects to, and as whom. -/
namespace CommandBridge

/-- How the handshake authenticates. -/
inductive Mechanism where
  | basic
  | kerberos
  | negotiate
  | credssp
  deriving DecidableEq, Repr

namespace Mechanism

def all : List Mechanism := [basic, kerberos, negotiate, credssp]

/-- The name in configurations and requests. -/
def name : Mechanism → String
  | basic => "basic"
  | kerberos => "kerberos"
  | negotiate => "negotiate"
  | credssp => "credssp"

/-- The name of the authorization scheme. -/
def scheme : Mechanism → String
  | basic => "Basic"
  | kerberos => "Kerberos"
  | negotiate => "Negotiate"
  | credssp => "CredSSP"

def ofName? (s : String) : Option Mechanism := all.find? (·.name == s)

/-- The mechanism of that name in any letter case. -/
def ofText? (s : String) : Option Mechanism := ofName? (Text.lowercase s)

end Mechanism

inductive Credential where
  | password (username : String) (password : Secret)
  | token (token : Secret)
  deriving DecidableEq

namespace Credential

def username? : Credential → Option String
  | password username _ => some username
  | token _ => none

/-- Shown without its secret. -/
def display : Credential → String
  | password username secret =>
    s!"Password \x7b username: {Text.quoted username}, password: {secret.display} \x7d"
  | token secret => s!"Token({secret.display})"

end Credential

structure Target where
  endpoint : Url
  scope : String
  mechanism : Mechanism
  deriving DecidableEq

def Target.display (t : Target) : String :=
  s!"{t.endpoint.text} [{t.scope}] via {t.mechanism.scheme}"

end CommandBridge
