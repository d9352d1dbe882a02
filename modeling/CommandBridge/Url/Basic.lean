import CommandBridge.Decimal.Integer
import CommandBridge.Url.Percent

/-! URLs in their parts, in normal form. -/
namespace CommandBridge

/-- The path of a URL: segments, or the rest of a URL that has no hierarchy. -/
inductive UrlPath where
  | segments (s : List (List Char))
  | opaquePath (s : List Char)
  deriving DecidableEq, Repr

structure Url where
  scheme : List Char
  username : List Char
  password : List Char
  /-- Absent where a URL has no authority. -/
  host : Option (List Char)
  port : Option Nat
  path : UrlPath
  query : Option (List Char)
  fragment : Option (List Char)
  deriving DecidableEq, Repr

/-- Why a text is no URL. -/
inductive UrlFault where
  | emptyHost
  | domain
  | port
  | ipv4
  | ipv6
  | hostCharacter
  | relative
  deriving DecidableEq, Repr

def UrlFault.message : UrlFault → String
  | emptyHost => "empty host"
  | domain => "invalid international domain name"
  | port => "invalid port number"
  | ipv4 => "invalid IPv4 address"
  | ipv6 => "invalid IPv6 address"
  | hostCharacter => "invalid domain character"
  | relative => "relative URL without a base"

namespace Url

/-- Schemes that always have a host, with their usual ports. -/
def usualPort? (scheme : List Char) : Option Nat :=
  if scheme = "http".toList || scheme = "ws".toList then some 80
  else if scheme = "https".toList || scheme = "wss".toList then some 443
  else if scheme = "ftp".toList then some 21
  else none

def isFile (scheme : List Char) : Bool := scheme == "file".toList

def isSpecial (scheme : List Char) : Bool := (usualPort? scheme).isSome || isFile scheme

def pathText : UrlPath → List Char
  | .segments s => s.flatMap ('/' :: ·)
  | .opaquePath s => s

def userinfo (u : Url) : List Char :=
  if u.username.isEmpty && u.password.isEmpty then []
  else u.username ++ (if u.password.isEmpty then [] else ':' :: u.password) ++ ['@']

def authority (u : Url) : List Char :=
  match u.host with
  | some host =>
    '/' :: '/' :: u.userinfo ++ host ++ (u.port.map fun p => ':' :: Decimal.digits p).getD []
  | none =>
    -- Two slashes at the start of a path would read as an authority.
    match u.path with
    | .segments ([] :: _ :: _) => ['/', '.']
    | _ => []

def chars (u : Url) : List Char :=
  u.scheme ++ ':' :: u.authority ++ pathText u.path ++
    (u.query.map ('?' :: ·)).getD [] ++ (u.fragment.map ('#' :: ·)).getD []

def text (u : Url) : String := String.ofList u.chars

end Url

end CommandBridge
