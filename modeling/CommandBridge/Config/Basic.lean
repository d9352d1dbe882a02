import CommandBridge.Failure
import CommandBridge.Json.Basic
import CommandBridge.Session.Target
import CommandBridge.Text.Blank
import CommandBridge.Url.Parser

/-! Configurations: where to connect, how long to wait, what to log. -/
namespace CommandBridge

structure Config.Remote where
  endpoint : String
  scope : String
  mechanism : Mechanism
  deriving DecidableEq

/-- Whole seconds. -/
structure Config.Timeouts where
  opening : Nat
  execution : Nat
  deriving DecidableEq

structure Config.Logging where
  level : String
  format : String
  deriving DecidableEq

structure Config where
  remote : Config.Remote
  timeouts : Config.Timeouts
  logging : Config.Logging
  deriving DecidableEq

namespace Config

def defaultScope : String := "Microsoft.Exchange"

def defaultTimeouts : Timeouts := ⟨15, 120⟩

def defaultLogging : Logging := ⟨"info", "pretty"⟩

/-- An endpoint on this machine. -/
def development : Config :=
  ⟨⟨"http://127.0.0.1:8530/powershell", defaultScope, .basic⟩, defaultTimeouts, defaultLogging⟩

/-- The rules, checked in order; the first one that is broken counts. -/
def validate (c : Config) : Except Failure Unit := do
  match Url.read c.remote.endpoint with
  | .error e =>
    throw (.config s!"Invalid endpoint URL '{c.remote.endpoint}': {e.message}")
  | .ok url =>
    if url.scheme ≠ "http".toList && url.scheme ≠ "https".toList then
      throw (.config s!"Endpoint must be http or https, got '{String.ofList url.scheme}'")
  if Text.allBlank c.remote.scope.toList then
    throw (.config "configuration_scope is empty")
  let t := c.timeouts
  if t.opening = 0 || t.execution = 0 then
    throw (.config "Timeouts must be non-zero")
  if t.execution ≤ t.opening then
    throw (.config (s!"open_timeout_secs ({t.opening}) must be shorter than " ++
      s!"execution_timeout_secs ({t.execution})"))
  if c.logging.format ≠ "pretty" && c.logging.format ≠ "json" then
    throw (.config s!"Unknown logging format '{c.logging.format}'")

def target (c : Config) : Except Failure Target :=
  match Url.read c.remote.endpoint with
  | .error e => .error (.config s!"Invalid endpoint URL: {e.message}")
  | .ok url => .ok ⟨url, c.remote.scope, c.remote.mechanism⟩

def toJson (c : Config) : Json :=
  .object [
    ("remote", .object [
      ("endpoint", .string c.remote.endpoint),
      ("configuration_scope", .string c.remote.scope),
      ("auth_mechanism", .string c.remote.mechanism.name)]),
    ("timeouts", .object [
      ("open_timeout_secs", .int c.timeouts.opening),
      ("execution_timeout_secs", .int c.timeouts.execution)]),
    ("logging", .object [
      ("level", .string c.logging.level),
      ("format", .string c.logging.format)])]

end Config

end CommandBridge
