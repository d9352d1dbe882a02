import CommandBridge.Json.Basic

/-! What is told about invocations, and the log lines that tell it. -/
namespace CommandBridge

/-- How an invocation ended. -/
inductive Outcome where
  | succeeded (records : Nat)
  /-- Records came together with errors. -/
  | advised (records : Nat) (messages : List String)
  | failed (error : String)
  deriving DecidableEq, Repr

inductive LogLine where
  | info (text : String)
  | warn (text : String)
  deriving DecidableEq, Repr

def LogLine.display : LogLine → String
  | info text => "INFO " ++ text
  | warn text => "WARN " ++ text

namespace Outcome

def isSuccess : Outcome → Bool
  | failed _ => false
  | _ => true

def toJson : Outcome → Json
  | succeeded n => .object [("status", .string "succeeded"), ("records", .int n)]
  | advised n messages =>
    .object [("status", .string "succeeded_with_advisories"), ("records", .int n),
      ("messages", .strings messages)]
  | failed e => .object [("status", .string "failed"), ("error", .string e)]

def logLine : Outcome → LogLine
  | succeeded _ => .info "Remote command succeeded"
  | advised _ messages =>
    .warn (s!"Remote command succeeded with {messages.length} advisory error(s): " ++
      "; ".intercalate messages)
  | failed e => .warn s!"Remote command failed: {e}"

end Outcome

end CommandBridge
