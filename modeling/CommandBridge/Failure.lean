/-! What can go wrong, told apart by cause. -/
namespace CommandBridge

inductive Failure where
  | unauthenticated
  /-- The handshake or the transport failed. -/
  | connection (cause : String)
  /-- The endpoint reported errors and gave no records. -/
  | remote (messages : List String)
  | config (reason : String)
  | io (reason : String)
  deriving DecidableEq, Repr

namespace Failure

def message : Failure → String
  | unauthenticated =>
    "Not authenticated: no credential has been supplied for the management endpoint"
  | connection cause => "Connection to management endpoint failed: " ++ cause
  | remote messages => "Remote execution failed: " ++ "; ".intercalate messages
  | config reason => "Configuration error: " ++ reason
  | io reason => "IO error: " ++ reason

/-- Whether the same call may succeed when tried again. -/
def isRetryable : Failure → Bool
  | connection _ => true
  | _ => false

/-- The messages from the failure down to its first cause. -/
def chain (f : Failure) : List String :=
  match f with
  | io reason => [f.message, reason]
  | _ => [f.message]

end Failure

end CommandBridge
