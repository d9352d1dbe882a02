import CommandBridge.Bridge.Audit
import CommandBridge.Command.Redaction
import CommandBridge.Endpoint.Basic

/-! What an invocation makes of an endpoint's output. -/
namespace CommandBridge

/-- Errors are advice when there are records, and a failure when there are none. Secrets given with
the pipeline are taken out of them. -/
def Invocation.accept (i : Invocation) (o : Output ρ) : Except Failure (Output ρ) :=
  let errors := Command.redact o.errors i.extra
  if !errors.isEmpty && o.records.isEmpty then .error (.remote errors) else .ok ⟨o.records, errors⟩

def Outcome.ofResult : Except Failure (Output ρ) → Outcome
  | .ok o =>
    if o.errors.isEmpty then .succeeded o.records.length else .advised o.records.length o.errors
  | .error e => .failed e.message

end CommandBridge
