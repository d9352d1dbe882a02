/-! Secrets: text that is never shown. -/
namespace CommandBridge

/-- Stands wherever a secret would be shown. -/
def redactionMark : String := "<redacted>"

structure Secret where
  expose : String
  deriving DecidableEq

namespace Secret

def isEmpty (s : Secret) : Bool := s.expose.isEmpty

def display (_ : Secret) : String := redactionMark

end Secret

end CommandBridge
