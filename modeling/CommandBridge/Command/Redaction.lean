import CommandBridge.Command.Extra

/-! Secrets taken out of what an endpoint reports. -/
namespace CommandBridge.Command

/-- Every occurrence of `pattern`, found from left to right without overlaps, replaced by `mark`.
The first `skip` characters belong to an occurrence already replaced. -/
def replaceFrom (pattern mark : List Char) : Nat → List Char → List Char
  | _, [] => []
  | skip + 1, _ :: s => replaceFrom pattern mark skip s
  | 0, c :: s =>
    if pattern.isPrefixOf (c :: s) then mark ++ replaceFrom pattern mark (pattern.length - 1) s
    else c :: replaceFrom pattern mark 0 s

def replaceAll (pattern mark message : String) : String :=
  String.ofList (replaceFrom pattern.toList mark.toList 0 message.toList)

/-- One secret after the other, in the order of the names they are given under. -/
def redactMessage (secrets : List String) (message : String) : String :=
  secrets.foldl (fun m s => replaceAll s redactionMark m) message

def redact (messages : List String) (e : Extra) : List String :=
  messages.map (redactMessage e.secrets)

end CommandBridge.Command
