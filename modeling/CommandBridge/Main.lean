import CommandBridge.CommandLine.Basic

/-! The command-line tool. It has no transport, so that every endpoint is out of reach. -/
namespace CommandBridge.CommandLine

def readFile (path : String) : IO Config.File := do
  try
    return .bytes (← IO.FS.readBinFile path).toList
  catch
    | .inappropriateType _ 21 _ => return .absent .folder
    | .inappropriateType _ _ _ => return .absent .notFolder
    | .invalidArgument _ _ _ => return .absent .longName
    | _ => return .absent .missing

/-- The environment and the one file that the arguments name. -/
def surroundings (arguments : List String) : IO Surroundings := do
  let file ← match Wish.ofList? arguments with
    | some (.perform ⟨some path, _⟩) => readFile path
    | _ => pure (.absent .missing)
  let names := ["BRIDGE_USERNAME", "BRIDGE_PASSWORD", "BRIDGE_TOKEN"]
  let found ← names.filterMapM fun name => do return (← IO.getEnv name).map (name, ·)
  return ⟨(found.lookup ·), fun _ => file⟩

end CommandBridge.CommandLine

open CommandBridge.CommandLine in
def main (arguments : List String) : IO UInt32 := do
  let ((), exit) := perform .unreachable (← surroundings arguments) arguments ()
  IO.print exit.output
  unless exit.error.isEmpty do IO.eprintln exit.error
  return exit.code.toUInt32
