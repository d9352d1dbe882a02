import CommandBridge.CommandLine.Arguments

/-! The help texts of the command-line tool. -/
namespace CommandBridge.CommandLine

def helpLines : Topic → List String
  | .tool => [
    "Run administrative commands against a remote management endpoint",
    "",
    "Usage: bridge-rs [OPTIONS] <COMMAND>",
    "",
    "Commands:",
    "  compile  Print the compiled pipeline as JSON",
    "  run      Run a command line and print the flattened results as JSON",
    "  help     Print this message or the help of the given subcommand(s)",
    "",
    "Options:",
    "  -c, --config <CONFIG>  Configuration file (development defaults when omitted)",
    "  -h, --help             Print help"]
  | .compile => [
    "Print the compiled pipeline as JSON",
    "",
    "Usage: bridge-rs compile <COMMAND>",
    "",
    "Arguments:",
    "  <COMMAND>  Command line to compile",
    "",
    "Options:",
    "  -h, --help  Print help"]
  | .run => [
    "Run a command line and print the flattened results as JSON",
    "",
    "Usage: bridge-rs run <COMMAND>",
    "",
    "Arguments:",
    "  <COMMAND>  Command line to run",
    "",
    "Options:",
    "  -h, --help  Print help"]
  | .help => [
    "Print this message or the help of the given subcommand(s)",
    "",
    "Usage: bridge-rs help [COMMAND]...",
    "",
    "Arguments:",
    "  [COMMAND]...  Print help for the subcommand(s)"]

def helpText (t : Topic) : String := "\n".intercalate (helpLines t) ++ "\n"

end CommandBridge.CommandLine
