import FieldTypes.CommandLine.Arguments

namespace FieldTypes.CommandLine

/-! The texts that explain the command line. -/

def versionText : String :=
  "reify 0.1.0\n"

def programLines : List String :=
  [ "Resolve the runtime types of generic class fields",
    "",
    "Usage: reify <COMMAND>",
    "",
    "Commands:",
    "  check    Load and validate a class manifest, then list its classes",
    "  resolve  Resolve every field of a class under a binding of its type parameters",
    "  help     Print this message or the help of the given subcommand(s)",
    "",
    "Options:",
    "  -h, --help     Print help",
    "  -V, --version  Print version" ]

/-- The options that both commands have. -/
def commonOptionLines : List String :=
  [ "      --config <CONFIG>  Path to a `reify.toml` " ++
      "(defaults to discovery from the current directory)",
    "      --json             Emit JSON suitable for CI",
    "  -h, --help             Print help" ]

def checkLines : List String :=
  [ "Load and validate a class manifest, then list its classes",
    "",
    "Usage: reify check [OPTIONS]",
    "",
    "Options:" ] ++ commonOptionLines

def resolveLines : List String :=
  [ "Resolve every field of a class under a binding of its type parameters",
    "",
    "Usage: reify resolve [OPTIONS] <CLASS>",
    "",
    "Arguments:",
    "  <CLASS>  Class name " ++
      "(fully qualified, `java.lang` simple name, or unique simple name)",
    "",
    "Options:",
    "      --arg <TYPE>       Actual type argument, one per type parameter, " ++
      "e.g. `--arg 'List<String>'`" ] ++ commonOptionLines

def helpLines : List String :=
  [ "Print this message or the help of the given subcommand(s)",
    "",
    "Usage: reify help [COMMAND]...",
    "",
    "Arguments:",
    "  [COMMAND]...  Print help for the subcommand(s)" ]

def Topic.lines : Topic → List String
  | .program => programLines
  | .check => checkLines
  | .resolve => resolveLines
  | .help => helpLines

def Topic.text (topic : Topic) : String :=
  String.join (topic.lines.map (· ++ "\n"))

end FieldTypes.CommandLine
