/-!
# Help texts

What the program says about itself and about its commands. Each text shows how to write the
arguments and lists them with a line about each.
-/

namespace EventSheet

/-- What help can be asked about. -/
inductive HelpTopic
  | program
  | check
  | tokens
  | tree
  | help
  deriving DecidableEq

/-- The command that a word names, as a topic of help. -/
def HelpTopic.ofName? : String → Option HelpTopic
  | "check" => some .check
  | "tokens" => some .tokens
  | "ast" => some .tree
  | "help" => some .help
  | _ => none

/-- The lines about a command that takes an expression and has no options. -/
def plainCommandHelp (about usage : String) : List String :=
  [about, "",
   "Usage: " ++ usage, "",
   "Arguments:",
   "  <EXPRESSION>  The expression text", "",
   "Options:",
   "  -h, --help  Print help"]

/-- The lines of help about a topic. -/
def HelpTopic.lines : HelpTopic → List String
  | program =>
    ["Checker for event sheet expressions", "",
     "Usage: evexprc <COMMAND>", "",
     "Commands:",
     "  check   Parse and validate an expression",
     "  tokens  Print the tokens of an expression",
     "  ast     Print the syntax tree of an expression",
     "  help    Print this message or the help of the given subcommand(s)", "",
     "Options:",
     "  -h, --help     Print help",
     "  -V, --version  Print version"]
  | check =>
    ["Parse and validate an expression", "",
     "Usage: evexprc check [OPTIONS] <EXPRESSION>", "",
     "Arguments:",
     "  <EXPRESSION>  The expression text", "",
     "Options:",
     "      --expected <EXPECTED>    Type the expression must have: number, string, " ++
       "number|string, variable, object, boolean, unknown or empty [default: number]",
     "      --metadata <FILE>        Extra JSON metadata catalog (repeatable)",
     "      --project <EVEXPR_TOML>  Project manifest listing catalogs and declared objects",
     "      --no-builtins            Do not register the built-in extensions",
     "      --json                   Output diagnostics as JSON (one object per line) " ++
       "instead of human-readable format",
     "      --no-color               Disable colorized output",
     "  -h, --help                   Print help"]
  | tokens => plainCommandHelp "Print the tokens of an expression" "evexprc tokens <EXPRESSION>"
  | tree => plainCommandHelp "Print the syntax tree of an expression" "evexprc ast <EXPRESSION>"
  | help =>
    ["Print this message or the help of the given subcommand(s)", "",
     "Usage: evexprc help [COMMAND]...", "",
     "Arguments:",
     "  [COMMAND]...  Print help for the subcommand(s)"]

/-- The line that names the program and its version. -/
def versionLine : String := "evexprc 0.1.0"

end EventSheet
