import BarTemplate.Command.Arguments

/-!
# Usage

What the program says about itself.
-/

namespace BarTemplate.Command

/-- The name of the program. -/
def programName : Text := "statusfmt"

/-- The version of the program. -/
def version : Text := "0.1.0"

/-- The synopsis of the command line. -/
def usage : Text :=
  Text.unlines [
    "usage: statusfmt [-h] [-t TEXT] [-o OUTPUT] [--max-depth N] [--config FILE]",
    "                 [--check] [--debug] [-v]",
    "                 [input]"]

/-- The full help. -/
def helpText : Text :=
  usage ++ Text.unlines [
    [],
    "Parse status-bar format templates and dump their structure",
    [],
    "positional arguments:",
    "  input                 Template file, one template per line ('-' for stdin)",
    [],
    "options:",
    "  -h, --help            show this help message and exit",
    "  -t TEXT, --template TEXT",
    "                        Template given on the command line (repeatable)",
    "  -o OUTPUT, --output OUTPUT",
    "                        Output file (default: stdout)",
    "  --max-depth N         Maximum \x7b...\x7d nesting depth (default: 100)",
    "  --config FILE         Config file (default: auto-discover statusfmt.toml)",
    "  --check               Only report errors, print no AST",
    "  --debug               Dump AST to stderr",
    "  -v, --verbose         Enable debug logging"]

/-- What is said about a wrong command line. -/
def UsageError.report (e : UsageError) : Text :=
  usage ++ programName ++ ": error: " ++ e.message ++ ['\n']

end BarTemplate.Command
