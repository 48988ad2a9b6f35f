import BatchScript.Text

/-!
# Usage of the command

The texts that explain the command.
-/
namespace BatchScript.Command

/-- How the command is called. -/
def usage : Text :=
  ("usage: cmdlex [-h] [-o OUTPUT] [--html | --hint LINE:COL] [--config FILE]\n" ++
   "              [--debug]\n" ++
   "              input\n").toList

/-- The help: the usage and a line or two for each argument. -/
def helpText : Text :=
  usage ++
  ("\n" ++
   "Batch script highlighter and completion helper\n" ++
   "\n" ++
   "positional arguments:\n" ++
   "  input                 Input .bat/.cmd file\n" ++
   "\n" ++
   "options:\n" ++
   "  -h, --help            show this help message and exit\n" ++
   "  -o OUTPUT, --output OUTPUT\n" ++
   "                        Output file (default: stdout)\n" ++
   "  --html                Render highlighted HTML\n" ++
   "  --hint LINE:COL       Print completion candidates at a 1-based cursor\n" ++
   "                        position\n" ++
   "  --config FILE         Config file (default: auto-discover cmdlex.toml)\n" ++
   "  --debug               Verbose logging to stderr\n").toList

/-- The usage and a complaint. -/
def usageError (message : Text) : Text :=
  usage ++ "cmdlex: error: ".toList ++ message ++ ['\n']

end BatchScript.Command
