import BatchScript.Category

/-!
# The fixed vocabulary

The words that the interpreter knows without regard to case. They are ASCII, so a word is looked
up with every character replaced by its lower-case form wherever that form is ASCII: the letters A
to Z and the Kelvin sign. Any other character rules a match out before and after such a change.
-/
namespace BatchScript.Vocabulary

/-- The truth values. -/
def atoms : List Text := ["true", "false"].map String.toList

/-- The words that steer a script, and the names of the comparisons. -/
def keywords : List Text :=
  ["goto", "call", "exit", "break", "exist", "defined", "errorlevel", "cmdextversion", "if", "else",
   "for", "EQU", "NEQ", "LSS", "LEQ", "GTR", "GEQ"].map String.toList

/-- The commands. -/
def commands : List Text :=
  ["assoc", "bcdedit", "cd", "chcp", "chdir", "cls", "color", "copy", "date", "del", "dir", "echo",
   "endlocal", "erase", "format", "ftype", "graftabl", "md", "mkdir", "mklink", "mode", "more",
   "move", "path", "pause", "popd", "prompt", "pushd", "rd", "rem", "ren", "rename", "rmdir",
   "robocopy", "set", "setlocal", "shift", "start", "time", "title", "tree", "type", "ver",
   "verify", "vol", "wmic"].map String.toList

/-- The lower-case form of a character that has one in ASCII; other characters stay. -/
def fold (c : Char) : Char := if c = '\u212a' then 'k' else c.toLower

/-- Every word in its folded form with its category. -/
def table : List (Text × Category) :=
  atoms.map (fun word => (word.map fold, .atom)) ++
  keywords.map (fun word => (word.map fold, .keyword)) ++
  commands.map (fun word => (word.map fold, .builtin))

/-- The category of a known word, whatever its case. -/
def lookup (word : Text) : Option Category := table.lookup (word.map fold)

end BatchScript.Vocabulary
