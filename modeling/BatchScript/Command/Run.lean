import BatchScript.Command.Options
import BatchScript.Command.Usage
import BatchScript.Dump
import BatchScript.Hint.Completion
import BatchScript.Markup
import BatchScript.Settings

/-!
# Running the command

The command reads a script and writes a page, the candidates at a cursor or a dump of the tokens, to
a file or to the standard output. The exit code is 0 on success, 1 if a file cannot be read or
written, and 2 if the arguments or the configuration cannot be used. The standard streams take
whatever is written to them.
-/
namespace BatchScript.Command

open Data (Nesting)

/-- What the command leaves behind besides files. -/
structure Outcome where
  /-- The exit code. -/
  exit : Nat
  /-- Whether it ended over its arguments alone. -/
  overArguments : Bool
  /-- What it wrote to the standard output. -/
  stdout : Text
  /-- What it wrote to the standard error output. -/
  stderr : Text
  deriving DecidableEq, Repr

/-- The record of the columns that candidates replace, counted from one. -/
def replacement (response : Hint.Response) : Log.Record :=
  ⟨.debug, .command,
    "replace line ".toList ++ Text.ofInt (response.line + 1) ++ " columns ".toList ++
      Text.ofInt (response.start + 1) ++ '-' :: Text.ofInt (response.stop + 1)⟩

/-- The candidates at a cursor, one to a line. -/
def candidates (nesting : Nesting) (store : Store) (line column : Nat) (source : Text) :
    Except Error Text × List Log.Record :=
  let request : Hint.Request := ⟨source, line, column⟩
  match Hint.hint store (some (Hint.bufferWords Hint.defaultRange)) request nesting with
  | .error cause => (.error cause, [])
  | .ok (none, log) => (.ok [], log)
  | .ok (some response, log) =>
    (.ok (response.candidates.flatMap (· ++ ['\n'])), log ++ [replacement response])

/-- The output for a script, and the log. -/
def produce (nesting : Nesting) (options : Options) (source : Text) :
    Access (Except Error Text × List Log.Record) := do
  match options.hint with
  | some (line, column) =>
    let (config, log) ← Settings.load options.config options.input.parent nesting
    match config >>= Settings.store with
    | .error cause => return (.error cause, log)
    | .ok store =>
      let (output, more) := candidates nesting store line column source
      return (output, log ++ more)
  | none =>
    if options.html then return (.ok (Markup.render source []).1, [])
    else return (.ok (Dump.rows (Lexer.tokenize source []).1), [])

/-- A complaint of the command itself. -/
def errorLine (message : Text) : Text := "error: ".toList ++ message ++ ['\n']

/-- A complaint about a file. -/
def fileErrorLine (action : String) (path : Path) (cause : FileError) : Text :=
  errorLine ("cannot ".toList ++ action.toList ++ ' ' :: path.toText ++ ": ".toList ++
    cause.message)

/-- The outcome over the arguments alone. -/
def stopped : Stop → Outcome
  | .help => ⟨0, true, helpText, []⟩
  | .refused message => ⟨2, true, [], usageError message⟩

/-- An outcome after the arguments were understood. -/
def ended (exit : Nat) (stdout stderr : Text) : Outcome := ⟨exit, false, stdout, stderr⟩

/-- Reads the text of a script. -/
def decode (contents : ByteArray) : Except Error Text :=
  match String.fromUTF8? contents with
  | none => .error .notUtf8
  | some text => .ok (Text.unifyLineEnds text.toList)

/-- Writes the output to where it belongs, after the log. -/
def deliver (options : Options) (output log : Text) : Access (Except Error Outcome) := do
  match options.output with
  | none => return .ok (ended 0 output log)
  | some path =>
    if path.hasNull then return .error .nullInPath
    match ← Access.write path (String.ofList output).toUTF8 with
    | .ok () => return .ok (ended 0 [] log)
    | .error cause => return .ok (ended 1 [] (log ++ fileErrorLine "write" path cause))

/-- The log as far as it is asked for. -/
def shownLog (options : Options) (log : List Log.Record) : Text :=
  if options.debug then log.flatMap fun record => record.brief ++ ['\n'] else []

/-- Carries out the options. -/
def execute (nesting : Nesting) (options : Options) : Access (Except Error Outcome) := do
  if options.input.hasNull then return .error .nullInPath
  match ← Access.read options.input with
  | .error cause => return .ok (ended 1 [] (fileErrorLine "read" options.input cause))
  | .ok contents =>
    match decode contents with
    | .error cause => return .error cause
    | .ok source =>
      let (output, log) ← produce nesting options source
      let log := shownLog options log
      match output with
      | .ok output => deliver options output log
      | .error (.config problem path) =>
        return .ok (ended 2 [] (log ++ errorLine (Error.config problem path).message))
      | .error cause => return .error cause

/-- Runs the command on its arguments. -/
def run (arguments : List Text) (nesting : Nesting := .usual) : Access (Except Error Outcome) :=
  match parse arguments with
  | .error stop => return .ok (stopped stop)
  | .ok arguments =>
    match resolve arguments with
    | .ok options => execute nesting options
    | .error (.cursorFormat argument) =>
      return .ok (ended 2 [] (errorLine (Error.cursorFormat argument).message))
    | .error (.cursorBelowOne argument) =>
      return .ok (ended 2 [] (errorLine (Error.cursorBelowOne argument).message))
    | .error cause => return .error cause

end BatchScript.Command
