import BatchScript.Command.Arguments
import BatchScript.Error

/-!
# Options of the command

The arguments with their values made out: paths in normal form, and the cursor as a line and a
column counted from zero. Empty values count as absent.
-/
namespace BatchScript.Command

/-- Reads a numeral. The digits in front of the first character that is no decimal digit are counted
first. -/
def readNumeral (text : Text) : Except Error Nat :=
  let values := (text.map decimalValue?).takeWhile Option.isSome
  if Numeral.maxDigits < values.length then .error (.numeralTooLong values.length)
  else if values.length < text.length then .error (.notNumeral text)
  else .ok (Numeral.ofDigits 10 (values.map (Option.getD · 0)))

/-- Whether a text is made up of digits of any kind. -/
def isDigits (text : Text) : Bool := !text.isEmpty && text.all isAnyDigit

/-- Reads a cursor: a line and a column, both counted from one, with a colon between them. -/
def parseCursor (argument : Text) : Except Error (Nat × Nat) :=
  match argument.cut ':' with
  | (_, none) => .error (.cursorFormat argument)
  | (line, some column) =>
    if isDigits line && isDigits column then do
      let lineNumber ← readNumeral line
      if lineNumber < 1 then throw (.cursorBelowOne argument)
      let columnNumber ← readNumeral column
      if columnNumber < 1 then throw (.cursorBelowOne argument)
      return (lineNumber - 1, columnNumber - 1)
    else .error (.cursorFormat argument)

/-- What the command is to do. -/
structure Options where
  /-- The script. -/
  input : Path
  /-- The file to write; none for the standard output. -/
  output : Option Path
  /-- Whether to write a highlighted page. -/
  html : Bool
  /-- Line and column of the cursor for which to write candidates. -/
  hint : Option (Nat × Nat)
  /-- The configuration file. -/
  config : Option Path
  /-- Whether to write the log. -/
  debug : Bool
  deriving DecidableEq, Repr

/-- A value that is not empty. -/
def present? (value : Option Text) : Option Text := value.filter fun text => !text.isEmpty

/-- Makes out the values of the arguments. -/
def resolve (arguments : Arguments) : Except Error Options := do
  let hint ← (present? arguments.hint).mapM parseCursor
  return {
    input := .ofText (arguments.input.getD [])
    output := (present? arguments.output).map .ofText
    html := arguments.html
    hint
    config := (present? arguments.config).map .ofText
    debug := arguments.debug }

end BatchScript.Command
