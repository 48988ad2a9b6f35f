import BatchScript.Text.Digit
import BatchScript.Text.Quoted

/-!
# Arguments of the command

An argument that starts with a hyphen is an option, unless it is a lone hyphen, a negative number or
has a space in it; two hyphens end the options. An option is known by its name, a long one also by
the start of its name, and its value stands behind it, behind an equals sign or, for a short one,
right behind the letter. One argument that is no option names the input.
-/
namespace BatchScript.Command

/-- An option of the command. -/
inductive Switch where
  /-- Shows the help. -/
  | help
  /-- Names the output file. -/
  | output
  /-- Asks for a highlighted page. -/
  | html
  /-- Asks for the candidates at a cursor. -/
  | hint
  /-- Names the configuration file. -/
  | config
  /-- Shows the log. -/
  | debug
  deriving DecidableEq, Repr

namespace Switch

/-- Every name of an option, in the order in which they are shown. -/
def names : List (Text × Switch) :=
  [("-h".toList, .help), ("--help".toList, .help), ("-o".toList, .output),
   ("--output".toList, .output), ("--html".toList, .html), ("--hint".toList, .hint),
   ("--config".toList, .config), ("--debug".toList, .debug)]

/-- The option in messages: its names with slashes between them. -/
def display (switch : Switch) : Text :=
  Text.join ['/'] ((names.filter fun (_, other) => other == switch).map Prod.fst)

/-- Whether the option has a value. -/
def takesValue : Switch → Bool
  | .output => true
  | .hint => true
  | .config => true
  | _ => false

end Switch

/-- How an argument is understood. -/
inductive Role where
  /-- No option: an input, or the value of an option. -/
  | word
  /-- The end of the options. -/
  | separator
  /-- A known option under one of its names, with the value attached to it if there is one. -/
  | option (switch : Switch) (name : Text) (attached : Option Text)
  /-- An option that is not known. -/
  | unknown
  deriving DecidableEq, Repr

/-- The known options that an argument may stand for: a long one by the start of its name, a short
one by its letter with a value behind it. -/
def readings (argument : Text) : List (Text × Role) :=
  match argument with
  | '-' :: '-' :: _ =>
    let (start, attached) := argument.cut '='
    (Switch.names.filter fun (name, _) => start.isPrefixOf name).map fun (name, switch) =>
      (name, .option switch name attached)
  | _ =>
    Switch.names.filterMap fun (name, switch) =>
      if name = argument.take 2 then some (name, .option switch name (some (argument.drop 2)))
      else if argument.isPrefixOf name then some (name, .option switch name none)
      else none

/-- Whether an argument is a negative number; a line end behind it does not count. -/
def isNegativeNumber (argument : Text) : Bool :=
  match argument with
  | '-' :: digits =>
    let isDecimal := fun c => (decimalValue? c).isSome
    match Text.cut '.' (if digits.getLast? = some '\n' then digits.dropLast else digits) with
    | (whole, none) => !whole.isEmpty && whole.all isDecimal
    | (whole, some fraction) => whole.all isDecimal && !fraction.isEmpty && fraction.all isDecimal
  | _ => false

/-- The role of an argument in front of the end of the options, or a complaint about one that may
stand for several options. -/
def classify (argument : Text) : Except Text Role :=
  if argument.head? ≠ some '-' then .ok .word
  else
    match Switch.names.lookup argument with
    | some switch => .ok (.option switch argument none)
    | none =>
      if argument.length = 1 then .ok .word
      else
        let (start, attached) := argument.cut '='
        match attached, Switch.names.lookup start with
        | some value, some switch => .ok (.option switch start (some value))
        | _, _ =>
          match readings argument with
          | [(_, role)] => .ok role
          | [] =>
            if isNegativeNumber argument || argument.contains ' ' then .ok .word else .ok .unknown
          | several =>
            .error ("ambiguous option: ".toList ++ argument ++ " could match ".toList ++
              Text.join ", ".toList (several.map Prod.fst))

/-- The roles of all arguments; behind the end of the options there are words only. -/
def classifyAll : List Text → Except Text (List (Text × Role))
  | [] => .ok []
  | argument :: rest =>
    if argument = ['-', '-'] then .ok ((argument, .separator) :: rest.map (·, .word))
    else do
      let role ← classify argument
      return (argument, role) :: (← classifyAll rest)

/-- The arguments once they are understood. -/
structure Arguments where
  /-- The input. -/
  input : Option Text := none
  /-- The value of the output option. -/
  output : Option Text := none
  /-- Whether a page is asked for. -/
  html : Bool := false
  /-- The value of the hint option. -/
  hint : Option Text := none
  /-- The value of the configuration option. -/
  config : Option Text := none
  /-- Whether the log is asked for. -/
  debug : Bool := false
  /-- Arguments that nothing could be made of. -/
  extras : List Text := []
  deriving DecidableEq, Repr

/-- Why the arguments are not carried out. -/
inductive Stop where
  /-- The help is asked for. -/
  | help
  /-- Something is wrong with them. -/
  | refused (message : Text)
  deriving DecidableEq, Repr

/-- A complaint about an option. -/
def complaint (switch : Switch) (message : Text) : Stop :=
  .refused ("argument ".toList ++ switch.display ++ ": ".toList ++ message)

/-- A complaint that two options exclude each other. -/
def conflict (switch other : Switch) : Stop :=
  complaint switch ("not allowed with argument ".toList ++ other.display)

/-- Carries out one option. Page and hint exclude each other. -/
def Arguments.apply (arguments : Arguments) (switch : Switch) (value : Text) :
    Except Stop Arguments :=
  match switch with
  | .help => .error .help
  | .output => .ok { arguments with output := some value }
  | .html =>
    if arguments.hint.isSome then .error (conflict .html .hint)
    else .ok { arguments with html := true }
  | .hint =>
    if arguments.html then .error (conflict .hint .html)
    else .ok { arguments with hint := some value }
  | .config => .ok { arguments with config := some value }
  | .debug => .ok { arguments with debug := true }

/-- Takes apart an option with text attached to it. An option with a value takes the text; behind
the letter of one without a value further letters may follow. Gives the options without a value, the
last option and the value attached to that. -/
def unbundle (switch : Switch) (short : Bool) (attached : Text) :
    Except Stop (List Switch × Switch × Option Text) :=
  let ignored := complaint switch ("ignored explicit argument ".toList ++ attached.quoted)
  if switch.takesValue then .ok ([], switch, some attached)
  else
    match attached with
    | [] => .error ignored
    | letter :: rest =>
      match short, Switch.names.lookup ['-', letter] with
      | true, some next =>
        match rest with
        | [] => .ok ([switch], next, none)
        | _ :: _ => do
          let (before, last, value) ← unbundle next true rest
          return (switch :: before, last, value)
      | _, _ => .error ignored

/-- A separator is no value: attached to an option it leaves the value empty. -/
def attachedValue (value : Text) : Text := if value = ['-', '-'] then [] else value

/-- Carries out options without a value. -/
def Arguments.applyAll (arguments : Arguments) (switches : List Switch) : Except Stop Arguments :=
  switches.foldlM (fun arguments switch => arguments.apply switch []) arguments

/-- The arguments with one more that nothing could be made of. -/
def Arguments.addExtra (arguments : Arguments) (text : Text) : Arguments :=
  { arguments with extras := arguments.extras ++ [text] }

/-- Works through the arguments from left to right; `taken` tells whether the one before was the
input. The first word is the input, and a separator in front of it or right behind it is dropped. -/
def collect (arguments : Arguments) (taken : Bool) : List (Text × Role) → Except Stop Arguments
  | [] => .ok arguments
  | (text, .unknown) :: rest => collect (arguments.addExtra text) false rest
  | (text, .word) :: rest =>
    if arguments.input.isSome then collect (arguments.addExtra text) false rest
    else collect { arguments with input := some text } true rest
  | (text, .separator) :: rest =>
    if taken || arguments.input.isNone then collect arguments false rest
    else collect (arguments.addExtra text) false rest
  | (_, .option switch name attached) :: rest =>
    match attached.elim (.ok ([], switch, none)) (unbundle switch (name.length == 2)) with
    | .error stop => .error stop
    | .ok (before, last, attached) =>
      match last.takesValue, attached with
      | false, _ => do
        let arguments ← arguments.applyAll before
        collect (← arguments.apply last []) false rest
      | true, some value => do
        let arguments ← arguments.applyAll before
        collect (← arguments.apply last (attachedValue value)) false rest
      | true, none =>
        match rest with
        | (value, .word) :: rest => do
          let arguments ← arguments.applyAll before
          collect (← arguments.apply last value) false rest
        | _ => .error (complaint last "expected one argument".toList)

/-- Understands the arguments: the input must be there, and nothing may be left over. -/
def parse (arguments : List Text) : Except Stop Arguments :=
  match classifyAll arguments with
  | .error message => .error (.refused message)
  | .ok roles => do
    let arguments ← collect {} false roles
    if arguments.input.isNone then
      throw (.refused "the following arguments are required: input".toList)
    else if !arguments.extras.isEmpty then
      throw (.refused ("unrecognized arguments: ".toList ++ Text.join [' '] arguments.extras))
    else return arguments

end BatchScript.Command
