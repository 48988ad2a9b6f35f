import BatchScript.Address
import BatchScript.Files.Access
import BatchScript.Text.Numeral
import BatchScript.Text.Quoted

/-!
# Errors

Every cause for which an operation of the library can fail, and the one place where it is put in
words.
-/
namespace BatchScript

/-- What is wrong with a configuration. -/
inductive ConfigProblem where
  /-- The file cannot be read as a configuration; what its reader found wrong is not kept. -/
  | unreadable
  /-- The hint section is no table. -/
  | hintNotTable
  /-- The custom commands are not a list of strings. -/
  | badCommands
  /-- The special variables are neither a string nor a list of strings. -/
  | badVariables
  deriving DecidableEq, Repr

/-- The problem in words. -/
def ConfigProblem.message : ConfigProblem → Text
  | .unreadable => "invalid TOML".toList
  | .hintNotTable => "[hint] must be a table".toList
  | .badCommands => "hint.custom_commands must be a list of strings".toList
  | .badVariables => "hint.special_variables must be a string or a list of strings".toList

/-- Why an operation failed. -/
inductive Error where
  /-- A configuration cannot be used; the path names its file if it came from one. -/
  | config (problem : ConfigProblem) (path : Option Path)
  /-- A cursor argument is not a line and a column. -/
  | cursorFormat (argument : Text)
  /-- A cursor argument counts from zero. -/
  | cursorBelowOne (argument : Text)
  /-- A text was read in front of its first character. -/
  | outOfRange
  /-- A numeral has too many digits. -/
  | numeralTooLong (digits : Nat)
  /-- Digits do not make up a numeral. -/
  | notNumeral (text : Text)
  /-- The bytes of a file are not text. -/
  | notUtf8
  /-- A path holds the character that ends every path. -/
  | nullInPath
  /-- The files refuse a request that is taken for granted. -/
  | refused (cause : FileError) (path : Text)
  /-- A number is below zero or above its limit. -/
  | beyondLimit (quantity : Text) (limit : Nat) (value : Int)
  /-- Values are nested too deeply; `occasion` says what was being read. -/
  | tooDeep (occasion : Text)
  /-- The address of a document cannot be used. -/
  | address (problem : AddressProblem)
  /-- A document is changed that is not open. -/
  | notOpen (name : Text)
  deriving DecidableEq, Repr

namespace Error

/-- The report of a problem with a configuration. -/
def configReport (path : Option Path) (message : Text) : Text :=
  "config error: ".toList ++
    match path with
    | none => message
    | some path => path.toText ++ ": ".toList ++ message

/-- The number of a refusal in front of its words. -/
def refusalMark (cause : FileError) : Text :=
  match cause.number? with
  | some number => "[Errno ".toList ++ Text.ofNat number ++ "] ".toList
  | none => []

/-- The error in words. -/
def message : Error → Text
  | .config problem path => configReport path problem.message
  | .cursorFormat argument =>
    "invalid cursor format (expected LINE:COL): ".toList ++ argument
  | .cursorBelowOne argument => "cursor positions are 1-based: ".toList ++ argument
  | .outOfRange => "string index out of range".toList
  | .numeralTooLong digits =>
    "Exceeds the limit (".toList ++ Text.ofNat Numeral.maxDigits ++
      " digits) for integer string conversion: value has ".toList ++ Text.ofNat digits ++
      " digits; use sys.set_int_max_str_digits() to increase the limit".toList
  | .notNumeral text =>
    "invalid literal for int() with base 10: ".toList ++ text.quoted.take 200
  | .notUtf8 => "the file is not UTF-8 text".toList
  | .nullInPath => "embedded null byte".toList
  | .refused cause path =>
    refusalMark cause ++ cause.message ++ ": ".toList ++ path.quoted
  | .beyondLimit quantity limit value =>
    quantity ++ " should be in range [0:".toList ++ Text.ofNat limit ++ "], but was ".toList ++
      Text.ofInt value ++ ['.']
  | .tooDeep occasion => "maximum recursion depth exceeded".toList ++ occasion
  | .address problem => problem.message
  | .notOpen name => name.quoted

end Error

end BatchScript
