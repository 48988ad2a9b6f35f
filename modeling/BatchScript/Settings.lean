import BatchScript.Data.Json.Writer
import BatchScript.Data.Toml.Reader
import BatchScript.Error
import BatchScript.Files.Access
import BatchScript.Log
import BatchScript.Store

/-!
# Settings

The hint store is set up from the `hint` section of a configuration file or from the options that an
editor sends. The commands are checked before the variables, and what is absent leaves the store
without a text.
-/
namespace BatchScript.Settings

open Data (Entries Nesting)

/-- The name of a configuration file that is looked for by itself. -/
def fileName : Text := "cmdlex.toml".toList

/-- The value under a key, if there is one other than the absence of a value. -/
def value? (entries : Entries) (key : Text) : Option Data :=
  match entries.lookup key with
  | some .null => none
  | found => found

/-- The custom commands as the store keeps them. -/
def commandsText (value : Option Data) : Except Error (Option Text) :=
  match value with
  | none => .ok none
  | some value =>
    match value.strings? with
    | some names => .ok (some (Json.writeStrings names))
    | none => .error (.config .badCommands none)

/-- The special variables as the store keeps them. -/
def variablesText (value : Option Data) : Except Error (Option Text) :=
  match value with
  | none => .ok none
  | some (.string names) => .ok (some names)
  | some value =>
    match value.strings? with
    | some names => .ok (some (Text.join [','] names))
    | none => .error (.config .badVariables none)

/-- The store of a pair of settings. -/
def storeOf (customCommands specialVariables : Option Data) : Except Error Store := do
  let customCommands ← commandsText customCommands
  let specialVariables ← variablesText specialVariables
  return ⟨customCommands, specialVariables⟩

/-- The store of a configuration. -/
def store (config : Entries) : Except Error Store :=
  match config.lookup "hint".toList with
  | none => .ok .empty
  | some (.table hint) =>
    storeOf (value? hint "custom_commands".toList) (value? hint "special_variables".toList)
  | some _ => .error (.config .hintNotTable none)

/-- The store of an editor's options. Options that cannot be used leave it empty, with a warning if
they are a table. -/
def storeOfOptions (options : Data) : Store × List Log.Record :=
  match options with
  | .table entries =>
    match storeOf (value? entries "customCommands".toList)
      (value? entries "specialVariables".toList) with
    | .ok store => (store, [])
    | .error cause =>
      (.empty,
        [⟨.warning, .editor, "ignoring initialization options: ".toList ++ cause.message⟩])
  | _ => (.empty, [])

/-- Reads the bytes of a configuration file. The problem with a text that does not follow the
notation is not told more closely: what the reader found wrong, and where, is not kept. -/
def parse (nesting : Nesting) (path : Path) (contents : ByteArray) : Except Error Entries :=
  match String.fromUTF8? contents with
  | none => .error .notUtf8
  | some text =>
    match Toml.read nesting.toml text.toList with
    | .ok config => .ok config
    | .error .malformed => .error (.config .unreadable (some path))
    | .error (.numeralTooLong digits) => .error (.numeralTooLong digits)
    | .error (.tooDeep occasion) => .error (.tooDeep occasion)

/-- Whether a path leads to a file; one that leads nowhere does not, nor does one that no file can
have. -/
def isFile (path : Path) : Access (Except Error Bool) := do
  if path.hasNull then return .ok false
  match ← Access.exists? path with
  | .ok found => return .ok found
  | .error cause =>
    if cause.leadsNowhere then return .ok false
    else return .error (.refused cause path.toText)

/-- Loads the configuration at a path, or else the one in a directory. A missing file is an empty
configuration. -/
def load (path : Option Path) (directory : Path) (nesting : Nesting := .usual) :
    Access (Except Error Entries × List Log.Record) := do
  let path := path.getD (directory.child fileName)
  match ← isFile path with
  | .error cause => return (.error cause, [])
  | .ok false =>
    return (.ok [], [⟨.debug, .config, "no config file at ".toList ++ path.toText⟩])
  | .ok true =>
    match ← Access.read path with
    | .error cause => return (.error (.refused cause path.toText), [])
    | .ok contents => return (parse nesting path contents, [])

end BatchScript.Settings
