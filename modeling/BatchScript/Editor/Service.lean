import BatchScript.Editor.Host
import BatchScript.Settings

/-!
# Editor service

The service keeps a hint store and the open documents, and is the host on which requests for
completion and for semantic tokens are answered.
-/
namespace BatchScript.Editor

/-- What the service keeps between requests. -/
structure Service where
  /-- How the editor counts columns. -/
  encoding : Encoding
  /-- The hint store. -/
  store : Store
  /-- The texts of the open documents by their names without percent escapes. -/
  documents : List (Text × Text)
  /-- How deep the values in the store may be nested. -/
  nesting : Data.Nesting := .usual
  deriving DecidableEq, Repr

namespace Service

/-- A service without documents and names. -/
def fresh (encoding : Encoding) : Service where
  encoding
  store := .empty
  documents := []

/-- Sets the hint store up from the editor's options. -/
def configure (service : Service) (options : Data) : Service × List Log.Record :=
  let (store, log) := Settings.storeOfOptions options
  ({ service with store },
    log ++ [⟨.debug, .editor, "hint store: ".toList ++ store.describe⟩])

/-- Keeps the text of a document under its key. -/
def keep (service : Service) (key text : Text) : Service :=
  { service with
    documents := (key, text) :: service.documents.filter fun (other, _) => other ≠ key }

/-- Refuses a name that is an address which cannot be used. -/
def checkName (name : Text) : Except Error Unit := (Address.ofText name).check.mapError .address

/-- Opens a document with a text. -/
def openDocument (service : Service) (name text : Text) : Except Error Service := do
  checkName name
  return service.keep (Percent.decode name) text

/-- Gives an open document a new text. -/
def changeDocument (service : Service) (name text : Text) : Except Error Service :=
  let key := Percent.decode name
  if (service.documents.lookup key).isSome then .ok (service.keep key text)
  else .error (.notOpen key)

/-- The text of a document. The service has no files, so one that is not open is not found. -/
def document (service : Service) (name : Text) : Except Error Text :=
  match service.documents.lookup (Percent.decode name) with
  | some text => .ok text
  | none => do
    checkName name
    let path := (Address.ofText name).filePath
    if '\x00' ∈ path then throw .nullInPath
    throw (.refused .notFound path)

/-- The service as a host. -/
def host (service : Service) : Host where
  document := service.document
  units := service.encoding.units
  fromClient := fromClient service.encoding
  toClient := toClient service.encoding

/-- The items at a position of a document. -/
def complete (service : Service) (name : Text) (position : Position) :
    Except Error (Option (List Item) × List Log.Record) :=
  service.host.complete service.store service.nesting name position

/-- The semantic tokens of a document. -/
def highlight (service : Service) (name : Text) : Except Error (List Int) :=
  service.host.highlight name

end Service

end BatchScript.Editor
