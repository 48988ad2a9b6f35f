import BatchScript.Data.Toml.Lexical

/-!
# Tables of a TOML document

A document grows statement by statement. Which tables may still be opened or extended is kept beside
the data: a key is frozen with all below it once it holds an inline table or an array, and declared
once a header has named it. Tables that dotted keys have made count as declared from the next header
on.
-/
namespace BatchScript.Toml

open Data (ReadError Entries)

/-- The tables of a document and what is known of their keys. -/
structure Document where
  /-- The outermost table. -/
  root : Entries
  /-- Keys whose values cannot be changed. -/
  frozen : List Key
  /-- Keys that a header cannot name again. -/
  declared : List Key
  /-- Keys that count as declared from the next header on. -/
  pending : List Key

namespace Document

/-- The document without statements. -/
def empty : Document := ⟨[], [], [], []⟩

end Document

/-- Whether a key lies at or below one of the frozen ones. -/
def isFrozen (frozen : List Key) (key : Key) : Bool := frozen.any (·.isPrefixOf key)

/-- Changes the table under a key, after making it and the tables on the way to it where they are
missing. An array on the way stands for its last table if `throughArrays`. -/
def modifyTable (throughArrays : Bool) (change : Entries → Except ReadError Entries) :
    Key → Entries → Except ReadError Entries
  | [], entries => change entries
  | name :: path, entries =>
    match entries.lookup name with
    | none => do
      let inner ← modifyTable throughArrays change path []
      return entries.set name (.table inner)
    | some (.table inner) => do
      let inner ← modifyTable throughArrays change path inner
      return entries.set name (.table inner)
    | some (.array items) =>
      match throughArrays, items.getLast? with
      | true, some (.table inner) => do
        let inner ← modifyTable throughArrays change path inner
        return entries.set name (.array (items.dropLast ++ [.table inner]))
      | _, _ => .error .malformed
    | some _ => .error .malformed

/-- Adds a value under a name that is still free. -/
def addEntry (name : Text) (value : Data) (entries : Entries) : Except ReadError Entries :=
  match entries.lookup name with
  | none => .ok (entries.set name value)
  | some _ => .error .malformed

/-- Adds an empty table to the array under a name. -/
def addTable (name : Text) (entries : Entries) : Except ReadError Entries :=
  match entries.lookup name with
  | none => .ok (entries.set name (.array [.table []]))
  | some (.array items) => .ok (entries.set name (.array (items ++ [.table []])))
  | some _ => .error .malformed

/-- Whether a value is made up of others. -/
def isContainer : Data → Bool
  | .array _ => true
  | .table _ => true
  | _ => false

namespace Document

/-- The keys made so far count as declared. -/
def settle (document : Document) : Document :=
  { document with declared := document.pending ++ document.declared, pending := [] }

/-- The header of a table, which must be neither declared nor frozen. -/
def declareTable (document : Document) (key : Key) : Except ReadError Document :=
  if document.declared.contains key || isFrozen document.frozen key then .error .malformed
  else do
    let root ← modifyTable true .ok key document.root
    return { document with root, declared := key :: document.declared }

/-- The header of a table in an array. What was known of keys below it held of the table before. -/
def declareArrayTable (document : Document) (key : Key) : Except ReadError Document :=
  if isFrozen document.frozen key then .error .malformed
  else do
    let root ← modifyTable true (addTable (key.getLast?.getD [])) key.dropLast document.root
    return { document with
      root
      frozen := document.frozen.filter fun other => !key.isPrefixOf other
      declared := key :: document.declared.filter fun other => !key.isPrefixOf other }

/-- The keys of the tables that a dotted key passes below a header. -/
def passed (header key : Key) : List Key :=
  (List.range (key.length - 1)).map fun count => header ++ key.take (count + 1)

/-- A value under a key below a header. -/
def assign (document : Document) (header key : Key) (value : Data) : Except ReadError Document :=
  let parent := header ++ key.dropLast
  if (passed header key).any document.declared.contains || isFrozen document.frozen parent then
    .error .malformed
  else do
    let root ← modifyTable true (addEntry (key.getLast?.getD []) value) parent document.root
    return { document with
      root
      pending := passed header key ++ document.pending
      frozen := if isContainer value then (header ++ key) :: document.frozen else document.frozen }

end Document

end BatchScript.Toml
