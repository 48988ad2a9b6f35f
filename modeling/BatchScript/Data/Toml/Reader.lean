import BatchScript.Data.Toml.Document
import BatchScript.Data.Toml.Scalar

/-!
# Reading TOML

Reads a TOML document statement by statement. What is wrong first is reported: a text that does not
follow the notation, an integer with too many digits, or a bracket inside of too many others.

Nested values are read with an allowance for the number of steps. A value that opens a bracket takes
two steps and any other one, so twice the length of the text is always enough.
-/
namespace BatchScript.Toml

open Data (ReadError Entries)

/-- The state of an inline table: its entries and the keys that are frozen in it. -/
structure Inline where
  /-- The entries so far. -/
  entries : Entries
  /-- Keys whose values cannot be changed. -/
  frozen : List Key

/-- Adds an entry to an inline table. -/
def Inline.add (table : Inline) (key : Key) (value : Data) : Except ReadError Inline :=
  if isFrozen table.frozen key then .error .malformed
  else do
    let entries ← modifyTable false (addEntry (key.getLast?.getD []) value)
      key.dropLast table.entries
    return ⟨entries, if isContainer value then key :: table.frozen else table.frozen⟩

/-- The number of levels of an array. -/
def arrayLevels : Nat := 2

/-- The number of levels of an inline table: one more than that of an array, for its key. -/
def tableLevels : Nat := 3

mutual

/-- Reads a value whose open brackets may take up `levels`. -/
def readValue : Nat → Nat → Text → Except ReadError (Data × Text)
  | 0, _, _ => .error .malformed
  | steps + 1, levels, text =>
    match text with
    | '"' :: _ | '\'' :: _ => do
      let (value, rest) ← readString text
      return (.string value, rest)
    | '[' :: rest => do
      if levels < arrayLevels then throw (.tooDeep [])
      let (items, rest) ← readItems steps (levels - arrayLevels) rest
      return (.array items, rest)
    | '{' :: rest =>
      if levels < tableLevels then .error (.tooDeep [])
      else
        match skipSpaces rest with
        | '}' :: rest => .ok (.table [], rest)
        | rest => do
          let (entries, rest) ← readInline steps (levels - tableLevels) ⟨[], []⟩ rest
          return (.table entries, rest)
    | _ => readScalar text

/-- Reads the items of an array from where the next one may begin, and its closing bracket. -/
def readItems : Nat → Nat → Text → Except ReadError (List Data × Text)
  | 0, _, _ => .error .malformed
  | steps + 1, levels, text => do
    match ← skipLayout false text with
    | ']' :: rest => return ([], rest)
    | rest =>
      let (item, rest) ← readValue steps levels rest
      match ← skipLayout false rest with
      | ']' :: rest => return ([item], rest)
      | ',' :: rest =>
        let (items, rest) ← readItems steps levels rest
        return (item :: items, rest)
      | _ => throw .malformed

/-- Reads the entries of an inline table and its closing brace. -/
def readInline : Nat → Nat → Inline → Text → Except ReadError (Entries × Text)
  | 0, _, _, _ => .error .malformed
  | steps + 1, levels, table, text => do
    let (key, rest) ← readKey text
    match rest with
    | '=' :: rest =>
      let (value, rest) ← readValue steps levels (skipSpaces rest)
      let table ← table.add key value
      match skipSpaces rest with
      | '}' :: rest => return (table.entries, rest)
      | ',' :: rest => readInline steps levels table (skipSpaces rest)
      | _ => throw .malformed
    | _ => throw .malformed

end

/-- Reads a key, an equals sign and a value whose open brackets may take up `levels`. -/
def readAssignment (levels : Nat) (text : Text) : Except ReadError (Key × Data × Text) := do
  let (key, rest) ← readKey text
  match rest with
  | '=' :: rest =>
    let (value, rest) ← readValue (2 * rest.length + 2) levels (skipSpaces rest)
    return (key, value, rest)
  | _ => throw .malformed

/-- Reads one statement: the header of a table, or a key with its value. Gives the document, the
header in force and the text behind the statement. -/
def readStatement (levels : Nat) (document : Document) (header : Key) (text : Text) :
    Except ReadError (Document × Key × Text) :=
  match text with
  | '[' :: '[' :: rest => do
    let (key, rest) ← readKey (skipSpaces rest)
    let document ← document.settle.declareArrayTable key
    match rest with
    | ']' :: ']' :: rest => return (document, key, rest)
    | _ => throw .malformed
  | '[' :: rest => do
    let (key, rest) ← readKey (skipSpaces rest)
    let document ← document.settle.declareTable key
    match rest with
    | ']' :: rest => return (document, key, rest)
    | _ => throw .malformed
  | '#' :: _ => .ok (document, header, text)
  | _ => do
    let (key, value, rest) ← readAssignment levels text
    return (← document.assign header key value, header, rest)

/-- Reads statements line by line, in at most a number of steps. -/
def readStatements (levels : Nat) : Nat → Document → Key → Text → Except ReadError Document
  | 0, _, _, _ => .error .malformed
  | steps + 1, document, header, text =>
    match skipSpaces text with
    | [] => .ok document
    | '\n' :: rest => readStatements levels steps document header rest
    | text => do
      let (document, header, rest) ← readStatement levels document header text
      match ← skipComment (skipSpaces rest) with
      | [] => return document
      | '\n' :: rest => readStatements levels steps document header rest
      | _ => throw .malformed

/-- The text with a carriage return in front of a line feed dropped. -/
def dropReturns : Text → Text
  | [] => []
  | '\r' :: '\n' :: rest => '\n' :: dropReturns rest
  | c :: rest => c :: dropReturns rest

/-- Reads a document in whose values open brackets may take up `levels`. Each statement but the last
has a line feed behind it, so there are at most as many steps as characters and one more. -/
def read (levels : Nat) (text : Text) : Except ReadError Entries := do
  let document ← readStatements levels (text.length + 1) .empty [] (dropReturns text)
  return document.root

end BatchScript.Toml
