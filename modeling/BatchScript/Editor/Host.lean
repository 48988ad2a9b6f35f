import BatchScript.Editor.SemanticTokens
import BatchScript.Hint.Completion

/-!
# Requests of an editor

A request is answered on top of a host, which is what keeps the documents and knows how the editor
counts. The answers use what the host gives them and nothing else. What a host is to do is stated
here as laws: that it counts in the code units of an encoding, and that it converts positions on the
lines of a document. Statements about the answers are made for every host that keeps the laws they
need.
-/
namespace BatchScript.Editor

/-- What keeps the documents of an editor and converts its positions. -/
structure Host where
  /-- The text of a document. -/
  document : Text → Except Error Text
  /-- The number of the editor's code units of a text. -/
  units : Text → Nat
  /-- The position in characters of an editor's position in a text. -/
  fromClient : Text → Position → Position
  /-- The editor's position of a position in characters in a text. -/
  toClient : Text → Position → Position

/-- A candidate as an editor shows it. -/
structure Item where
  /-- What is shown. -/
  label : Text
  /-- What is inserted. -/
  newText : Text
  /-- The key by which the items are sorted. -/
  sortText : Text
  /-- Where the replaced text starts. -/
  start : Position
  /-- Where the replaced text stops. -/
  stop : Position
  deriving DecidableEq, Repr

/-- The key by which the item of a rank is sorted. -/
def sortKey (rank : Nat) : Text := Text.padZeros 5 (Text.ofNat rank)

/-- The items for candidates that replace the text between two positions. -/
def itemsFrom (start stop : Position) (rank : Nat) : List Text → List Item
  | [] => []
  | candidate :: rest =>
    ⟨candidate, candidate, sortKey rank, start, stop⟩ :: itemsFrom start stop (rank + 1) rest

namespace Host

/-- The items at a position of a document, which is refused if no editor may name it. -/
def complete (host : Host) (store : Store) (nesting : Data.Nesting) (name : Text)
    (position : Position) : Except Error (Option (List Item) × List Log.Record) := do
  position.check
  let source ← host.document name
  let cursor := host.fromClient source position
  let (response, log) ← Hint.hint store (some (Hint.bufferWords Hint.defaultRange))
    ⟨source, cursor.line, cursor.column⟩ nesting
  let items := response.map fun response =>
    itemsFrom (host.toClient source ⟨response.line, response.start⟩)
      (host.toClient source ⟨response.line, response.stop⟩) 0 response.candidates
  return (items, log)

/-- The semantic tokens of a document. -/
def highlight (host : Host) (name : Text) : Except Error (List Int) :=
  return semanticTokens host.units (← host.document name)

/-- A host counts in the code units of an encoding. -/
structure Counts (host : Host) (encoding : Encoding) : Prop where
  /-- It counts them as the encoding does. -/
  units : ∀ text, host.units text = encoding.units text

end Host

/-- A column in characters of a line as an editor counts it, found for a column `c` in code units:
in front of it there are fewer units, and up to it there are enough if the line has enough. -/
structure FoundColumn (encoding : Encoding) (counted : Text) (c column : Nat) : Prop where
  /-- The column stands in the line. -/
  within : column ≤ counted.length
  /-- Every column in front of it has fewer units in front of it. -/
  before : ∀ k < column, encoding.units (counted.take k) < c
  /-- It has no fewer units in front of it, unless the whole line has fewer. -/
  reached : c ≤ encoding.units counted → c ≤ encoding.units (counted.take column)

/-- A host converts positions on the lines of a document, where columns count in the code units of
an encoding. -/
structure Host.Converts (host : Host) (encoding : Encoding) : Prop where
  /-- In a line, the column in characters is found that belongs to a column in code units. -/
  inside {source shown : Text} {l : Nat} : (documentLines source)[l]? = some shown → ∀ c : Nat,
    ∃ column : Nat, host.fromClient source ⟨l, c⟩ = ⟨l, column⟩ ∧
      FoundColumn encoding (countedLine shown) c column
  /-- Behind the last line it is the end of that line. -/
  behind {source last : Text} {l : Nat} : (documentLines source).getLast? = some last →
    (documentLines source).length ≤ l → ∀ c : Nat, host.fromClient source ⟨l, c⟩ =
      ⟨(documentLines source).length - 1, encoding.units last⟩
  /-- In a document without lines it is the start. -/
  empty {source : Text} : documentLines source = [] → ∀ position,
    host.fromClient source position = ⟨0, 0⟩
  /-- Back in code units, the column is what stands in front of it in the line. -/
  back {source shown : Text} {l : Nat} : (documentLines source)[l]? = some shown → ∀ column : Nat,
    host.toClient source ⟨l, column⟩ = ⟨l, encoding.units (shown.take column)⟩

end BatchScript.Editor
