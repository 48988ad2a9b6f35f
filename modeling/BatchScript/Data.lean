import BatchScript.Data.Binary64
import BatchScript.Data.Moment

/-!
# Structured data

The values that configuration files and client options are made of. Tables keep their entries in the
order in which they came.
-/
namespace BatchScript

/-- A structured value. -/
inductive Data where
  /-- The absence of a value. -/
  | null
  /-- A truth value. -/
  | boolean (value : Bool)
  /-- An integer of any size. -/
  | integer (value : Int)
  /-- A floating-point number. -/
  | float (value : Binary64)
  /-- A date or a time. -/
  | moment (value : Moment)
  /-- A text. -/
  | string (value : Text)
  /-- A string in which half of a surrogate pair stands alone, by its code points: it is no text. -/
  | unpaired (codes : List Nat)
  /-- A list of values. -/
  | array (items : List Data)
  /-- Values by their keys. -/
  | table (entries : List (Text × Data))
  deriving Inhabited, Repr

namespace Data

/-- The entries of a table. -/
abbrev Entries := List (Text × Data)

/-- The entries with a value set under a key: in place of the old one, or behind all others. -/
def Entries.set (key : Text) (value : Data) : Entries → Entries
  | [] => [(key, value)]
  | (other, old) :: rest =>
    if other = key then (key, value) :: rest else (other, old) :: Entries.set key value rest

/-- The text of a string. A string in which half of a surrogate pair stands alone has none. -/
def string? : Data → Option Text
  | .string value => some value
  | _ => none

/-- The texts among some values are those of the strings that have one. -/
theorem mem_filterMap_string?_iff {items : List Data} {text : Text} :
    text ∈ items.filterMap string? ↔ .string text ∈ items := by
  rw [List.mem_filterMap]
  constructor
  · rintro ⟨item, inside, found⟩
    cases item with
    | string value =>
      obtain rfl := Option.some.inj found
      exact inside
    | _ => contradiction
  · exact fun inside => ⟨.string text, inside, rfl⟩

/-- The texts of an array that holds strings only. -/
def strings? : Data → Option (List Text)
  | .array items => items.mapM string?
  | _ => none

/-- How far a reader may go into nested values before it runs out of room. How much room there is
depends on what is taken up already when it starts and on what stands innermost, so it is a
parameter of every reader, and what is said about nested values is said for all such numbers. -/
structure Nesting where
  /-- The number of brackets that may be open at a time in JSON. -/
  json : Nat
  /-- The number of levels that open brackets may take up in TOML. -/
  toml : Nat
  /-- There is room for a list of names. -/
  json_pos : 0 < json
  deriving DecidableEq, Repr

/-- The room for short texts in a program that has just been started. -/
def Nesting.usual : Nesting := ⟨990, 988, by decide⟩

/-- Why a notation of data could not be read. -/
inductive ReadError where
  /-- The text does not follow the notation. -/
  | malformed
  /-- A decimal integer has too many digits. -/
  | numeralTooLong (digits : Nat)
  /-- Values are nested too deeply; `occasion` says what was being read. -/
  | tooDeep (occasion : Text)
  deriving DecidableEq, Repr

end Data

end BatchScript
