import BatchScript.Text.Quoted

/-!
# Hint store

The names that a user adds to the vocabulary are kept as two raw texts: the commands as a JSON array
and the special variables with commas between them.
-/
namespace BatchScript

/-- The raw texts of the added names. -/
structure Store where
  /-- The custom commands. -/
  customCommands : Option Text
  /-- The special variables. -/
  specialVariables : Option Text
  deriving DecidableEq, Repr

namespace Store

/-- The store without names. -/
def empty : Store := ⟨none, none⟩

/-- The texts that are present, by their keys. -/
def entries (store : Store) : List (Text × Text) :=
  (store.customCommands.map ("customCommands".toList, ·)).toList ++
    (store.specialVariables.map ("specialVariables".toList, ·)).toList

/-- The store in one line for the log. -/
def describe (store : Store) : Text :=
  let entries := store.entries.map fun (key, value) => key.quoted ++ ": ".toList ++ value.quoted
  "MemoryStore(\x7b".toList ++ Text.join ", ".toList entries ++ "\x7d)".toList

end Store

end BatchScript
