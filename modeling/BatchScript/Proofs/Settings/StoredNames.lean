import BatchScript.Hint.Completion
import BatchScript.Proofs.Data.Json.RoundTrip
import BatchScript.Proofs.Text.Lines
import BatchScript.Settings

/-!
# Names in the store

The names of a configuration, or of an editor's options, pass through the raw texts of the store.
The custom commands are written there as JSON and are read back from it as they were, with nothing
to warn about, whatever special variables stand beside them. The special variables are written with
commas between them, so a comma in a name cuts it in two, and the empty name alone leaves an empty
text, which stands for no names. Every other list is read back as it was.
-/
namespace BatchScript

/-- An array of strings holds their texts. -/
theorem Data.strings?_array (names : List Text) :
    (Data.array (names.map .string)).strings? = some names := by
  rw [Data.strings?]
  induction names with
  | nil => rfl
  | cons name names ih =>
    rw [List.map_cons, List.mapM_cons, ih]
    rfl

namespace Settings

/-- The values that special variables may have: none at all, one text, or a list of texts. -/
inductive AcceptableVariables : Data → Prop
  /-- No value. -/
  | absent : AcceptableVariables .null
  /-- The names in one text. -/
  | text (names : Text) : AcceptableVariables (.string names)
  /-- The names one by one. -/
  | list (names : List Text) : AcceptableVariables (.array (names.map .string))

/-- Acceptable special variables can be kept in the store, the same way under every key. -/
theorem variablesText_of_acceptable {value : Data} (acceptable : AcceptableVariables value) :
    ∃ kept, ∀ (entries : Data.Entries) (key : Text), entries.lookup key = some value →
      variablesText (value? entries key) = .ok kept := by
  cases acceptable with
  | absent =>
    refine ⟨none, fun entries key found => ?_⟩
    rw [value?, found]
    rfl
  | text names =>
    refine ⟨some names, fun entries key found => ?_⟩
    rw [value?, found]
    rfl
  | list names =>
    refine ⟨some (Text.join [','] names), fun entries key found => ?_⟩
    simp only [value?, found, variablesText, Data.strings?_array]

/-- Custom commands that were written to the store are read back from it. -/
theorem customCommands_writeStrings (names : List Text) (kept : Option Text)
    (nesting : Data.Nesting) :
    Hint.customCommands ⟨some (Json.writeStrings names), kept⟩ nesting = .ok (names, []) := by
  have texts : (names.map Data.string).filterMap Data.string? = names := by
    rw [List.filterMap_map]
    exact List.filterMap_some
  -- The text of an array starts with its bracket, so it is not empty and is read.
  obtain ⟨rest, bracket⟩ : ∃ rest, Json.writeStrings names = '[' :: rest := ⟨_, rfl⟩
  have read := Json.read_writeStrings nesting.json_pos names
  rw [bracket] at read ⊢
  simp only [Hint.customCommands, Option.getD_some, read, texts]

/-- Names of custom commands make up a store beside special variables that can be kept. -/
theorem storeOf_names (names : List Text) {specials : Option Data} {kept : Option Text}
    (keeps : variablesText specials = .ok kept) :
    storeOf (some (.array (names.map .string))) specials =
      .ok ⟨some (Json.writeStrings names), kept⟩ := by
  have written : commandsText (some (.array (names.map .string))) =
      .ok (some (Json.writeStrings names)) := by
    simp only [commandsText, Data.strings?_array]
  rw [storeOf, written, keeps]
  rfl

/-- Whatever texts the custom commands are, and whatever acceptable special variables stand beside
them, a configuration and an editor's options make up the same store without a warning, and this
store gives the custom commands back, in order and without a warning. -/
theorem custom_commands_survive_store (names : List Text) (specials : Data)
    (acceptable : AcceptableVariables specials) (nesting : Data.Nesting) :
    ∃ stored,
      store [("hint".toList, .table [("custom_commands".toList, .array (names.map .string)),
        ("special_variables".toList, specials)])] = .ok stored ∧
      storeOfOptions (.table [("customCommands".toList, .array (names.map .string)),
        ("specialVariables".toList, specials)]) = (stored, []) ∧
      Hint.customCommands stored nesting = .ok (names, []) := by
  obtain ⟨kept, keeps⟩ := variablesText_of_acceptable acceptable
  have made := storeOf_names names (keeps
    [("custom_commands".toList, .array (names.map .string)), ("special_variables".toList, specials)]
    "special_variables".toList rfl)
  have chosen := storeOf_names names (keeps
    [("customCommands".toList, .array (names.map .string)), ("specialVariables".toList, specials)]
    "specialVariables".toList rfl)
  refine ⟨_, made, ?_, customCommands_writeStrings names kept nesting⟩
  simp only [storeOfOptions]
  rw [show value? _ "customCommands".toList = some (.array (names.map .string)) from rfl, chosen]

/-- A quote, a backslash, a control character and a character beyond four hexadecimal digits survive
the store beside a list of special variables. -/
theorem custom_commands_survive_store_escaped :
    let names : List Text := ["a\"b\\c\x01".toList, "😀".toList, []]
    let specials : Data := .array (["%~dp0".toList, "%~nx1".toList].map .string)
    Json.writeStrings names = "[\"a\\\"b\\\\c\\u0001\", \"\\ud83d\\ude00\", \"\"]".toList ∧
      AcceptableVariables specials ∧
      ∃ stored,
        store [("hint".toList, .table [("custom_commands".toList, .array (names.map .string)),
          ("special_variables".toList, specials)])] = .ok stored ∧
        storeOfOptions (.table [("customCommands".toList, .array (names.map .string)),
          ("specialVariables".toList, specials)]) = (stored, []) ∧
        Hint.customCommands stored = .ok (names, []) :=
  ⟨by decide +kernel, .list _, custom_commands_survive_store _ _ (.list _) .usual⟩

/-- Special variables that were written to the store with commas between them are read back from it
exactly if no name holds a comma and the list is not that of the empty name alone. -/
theorem specialVariables_join_eq_iff (names : List Text) (kept : Option Text) :
    Hint.specialVariables ⟨kept, some (Text.join [','] names)⟩ = names ↔
      (∀ name ∈ names, ',' ∉ name) ∧ names ≠ [[]] := by
  by_cases empty : Text.join [','] names = []
  · -- An empty text stands for no names at all.
    have none : Hint.specialVariables ⟨kept, some (Text.join [','] names)⟩ = [] := by
      rw [empty]
      rfl
    rw [none]
    rcases Text.join_eq_nil_iff.1 empty with rfl | rfl
    · simp
    · simp
  · obtain ⟨absent, alone⟩ := not_or.1 (mt Text.join_eq_nil_iff.2 empty)
    have cut : Hint.specialVariables ⟨kept, some (Text.join [','] names)⟩ =
        (Text.join [','] names).split ',' := by
      obtain ⟨c, cs, filled⟩ := List.exists_cons_of_ne_nil empty
      rw [filled]
      rfl
    rw [cut, Text.split_join_eq_iff absent]
    exact ⟨fun without => ⟨without, alone⟩, And.left⟩

/-- Whatever texts the special variables are, a configuration that lists them makes up a store, and
this store gives them back exactly if no name holds a comma and the list is not that of the empty
name alone. -/
theorem special_variables_survive_store_iff (names : List Text) :
    ∃ stored,
      store [("hint".toList,
        .table [("special_variables".toList, .array (names.map .string))])] = .ok stored ∧
      (Hint.specialVariables stored = names ↔ (∀ name ∈ names, ',' ∉ name) ∧ names ≠ [[]]) := by
  have written : variablesText (some (.array (names.map .string))) =
      .ok (some (Text.join [','] names)) := by
    simp only [variablesText, Data.strings?_array]
  have made : store [("hint".toList,
      .table [("special_variables".toList, .array (names.map .string))])] =
      .ok ⟨none, some (Text.join [','] names)⟩ := by
    change storeOf none (some (.array (names.map .string))) = _
    rw [storeOf, written]
    rfl
  exact ⟨_, made, specialVariables_join_eq_iff names none⟩

end Settings

end BatchScript
