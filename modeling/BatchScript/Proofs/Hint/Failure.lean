import BatchScript.Proofs.Data.Json.Limits
import BatchScript.Proofs.Hint.BufferWords
import BatchScript.Proofs.Hint.Response
import BatchScript.Proofs.Settings.StoredNames

/-!
# When a hint fails

Nothing but the text of the stored commands can make a hint fail, and only by going beyond a limit
of the reader while there is a token to complete. The words of the buffer can always be had there,
since the column is not negative. Every other text is used as far as it can be: one that is no array
adds nothing, and an array adds its texts.

How deep brackets may be nested is not fixed. The room for them may be another one for every text,
so everything is said for any amount of room. Of an array with strings that are no texts it is only
said that its texts are added: what else it adds is not modelled.
-/
namespace BatchScript.Hint

/-- The report of a text of stored commands that goes beyond a limit of the reader, where `depth`
brackets may be open at a time. -/
inductive BeyondLimit (depth : Nat) (raw : Text) : Error → Prop
  /-- An integer has too many digits. -/
  | digits {count : Nat} (refused : Json.read depth raw = .error (.numeralTooLong count)) :
    BeyondLimit depth raw (.numeralTooLong count)
  /-- Values are nested too deeply. -/
  | depth {occasion : Text} (refused : Json.read depth raw = .error (.tooDeep occasion)) :
    BeyondLimit depth raw (.tooDeep occasion)

/-- The names that a text of stored commands adds, where `depth` brackets may be open at a time. -/
inductive Adds (depth : Nat) (raw : Text) : List Text → Prop
  /-- A text that cannot be read adds nothing. -/
  | malformed (refused : Json.read depth raw = .error .malformed) : Adds depth raw []
  /-- A value that is no array adds nothing. -/
  | noArray {value : Data} (read : Json.read depth raw = .ok value)
    (other : ∀ items, value ≠ .array items) : Adds depth raw []
  /-- An array adds those of its items that are texts, if every string in it is one. -/
  | array {items : List Data} (read : Json.read depth raw = .ok (.array items))
    (paired : ∀ codes, .unpaired codes ∉ items) : Adds depth raw (items.filterMap Data.string?)

/-- Whether the cursor stands behind a character of its line. -/
def Request.BehindCharacter (request : Request) : Prop :=
  0 ≤ request.line ∧ 0 < request.column ∧
    ∃ line, request.text.lines[request.line.toNat]? = some line ∧ line ≠ []

/-- Whether two stores give the same answer, whatever there is to log. -/
def SameAnswer (first second : Store) (source : Option WordSource) (request : Request)
    (nesting : Data.Nesting) : Prop :=
  ∃ response log others, hint first source request nesting = .ok (response, log) ∧
    hint second source request nesting = .ok (response, others)

variable {store other : Store} {token : Token} {request : Request} {nesting : Data.Nesting}
  {cause : Error}

/-- Whatever can be read, the empty text cannot. -/
theorem read_empty (depth : Nat) : Json.read depth [] = .error .malformed := rfl

/-- The stored commands cannot be had exactly if their text goes beyond a limit. -/
theorem customCommands_eq_error_iff :
    customCommands store nesting = .error cause ↔
      BeyondLimit nesting.json (store.customCommands.getD []) cause := by
  rw [customCommands]
  generalize store.customCommands.getD [] = raw
  constructor
  · intro failed
    split at failed
    case h_1 => contradiction
    case h_2 =>
      split at failed
      case h_4 count refused =>
        cases failed
        exact .digits refused
      case h_5 occasion refused =>
        cases failed
        exact .depth refused
      all_goals contradiction
  · intro beyond
    cases raw with
    | nil =>
      cases beyond with
      | digits refused => exact absurd ((read_empty _).symm.trans refused) (by simp)
      | depth refused => exact absurd ((read_empty _).symm.trans refused) (by simp)
    | cons c cs =>
      cases beyond with
      | digits refused => simp only [refused]
      | depth refused => simp only [refused]

/-- The stored commands in an array are its texts, whatever else it holds. -/
theorem customCommands_of_array {items : List Data}
    (read : Json.read nesting.json (store.customCommands.getD []) = .ok (.array items)) :
    customCommands store nesting = .ok (items.filterMap Data.string?, []) := by
  rw [customCommands]
  generalize store.customCommands.getD [] = raw at read
  cases raw with
  | nil => exact absurd ((read_empty _).symm.trans read) (by simp)
  | cons c cs => simp only [read]

/-- The stored commands are the names that their text adds. -/
theorem customCommands_of_adds {names : List Text}
    (adds : Adds nesting.json (store.customCommands.getD []) names) :
    ∃ warnings, customCommands store nesting = .ok (names, warnings) := by
  cases adds with
  | array read => exact ⟨[], customCommands_of_array read⟩
  | malformed refused =>
    rw [customCommands]
    generalize store.customCommands.getD [] = raw at refused
    cases raw with
    | nil => exact ⟨_, rfl⟩
    | cons c cs =>
      simp only [refused]
      exact ⟨_, rfl⟩
  | noArray read other =>
    rw [customCommands]
    generalize store.customCommands.getD [] = raw at read
    cases raw with
    | nil => exact ⟨_, rfl⟩
    | cons c cs =>
      simp only [read]
      exact ⟨_, rfl⟩

/-- Where the cursor stands behind no character there is no answer. -/
theorem hint_of_not_behind (apart : ¬ request.BehindCharacter) (store : Store)
    (source : Option WordSource) : hint store source request nesting = .ok (none, []) := by
  by_cases outside : request.line < 0 ∨ request.text.lines.length ≤ request.line
  · exact hint_outside store source outside
  · obtain ⟨above, below⟩ := not_or.1 outside
    obtain ⟨line, found⟩ : ∃ line, request.text.lines[request.line.toNat]? = some line :=
      ⟨_, List.getElem?_eq_getElem (by omega)⟩
    obtain ⟨stack, completed, -⟩ := hint_inside store source (Int.not_lt.1 above) found
    by_cases reached : line = [] ∨ request.column ≤ 0
    · rw [completed, Lexer.tokenAt_eq_empty stack reached]
      exact complete_of_empty rfl
    · obtain ⟨filled, column⟩ := not_or.1 reached
      exact absurd ⟨Int.not_lt.1 above, Int.not_le.1 column, line, found, filled⟩ apart

/-- Where the cursor stands behind a character a token is completed that is not empty, and the words
of the buffer can be had. -/
theorem completes_of_behind (behind : request.BehindCharacter) (range : Int) :
    ∃ token words, token.text ≠ [] ∧ bufferWords range request = .ok words ∧
      ∀ store source nesting,
        hint store source request nesting = complete store source token request nesting := by
  obtain ⟨above, ahead, line, found, filled⟩ := behind
  obtain ⟨stack, completes, -⟩ := completes_inside above found
  obtain ⟨words, given, -⟩ := bufferWords_of_column range above found (Int.le_of_lt ahead)
  exact ⟨_, words, (Lexer.within_tokenAt stack ahead filled).nonempty, given, completes⟩

/-- The completion of a token that is not empty fails if the stored commands cannot be had. -/
theorem complete_of_error (source : Option WordSource) (nonempty : token.text ≠ [])
    (failed : customCommands store nesting = .error cause) :
    complete store source token request nesting = .error cause := by
  have filled : token.text.isEmpty = false := by
    rw [List.isEmpty_eq_false_iff]
    exact nonempty
  simp only [complete, filled, failed]
  rfl

/-- Where further words can be had, the completion of a token that is not empty fails exactly if the
stored commands cannot be had, and then for that cause. -/
theorem complete_eq_error_iff {source : WordSource} {words : List Text} (nonempty : token.text ≠ [])
    (given : source request = .ok words) :
    complete store (some source) token request nesting = .error cause ↔
      customCommands store nesting = .error cause := by
  constructor
  · intro failed
    cases stored : customCommands store nesting with
    | error reason =>
      have same := (complete_of_error (some source) nonempty stored).symm.trans failed
      exact congrArg Except.error (Except.error.inj same)
    | ok names =>
      have further : ∀ asked ∈ some source, ∃ found, asked request = .ok found := by
        rintro _ ⟨⟩
        exact ⟨words, given⟩
      obtain ⟨answer, log, completed⟩ := complete_of_nonempty nonempty ⟨names, stored⟩ further
      rw [completed] at failed
      contradiction
  · exact complete_of_error _ nonempty

/-- Stores with the same names give the same answer. -/
theorem sameAnswer_of_names {names : List Text} {warnings others : List Log.Record}
    (first : customCommands store nesting = .ok (names, warnings))
    (second : customCommands other nesting = .ok (names, others))
    (specials : other.specialVariables = store.specialVariables) (range : Int) (request : Request) :
    SameAnswer store other (some (bufferWords range)) request nesting := by
  by_cases behind : request.BehindCharacter
  · obtain ⟨token, words, nonempty, given, completes⟩ := completes_of_behind behind range
    have further : GivesWords (some (bufferWords range)) request words := given
    have same : specialVariables other = specialVariables store := by
      rw [specialVariables, specials]
      rfl
    obtain ⟨log, answered⟩ := complete_eq_answer nonempty first further
    obtain ⟨records, repeated⟩ := complete_eq_answer nonempty second further
    rw [same] at repeated
    exact ⟨_, log, records, (completes _ _ _).trans answered, (completes _ _ _).trans repeated⟩
  · exact ⟨none, [], [], hint_of_not_behind behind _ _, hint_of_not_behind behind _ _⟩

/-- With the words of the buffer, and with any room for brackets, a hint fails exactly where the
cursor stands behind a character and the text of the stored commands goes beyond a limit, which
takes more digits in a row than an integer may have or more opened brackets than there is room for.
Otherwise it is given or given up. A text that adds no names counts for none, any other for the
names that it adds. Whatever else an array holds, a text is among its names exactly if it is one of
its items. -/
theorem hint_fails_only_beyond_limits (store : Store) (range : Int) (request : Request)
    (nesting : Data.Nesting) :
    let raw := store.customCommands.getD []
    let source : Option WordSource := some (bufferWords range)
    (∀ cause, hint store source request nesting = .error cause ↔
      request.BehindCharacter ∧ BeyondLimit nesting.json raw cause) ∧
    ((∀ run, run <:+: raw → (∀ c ∈ run, c.isDigit = true) → run.length ≤ Numeral.maxDigits) →
      raw.countP Json.opensBracket ≤ nesting.json →
      ∃ response log, hint store source request nesting = .ok (response, log)) ∧
    (Adds nesting.json raw [] →
      SameAnswer store ⟨none, store.specialVariables⟩ source request nesting) ∧
    (∀ names, Adds nesting.json raw names →
      SameAnswer store ⟨some (Json.writeStrings names), store.specialVariables⟩ source request
        nesting) ∧
    ∀ items, Json.read nesting.json raw = .ok (.array items) →
      ∃ names, customCommands store nesting = .ok (names, []) ∧
        ∀ name, name ∈ names ↔ .string name ∈ items := by
  intro raw source
  have fails : ∀ cause, hint store source request nesting = .error cause ↔
      request.BehindCharacter ∧ BeyondLimit nesting.json raw cause := by
    intro cause
    by_cases behind : request.BehindCharacter
    · obtain ⟨token, words, nonempty, given, completes⟩ := completes_of_behind behind range
      rw [completes, complete_eq_error_iff nonempty given, customCommands_eq_error_iff]
      exact ⟨fun beyond => ⟨behind, beyond⟩, And.right⟩
    · rw [hint_of_not_behind behind]
      simp [behind]
  refine ⟨fails, fun digits brackets => ?_, fun adds => ?_, fun names adds => ?_,
    fun items read => ?_⟩
  · cases hinted : hint store source request nesting with
    | ok result => exact ⟨result.1, result.2, rfl⟩
    | error cause =>
      -- Nothing else lets a hint fail, and a text within the limits is not refused for them.
      obtain ⟨-, beyond⟩ := (fails cause).1 hinted
      have fits := Json.read_within_limits digits brackets
      cases beyond with
      | digits refused => simp [raw, refused] at fits
      | depth refused => simp [raw, refused] at fits
  · obtain ⟨warnings, stored⟩ := customCommands_of_adds adds
    have absent : customCommands ⟨none, store.specialVariables⟩ nesting = .ok ([], []) := rfl
    exact sameAnswer_of_names stored absent rfl range request
  · obtain ⟨warnings, stored⟩ := customCommands_of_adds adds
    have kept := Settings.customCommands_writeStrings names store.specialVariables nesting
    exact sameAnswer_of_names stored kept rfl range request
  · exact ⟨_, customCommands_of_array read, fun name => Data.mem_filterMap_string?_iff⟩

/-- Stored commands that are no JSON leave the answer as it is without them. -/
theorem hint_fails_only_beyond_limits_malformed :
    let raw : Text := "echt, echo1".toList
    let store : Store := ⟨some raw, none⟩
    let source : Option WordSource := some (bufferWords defaultRange)
    let request : Request := ⟨"ech".toList, 0, 3⟩
    let nesting : Data.Nesting := .usual
    request.BehindCharacter ∧ Adds nesting.json raw [] ∧
      (∀ run, run <:+: raw → (∀ c ∈ run, c.isDigit = true) → run.length ≤ Numeral.maxDigits) ∧
      raw.countP Json.opensBracket ≤ nesting.json ∧
      (∃ response log, hint store source request nesting = .ok (response, log)) ∧
      SameAnswer store ⟨none, none⟩ source request nesting ∧
      SameAnswer store ⟨some (Json.writeStrings []), none⟩ source request nesting := by
  intro raw store source request nesting
  have behind : request.BehindCharacter := ⟨by decide, by decide, "ech".toList, rfl, by decide⟩
  have refused : ∀ steps depth, Json.readValue (steps + 1) depth raw = .error .malformed :=
    fun _ _ => rfl
  have adds : Adds nesting.json raw [] := by
    refine .malformed ?_
    change (Json.readValue (2 * raw.length + 2) nesting.json raw >>= _) = _
    rw [refused]
    rfl
  have few : ∀ run, run <:+: raw → (∀ c ∈ run, c.isDigit = true) →
      run.length ≤ Numeral.maxDigits :=
    fun run inside _ => Nat.le_trans inside.length_le (by decide)
  obtain ⟨-, returns, absent, written, -⟩ :=
    hint_fails_only_beyond_limits store defaultRange request nesting
  exact ⟨behind, adds, few, by decide, returns few (by decide), absent adds, written [] adds⟩

/-- A hint fails if the stored commands hold an integer with one digit more than an integer may
have. -/
theorem hint_fails_at_long_integer :
    hint ⟨some ('[' :: '1' :: (List.replicate 4300 '1' ++ [']'])), none⟩
      (some (bufferWords defaultRange)) ⟨"ech".toList, 0, 3⟩ = .error (.numeralTooLong 4301) := by
  have behind : Request.BehindCharacter ⟨"ech".toList, 0, 3⟩ :=
    ⟨by decide, by decide, "ech".toList, rfl, by decide⟩
  obtain ⟨token, words, nonempty, given, completes⟩ := completes_of_behind behind defaultRange
  have long : Numeral.maxDigits < 4300 + 1 := by decide
  rw [completes, complete_eq_error_iff nonempty given, customCommands_eq_error_iff]
  exact .digits
    (Json.read_array_of_refused Data.Nesting.usual.json_pos (Json.readUnsigned_ones long))

end BatchScript.Hint
