import BatchScript.Proofs.Hint.FirstOccurrences
import BatchScript.Proofs.Hint.Response
import BatchScript.Proofs.Settings.StoredNames
import BatchScript.Proofs.Text.Upper
import Mathlib.Data.List.Nodup

/-!
# What is offered for a token

The candidates are three lists one behind the other: the words of the vocabulary and the custom
commands, the special variables, and the further words. The first and the third offer every word
once and have none in common; the second keeps its repetitions. A custom command that starts with
the typed text is among them wherever the typed text is as long in upper case as it is itself.
Otherwise fewer characters of the command are compared than the typed text has in upper case, and
the command is only offered if it is found elsewhere.
-/
namespace BatchScript.Hint

/-- Adding special variables one after the other puts those behind the candidates whose names start
with the typed text. -/
theorem addVariables_eq_append (typed : Text) (candidates names : List Text) :
    addVariables typed candidates names =
      candidates ++ names.filter (matchesTyped typed sigilLength) := by
  rw [addVariables]
  induction names generalizing candidates with
  | nil => exact (List.append_nil candidates).symm
  | cons name names ih =>
    rw [List.foldl_cons, ih]
    by_cases starts : matchesTyped typed sigilLength name = true
    · rw [if_pos starts, List.filter_cons_of_pos starts, List.append_assoc, List.singleton_append]
    · rw [if_neg starts, List.filter_cons_of_neg starts]

/-- The known candidates are the words of the vocabulary and the custom commands that start with the
typed text, where they occur first, and behind them all special variables whose names start with
it. -/
theorem firstOccurrences_knownCandidates (typed : Text) (commands specials : List Text) :
    ∃ vocabulary, knownCandidates typed commands specials = vocabulary ++
        specials.filter (fun name => (name.upper.drop 2).take typed.length == typed.upper) ∧
      FirstOccurrences
        ((Vocabulary.atoms ++ Vocabulary.keywords ++ Vocabulary.commands ++ commands).filter
          fun word => word.upper.take typed.length == typed.upper) vocabulary := by
  have gathered : addCommands typed []
      (Vocabulary.atoms ++ Vocabulary.keywords ++ Vocabulary.commands ++ commands) =
      ((Vocabulary.atoms ++ Vocabulary.keywords ++ Vocabulary.commands ++ commands).filter
        (matchesTyped typed 0)).foldl addNew [] := by
    rw [List.foldl_filter]
    rfl
  refine ⟨_, addVariables_eq_append typed _ specials, ?_⟩
  rw [gathered]
  exact firstOccurrences_gathered _

/-- The added words are those that are not among the candidates, where they occur first. -/
theorem firstOccurrences_addWords (candidates words : List Text) :
    ∃ further, addWords candidates words = candidates ++ further ∧
      FirstOccurrences (words.filter fun word => word ∉ candidates) further :=
  firstOccurrences_foldl_addNew candidates words

/-- With words added, the candidates and all of the words are offered. -/
theorem mem_addWords_iff {candidates words : List Text} {word : Text} :
    word ∈ addWords candidates words ↔ word ∈ candidates ∨ word ∈ words := by
  obtain ⟨further, whole, first⟩ := firstOccurrences_addWords candidates words
  rw [whole, List.mem_append, first.same, List.mem_filter, decide_eq_true_iff]
  by_cases known : word ∈ candidates
  · simp [known]
  · simp [known]

/-- A list with its middle left out has as many of everything that is not in the middle. -/
theorem count_without_middle {front middle rest : List Text} {text : Text}
    (outside : text ∉ middle) :
    (front ++ middle ++ rest).count text = (front ++ rest).count text := by
  rw [List.count_append, List.count_append, List.count_eq_zero.2 outside, List.count_append,
    Nat.add_zero]

/-- The candidates for a token that is not empty are three lists one behind the other: the words of
the vocabulary and the custom commands that start with the typed text, each where it occurs first;
all special variables whose names start with it behind their first two characters; and the further
words that are in neither, each where it occurs first. So the first and the last have nothing in
common and no repetition, every further word is offered, and only a special variable can be offered
more than once. -/
theorem candidates_in_three_parts (store : Store) (source : Option WordSource) (token : Token)
    (request : Request) (nesting : Data.Nesting) (commands words : List Text)
    (warnings : List Log.Record) (nonempty : token.text ≠ [])
    (stored : customCommands store nesting = .ok (commands, warnings))
    (given : GivesWords source request words) :
    ∃ answer log vocabulary specials further,
      complete store source token request nesting = .ok (some answer, log) ∧
      answer.candidates = vocabulary ++ specials ++ further ∧
      FirstOccurrences
        ((Vocabulary.atoms ++ Vocabulary.keywords ++ Vocabulary.commands ++ commands).filter
          fun word => word.upper.take token.text.length == token.text.upper) vocabulary ∧
      specials = (specialVariables store).filter
        (fun name => (name.upper.drop 2).take token.text.length == token.text.upper) ∧
      FirstOccurrences (words.filter fun word => word ∉ vocabulary ++ specials) further ∧
      (vocabulary ++ further).Nodup ∧
      (∀ word ∈ words, word ∈ answer.candidates) ∧
      ∀ candidate, 1 < answer.candidates.count candidate → candidate ∈ specials := by
  obtain ⟨log, completed⟩ := complete_eq_answer nonempty stored given
  obtain ⟨vocabulary, known, first⟩ :=
    firstOccurrences_knownCandidates token.text commands (specialVariables store)
  obtain ⟨further, whole, last⟩ := firstOccurrences_addWords
    (knownCandidates token.text commands (specialVariables store)) words
  rw [known] at completed whole last
  have once : (vocabulary ++ further).Nodup := by
    refine List.nodup_append.2 ⟨first.nodup, last.nodup, fun word inside other behind same => ?_⟩
    have fresh := (List.mem_filter.1 ((last.same other).1 behind)).2
    rw [decide_eq_true_iff] at fresh
    exact fresh (List.mem_append_left _ (same ▸ inside))
  refine ⟨_, log, vocabulary, _, further, completed, whole, first, rfl, last, once, ?_, ?_⟩
  · intro word member
    exact mem_addWords_iff.2 (.inr member)
  · intro candidate repeated
    by_contra outside
    have single := List.nodup_iff_count_le_one.1 once candidate
    rw [whole, count_without_middle outside] at repeated
    omega

/-- A command of the vocabulary that is stored once more, a special variable that is stored twice
and words that repeat both are put together as said. -/
theorem candidates_in_three_parts_overlapping :
    let commands := ["echoall".toList, "echo".toList, "echoall".toList]
    let words := ["echelon".toList, "%~echo".toList, "echelon".toList, "echo".toList, "x".toList]
    let store : Store := ⟨some (Json.writeStrings commands), some "%~echo,%~dp0,%~echo".toList⟩
    let source : Option WordSource := some fun _ => .ok words
    let token : Token := ⟨.plain, 0, 3, "eCh".toList⟩
    let request : Request := ⟨"eCh".toList, 0, 3⟩
    token.text ≠ [] ∧ customCommands store = .ok (commands, []) ∧ GivesWords source request words ∧
      ∃ answer log vocabulary specials further,
        complete store source token request = .ok (some answer, log) ∧
        answer.candidates = vocabulary ++ specials ++ further ∧
        FirstOccurrences
          ["echo".toList, "echoall".toList, "echo".toList, "echoall".toList] vocabulary ∧
        specials = ["%~echo".toList, "%~echo".toList] ∧
        (vocabulary ++ further).Nodup ∧
        (∀ word ∈ words, word ∈ answer.candidates) := by
  intro commands words store source token request
  have stored : customCommands store = .ok (commands, []) :=
    Settings.customCommands_writeStrings _ _ _
  obtain ⟨answer, log, vocabulary, specials, further, completed, whole, first, kept, -, once,
      all, -⟩ :=
    candidates_in_three_parts store source token request .usual commands words [] (by decide)
      stored rfl
  have starting :
      ((Vocabulary.atoms ++ Vocabulary.keywords ++ Vocabulary.commands ++ commands).filter
        fun word => word.upper.take token.text.length == token.text.upper) =
      ["echo".toList, "echoall".toList, "echo".toList, "echoall".toList] := by decide +kernel
  have named : ((specialVariables store).filter
      fun name => (name.upper.drop 2).take token.text.length == token.text.upper) =
      ["%~echo".toList, "%~echo".toList] := by decide +kernel
  rw [starting] at first
  exact ⟨by decide, stored, rfl, answer, log, vocabulary, specials, further, completed, whole,
    first, kept.trans named, once, all⟩

/-- A custom command that starts with the typed text is offered exactly if every character of that
text has a single character as its upper-case form, or if the command is also a special variable
whose name starts with the text or one of the further words. So it is always offered for a text of
ASCII characters. -/
theorem command_offered_iff (store : Store) (source : Option WordSource) (token : Token)
    (request : Request) (nesting : Data.Nesting) (commands words : List Text)
    (warnings : List Log.Record) (command : Text) (nonempty : token.text ≠ [])
    (stored : customCommands store nesting = .ok (commands, warnings))
    (given : GivesWords source request words) (listed : command ∈ commands)
    (starts : token.text <+: command) :
    ∃ answer log, complete store source token request nesting = .ok (some answer, log) ∧
      (command ∈ answer.candidates ↔
        (∀ c ∈ token.text, (upperChar c).length = 1) ∨
        (command ∈ specialVariables store ∧
          (command.upper.drop 2).take token.text.length = token.text.upper) ∨
        command ∈ words) ∧
      ((∀ c ∈ token.text, c.toNat < 128) → command ∈ answer.candidates) := by
  obtain ⟨log, completed⟩ := complete_eq_answer nonempty stored given
  have found :
      command ∈ addWords (knownCandidates token.text commands (specialVariables store)) words ↔
      (∀ c ∈ token.text, (upperChar c).length = 1) ∨
      (command ∈ specialVariables store ∧
        (command.upper.drop 2).take token.text.length = token.text.upper) ∨
      command ∈ words := by
    have inside : command ∈
        Vocabulary.atoms ++ Vocabulary.keywords ++ Vocabulary.commands ++ commands :=
      List.mem_append_right _ listed
    have typed := Text.take_upper_eq_iff starts
    obtain ⟨vocabulary, known, first⟩ :=
      firstOccurrences_knownCandidates token.text commands (specialVariables store)
    rw [mem_addWords_iff, known, List.mem_append, first.same, List.mem_filter,
      List.mem_filter, beq_iff_eq, beq_iff_eq, typed, and_iff_right inside, or_assoc]
  refine ⟨_, log, completed, found, fun ascii => found.2 (.inl fun c member => ?_)⟩
  exact length_upperChar_of_ascii (ascii c member)

/-- A letter with an accent has a single character as its upper-case form, so a command that starts
with it is offered. -/
theorem command_offered_iff_accented :
    let command := "élan".toList
    let store : Store := ⟨some (Json.writeStrings [command, "echo".toList]), none⟩
    let token : Token := ⟨.plain, 0, 1, "é".toList⟩
    let request : Request := ⟨"é".toList, 0, 1⟩
    token.text ≠ [] ∧ customCommands store = .ok ([command, "echo".toList], []) ∧
      GivesWords none request [] ∧ token.text <+: command ∧
      ∃ answer log, complete store none token request = .ok (some answer, log) ∧
        command ∈ answer.candidates := by
  intro command store token request
  have stored : customCommands store = .ok ([command, "echo".toList], []) :=
    Settings.customCommands_writeStrings _ _ _
  have starts : token.text <+: command := by decide
  obtain ⟨answer, log, completed, found, -⟩ :=
    command_offered_iff store none token request .usual _ [] []
    command (by decide) stored rfl List.mem_cons_self starts
  have single : ∀ c ∈ token.text, (upperChar c).length = 1 := by
    intro c member
    obtain rfl : c = 'é' := List.mem_singleton.1 member
    decide +kernel
  exact ⟨by decide, stored, rfl, starts, answer, log, completed, found.2 (.inl single)⟩

/-- A sharp s has two characters as its upper-case form, and only the first character of a command
is compared with them: a command that starts with the sharp s under the cursor is not offered. -/
theorem command_missing_behind_sharp_s :
    let command := "ßx".toList
    let store : Store := ⟨some (Json.writeStrings [command]), none⟩
    let request : Request := ⟨"ß".toList, 0, 1⟩
    customCommands store = .ok ([command], []) ∧
      ∃ token answer log, token.text ≠ [] ∧ token.text <+: command ∧
        hint store none request = complete store none token request ∧
        complete store none token request = .ok (some answer, log) ∧
        command ∉ answer.candidates := by
  intro command store request
  have stored : customCommands store = .ok ([command], []) :=
    Settings.customCommands_writeStrings _ _ _
  have lexed : Lexer.tokenAt "ß".toList 1 [] = ⟨.plain, 0, 1, "ß".toList⟩ := by decide +kernel
  have completes : hint store none request =
      complete store none (Lexer.tokenAt "ß".toList 1 []) request := rfl
  have nonempty : (Lexer.tokenAt "ß".toList 1 []).text ≠ [] := by
    rw [lexed]
    decide
  have given : GivesWords none request [] := rfl
  obtain ⟨log, completed⟩ := complete_eq_answer nonempty stored given
  refine ⟨stored, _, _, log, nonempty, ?_, completes, completed, ?_⟩
  · rw [lexed]
    decide
  · rw [lexed]
    decide +kernel

end BatchScript.Hint
