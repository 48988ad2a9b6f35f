import BatchScript.Hint.Completion
import BatchScript.Proofs.Lexer.Restart
import BatchScript.Proofs.Lexer.TokenAt

/-!
# What a hint answers

The lines in front of the cursor are only followed for their stack, and the cursor's line is lexed
only as far as the cursor. The token found that way is the one that covers the cursor among the
tokens of the whole buffer, and the answer replaces it. There is no answer exactly where there is no
such token.
-/
namespace BatchScript.Hint

variable {store : Store} {source : Option WordSource} {token : Token} {request : Request}
  {nesting : Data.Nesting}

/-- There is no answer for an empty token. -/
theorem complete_of_empty (empty : token.text = []) :
    complete store source token request nesting = .ok (none, []) := by
  rw [complete, empty]
  rfl

/-- What a source of words adds for a request; no source adds nothing. -/
def GivesWords (source : Option WordSource) (request : Request) (words : List Text) : Prop :=
  match source with
  | none => words = []
  | some asked => asked request = .ok words

/-- A token that is not empty is answered with the candidates that are known for its text and the
words that are not among them, wherever the stored commands and the further words can be had. -/
theorem complete_eq_answer {commands words : List Text} {warnings : List Log.Record}
    (nonempty : token.text ≠ []) (stored : customCommands store nesting = .ok (commands, warnings))
    (given : GivesWords source request words) :
    ∃ log, complete store source token request nesting =
      .ok (some ⟨addWords (knownCandidates token.text commands (specialVariables store)) words,
        request.line, token.start, token.stop⟩, log) := by
  have filled : token.text.isEmpty = false := by
    rw [List.isEmpty_eq_false_iff]
    exact nonempty
  cases source with
  | none =>
    obtain rfl : words = [] := given
    rw [complete, filled, stored]
    exact ⟨_, rfl⟩
  | some asked =>
    have further : asked request = .ok words := given
    simp only [complete, filled, stored, further]
    exact ⟨_, rfl⟩

/-- Where the stored commands and the further words can be had, a token that is not empty is
answered. -/
theorem complete_of_nonempty (nonempty : token.text ≠ [])
    (commands : ∃ names, customCommands store nesting = .ok names)
    (words : ∀ given ∈ source, ∃ found, given request = .ok found) :
    ∃ answer log, complete store source token request nesting = .ok (some answer, log) := by
  obtain ⟨names, stored⟩ := commands
  obtain ⟨found, given⟩ : ∃ found, GivesWords source request found := by
    cases source with
    | none => exact ⟨[], rfl⟩
    | some asked => exact words asked rfl
  exact ⟨_, complete_eq_answer nonempty stored given⟩

/-- An answer is made of the stored names and the further words: it adds the words to the candidates
that are known without them, is about the cursor's line, and replaces the token. -/
theorem answer_of_complete {answer : Response} {log : List Log.Record}
    (completed : complete store source token request nesting = .ok (some answer, log)) :
    ∃ commands warnings words, customCommands store nesting = .ok (commands, warnings) ∧
      (∀ given ∈ source, given request = .ok words) ∧ (source = none → words = []) ∧
      answer = ⟨addWords (knownCandidates token.text commands (specialVariables store)) words,
        request.line, token.start, token.stop⟩ := by
  unfold complete at completed
  split at completed
  · simp at completed
  · cases stored : customCommands store nesting with
    | error cause =>
      rw [stored] at completed
      contradiction
    | ok names =>
      rw [stored] at completed
      cases source with
      | none =>
        cases completed
        exact ⟨names.1, names.2, [], rfl, by simp, fun _ => rfl, rfl⟩
      | some given =>
        cases further : given request with
        | error cause =>
          simp only [further] at completed
          contradiction
        | ok found =>
          simp only [further] at completed
          cases completed
          exact ⟨names.1, names.2, found, rfl, by simpa using further, by simp, rfl⟩

/-- An answer is about the cursor's line, and replaces the token. -/
theorem span_of_complete {answer : Response} {log : List Log.Record}
    (completed : complete store source token request nesting = .ok (some answer, log)) :
    answer.line = request.line ∧ answer.start = token.start ∧ answer.stop = token.stop := by
  obtain ⟨_, _, _, -, -, -, rfl⟩ := answer_of_complete completed
  exact ⟨rfl, rfl, rfl⟩

/-- Outside the buffer there is no answer. -/
theorem hint_outside (store : Store) (source : Option WordSource)
    (outside : request.line < 0 ∨ request.text.lines.length ≤ request.line) :
    hint store source request nesting = .ok (none, []) := by
  by_cases above : request.line < 0
  · rw [hint, if_pos above]
  · have below : request.text.lines[request.line.toNat]? = none := by
      rw [List.getElem?_eq_none_iff]
      omega
    simp only [hint, above, below, ↓reduceIte]

/-- A hint is given in a line of the buffer only. -/
theorem inside_of_hint {answer : Response} {log : List Log.Record}
    (hinted : hint store source request nesting = .ok (some answer, log)) :
    0 ≤ request.line ∧ ∃ line, request.text.lines[request.line.toNat]? = some line := by
  by_cases outside : request.line < 0 ∨ request.text.lines.length ≤ request.line
  · rw [hint_outside store source outside] at hinted
    simp at hinted
  · obtain ⟨above, below⟩ := not_or.1 outside
    exact ⟨Int.not_lt.1 above, _, List.getElem?_eq_getElem (by omega)⟩

/-- In a line of the buffer one token is completed, whatever the store and the source of words: the
token under the cursor, where the line is lexed from the stack from which it has its tokens in the
buffer. -/
theorem completes_inside {line : Text} (above : 0 ≤ request.line)
    (found : request.text.lines[request.line.toNat]? = some line) :
    ∃ stack, (∀ store source nesting, hint store source request nesting =
        complete store source (Lexer.tokenAt line request.column stack) request nesting) ∧
      (Lexer.tokenize request.text []).1[request.line.toNat]? =
        some (Lexer.tokenizeLine line stack).1 := by
  obtain ⟨stack, tokens, behind, -, shown, -, lexed, settled⟩ :=
    Lexer.tokenizeLine_in_place found []
  refine ⟨stack, fun store source nesting => ?_, ?_⟩
  · simp only [hint, if_neg (Int.not_lt.2 above), found, settled]
  · rw [lexed]
    exact shown

/-- In a line of the buffer the token under the cursor is completed, where the line is lexed from
the stack from which it has its tokens in the buffer. -/
theorem hint_inside (store : Store) (source : Option WordSource) {line : Text}
    (above : 0 ≤ request.line) (found : request.text.lines[request.line.toNat]? = some line) :
    ∃ stack, hint store source request nesting =
        complete store source (Lexer.tokenAt line request.column stack) request nesting ∧
      (Lexer.tokenize request.text []).1[request.line.toNat]? =
        some (Lexer.tokenizeLine line stack).1 := by
  obtain ⟨stack, completes, shown⟩ := completes_inside above found
  exact ⟨stack, completes store source nesting, shown⟩

/-- A hint in a line of the buffer is given behind the line's first character only, and replaces the
token under the cursor. -/
theorem token_of_hint {line : Text} {answer : Response} {log : List Log.Record}
    (above : 0 ≤ request.line) (found : request.text.lines[request.line.toNat]? = some line)
    (hinted : hint store source request nesting = .ok (some answer, log)) :
    ∃ stack, 0 < request.column ∧ line ≠ [] ∧ answer.line = request.line ∧
      answer.start = (Lexer.tokenAt line request.column stack).start ∧
      answer.stop = (Lexer.tokenAt line request.column stack).stop := by
  obtain ⟨stack, completed, -⟩ := hint_inside store source above found
  rw [hinted] at completed
  by_cases reached : line = [] ∨ request.column ≤ 0
  · rw [Lexer.tokenAt_eq_empty stack reached, complete_of_empty rfl] at completed
    simp at completed
  · obtain ⟨filled, ahead⟩ := not_or.1 reached
    exact ⟨stack, Int.not_le.1 ahead, filled, span_of_complete completed.symm⟩

/-- What a hint in a line of the buffer replaces stands in that line. -/
theorem span_of_hint {line : Text} {answer : Response} {log : List Log.Record}
    (above : 0 ≤ request.line) (found : request.text.lines[request.line.toNat]? = some line)
    (hinted : hint store source request nesting = .ok (some answer, log)) :
    answer.line = request.line ∧ 0 ≤ answer.start ∧ answer.start ≤ answer.stop ∧
      answer.stop ≤ line.length := by
  obtain ⟨stack, ahead, filled, same, start, stop⟩ := token_of_hint above found hinted
  have within := Lexer.within_tokenAt stack ahead filled
  rw [start, stop]
  exact ⟨same, within.behind, Int.le_of_lt within.wide, within.inside⟩

/-- What a hint in a line of the buffer replaces begins in front of the cursor and reaches it, or
the line's end if the cursor stands behind that. -/
theorem covers_of_hint {line : Text} {answer : Response} {log : List Log.Record}
    (above : 0 ≤ request.line) (found : request.text.lines[request.line.toNat]? = some line)
    (hinted : hint store source request nesting = .ok (some answer, log)) :
    answer.start < min request.column line.length ∧
      min request.column line.length ≤ answer.stop := by
  obtain ⟨stack, ahead, filled, -, start, stop⟩ := token_of_hint above found hinted
  rw [start, stop]
  exact (Lexer.covers_tokenAt stack ahead filled).2

/-- A hint is given, or given up, wherever the stored commands and the further words can be had. It
is given up exactly outside the buffer, in front of a line's first character and in an empty line.
Otherwise it is the completion of the one token of the buffer's tokens that covers the cursor, or
the line's end if the cursor stands behind that, and replaces this token. -/
theorem hint_completes_covering_token (store : Store) (source : Option WordSource)
    (request : Request) (nesting : Data.Nesting)
    (commands : ∃ names, customCommands store nesting = .ok names)
    (words : ∀ given ∈ source, ∃ found, given request = .ok found) :
    ∃ response log, hint store source request nesting = .ok (response, log) ∧
      (response = none ↔
        request.line < 0 ∨ request.text.lines.length ≤ request.line ∨ request.column ≤ 0 ∨
          request.text.lines[request.line.toNat]? = some []) ∧
      ∀ answer ∈ response, ∃ line tokens token,
        request.text.lines[request.line.toNat]? = some line ∧
        (Lexer.tokenize request.text []).1[request.line.toNat]? = some tokens ∧
        token ∈ tokens ∧ token.Covers (min request.column line.length) ∧
        (∀ other ∈ tokens, other.Covers (min request.column line.length) → other = token) ∧
        answer.line = request.line ∧ answer.start = token.start ∧ answer.stop = token.stop ∧
        complete store source token request nesting = .ok (some answer, log) := by
  by_cases outside : request.line < 0 ∨ request.text.lines.length ≤ request.line
  · refine ⟨none, [], hint_outside store source outside, ?_, by simp⟩
    exact ⟨fun _ => outside.elim .inl (.inr ∘ .inl), fun _ => rfl⟩
  · obtain ⟨above, below⟩ := not_or.1 outside
    obtain ⟨line, found⟩ : ∃ line, request.text.lines[request.line.toNat]? = some line :=
      ⟨_, List.getElem?_eq_getElem (by omega)⟩
    obtain ⟨stack, hinted, shown⟩ := hint_inside store source (Int.not_lt.1 above) found
    by_cases reached : line = [] ∨ request.column ≤ 0
    · rw [Lexer.tokenAt_eq_empty stack reached, complete_of_empty rfl] at hinted
      refine ⟨none, [], hinted, ⟨fun _ => ?_, fun _ => rfl⟩, by simp⟩
      rcases reached with rfl | front
      · exact .inr (.inr (.inr found))
      · exact .inr (.inr (.inl front))
    · obtain ⟨filled, ahead⟩ := not_or.1 reached
      obtain ⟨member, covers⟩ := Lexer.covers_tokenAt stack (Int.not_le.1 ahead) filled
      have within := Lexer.within_tokenAt stack (Int.not_le.1 ahead) filled
      obtain ⟨answer, log, completed⟩ := complete_of_nonempty within.nonempty commands words
      refine ⟨some answer, log, hinted.trans completed, ⟨by simp, ?_⟩, ?_⟩
      · rintro (negative | beyond | front | empty)
        · exact absurd negative above
        · exact absurd beyond below
        · exact absurd front ahead
        · exact absurd (Option.some.inj (found.symm.trans empty)) filled
      · rintro _ ⟨⟩
        refine ⟨line, _, _, found, shown, member, covers, fun other inside there => ?_, ?_⟩
        · exact (Lexer.tiles_tokenizeLine line stack).eq_of_covers inside member there covers
        · obtain ⟨same, start, stop⟩ := span_of_complete completed
          exact ⟨same, start, stop, completed⟩

/-- Behind the end of a line that starts inside quotes the last word is completed, which stands
behind the closing quote. -/
theorem hint_completes_covering_token_behind_quote :
    let store : Store := ⟨none, some "%~send".toList⟩
    let source : Option WordSource := some (bufferWords defaultRange)
    let request : Request := ⟨"echo \"a\nb\" se".toList, 1, 9⟩
    (Lexer.tokenize request.text []).1[1]? =
        some [⟨.string, 0, 2, "b\"".toList⟩, ⟨.plain, 2, 3, [' ']⟩, ⟨.plain, 3, 5, "se".toList⟩] ∧
      ∃ response log, hint store source request = .ok (response, log) ∧
        (response = none ↔
          request.line < 0 ∨ request.text.lines.length ≤ request.line ∨ request.column ≤ 0 ∨
            request.text.lines[request.line.toNat]? = some []) ∧
        ∀ answer ∈ response, ∃ line tokens token,
          request.text.lines[request.line.toNat]? = some line ∧
          (Lexer.tokenize request.text []).1[request.line.toNat]? = some tokens ∧
          token ∈ tokens ∧ token.Covers (min request.column line.length) ∧
          (∀ other ∈ tokens, other.Covers (min request.column line.length) → other = token) ∧
          answer.line = request.line ∧ answer.start = token.start ∧ answer.stop = token.stop ∧
          complete store source token request = .ok (some answer, log) := by
  refine ⟨by decide +kernel, hint_completes_covering_token _ _ _ .usual ⟨_, rfl⟩ ?_⟩
  rintro _ ⟨⟩
  exact ⟨_, rfl⟩

end BatchScript.Hint
