import BatchScript.Proofs.Hint.FirstOccurrences
import BatchScript.Proofs.Text.Lines

/-!
# Words of the buffer

The piece of a word in front of a column is the longest run of word characters that ends there, and
the words that the buffer offers are made of such characters and start with the piece.
-/
namespace BatchScript.Hint

/-- Every piece of word characters at the end of a text ends the run there. -/
theorem suffix_trailingWord {piece text : Text} (ends : piece <:+ text)
    (word : ∀ c ∈ piece, isBufferChar c = true) : piece <:+ trailingWord text := by
  obtain ⟨before, rfl⟩ := ends
  have backwards : ∀ c ∈ piece.reverse, isBufferChar c = true := fun c inside =>
    word c (List.mem_reverse.1 inside)
  have run : trailingWord (before ++ piece) = trailingWord before ++ piece := by
    rw [trailingWord, List.reverse_append, List.takeWhile_append_of_pos backwards,
      List.reverse_append, List.reverse_reverse, trailingWord]
  rw [run]
  exact List.suffix_append _ _

/-- The words of a line are made of word characters. -/
theorem isBufferChar_of_mem_wordsOf {line word : Text} (member : word ∈ wordsOf line) :
    ∀ c ∈ word, isBufferChar c = true := by
  intro c inside
  have outside := Text.not_of_mem_splitWhere (List.mem_filter.1 member).1 c inside
  simpa using outside

/-- The words that a line adds start with the piece and are made of word characters. -/
theorem of_mem_offered {piece line word : Text} {own : Bool}
    (member : word ∈ offered piece own line) :
    piece <+: word ∧ ∀ c ∈ word, isBufferChar c = true := by
  obtain ⟨inside, kept⟩ := List.mem_filter.1 member
  rw [Bool.and_eq_true] at kept
  exact ⟨List.isPrefixOf_iff_prefix.1 kept.1, isBufferChar_of_mem_wordsOf inside⟩

/-- At a column of a line of the buffer the words are those that the lines near it add, each
once. -/
theorem bufferWords_eq (range : Int) {request : Request} {line : Text}
    (above : 0 ≤ request.line) (found : request.text.lines[request.line.toNat]? = some line)
    (column : 0 ≤ request.column) :
    bufferWords range request = .ok
      (((linesAbove request.line (request.text.lines.length - 1) range ++
        linesBelow request.line (request.text.lines.length - 1) range).flatMap fun index =>
          offered (trailingWord (line.take request.column.toNat)) (index == request.line)
            (request.text.lines[index.toNat]?.getD [])).foldl addNew []) := by
  obtain ⟨below, -⟩ := List.getElem?_eq_some_iff.1 found
  have inside : ¬ (request.line < 0 ∨ (request.text.lines.length : Int) ≤ request.line) := by omega
  have piece :
      fragment line request.column = .ok (trailingWord (line.take request.column.toNat)) := by
    rw [fragment, if_pos column]
  simp only [bufferWords, inside, ↓reduceIte, found, Option.getD_some, piece]
  rfl

/-- At a column of a line of the buffer there are words, which start with the piece in front of the
column and are made of word characters. -/
theorem bufferWords_of_column (range : Int) {request : Request} {line : Text}
    (above : 0 ≤ request.line) (found : request.text.lines[request.line.toNat]? = some line)
    (column : 0 ≤ request.column) :
    ∃ words, bufferWords range request = .ok words ∧ ∀ word ∈ words,
      trailingWord (line.take request.column.toNat) <+: word ∧
        ∀ c ∈ word, isBufferChar c = true := by
  refine ⟨_, bufferWords_eq range above found column, fun word member => ?_⟩
  have listed := ((firstOccurrences_gathered _).same word).1 member
  obtain ⟨index, -, added⟩ := List.mem_flatMap.1 listed
  exact of_mem_offered added

end BatchScript.Hint
