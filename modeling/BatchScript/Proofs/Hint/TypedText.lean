import BatchScript.Proofs.Hint.BufferWords
import BatchScript.Proofs.Hint.Response
import Mathlib.Control.Monad.Basic

/-!
# What a word of the buffer does to the typed text

A hint replaces the token under the cursor, and the words of the buffer extend the piece of a word
in front of the cursor. The token need not begin where the piece does: it may begin earlier, with a
hyphen or a quote in it, or later, behind a dollar sign. A word of the buffer starts with what the
hint replaces in front of the cursor exactly if the piece itself does, and otherwise that text is
lost.
-/
namespace BatchScript.Hint

/-- A word that extends the piece at the end of a text starts with another end of that text exactly
if the piece does. -/
theorem prefix_iff_of_extends {before typed word : Text} (ends : typed <:+ before)
    (extends_ : trailingWord before <+: word) (letters : ∀ c ∈ word, isBufferChar c = true) :
    typed <+: word ↔ typed <+: trailingWord before := by
  constructor
  · intro starts
    have typedLetters : ∀ c ∈ typed, isBufferChar c = true := fun c inside =>
      letters c (starts.subset inside)
    have shorter : typed.length ≤ (trailingWord before).length :=
      (suffix_trailingWord ends typedLetters).length_le
    exact List.prefix_of_prefix_length_le starts extends_ shorter
  · intro starts
    exact starts.trans extends_

/-- The text from a column up to a later place of a line ends the text in front of that place. -/
theorem slice_suffix_take (line : Text) (start : Int) {stop : Int} (place : 0 ≤ stop) :
    line.slice start stop <:+ line.take stop.toNat := by
  have column : ¬ stop < 0 := Int.not_lt.2 place
  simp only [Text.slice, column, ↓reduceIte]
  exact List.drop_suffix _ _

/-- Without a source of words the same candidates are known and the same text is replaced. -/
theorem complete_without_words {store : Store} {source : WordSource} {token : Token}
    {request : Request} {nesting : Data.Nesting} {answer : Response} {log : List Log.Record}
    (completed : complete store (some source) token request nesting = .ok (some answer, log)) :
    ∃ known shorter words, complete store none token request nesting = .ok (some known, shorter) ∧
      source request = .ok words ∧
      answer = { known with candidates := addWords known.candidates words } := by
  obtain ⟨commands, warnings, words, stored, further, -, rfl⟩ := answer_of_complete completed
  have nonempty : token.text ≠ [] := by
    intro empty
    rw [complete_of_empty empty] at completed
    simp at completed
  have absent : GivesWords none request [] := rfl
  obtain ⟨shorter, alone⟩ := complete_eq_answer nonempty stored absent
  refine ⟨_, shorter, words, alone, further source rfl, ?_⟩
  simp [addWords]

/-- A hint adds the words of the buffer to the candidates it has without them. Every such word
starts with the piece of a word in front of the cursor, and it starts with the text that the hint
replaces in front of the cursor exactly if that piece does. -/
theorem buffer_word_keeps_typed_iff (store : Store) (request : Request) (nesting : Data.Nesting)
    (line : Text) (answer : Response) (log : List Log.Record)
    (found : request.text.lines[request.line.toNat]? = some line)
    (hinted : hint store (some (bufferWords defaultRange)) request nesting =
      .ok (some answer, log)) :
    ∃ known shorter words,
      hint store none request nesting = .ok (some known, shorter) ∧
      bufferWords defaultRange request = .ok words ∧
      answer = { known with candidates := addWords known.candidates words } ∧
      ∀ word ∈ words,
        trailingWord (line.take request.column.toNat) <+: word ∧
        (line.slice answer.start request.column <+: word ↔
          line.slice answer.start request.column <+:
            trailingWord (line.take request.column.toNat)) := by
  obtain ⟨above, -⟩ := inside_of_hint hinted
  obtain ⟨-, ahead, -⟩ := token_of_hint above found hinted
  obtain ⟨stack, completes, -⟩ := completes_inside above found
  rw [completes] at hinted
  obtain ⟨known, shorter, words, alone, given, rfl⟩ := complete_without_words hinted
  obtain ⟨others, same, extending⟩ :=
    bufferWords_of_column defaultRange above found (Int.le_of_lt ahead)
  obtain rfl : words = others := by
    rw [given] at same
    exact Except.ok.inj same
  refine ⟨known, shorter, words, ?_, given, rfl, fun word member => ?_⟩
  · rw [completes]
    exact alone
  · obtain ⟨starts, letters⟩ := extending word member
    exact ⟨starts,
      prefix_iff_of_extends (slice_suffix_take line _ (Int.le_of_lt ahead)) starts letters⟩

/-- Behind a blank the token under the cursor begins where the piece does, and every word keeps
it. -/
theorem buffer_word_keeps_typed_iff_behind_blank :
    let request : Request := ⟨"echo hello\nhelp he".toList, 1, 7⟩
    let answer : Response := ⟨["help".toList, "hello".toList], 1, 5, 7⟩
    request.text.lines[1]? = some "help he".toList ∧
      (∃ log, hint .empty (some (bufferWords defaultRange)) request = .ok (some answer, log)) ∧
      ∃ words, bufferWords defaultRange request = .ok words ∧
        ∀ word ∈ words, Text.slice "help he".toList 5 7 <+: word := by
  intro request answer
  have found : request.text.lines[1]? = some "help he".toList := by decide +kernel
  have hinted : hint .empty (some (bufferWords defaultRange)) request =
      .ok (some answer, [⟨.debug, .hint, "2 candidates for 'he'".toList⟩]) := by decide +kernel
  obtain ⟨-, -, words, -, given, -, kept⟩ :=
    buffer_word_keeps_typed_iff .empty request .usual _ answer _ found hinted
  refine ⟨found, ⟨_, hinted⟩, words, given, fun word member => ?_⟩
  exact (kept word member).2.2 (by decide)

/-- Behind a hyphen the token under the cursor begins in front of the piece, and a word that extends
the piece loses what stands before it. -/
theorem buffer_word_loses_typed_behind_hyphen :
    let request : Request := ⟨"a-b bar".toList, 0, 3⟩
    (∃ log, hint .empty (some (bufferWords defaultRange)) request =
      .ok (some ⟨["bar".toList], 0, 0, 3⟩, log)) ∧
      bufferWords defaultRange request = .ok ["bar".toList] ∧
      ¬ Text.slice "a-b bar".toList 0 3 <+: "bar".toList := by
  intro request
  have hinted : hint .empty (some (bufferWords defaultRange)) request =
      .ok (some ⟨["bar".toList], 0, 0, 3⟩, [⟨.debug, .hint, "1 candidates for 'a-b'".toList⟩]) := by
    decide +kernel
  exact ⟨⟨_, hinted⟩, by decide +kernel, by decide⟩

end BatchScript.Hint
