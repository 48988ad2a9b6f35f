import BatchScript.Proofs.Hint.BufferWords

/-!
# Words of a line

The words of a line are its longest runs of word characters, from left to right. A run is given by
the text in front of it and the text behind it, and the words of the line are then those in front of
it, the run itself, and those behind it. Everything else follows from this one equation: every run
is one of the words, and every word is a run in front of which exactly the words before it stand.
-/
namespace BatchScript.Hint

/-- A word between two texts is as long a run of word characters as can be. -/
structure Run (front word rest : Text) : Prop where
  /-- The word is not empty. -/
  filled : word ≠ []
  /-- It is made of word characters. -/
  letters : ∀ c ∈ word, isBufferChar c = true
  /-- No word character stands directly in front of it. -/
  begins : ∀ c ∈ front.getLast?, isBufferChar c = false
  /-- No word character stands directly behind it. -/
  ends : ∀ c ∈ rest.head?, isBufferChar c = false

/-- A word stands in a line from a column on, as long a run of word characters as can be. -/
def RunAt (line : Text) (column : Nat) (word : Text) : Prop :=
  ∃ front rest, line = front ++ (word ++ rest) ∧ front.length = column ∧ Run front word rest

/-- Nothing stands in an empty line. -/
theorem wordsOf_nil : wordsOf [] = [] := rfl

/-- A character that belongs to no word cuts the words of a line apart. -/
theorem wordsOf_append_cons {c : Char} (outside : isBufferChar c = false) (front rest : Text) :
    wordsOf (front ++ c :: rest) = wordsOf front ++ wordsOf rest := by
  have cuts : (!isBufferChar c) = true := by rw [outside]; rfl
  simp only [wordsOf, Text.splitWhere_eq_splitOnP]
  rw [List.splitOnP_append_cons front rest cuts, List.filter_append]

/-- Word characters alone are one word. -/
theorem wordsOf_of_letters {word : Text} (filled : word ≠ [])
    (letters : ∀ c ∈ word, isBufferChar c = true) : wordsOf word = [word] := by
  have uncut : ∀ c ∈ word, (!isBufferChar c) = false := by
    intro c inside
    rw [letters c inside]
    rfl
  rw [wordsOf, Text.splitWhere_eq_splitOnP, List.splitOnP_eq_singleton uncut]
  simp [filled]

/-- Characters that belong to no word make up no words. -/
theorem wordsOf_of_outside {text : Text} (outside : ∀ c ∈ text, isBufferChar c = false) :
    wordsOf text = [] := by
  induction text with
  | nil => rfl
  | cons c cs ih =>
    have first := wordsOf_append_cons (outside c List.mem_cons_self) [] cs
    rw [List.nil_append] at first
    rw [first, wordsOf_nil, List.nil_append]
    exact ih fun d inside => outside d (List.mem_cons_of_mem c inside)

/-- The words of two texts are those of both if the first one does not end in a word character. -/
theorem wordsOf_append_of_last {front : Text} (last : ∀ c ∈ front.getLast?, isBufferChar c = false)
    (rest : Text) : wordsOf (front ++ rest) = wordsOf front ++ wordsOf rest := by
  rcases List.eq_nil_or_concat front with rfl | ⟨before, c, whole⟩
  · rw [List.nil_append, wordsOf_nil, List.nil_append]
  · rw [List.concat_eq_append] at whole
    subst whole
    have outside : isBufferChar c = false := last c (by simp)
    have alone := wordsOf_append_cons outside before []
    rw [wordsOf_nil, List.append_nil] at alone
    rw [List.append_assoc, List.singleton_append, wordsOf_append_cons outside, alone]

/-- The words of two texts are those of both if the second one does not begin with a word
character. -/
theorem wordsOf_append_of_head {rest : Text} (head : ∀ c ∈ rest.head?, isBufferChar c = false)
    (front : Text) : wordsOf (front ++ rest) = wordsOf front ++ wordsOf rest := by
  cases rest with
  | nil => rw [List.append_nil, wordsOf_nil, List.append_nil]
  | cons c cs =>
    have outside : isBufferChar c = false := head c rfl
    have alone := wordsOf_append_cons outside [] cs
    rw [List.nil_append, wordsOf_nil, List.nil_append] at alone
    rw [wordsOf_append_cons outside, alone]

namespace Run

variable {front word rest : Text}

/-- The words of a line are those in front of a run, the run, and those behind it. -/
theorem wordsOf_eq (run : Run front word rest) :
    wordsOf (front ++ (word ++ rest)) = wordsOf front ++ word :: wordsOf rest := by
  rw [wordsOf_append_of_last run.begins, wordsOf_append_of_head run.ends,
    wordsOf_of_letters run.filled run.letters]
  rfl

/-- A run is the longest front of word characters of what begins with it. -/
theorem takeWhile_eq (run : Run front word rest) :
    (word ++ rest).takeWhile isBufferChar = word := by
  rw [List.takeWhile_append_of_pos run.letters]
  cases rest with
  | nil => rw [List.takeWhile_nil, List.append_nil]
  | cons c cs =>
    have outside : isBufferChar c = false := run.ends c rfl
    rw [List.takeWhile_cons_of_neg (by simp [outside]), List.append_nil]

end Run

/-- A line has no word characters, or a first run of them. -/
theorem exists_first_run (line : Text) :
    (∀ c ∈ line, isBufferChar c = false) ∨
      ∃ front word rest, line = front ++ (word ++ rest) ∧ Run front word rest ∧
        ∀ c ∈ front, isBufferChar c = false := by
  induction line with
  | nil => exact .inl (by simp)
  | cons c cs ih =>
    by_cases letter : isBufferChar c = true
    · -- The first character begins a run, which is longer if the rest begins with one.
      refine .inr ?_
      rcases ih with outside | ⟨front, word, rest, rfl, run, before⟩
      · refine ⟨[], [c], cs, rfl, ⟨by simp, by simpa using letter, by simp, fun d first => ?_⟩,
          by simp⟩
        exact outside d (List.mem_of_mem_head? first)
      · cases front with
        | nil =>
          refine ⟨[], c :: word, rest, rfl, ⟨by simp, ?_, by simp, run.ends⟩, by simp⟩
          exact List.forall_mem_cons.2 ⟨letter, run.letters⟩
        | cons d ds =>
          refine ⟨[], [c], d :: ds ++ (word ++ rest), rfl,
            ⟨by simp, by simpa using letter, by simp, fun e first => ?_⟩, by simp⟩
          obtain rfl : d = e := by simpa using first
          exact before d List.mem_cons_self
    · have outside : isBufferChar c = false := by simpa using letter
      rcases ih with others | ⟨front, word, rest, rfl, run, before⟩
      · exact .inl (List.forall_mem_cons.2 ⟨outside, others⟩)
      · have skipped : ∀ d ∈ c :: front, isBufferChar d = false :=
          List.forall_mem_cons.2 ⟨outside, before⟩
        refine .inr ⟨c :: front, word, rest, rfl, ⟨run.filled, run.letters, ?_, run.ends⟩, skipped⟩
        exact fun d last => skipped d (List.mem_of_getLast? last)

/-- Every word of a line is a run in front of which the words before it stand. -/
theorem exists_run_of_wordsOf {line word : Text} {before behind : List Text}
    (listed : wordsOf line = before ++ word :: behind) :
    ∃ front rest, line = front ++ (word ++ rest) ∧ Run front word rest ∧
      wordsOf front = before := by
  induction before generalizing line with
  | nil =>
    rcases exists_first_run line with outside | ⟨front, first, rest, rfl, run, skipped⟩
    · rw [wordsOf_of_outside outside] at listed
      cases listed
    · have none := wordsOf_of_outside skipped
      rw [run.wordsOf_eq, none] at listed
      obtain ⟨rfl, -⟩ := List.cons.inj listed
      exact ⟨front, rest, rfl, run, none⟩
  | cons next before ih =>
    rcases exists_first_run line with outside | ⟨front, first, rest, rfl, run, skipped⟩
    · rw [wordsOf_of_outside outside] at listed
      cases listed
    · rw [run.wordsOf_eq, wordsOf_of_outside skipped] at listed
      obtain ⟨rfl, later⟩ := List.cons.inj listed
      obtain ⟨between, tail, rfl, behind, words⟩ := ih later
      -- Something stands between the two runs, since the first one ends where it does.
      cases between with
      | nil =>
        obtain ⟨c, cs, rfl⟩ := List.exists_cons_of_ne_nil behind.filled
        have outside := run.ends c rfl
        rw [behind.letters c List.mem_cons_self] at outside
        cases outside
      | cons d ds =>
        have ahead : Run front first (d :: ds) := ⟨run.filled, run.letters, run.begins, run.ends⟩
        refine ⟨front ++ (first ++ d :: ds), tail, by simp, ?_, ?_⟩
        · refine ⟨behind.filled, behind.letters, fun c last => behind.begins c ?_, behind.ends⟩
          rw [List.getLast?_append, List.getLast?_append] at last
          simpa using last
        · rw [ahead.wordsOf_eq, wordsOf_of_outside skipped, words]
          rfl

namespace RunAt

variable {line word other : Text} {column place : Nat}

/-- A run is one of the words of its line. -/
theorem mem_wordsOf (run : RunAt line column word) : word ∈ wordsOf line := by
  obtain ⟨front, rest, rfl, -, run⟩ := run
  rw [run.wordsOf_eq]
  exact List.mem_append_right _ List.mem_cons_self

/-- The words of a line are the runs in it. -/
theorem mem_wordsOf_iff : word ∈ wordsOf line ↔ ∃ column, RunAt line column word := by
  constructor
  · intro member
    obtain ⟨before, behind, listed⟩ := List.append_of_mem member
    obtain ⟨front, rest, whole, run, -⟩ := exists_run_of_wordsOf listed
    exact ⟨front.length, front, rest, whole, rfl, run⟩
  · rintro ⟨column, run⟩
    exact run.mem_wordsOf

/-- One run at most begins at a column. -/
theorem eq_of_column (first : RunAt line column word) (second : RunAt line column other) :
    word = other := by
  obtain ⟨front, rest, rfl, size, run⟩ := first
  obtain ⟨before, behind, whole, same, twin⟩ := second
  obtain ⟨-, unread⟩ := List.append_inj whole (size.trans same.symm)
  rw [← run.takeWhile_eq, unread, twin.takeWhile_eq]

/-- A run that begins earlier is one of the words in front of a run. -/
theorem mem_wordsOf_of_lt {front rest : Text} (later : Run front word rest)
    (earlier : RunAt (front ++ (word ++ rest)) place other) (ahead : place < front.length) :
    other ∈ wordsOf front := by
  obtain ⟨before, behind, whole, rfl, run⟩ := earlier
  -- No part of the earlier run can end the text in front of the later one.
  have apart {start piece : Text} (ended : front = start ++ piece) (part : ∀ c ∈ piece, c ∈ other) :
      piece = [] := by
    rcases List.eq_nil_or_concat piece with none | ⟨others, c, concat⟩
    · exact none
    · rw [List.concat_eq_append] at concat
      have outside := later.begins c (by simp [ended, concat])
      have letter := run.letters c (part c (by simp [concat]))
      rw [outside] at letter
      cases letter
  rw [← List.append_assoc before] at whole
  rcases List.append_eq_append_iff.1 whole with ⟨inner, longer, -⟩ | ⟨between, shorter, unread⟩
  · rcases List.append_eq_append_iff.1 longer with ⟨piece, ended, parts⟩ | ⟨piece, ended, -⟩
    · have none := apart ended fun c inside => parts ▸ List.mem_append_left inner inside
      rw [ended, none, List.append_nil] at ahead
      exact absurd ahead (Nat.lt_irrefl _)
    · rw [ended, List.length_append] at ahead
      omega
  · have filled : between ≠ [] := by
      intro none
      rw [none, List.append_nil] at shorter
      exact run.filled (apart shorter fun _ => id)
    obtain ⟨c, cs, rfl⟩ := List.exists_cons_of_ne_nil filled
    have ended : Run before other (c :: cs) := by
      rw [unread] at run
      exact ⟨run.filled, run.letters, run.begins, run.ends⟩
    rw [shorter, List.append_assoc, ended.wordsOf_eq]
    exact List.mem_append_right _ List.mem_cons_self

end RunAt

end BatchScript.Hint
