import BatchScript.Text.Lines

/-!
# Cutting a script into lines

Splitting here is the standard library's splitting of lists, so its laws apply. A line feed between
two scripts cuts them apart, wherever carriage returns stand, and a text without line ends is one
line.
-/
namespace BatchScript.Text

/-- The pieces between characters are those of the standard library. -/
theorem splitWhere_eq_splitOnP (p : Char → Bool) (text : Text) :
    text.splitWhere p = text.splitOnP p := by
  induction text with
  | nil => rfl
  | cons c cs ih =>
    rw [splitWhere, List.splitOnP_cons_eq_if_modifyHead, ih]
    cases pieces : cs.splitOnP p with
    | nil => exact absurd pieces (List.splitOnP_ne_nil p cs)
    | cons piece pieces => rfl

/-- The pieces between separators are those of the standard library. -/
theorem split_eq_splitOn (separator : Char) (text : Text) :
    text.split separator = text.splitOn separator :=
  splitWhere_eq_splitOnP (· == separator) text

/-- No piece holds a character at which a text is cut. -/
theorem not_of_mem_splitWhere {p : Char → Bool} {text piece : Text}
    (member : piece ∈ text.splitWhere p) : ∀ c ∈ piece, p c = false := by
  induction text generalizing piece with
  | nil =>
    obtain rfl := List.mem_singleton.1 member
    simp
  | cons c cs ih =>
    rw [splitWhere] at member
    by_cases cut : p c = true
    · rw [if_pos cut] at member
      rcases List.mem_cons.1 member with rfl | later
      · simp
      · exact ih later
    · rw [if_neg cut] at member
      cases pieces : splitWhere p cs with
      | nil =>
        rw [pieces] at member
        obtain rfl := List.mem_singleton.1 member
        simpa using cut
      | cons first others =>
        rw [pieces] at member ih
        rcases List.mem_cons.1 member with rfl | later
        · intro d inside
          rcases List.mem_cons.1 inside with rfl | behind
          · simpa using cut
          · exact ih List.mem_cons_self d behind
        · exact ih (List.mem_cons_of_mem _ later)

/-- What stands in a piece stands in the text that was cut. -/
theorem mem_of_mem_split {separator : Char} {text piece : Text}
    (found : piece ∈ text.split separator)
    {c : Char} (member : c ∈ piece) : c ∈ text := by
  rw [split_eq_splitOn] at found
  have joined : join [separator] (text.splitOn separator) = text :=
    List.intercalate_splitOn separator
  rw [← joined]
  exact mem_join found member

/-- At least one piece is cut apart again at the separators between the pieces exactly if no piece
holds a separator. -/
theorem split_join_eq_iff {separator : Char} {pieces : List Text} (filled : pieces ≠ []) :
    (join [separator] pieces).split separator = pieces ↔ ∀ piece ∈ pieces, separator ∉ piece := by
  constructor
  · intro same piece member inside
    rw [← same] at member
    have uncut := not_of_mem_splitWhere member separator inside
    simp at uncut
  · intro without
    rw [split_eq_splitOn]
    exact List.splitOn_intercalate separator without filled

/-- Nothing stands in joined pieces exactly if there is no piece or a single empty one. -/
theorem join_eq_nil_iff {separator : Char} {pieces : List Text} :
    join [separator] pieces = [] ↔ pieces = [] ∨ pieces = [[]] := by
  cases pieces with
  | nil => simp [join]
  | cons first pieces =>
    cases pieces with
    | nil => simp [join_singleton]
    | cons second pieces => simp [join_cons_cons]

/-- Pieces that hold no separator, with a separator behind each, are cut apart again; nothing stands
behind the last one. -/
theorem split_flatMap_append {separator : Char} {pieces : List Text}
    (without : ∀ piece ∈ pieces, separator ∉ piece) :
    split separator (pieces.flatMap (· ++ [separator])) = pieces ++ [[]] := by
  induction pieces with
  | nil => rfl
  | cons piece pieces ih =>
    have first : piece.splitOn separator = [piece] :=
      List.splitOn_eq_singleton (without piece List.mem_cons_self)
    have rest := ih fun other member => without other (List.mem_cons_of_mem piece member)
    rw [split_eq_splitOn] at rest ⊢
    rw [List.flatMap_cons, List.append_assoc, List.singleton_append, List.splitOn_append_cons_self,
      first, rest, List.singleton_append, List.cons_append]

/-- Taking a carriage return off adds nothing. -/
theorem dropReturn_subset (line : Text) : line.dropReturn ⊆ line := by
  rw [dropReturn]
  split
  · exact List.dropLast_subset line
  · exact List.Subset.refl line

/-- No piece between line feeds holds a line feed. -/
theorem feed_not_mem_of_mem_split {source piece : Text} (member : piece ∈ source.split '\n') :
    '\n' ∉ piece := by
  intro feed
  have uncut := not_of_mem_splitWhere member '\n' feed
  simp at uncut

/-- There is at least one line. -/
theorem lines_ne_nil (source : Text) : source.lines ≠ [] := by
  rw [lines, split_eq_splitOn]
  exact fun none => List.splitOn_ne_nil '\n' source (List.map_eq_nil_iff.1 none)

/-- The lines of two scripts with a line feed between them are the lines of the first and then those
of the second. -/
theorem lines_append_feed (before behind : Text) :
    (before ++ '\n' :: behind).lines = before.lines ++ behind.lines := by
  simp only [lines, split_eq_splitOn, List.splitOn_append_cons_self, List.map_append]

/-- A text without line feeds is one line, without a carriage return at its end. -/
theorem lines_of_feed_not_mem {text : Text} (feed : '\n' ∉ text) :
    text.lines = [text.dropReturn] := by
  rw [lines, split_eq_splitOn, List.splitOn_eq_singleton feed, List.map_singleton]

/-- A text without line ends is one line. -/
theorem lines_of_not_mem {text : Text} (feed : '\n' ∉ text) (return_ : '\r' ∉ text) :
    text.lines = [text] := by
  have kept : text.dropReturn = text := by
    rw [dropReturn, if_neg]
    exact fun last => return_ (List.mem_of_getLast? last)
  rw [lines_of_feed_not_mem feed, kept]

/-- What stands behind a text that ends in no carriage return keeps its own. -/
theorem dropReturn_append {line : Text} (kept : line.dropReturn = line) (rest : Text) :
    (line ++ rest).dropReturn = line ++ rest.dropReturn := by
  cases rest with
  | nil =>
    rw [List.append_nil, kept]
    exact (List.append_nil line).symm
  | cons c cs =>
    have last : (line ++ c :: cs).getLast? = (c :: cs).getLast? := by
      rw [List.getLast?_append, List.getLast?_cons, Option.some_or]
    rw [dropReturn, dropReturn, last, List.dropLast_append_of_ne_nil (List.cons_ne_nil c cs)]
    split <;> rfl

/-- A text without line feeds that ends in no carriage return is the front of the first line. -/
theorem lines_append {line : Text} (feed : '\n' ∉ line) (kept : line.dropReturn = line)
    (rest : Text) :
    (line ++ rest).lines = rest.lines.modifyHead (line ++ ·) := by
  have pieces : (line ++ rest).splitOn '\n' = (rest.splitOn '\n').modifyHead (line ++ ·) := by
    clear kept
    induction line with
    | nil =>
      rw [List.nil_append]
      cases rest.splitOn '\n' <;> rfl
    | cons c cs ih =>
      have other : ¬ (c == '\n') = true := by
        simpa using Ne.symm (List.ne_of_not_mem_cons feed)
      rw [List.cons_append, List.splitOn_cons_eq_if_modifyHead, if_neg other,
        ih (List.not_mem_of_not_mem_cons feed)]
      cases rest.splitOn '\n' <;> rfl
  rw [lines, lines, split_eq_splitOn, split_eq_splitOn, pieces]
  cases rest.splitOn '\n' with
  | nil => rfl
  | cons piece pieces => simp only [List.modifyHead_cons, List.map_cons, dropReturn_append kept]

/-- A character that ends no line is the first one of the first line. -/
theorem lines_cons {c : Char} (feed : c ≠ '\n') (return_ : c ≠ '\r') (rest : Text) :
    lines (c :: rest) = (lines rest).modifyHead (c :: ·) :=
  @lines_append [c] (by simp [feed.symm]) (by simp [dropReturn, return_]) rest

/-- A text has no line feed, or one of them is the last. -/
theorem exists_last_feed (text : Text) :
    '\n' ∉ text ∨ ∃ before last, text = before ++ '\n' :: last ∧ '\n' ∉ last := by
  induction text with
  | nil => exact .inl List.not_mem_nil
  | cons c cs ih =>
    rcases ih with none | ⟨before, last, rfl, none⟩
    · by_cases feed : c = '\n'
      · exact .inr ⟨[], cs, by rw [feed, List.nil_append], none⟩
      · exact .inl (by simp [none, Ne.symm feed])
    · exact .inr ⟨c :: before, last, rfl, none⟩

/-- A text that goes on behind a character that ends no line goes on in the line of that
character. -/
theorem exists_lines_append (front : Text) {c : Char} (feed : c ≠ '\n') (return_ : c ≠ '\r')
    (rest : Text) :
    ∃ inner last tail later, (front ++ [c]).lines = inner ++ [last] ∧ last ≠ [] ∧
      (front ++ c :: rest).lines = inner ++ (last ++ tail) :: later := by
  have kept (last : Text) : (last ++ [c]).dropReturn = last ++ [c] := by simp [dropReturn, return_]
  have without {last : Text} (none : '\n' ∉ last) : '\n' ∉ last ++ [c] := by
    simp [none, Ne.symm feed]
  have ended {last : Text} (none : '\n' ∉ last) : (last ++ [c]).lines = [last ++ [c]] := by
    rw [lines_of_feed_not_mem (without none), kept]
  obtain ⟨tail, later, shown⟩ := List.exists_cons_of_ne_nil (lines_ne_nil rest)
  have goes {last : Text} (none : '\n' ∉ last) :
      (last ++ c :: rest).lines = (last ++ [c] ++ tail) :: later := by
    have line := lines_append (without none) (kept last) rest
    rwa [shown, List.append_assoc] at line
  rcases exists_last_feed front with none | ⟨before, last, rfl, none⟩
  · exact ⟨[], front ++ [c], tail, later, ended none, by simp, goes none⟩
  · refine ⟨before.lines, last ++ [c], tail, later, ?_, by simp, ?_⟩
    · rw [List.append_assoc, List.cons_append, lines_append_feed, ended none]
    · rw [List.append_assoc, List.cons_append, lines_append_feed, goes none]

end BatchScript.Text
