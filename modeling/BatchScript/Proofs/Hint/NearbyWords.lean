import BatchScript.Proofs.Hint.FirstOccurrences
import BatchScript.Proofs.Hint.Runs

/-!
# Words near the cursor

The lines near the cursor are gone through from its own line upwards and then from its own line
downwards, so its own line comes up twice. The words that are offered are the runs of word
characters in these lines that extend the piece in front of the cursor, each at the first place
where it counts: the piece itself does not count in the cursor's line. A place is a line and a
column, and places are ordered as the lines are visited and then from left to right.
-/
namespace BatchScript.Hint

/-- The longest end of a text that is made of word characters. -/
structure LongestEnd (text piece : Text) : Prop where
  /-- The text ends in it. -/
  ends : piece <:+ text
  /-- It is made of word characters. -/
  letters : ∀ c ∈ piece, isBufferChar c = true
  /-- No other such end is longer. -/
  longest : ∀ other, other <:+ text → (∀ c ∈ other, isBufferChar c = true) →
    other.length ≤ piece.length

/-- A word stands as a run in a line of the buffer that is at most `range` lines away from the
cursor. -/
structure Nearby (range : Int) (request : Request) (index column : Nat) (word : Text) : Prop where
  /-- The line is not too far above the cursor. -/
  above : request.line - range ≤ index
  /-- The line is not too far below the cursor. -/
  below : index ≤ request.line + range
  /-- The word is a run in it. -/
  stands : ∃ line ∈ request.text.lines[index]?, RunAt line column word

/-- One line is visited before another: first the cursor's line, then those above it upwards, then
those below it downwards. -/
def VisitedBefore (line first second : Int) : Prop :=
  (second < first ∧ first ≤ line) ∨ (first ≤ line ∧ line < second) ∨ (line < first ∧ first < second)

/-- A word occurs at a place in front of all places of another word. -/
def OccursBefore (line : Int) (occurs : Nat → Nat → Text → Prop) (earlier later : Text) : Prop :=
  ∃ index column, occurs index column earlier ∧ ∀ other place, occurs other place later →
    VisitedBefore line index other ∨ index = other ∧ column < place

/-- The run at the end of a text is the longest end of word characters. -/
theorem longestEnd_trailingWord (text : Text) : LongestEnd text (trailingWord text) := by
  have letters : ∀ c ∈ trailingWord text, isBufferChar c = true := by
    intro c inside
    have member := List.mem_reverse.1 inside
    exact List.all_eq_true.1 List.all_takeWhile c member
  have ends : trailingWord text <:+ text := by
    have front := List.reverse_suffix.2 (List.takeWhile_prefix isBufferChar (l := text.reverse))
    rwa [List.reverse_reverse] at front
  exact ⟨ends, letters, fun other ended word => (suffix_trailingWord ended word).length_le⟩

section Range

variable {line last range index : Int}

/-- The lines upwards are those from the cursor's to the first one or the end of the range. -/
theorem mem_linesAbove_iff (inside : line ≤ last) (first : 0 ≤ line) (distance : 0 ≤ range) :
    index ∈ linesAbove line last range ↔ (line - range ≤ index ∧ 0 ≤ index) ∧ index ≤ line := by
  rw [linesAbove, List.mem_map]
  constructor
  · rintro ⟨offset, member, rfl⟩
    have bound := List.mem_range.1 member
    omega
  · intro bounds
    refine ⟨(line - index).toNat, List.mem_range.2 ?_, ?_⟩
    · omega
    · omega

/-- The lines downwards are those from the cursor's to the last one or the end of the range. -/
theorem mem_linesBelow_iff (first : 0 ≤ line) (distance : 0 ≤ range) :
    index ∈ linesBelow line last range ↔ line ≤ index ∧ index ≤ line + range ∧ index ≤ last := by
  rw [linesBelow, List.mem_map]
  constructor
  · rintro ⟨offset, member, rfl⟩
    have bound := List.mem_range.1 member
    omega
  · intro bounds
    refine ⟨(index - line).toNat, List.mem_range.2 ?_, ?_⟩
    · omega
    · omega

end Range

/-- The words that a line adds are the runs in it that extend the piece, except the piece in its own
line. -/
theorem mem_offered_iff {piece line word : Text} {own : Bool} :
    word ∈ offered piece own line ↔
      (∃ column, RunAt line column word) ∧ piece <+: word ∧ ¬ (own = true ∧ word = piece) := by
  have excepted : (!(own && word == piece)) = true ↔ ¬ (own = true ∧ word = piece) := by
    rw [Bool.not_eq_true', ← Bool.not_eq_true, Bool.and_eq_true, beq_iff_eq]
  rw [offered, List.mem_filter, RunAt.mem_wordsOf_iff, Bool.and_eq_true, List.isPrefixOf_iff_prefix,
    excepted]

/-- A word that a line adds is a run in front of all other words that the line adds later. -/
theorem exists_column_of_offered {piece line word : Text} {own : Bool} {inner outer : List Text}
    (listed : offered piece own line = inner ++ word :: outer) :
    ∃ column, RunAt line column word ∧ ∀ other place, RunAt line place other →
      other ∈ offered piece own line → other ∉ inner → other ≠ word → column < place := by
  obtain ⟨before, behind, whole, front, rest⟩ := List.filter_eq_append_iff.1 listed
  obtain ⟨skipped, later, behindWhole, dropped, -⟩ := List.filter_eq_cons_iff.1 rest
  rw [behindWhole, ← List.append_assoc] at whole
  obtain ⟨text, tail, rfl, run, words⟩ := exists_run_of_wordsOf whole
  refine ⟨text.length, ⟨text, tail, rfl, rfl, run⟩,
    fun other place runs added unlisted differs => ?_⟩
  by_contra early
  rcases Nat.lt_or_eq_of_le (Nat.not_lt.1 early) with ahead | same
  · have member := RunAt.mem_wordsOf_of_lt run runs ahead
    have kept := (List.mem_filter.1 added).2
    rw [words] at member
    rcases List.mem_append.1 member with listed | passed
    · rw [← front] at unlisted
      exact unlisted (List.mem_filter.2 ⟨listed, kept⟩)
    · exact dropped other passed kept
  · subst same
    exact differs (runs.eq_of_column ⟨text, tail, rfl, rfl, run⟩)

/-- A text among those that many lists add comes from one of them, behind what the lists before it
add and what stands before the text in that list. -/
theorem flatMap_eq_append_cons {adds : Int → List Text} {indices : List Int}
    {front rest : List Text}
    {text : Text} (whole : indices.flatMap adds = front ++ text :: rest) :
    ∃ before index behind inner outer, indices = before ++ index :: behind ∧
      adds index = inner ++ text :: outer ∧ front = before.flatMap adds ++ inner := by
  induction indices generalizing front with
  | nil => simp at whole
  | cons first indices ih =>
    have later (others : List Text) (shorter : front = adds first ++ others)
        (remaining : indices.flatMap adds = others ++ text :: rest) :
        ∃ before index behind inner outer, first :: indices = before ++ index :: behind ∧
          adds index = inner ++ text :: outer ∧ front = before.flatMap adds ++ inner := by
      obtain ⟨before, index, behind, inner, outer, rfl, added, rfl⟩ := ih remaining
      refine ⟨first :: before, index, behind, inner, outer, rfl, added, ?_⟩
      rw [shorter, List.flatMap_cons, List.append_assoc]
    rw [List.flatMap_cons] at whole
    rcases List.append_eq_append_iff.1 whole with
      ⟨others, shorter, remaining⟩ | ⟨others, longer, found⟩
    · exact later others shorter remaining
    · cases others with
      | nil =>
        rw [List.append_nil] at longer
        exact later [] (by rw [longer, List.append_nil]) found.symm
      | cons next others =>
        obtain ⟨rfl, -⟩ := List.cons.inj found
        exact ⟨[], first, indices, front, others, rfl, longer, rfl⟩

/-- The lines that are visited, in order; the cursor's own line comes up twice. -/
def visits (range : Int) (request : Request) : List Int :=
  linesAbove request.line (request.text.lines.length - 1) range ++
    linesBelow request.line (request.text.lines.length - 1) range

/-- What a visited line adds. -/
def addedBy (request : Request) (piece : Text) (index : Int) : List Text :=
  offered piece (index == request.line) (request.text.lines[index.toNat]?.getD [])

section Visits

variable {range : Int} {request : Request} (distance : 0 ≤ range) (above : 0 ≤ request.line)
  (below : request.line < request.text.lines.length)

include distance above

/-- The cursor's own line is visited first. -/
theorem exists_visits : ∃ others, visits range request = request.line :: others := by
  obtain ⟨n, count⟩ : ∃ n, (request.line -
      (min (max (request.line - range) 0) (request.text.lines.length - 1) - 1)).toNat = n + 1 :=
    Nat.exists_eq_add_one_of_ne_zero (by omega)
  rw [visits, linesAbove, count, List.range_succ_eq_map, List.map_cons, List.cons_append]
  exact ⟨_, congrArg (· :: _) (Int.sub_zero _)⟩

include below

/-- The lines in the range are visited that the buffer has. -/
theorem mem_visits_iff {index : Int} :
    index ∈ visits range request ↔
      (request.line - range ≤ index ∧ index ≤ request.line + range) ∧
        0 ≤ index ∧ index < request.text.lines.length := by
  rw [visits, List.mem_append, mem_linesAbove_iff (by omega) above distance,
    mem_linesBelow_iff above distance]
  omega

/-- Every line is visited behind those before it, except that the cursor's own line comes up
again. -/
theorem pairwise_visits :
    (visits range request).Pairwise fun earlier later =>
      VisitedBefore request.line earlier later ∨ later = request.line := by
  have upwards : (linesAbove request.line (request.text.lines.length - 1) range).Pairwise
      fun earlier later => later < earlier := by
    refine List.pairwise_map.2 (List.pairwise_lt_range.imp fun {near far} further => ?_)
    omega
  have downwards : (linesBelow request.line (request.text.lines.length - 1) range).Pairwise
      fun earlier later => earlier < later := by
    refine List.pairwise_map.2 (List.pairwise_lt_range.imp fun {near far} further => ?_)
    omega
  unfold VisitedBefore
  refine List.pairwise_append.2 ⟨?_, ?_, fun earlier up later down => ?_⟩
  · refine upwards.imp_of_mem fun {earlier later} up _ further => ?_
    have bounds := (mem_linesAbove_iff (by omega) above distance).1 up
    omega
  · refine downwards.imp_of_mem fun {earlier later} down _ further => ?_
    have bounds := (mem_linesBelow_iff above distance).1 down
    omega
  · have bounds := (mem_linesAbove_iff (by omega) above distance).1 up
    have limits := (mem_linesBelow_iff above distance).1 down
    omega

variable {piece word : Text}

/-- A run in a visited line stands near the cursor. -/
theorem nearby_of_visited {index : Int} {column : Nat} (visited : index ∈ visits range request)
    (run : RunAt (request.text.lines[index.toNat]?.getD []) column word) :
    ∃ place : Nat, index = place ∧ Nearby range request place column word := by
  obtain ⟨bounds, first, last⟩ := (mem_visits_iff distance above below).1 visited
  have place : index = (index.toNat : Nat) := (Int.toNat_of_nonneg first).symm
  have found := List.getElem?_eq_getElem (l := request.text.lines) (i := index.toNat) (by omega)
  rw [found, Option.getD_some] at run
  exact ⟨index.toNat, place, by omega, by omega, _, found, run⟩

/-- What stands near the cursor and extends the piece is added by a visited line, unless it is the
piece in the cursor's line. -/
theorem Nearby.added {index column : Nat} (nearby : Nearby range request index column word)
    (extends_ : piece <+: word) (excepted : ¬ ((index : Int) = request.line ∧ word = piece)) :
    (index : Int) ∈ visits range request ∧ word ∈ addedBy request piece index ∧
      RunAt (request.text.lines[(index : Int).toNat]?.getD []) column word := by
  obtain ⟨least, most, line, found, run⟩ := nearby
  obtain ⟨bound, -⟩ := List.getElem?_eq_some_iff.1 found
  have stands : RunAt (request.text.lines[(index : Int).toNat]?.getD []) column word := by
    rw [Int.toNat_natCast, found]
    exact run
  refine ⟨(mem_visits_iff distance above below).2 (by omega), ?_, stands⟩
  exact mem_offered_iff.2 ⟨⟨column, stands⟩, extends_, by simpa using excepted⟩

/-- The visited lines add the runs in them that extend the piece, except the piece in the cursor's
line. -/
theorem mem_flatMap_visits_iff :
    word ∈ (visits range request).flatMap (addedBy request piece) ↔ piece <+: word ∧ ∃ index column,
      Nearby range request index column word ∧ ¬ ((index : Int) = request.line ∧ word = piece) := by
  constructor
  · intro member
    obtain ⟨index, visited, added⟩ := List.mem_flatMap.1 member
    obtain ⟨⟨column, run⟩, extends_, excepted⟩ := mem_offered_iff.1 added
    obtain ⟨place, rfl, nearby⟩ := nearby_of_visited distance above below visited run
    exact ⟨extends_, place, column, nearby, by simpa using excepted⟩
  · rintro ⟨extends_, index, column, nearby, excepted⟩
    obtain ⟨visited, added, -⟩ := nearby.added distance above below extends_ excepted
    exact List.mem_flatMap.2 ⟨index, visited, added⟩

/-- A line that is visited behind another one is visited later, unless it was visited before. -/
theorem visitedBefore_of_split {before behind : List Int} {index later : Int}
    (split : visits range request = before ++ index :: behind)
    (reached : later ∈ visits range request)
    (unvisited : later ∉ before) (differs : later ≠ index) :
    VisitedBefore request.line index later := by
  have ordered := pairwise_visits distance above below
  obtain ⟨others, first⟩ := exists_visits distance above
  rw [split] at ordered reached first
  have inside : later ∈ behind := by
    rcases List.mem_append.1 reached with earlier | found
    · exact absurd earlier unvisited
    · exact (List.mem_cons.1 found).resolve_left differs
  rcases List.rel_of_pairwise_cons (List.pairwise_append.1 ordered).2.1 inside with
    precedes | cursor
  · exact precedes
  · -- The cursor's own line was the first of all.
    cases before with
    | nil =>
      obtain ⟨own, -⟩ := List.cons.inj first
      exact absurd (cursor.trans own.symm) differs
    | cons own before =>
      obtain ⟨rfl, -⟩ := List.cons.inj first
      exact absurd (cursor ▸ List.mem_cons_self) unvisited

/-- A word in front of which another one is not added occurs before it. -/
theorem occursBefore_of_split {other : Text} {front rest : List Text}
    (whole : (visits range request).flatMap (addedBy request piece) = front ++ word :: rest)
    (unlisted : other ∉ front) (differs : other ≠ word) (extends_ : piece <+: other) :
    OccursBefore request.line (fun index column word =>
      Nearby range request index column word ∧ ¬ ((index : Int) = request.line ∧ word = piece))
      word other := by
  obtain ⟨before, index, behind, inner, outer, split, listed, rfl⟩ := flatMap_eq_append_cons whole
  obtain ⟨column, run, leftmost⟩ := exists_column_of_offered listed
  have visited : index ∈ visits range request := by
    rw [split]
    exact List.mem_append_right before List.mem_cons_self
  have added : word ∈ addedBy request piece index := by
    rw [listed]
    exact List.mem_append_right inner List.mem_cons_self
  obtain ⟨place, rfl, nearby⟩ := nearby_of_visited distance above below visited run
  refine ⟨place, column, ⟨nearby, by simpa using (mem_offered_iff.1 added).2.2⟩, ?_⟩
  rintro later position ⟨standing, excepted⟩
  obtain ⟨reached, offers, stands⟩ := standing.added distance above below extends_ excepted
  by_cases same : later = place
  · subst same
    refine .inr ⟨rfl, leftmost other position stands offers (fun member => ?_) differs⟩
    exact unlisted (List.mem_append_right _ member)
  · refine .inl (visitedBefore_of_split distance above below split reached (fun earlier => ?_) ?_)
    · exact unlisted (List.mem_append_left _ (List.mem_flatMap.2 ⟨later, earlier, offers⟩))
    · exact fun equal => same (Int.natCast_inj.1 equal)

end Visits

/-- At a column of a line of the buffer the words are what the lines near the cursor add, each once,
for the longest run of word characters that ends at the column or the line's end. -/
theorem exists_piece (range : Int) {request : Request} {line : Text} (above : 0 ≤ request.line)
    (found : request.text.lines[request.line.toNat]? = some line) (column : 0 ≤ request.column) :
    ∃ piece, LongestEnd (line.take (min request.column line.length).toNat) piece ∧
      bufferWords range request =
        .ok (((visits range request).flatMap (addedBy request piece)).foldl addNew []) := by
  have reach :
      line.take (min request.column line.length).toNat = line.take request.column.toNat := by
    rw [List.take_eq_take_iff]
    omega
  refine ⟨trailingWord (line.take request.column.toNat), ?_,
    bufferWords_eq range above found column⟩
  rw [reach]
  exact longestEnd_trailingWord _

/-- At a column of a line of the buffer, let the piece be the longest run of word characters that
ends there. The words that are offered have no repetitions. They are the runs of word characters in
the lines at most `range` away from the cursor that start with the piece, except the piece itself if
it stands in no such line but the cursor's. They are in the order of their first occurrences, where
the lines are visited from the cursor's upwards and then downwards, each from left to right, and the
piece does not count in the cursor's line. -/
theorem nearby_words_in_order (range : Int) (request : Request) (line : Text) (distance : 0 ≤ range)
    (above : 0 ≤ request.line) (found : request.text.lines[request.line.toNat]? = some line)
    (column : 0 ≤ request.column) :
    ∃ piece words, LongestEnd (line.take (min request.column line.length).toNat) piece ∧
      bufferWords range request = .ok words ∧ words.Nodup ∧
      (∀ word, word ∈ words ↔
        (∃ index column, Nearby range request index column word) ∧ piece <+: word ∧
        ¬ (word = piece ∧
          ∀ index column, Nearby range request index column word → (index : Int) = request.line)) ∧
      words.Pairwise (OccursBefore request.line fun index column word =>
        Nearby range request index column word ∧
          ¬ ((index : Int) = request.line ∧ word = piece)) := by
  obtain ⟨bound, -⟩ := List.getElem?_eq_some_iff.1 found
  have below : request.line < request.text.lines.length := by omega
  obtain ⟨piece, longest, given⟩ := exists_piece range above found column
  have first := firstOccurrences_gathered ((visits range request).flatMap (addedBy request piece))
  have members (word : Text) :=
    (first.same word).trans (mem_flatMap_visits_iff distance above below)
  refine ⟨piece, _, longest, given, first.nodup, fun word => (members word).trans ?_, ?_⟩
  · constructor
    · rintro ⟨extends_, index, column, nearby, excepted⟩
      refine ⟨⟨index, column, nearby⟩, extends_, fun ⟨same, only⟩ => ?_⟩
      exact excepted ⟨only index column nearby, same⟩
    · rintro ⟨⟨index, column, nearby⟩, extends_, excepted⟩
      refine ⟨extends_, ?_⟩
      by_cases same : word = piece
      · by_contra none
        refine excepted ⟨same, fun other place stands => ?_⟩
        by_contra elsewhere
        exact none ⟨other, place, stands, fun own => elsewhere own.1⟩
      · exact ⟨index, column, nearby, fun own => same own.2⟩
  · refine first.split.imp_of_mem fun {earlier later} _ within => ?_
    rintro ⟨front, rest, whole, unlisted, differs⟩
    have extends_ := ((members later).1 within).1
    exact occursBefore_of_split distance above below whole unlisted differs extends_

/-- The piece stands in the cursor's line and in another one. It is offered from there, behind a
longer word of the cursor's line. -/
theorem nearby_words_in_order_piece_below :
    let request : Request := ⟨"ab abc\nab".toList, 0, 2⟩
    (0 : Int) ≤ 1 ∧ 0 ≤ request.line ∧ 0 ≤ request.column ∧
      request.text.lines[request.line.toNat]? = some "ab abc".toList ∧
      ∃ piece, LongestEnd "ab".toList piece ∧
        bufferWords 1 request = .ok ["abc".toList, "ab".toList] ∧
        (∀ word, word ∈ ["abc".toList, "ab".toList] ↔
          (∃ index column, Nearby 1 request index column word) ∧ piece <+: word ∧
          ¬ (word = piece ∧
            ∀ index column, Nearby 1 request index column word → (index : Int) = request.line)) ∧
        OccursBefore 0 (fun index column word =>
          Nearby 1 request index column word ∧ ¬ ((index : Int) = 0 ∧ word = piece))
          "abc".toList "ab".toList := by
  intro request
  have found : request.text.lines[request.line.toNat]? = some "ab abc".toList := by decide +kernel
  have given : bufferWords 1 request = .ok ["abc".toList, "ab".toList] := by decide +kernel
  obtain ⟨piece, words, longest, same, -, members, ordered⟩ :=
    nearby_words_in_order 1 request _ (by decide) (by decide) found (by decide)
  obtain rfl : words = ["abc".toList, "ab".toList] := Except.ok.inj (same.symm.trans given)
  refine ⟨by decide, by decide, by decide, found, piece, longest, given, members, ?_⟩
  exact List.rel_of_pairwise_cons ordered List.mem_cons_self

/-- The piece in front of the cursor stands at the very beginning of the first line that is visited,
but a word that stands behind it there is offered before it: the words are not in the order of their
first occurrences if the piece counts in the cursor's line. -/
theorem piece_offered_behind_its_place :
    let request : Request := ⟨"ab abc\nab".toList, 0, 2⟩
    bufferWords defaultRange request = .ok ["abc".toList, "ab".toList] ∧
      ¬ ["abc".toList, "ab".toList].Pairwise
        (OccursBefore request.line (Nearby defaultRange request)) := by
  intro request
  refine ⟨by decide +kernel, fun ordered => ?_⟩
  have found : request.text.lines[0]? = some "ab abc".toList := by decide +kernel
  have run : Run [] "ab".toList " abc".toList := by
    refine ⟨by decide, List.all_eq_true.1 (by decide), by simp, fun c first => ?_⟩
    obtain rfl : ' ' = c := Option.some.inj first
    decide
  have nearby : Nearby defaultRange request 0 0 "ab".toList :=
    ⟨by decide, by decide, _, found, [], " abc".toList, rfl, rfl, run⟩
  obtain ⟨index, column, -, before⟩ := List.rel_of_pairwise_cons ordered List.mem_cons_self
  have precedes := before 0 0 nearby
  have cursor : request.line = 0 := rfl
  rw [cursor] at precedes
  unfold VisitedBefore at precedes
  omega

end BatchScript.Hint
