import BatchScript.Proofs.Text.Lines

/-!
# Line ends of a script

Cutting a script into lines takes its line ends away: each line feed, with a carriage return in
front of it. But the carriage return is taken off every piece, also off the last one, behind which
no line feed stands. So the lines with line feeds between them are the script with its pairs made
line feeds, except that a carriage return at the very end of the script is lost.
-/
namespace BatchScript.Text

/-- Every pair of a carriage return and a line feed becomes a line feed; all other characters
stay. -/
def mergePairs : Text → Text
  | [] => []
  | '\r' :: '\n' :: rest => '\n' :: mergePairs rest
  | c :: rest => c :: mergePairs rest

/-- The place between two texts lies inside a pair. -/
def CutsPair (front behind : Text) : Prop :=
  front.getLast? = some '\r' ∧ behind.head? = some '\n'

/-- A place inside a pair is one however much stands in front of it. -/
theorem CutsPair.cons {front behind : Text} (cuts : CutsPair front behind) (c : Char) :
    CutsPair (c :: front) behind :=
  ⟨by rw [List.getLast?_cons, cuts.1, Option.getD_some], cuts.2⟩

/-- In front of another character than a line feed no pair is cut. -/
theorem not_cutsPair {c : Char} (other : c ≠ '\n') (front behind : Text) :
    ¬ CutsPair front (c :: behind) :=
  fun cuts => other (Option.some.inj cuts.2)

/-- A character that does not start a pair stays. -/
theorem mergePairs_cons {c : Char} {rest : Text} (single : ¬ CutsPair [c] rest) :
    mergePairs (c :: rest) = c :: mergePairs rest := by
  rw [mergePairs]
  rintro behind rfl rfl
  exact single ⟨rfl, rfl⟩

/-- Pairs are merged on both sides of a place that does not cut one. -/
theorem mergePairs_append {front behind : Text} (whole : ¬ CutsPair front behind) :
    mergePairs (front ++ behind) = mergePairs front ++ mergePairs behind := by
  fun_induction mergePairs front with
  | case1 => rfl
  | case2 rest ih =>
    have later := ih fun cuts => whole ((cuts.cons '\n').cons '\r')
    rw [List.cons_append, List.cons_append, mergePairs, later, List.cons_append]
  | case3 c rest single ih =>
    have later := ih fun cuts => whole (cuts.cons c)
    have stays : ¬ CutsPair [c] (rest ++ behind) := by
      intro cuts
      cases rest with
      | nil => exact whole cuts
      | cons d ds => exact single ds (Option.some.inj cuts.1) (by rw [Option.some.inj cuts.2])
    rw [List.cons_append, mergePairs_cons stays, later, List.cons_append]

/-- A text without line feeds has no pairs. -/
theorem mergePairs_of_feed_not_mem {text : Text} (feed : '\n' ∉ text) : mergePairs text = text := by
  induction text with
  | nil => rfl
  | cons c cs ih =>
    have rest := List.not_mem_of_not_mem_cons feed
    rw [mergePairs_cons fun cuts => rest (List.mem_of_head? cuts.2), ih rest]

/-- A text ends in no carriage return, or it is what is left without it and the carriage return. -/
theorem dropReturn_cases (text : Text) :
    (text.getLast? ≠ some '\r' ∧ text.dropReturn = text) ∨
      (text.getLast? = some '\r' ∧ text.dropReturn ++ ['\r'] = text) := by
  by_cases last : text.getLast? = some '\r'
  · obtain ⟨front, rfl⟩ := List.getLast?_eq_some_iff.1 last
    refine .inr ⟨last, ?_⟩
    rw [dropReturn, if_pos last, List.dropLast_concat]
  · refine .inl ⟨last, ?_⟩
    rw [dropReturn, if_neg last]

/-- A line feed takes a carriage return in front of it along. -/
theorem mergePairs_append_feed {piece : Text} (feed : '\n' ∉ piece) (behind : Text) :
    mergePairs (piece ++ '\n' :: behind) = piece.dropReturn ++ '\n' :: mergePairs behind := by
  have first : mergePairs ('\n' :: behind) = '\n' :: mergePairs behind :=
    mergePairs_cons fun cuts => absurd cuts.1 (by decide)
  rcases dropReturn_cases piece with ⟨last, kept⟩ | ⟨-, parts⟩
  · rw [mergePairs_append fun cuts => last cuts.1, mergePairs_of_feed_not_mem feed, first, kept]
  · have before : '\n' ∉ piece.dropReturn := fun inside => feed (dropReturn_subset piece inside)
    calc mergePairs (piece ++ '\n' :: behind)
        = mergePairs (piece.dropReturn ++ '\r' :: '\n' :: behind) := by
          rw [List.append_cons piece.dropReturn, parts]
      _ = piece.dropReturn ++ '\n' :: mergePairs behind := by
          rw [mergePairs_append (not_cutsPair (by decide) _ _), mergePairs_of_feed_not_mem before,
            mergePairs]

/-- Behind a line feed a carriage return at the end is taken off what stands there. -/
theorem dropReturn_append_feed (piece behind : Text) :
    (piece ++ '\n' :: behind).dropReturn = piece ++ '\n' :: behind.dropReturn := by
  have kept : (piece ++ ['\n']).dropReturn = piece ++ ['\n'] := by
    simp [dropReturn]
  have taken := dropReturn_append kept behind
  rwa [List.append_assoc, List.append_assoc] at taken

/-- Pieces without line feeds, each without a carriage return at its end, make up the joined pieces
with their pairs merged, without a carriage return at the very end. -/
theorem join_map_dropReturn {pieces : List Text} (without : ∀ piece ∈ pieces, '\n' ∉ piece) :
    join ['\n'] (pieces.map dropReturn) = mergePairs (join ['\n'] pieces).dropReturn := by
  induction pieces with
  | nil => rfl
  | cons first pieces ih =>
    have feed := without first List.mem_cons_self
    cases pieces with
    | nil =>
      have before : '\n' ∉ first.dropReturn := fun inside => feed (dropReturn_subset first inside)
      rw [List.map_singleton, join_singleton, join_singleton, mergePairs_of_feed_not_mem before]
    | cons second pieces =>
      have rest := ih fun piece member => without piece (List.mem_cons_of_mem first member)
      rw [List.map_cons] at rest
      rw [List.map_cons, List.map_cons, join_cons_cons, join_cons_cons, rest, List.append_assoc,
        List.append_assoc, List.singleton_append, List.singleton_append, dropReturn_append_feed,
        mergePairs_append_feed feed]

/-- The lines of a script with line feeds between them are the script without a carriage return at
its very end, and with its pairs of carriage return and line feed made line feeds. -/
theorem join_lines (source : Text) : join ['\n'] source.lines = mergePairs source.dropReturn := by
  have joined : join ['\n'] (source.split '\n') = source := by
    rw [split_eq_splitOn]
    exact List.intercalate_splitOn '\n'
  rw [lines, join_map_dropReturn fun piece => feed_not_mem_of_mem_split, joined]

/-- The lines of a script with line feeds between them are the script with every pair of a carriage
return and a line feed made a line feed and all other characters unchanged, except that a carriage
return at the very end of the script is missing. So they are that text exactly if the script does
not end in a carriage return. -/
theorem lines_lose_last_return_only (source : Text) :
    mergePairs source =
        join ['\n'] source.lines ++ (if source.getLast? = some '\r' then ['\r'] else []) ∧
      (join ['\n'] source.lines = mergePairs source ↔ source.getLast? ≠ some '\r') := by
  rw [join_lines]
  rcases dropReturn_cases source with ⟨last, kept⟩ | ⟨last, parts⟩
  · rw [if_neg last, kept, List.append_nil]
    exact ⟨rfl, fun _ => last, fun _ => rfl⟩
  · have merged :
        mergePairs (source.dropReturn ++ ['\r']) = mergePairs source.dropReturn ++ ['\r'] :=
      mergePairs_append (not_cutsPair (by decide) _ _)
    rw [parts] at merged
    rw [if_pos last, merged]
    refine ⟨rfl, fun same => ?_, fun other => absurd last other⟩
    exact absurd (List.self_eq_append_right.1 same) (List.cons_ne_nil _ _)

/-- A carriage return at the end of a script, with no line feed behind it, is in none of the
lines. -/
theorem last_return_lost :
    lines "a\r".toList = ["a".toList] ∧ mergePairs "a\r".toList = "a\r".toList ∧
      join ['\n'] (lines "a\r".toList) ≠ mergePairs "a\r".toList := by
  decide

end BatchScript.Text
