import BatchScript.Lexer
import BatchScript.Proofs.Text.Lines

/-!
# Taking up a script at any line

Lexing passes from line to line by nothing but the stack. A script that is cut at a line feed is
lexed in two parts, the second from the stack that the first leaves, and the stacks in front of the
lines are enough to lex any line on its own. What stands in front of a cut matters to the lines
behind it only through the stack it leaves.
-/
namespace BatchScript.Lexer

/-- The second part of some lines is lexed from the stack that the first part leaves. -/
theorem tokenizeLines_append (first second : List Text) (stack : Stack) :
    tokenizeLines (first ++ second) stack =
      ((tokenizeLines first stack).1 ++ (tokenizeLines second (tokenizeLines first stack).2).1,
        (tokenizeLines second (tokenizeLines first stack).2).2) := by
  induction first generalizing stack with
  | nil => rfl
  | cons line first ih => simp only [List.cons_append, tokenizeLines, ih]

/-- Every line has its list of tokens. -/
theorem length_tokenizeLines (lines : List Text) (stack : Stack) :
    (tokenizeLines lines stack).1.length = lines.length := by
  induction lines generalizing stack with
  | nil => rfl
  | cons line lines ih => simp only [tokenizeLines, List.length_cons, ih]

/-- Lexing some lines and only following their stacks end in the same stack. -/
theorem snd_tokenizeLines (lines : List Text) (stack : Stack) :
    (tokenizeLines lines stack).2 = stackAfter lines stack := by
  induction lines generalizing stack with
  | nil => rfl
  | cons line lines ih => exact ih (tokenizeLine line stack).2

/-- Every line has a stack in front of it. -/
theorem length_lineStacks (lines : List Text) (stack : Stack) :
    (lineStacks lines stack).length = lines.length := by
  induction lines generalizing stack with
  | nil => rfl
  | cons line lines ih => simp only [lineStacks, List.length_cons, ih]

/-- The stacks in front of the first lines stay as they are when lines are added behind them. -/
theorem lineStacks_append (first second : List Text) (stack : Stack) :
    lineStacks (first ++ second) stack =
      lineStacks first stack ++ lineStacks second (stackAfter first stack) := by
  induction first generalizing stack with
  | nil => rfl
  | cons line first ih =>
    simp only [List.cons_append, lineStacks, ih]
    rfl

/-- The first of the stacks around some lines is the one they start from. -/
theorem head?_lineStacks_append (lines : List Text) (stack : Stack) :
    (lineStacks lines stack ++ [stackAfter lines stack])[0]? = some stack := by
  cases lines <;> rfl

/-- A line inside a script, with the lines around it. -/
theorem exists_lines_around {lines : List Text} {i : Nat} {line : Text}
    (found : lines[i]? = some line) :
    ∃ before behind, lines = before ++ line :: behind ∧ before.length = i ∧
      before = lines.take i := by
  obtain ⟨inside, same⟩ := List.getElem?_eq_some_iff.1 found
  refine ⟨lines.take i, lines.drop (i + 1), ?_, List.length_take_of_le (Nat.le_of_lt inside), rfl⟩
  rw [← same, ← List.drop_eq_getElem_cons inside, List.take_append_drop]

/-- A line lexed from the stack in front of it has the tokens it has in its place, and leaves the
stack in front of the next line, or the last stack of all. -/
theorem tokenizeLine_in_place {lines : List Text} {i : Nat} {line : Text}
    (found : lines[i]? = some line) (stack : Stack) :
    ∃ before tokens behind,
      (lineStacks lines stack)[i]? = some before ∧
      (tokenizeLines lines stack).1[i]? = some tokens ∧
      (lineStacks lines stack ++ [(tokenizeLines lines stack).2])[i + 1]? = some behind ∧
      tokenizeLine line before = (tokens, behind) ∧
      before = stackAfter (lines.take i) stack := by
  obtain ⟨first, later, rfl, rfl, taken⟩ := exists_lines_around found
  let before := stackAfter first stack
  let behind := (tokenizeLine line before).2
  have fronts : lineStacks (first ++ line :: later) stack =
      lineStacks first stack ++ before :: lineStacks later behind :=
    lineStacks_append first (line :: later) stack
  have tokens : (tokenizeLines (first ++ line :: later) stack).1 =
      (tokenizeLines first stack).1 ++
        (tokenizeLine line before).1 :: (tokenizeLines later behind).1 := by
    rw [tokenizeLines_append, snd_tokenizeLines first]
    rfl
  have final : (tokenizeLines (first ++ line :: later) stack).2 = stackAfter later behind := by
    rw [tokenizeLines_append, snd_tokenizeLines first]
    exact snd_tokenizeLines later behind
  refine ⟨before, (tokenizeLine line before).1, behind, ?_, ?_, ?_, rfl, ?_⟩
  · rw [fronts]
    simp [length_lineStacks]
  · rw [tokens]
    simp [length_tokenizeLines]
  · rw [fronts, final, List.append_assoc, List.cons_append,
      List.getElem?_append_right (by rw [length_lineStacks]; omega), length_lineStacks,
      Nat.add_sub_cancel_left, List.getElem?_cons_succ]
    exact head?_lineStacks_append later behind
  · rw [← taken]

/-- Lexing can be taken up at any line. A line feed cuts a script into two that are lexed one after
the other; each line lexed from the stack in front of it gives its own tokens and the next stack,
and that stack is settled by the lines before it; and of what stands before a cut only the stack
matters to what stands behind. -/
theorem lexing_restarts :
    (∀ (a b : Text) (stack : Stack),
      tokenize (a ++ '\n' :: b) stack =
        ((tokenize a stack).1 ++ (tokenize b (tokenize a stack).2).1,
          (tokenize b (tokenize a stack).2).2)) ∧
    (∀ (source : Text) (stack : Stack) (i : Nat) (line : Text), source.lines[i]? = some line →
      ∃ before tokens behind,
        (lineStacks source.lines stack)[i]? = some before ∧
        (tokenize source stack).1[i]? = some tokens ∧
        (lineStacks source.lines stack ++ [(tokenize source stack).2])[i + 1]? = some behind ∧
        tokenizeLine line before = (tokens, behind) ∧
        before = stackAfter (source.lines.take i) stack ∧
        ∀ more, (lineStacks (source.lines ++ more) stack)[i]? = some before) ∧
    (∀ (a other b : Text) (stack : Stack), (tokenize other stack).2 = (tokenize a stack).2 →
      (tokenize (other ++ '\n' :: b) stack).1.drop other.lines.length =
        (tokenize (a ++ '\n' :: b) stack).1.drop a.lines.length) := by
  have cut (a b : Text) (stack : Stack) : tokenize (a ++ '\n' :: b) stack =
      ((tokenize a stack).1 ++ (tokenize b (tokenize a stack).2).1,
        (tokenize b (tokenize a stack).2).2) := by
    rw [tokenize, Text.lines_append_feed, tokenizeLines_append]
    rfl
  have behind (a b : Text) (stack : Stack) :
      (tokenize (a ++ '\n' :: b) stack).1.drop a.lines.length =
        (tokenize b (tokenize a stack).2).1 := by
    rw [cut]
    exact List.drop_left' (length_tokenizeLines a.lines stack)
  refine ⟨cut, fun source stack i line found => ?_, fun a other b stack same => ?_⟩
  · obtain ⟨before, tokens, next, front, shown, left, lexed, settled⟩ :=
      tokenizeLine_in_place found stack
    refine ⟨before, tokens, next, front, shown, left, lexed, settled, fun more => ?_⟩
    rw [lineStacks_append, List.getElem?_append_left (List.getElem?_eq_some_iff.1 front).1, front]
  · rw [behind, behind, same]

/-- Behind an open double quote the second line of a script is lexed as it is behind the quote
alone, and from the stack in front of it. -/
theorem lexing_restarts_in_quotes :
    (tokenize "x=1\r\nrem \"a".toList []).2 = (tokenize ['"'] []).2 ∧
      Text.lines "x=1\r\nrem \"a".toList = ["x=1".toList, "rem \"a".toList] ∧
      (tokenize ("x=1\r\nrem \"a".toList ++ '\n' :: "b\" c".toList) []).1.drop
          (Text.lines "x=1\r\nrem \"a".toList).length =
        (tokenize (['"'] ++ '\n' :: "b\" c".toList) []).1.drop (Text.lines ['"']).length ∧
      ∃ before tokens behind,
        (lineStacks (Text.lines "x=1\r\nrem \"a".toList) [])[1]? = some before ∧
        (tokenize "x=1\r\nrem \"a".toList []).1[1]? = some tokens ∧
        (lineStacks (Text.lines "x=1\r\nrem \"a".toList) [] ++
          [(tokenize "x=1\r\nrem \"a".toList []).2])[2]? = some behind ∧
        tokenizeLine "rem \"a".toList before = (tokens, behind) := by
  have same : (tokenize "x=1\r\nrem \"a".toList []).2 = (tokenize ['"'] []).2 := by
    decide +kernel
  have cut : Text.lines "x=1\r\nrem \"a".toList = ["x=1".toList, "rem \"a".toList] := by
    decide +kernel
  have line : (Text.lines "x=1\r\nrem \"a".toList)[1]? = some "rem \"a".toList := by
    rw [cut]
    rfl
  obtain ⟨before, tokens, behind, front, shown, left, lexed, -⟩ :=
    lexing_restarts.2.1 "x=1\r\nrem \"a".toList [] 1 "rem \"a".toList line
  exact ⟨same, cut, lexing_restarts.2.2 ['"'] "x=1\r\nrem \"a".toList "b\" c".toList [] same,
    before, tokens, behind, front, shown, left, lexed⟩

end BatchScript.Lexer
