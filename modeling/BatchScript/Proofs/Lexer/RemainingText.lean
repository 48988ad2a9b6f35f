import BatchScript.Proofs.Lexer.Reading

/-!
# Tokens of the remaining text

A cursor at a column of its line and a cursor at the front of what is left there read the same
token, only the columns are counted from different places. So, behind any number of tokens, the
tokens still to come are those of the remaining text. What every token keeps, any number of tokens
keeps.
-/
namespace BatchScript

/-- The token that stands so many columns further on. -/
def Token.shift (columns : Int) (token : Token) : Token :=
  { token with start := token.start + columns, stop := token.stop + columns }

namespace Lexer

/-- A token between the same texts stands as many columns further on as the text is taken up. -/
theorem tokenBetween_shift (offset column : Nat) (category : Category) (unread rest : Text) :
    tokenBetween (offset + column) category unread rest =
      (tokenBetween column category unread rest).shift offset := by
  have start : ((offset + column : Nat) : Int) = column + offset := by omega
  simp only [tokenBetween, Token.shift, start, Token.mk.injEq, true_and, and_true]
  omega

/-- A text that is taken up at a later column has its tokens as many columns further on. -/
theorem tokenizeFrom_shift (offset column : Nat) (unread : Text) (stack : Stack) :
    tokenizeFrom (offset + column) unread stack =
      ((tokenizeFrom column unread stack).1.map (Token.shift offset),
        (tokenizeFrom column unread stack).2) := by
  fun_induction tokenizeFrom column unread stack with
  | case1 column stack => exact tokenizeFrom_nil (offset + column) stack
  | case2 column stack c cs scanned token tokens final later ih =>
    have first : tokenBetween (offset + column) scanned.category (c :: cs) scanned.rest =
        token.shift offset := tokenBetween_shift offset column _ _ _
    rw [later, ← Nat.add_assoc] at ih
    rw [tokenizeFrom]
    change (tokenBetween (offset + column) scanned.category (c :: cs) scanned.rest ::
        (tokenizeFrom (offset + column + token.text.length) scanned.rest scanned.stack).1,
      (tokenizeFrom (offset + column + token.text.length) scanned.rest scanned.stack).2) = _
    rw [first, ih, List.map_cons]

end Lexer

namespace Cursor

open Lexer

/-- The cursor and the stack behind the next tokens of the line, `count` of them. -/
def pass (cursor : Cursor) (stack : Stack) : Nat → Cursor × Stack
  | 0 => (cursor, stack)
  | count + 1 => pass (cursor.nextToken stack).2.1 (cursor.nextToken stack).2.2 count

/-- Behind the last character of its line a cursor reads an empty token and stays. -/
theorem nextToken_ended {cursor : Cursor} (ended : cursor.unread? = some []) (stack : Stack) :
    cursor.nextToken stack = (some (cursor.mark.token .plain), cursor.mark, stack) := by
  have same : cursor.mark.unread? = some [] := ended
  simp only [nextToken, same]

/-- A property of the number of tokens passed, of the text on both sides and of the stack that
reading keeps: what holds in front of a token holds behind it, and at the end of the line it goes on
to hold. -/
structure KeptByTokens (kept : Nat → Text → Text → Stack → Prop) : Prop where
  /-- At the end of the line the cursor stays. -/
  ended : ∀ {passed before stack}, kept passed before [] stack → kept (passed + 1) before [] stack
  /-- A token moves the text that it reads from what is left to what lies before. -/
  token : ∀ {passed before c cs stack read}, c :: cs = read ++ (nextScanned c cs stack).rest →
    readSoFar (c :: cs) (nextScanned c cs stack).rest = read → kept passed before (c :: cs) stack →
    kept (passed + 1) (before ++ read) (nextScanned c cs stack).rest (nextScanned c cs stack).stack

variable {kept : Nat → Text → Text → Stack → Prop}

/-- What reading keeps holds behind any number of tokens. -/
theorem KeptByTokens.pass_behind (keeps : KeptByTokens kept) {passed : Nat} {before unread : Text}
    {stack : Stack} (here : kept passed before unread stack) (start : Int) (count : Nat) :
    ∃ front rest begun next, front ++ rest = before ++ unread ∧
      pass ⟨before ++ unread, start, before.length⟩ stack count =
        (⟨before ++ unread, begun, front.length⟩, next) ∧
      kept (passed + count) front rest next := by
  induction count generalizing passed before unread stack start with
  | zero => exact ⟨before, unread, start, stack, rfl, rfl, here⟩
  | succ count ih =>
    cases unread with
    | nil =>
      have stays := nextToken_ended (unread?_behind before [] start) stack
      rw [pass, stays, Nat.add_comm count 1, ← Nat.add_assoc]
      exact ih (keeps.ended here) before.length
    | cons c cs =>
      obtain ⟨read, -, whole, text⟩ := nextScanned_reads c cs stack
      have line : before ++ c :: cs = before ++ read ++ (nextScanned c cs stack).rest := by
        rw [List.append_assoc, ← whole]
      have column : (before.length : Int) + read.length = (before ++ read).length := by
        rw [List.length_append, Int.natCast_add]
      have later := ih (keeps.token whole text here) before.length
      rw [← line, ← column] at later
      rw [pass, nextToken_behind whole before start, Nat.add_comm count 1, ← Nat.add_assoc]
      exact later

/-- So what reading keeps and what holds at the front of a line holds behind any number of its
tokens. -/
theorem KeptByTokens.pass_ofLine (keeps : KeptByTokens kept) {line : Text} {stack : Stack}
    (here : kept 0 [] line stack) (count : Nat) :
    ∃ front rest begun next, front ++ rest = line ∧
      (ofLine line 0).pass stack count = (⟨line, begun, front.length⟩, next) ∧
      kept count front rest next := by
  have found := keeps.pass_behind here 0 count
  rw [Nat.zero_add] at found
  exact found

/-- A cursor at a column and a cursor at the front of what is left there read the same token, and
the columns differ by that column. -/
theorem nextToken_shift (line : Text) (column : Nat) (stack : Stack) :
    ∃ token behind next,
      (ofLine (line.drop column) 0).nextToken stack =
        (some token, ⟨line.drop column, 0, behind⟩, next) ∧
      (ofLine line column).nextToken stack =
        (some (token.shift column), ⟨line, column, behind + column⟩, next) := by
  cases left : line.drop column with
  | nil =>
    have here : (ofLine line column).unread? = some [] := by
      simp [ofLine, unread?, left]
    have nothing : line.slice column column = [] := by
      have place : ¬ (column : Int) < 0 := by omega
      simp [Text.slice, place]
    refine ⟨.empty, 0, stack, nextToken_ended rfl stack, ?_⟩
    rw [nextToken_ended here]
    simp [ofLine, mark, Cursor.token, current, nothing, Token.empty, Token.shift]
  | cons c cs =>
    obtain ⟨read, -, whole, -⟩ := nextScanned_reads c cs stack
    have inside : column < line.length := by
      have shorter := congrArg List.length left
      rw [List.length_drop, List.length_cons] at shorter
      omega
    have front : (line.take column).length = column := List.length_take_of_le (Nat.le_of_lt inside)
    have split : line.take column ++ c :: cs = line := by
      rw [← left, List.take_append_drop]
    have there := nextToken_behind whole (line.take column) column
    rw [front, split] at there
    let token : Token := ⟨(nextScanned c cs stack).category, 0, read.length, read⟩
    have shifted : token.shift column =
        ⟨(nextScanned c cs stack).category, column, column + read.length, read⟩ := by
      simp [token, Token.shift, Int.add_comm]
    refine ⟨token, read.length, (nextScanned c cs stack).stack, ?_, ?_⟩
    · exact nextToken_ofLine whole
    · rw [shifted, Int.add_comm (read.length : Int)]
      exact there

end Cursor

namespace Lexer

/-- Behind so many tokens of a line, what is left from a column on accounts for the tokens still to
come and for the stack behind the line. -/
structure Accounts (line : Text) (stack : Stack) (passed : Nat) (before unread : Text)
    (next : Stack) : Prop where
  /-- The tokens still to come are those of what is left. -/
  tokens : (tokenizeLine line stack).1.drop passed = (tokenizeFrom before.length unread next).1
  /-- The stack behind the line is the stack behind what is left. -/
  final : (tokenizeLine line stack).2 = (tokenizeFrom before.length unread next).2

/-- At the end of the line no token is still to come, and the next token is the first of those still
to come. -/
theorem keptByTokens_accounts (line : Text) (stack : Stack) :
    Cursor.KeptByTokens (Accounts line stack) where
  ended here := by
    have none := here.tokens
    rw [tokenizeFrom_nil] at none
    refine ⟨?_, here.final⟩
    rw [← List.tail_drop, none, tokenizeFrom_nil]
    rfl
  token _ text here := by
    obtain ⟨tokens, final⟩ := here
    rw [tokenizeFrom_cons text] at tokens final
    constructor
    · rw [← List.tail_drop, tokens, List.tail_cons, List.length_append]
    · rw [final, List.length_append]

/-- A token depends only on the text from its start on and on the stack there: a cursor at any
column of a line reads what a cursor at the front of the remaining text reads, with the columns
shifted. So the tokens of a line behind any number of them are the tokens of the text that remains
there, shifted, and the stack behind the line is the stack behind that text. -/
theorem tokens_of_remaining_text :
    (∀ (line : Text) (column : Nat) (stack : Stack),
      ∃ token behind next,
        (Cursor.ofLine (line.drop column) 0).nextToken stack =
          (some token, ⟨line.drop column, 0, behind⟩, next) ∧
        (Cursor.ofLine line column).nextToken stack =
          (some (token.shift column), ⟨line, column, behind + column⟩, next)) ∧
    ∀ (line : Text) (stack : Stack) (count : Nat),
      ∃ (column : Nat) (begun : Int) (next : Stack), column ≤ line.length ∧
        (Cursor.ofLine line 0).pass stack count = (⟨line, begun, column⟩, next) ∧
        (tokenizeLine line stack).1.drop count =
          (tokenizeLine (line.drop column) next).1.map (Token.shift column) ∧
        (tokenizeLine line stack).2 = (tokenizeLine (line.drop column) next).2 := by
  refine ⟨Cursor.nextToken_shift, fun line stack count => ?_⟩
  have here : Accounts line stack 0 [] line stack := ⟨rfl, rfl⟩
  obtain ⟨front, rest, begun, next, whole, reached, tokens, final⟩ :=
    (keptByTokens_accounts line stack).pass_ofLine here count
  have left : line.drop front.length = rest := by
    rw [← whole, List.drop_left]
  have inside : front.length ≤ line.length := by
    have length := congrArg List.length whole
    rw [List.length_append] at length
    exact Nat.le.intro length
  have shifted := tokenizeFrom_shift front.length 0 rest next
  rw [Nat.add_zero] at shifted
  rw [shifted] at tokens final
  refine ⟨front.length, begun, next, inside, reached, ?_, ?_⟩
  · rw [left]
    exact tokens
  · rw [left]
    exact final

end Lexer

end BatchScript
