import BatchScript.Proofs.Lexer.Tiling

/-!
# The token under a column

Lexing a line only as far as a column finds the one token of the line that covers the column. A
column behind the end of the line counts as that end, and in front of the first column there is no
token. The question is put to a copy of the stack: reading tokens changes the copy, and whoever asks
keeps the stack.
-/
namespace BatchScript

/-- A token covers a place if the character in front of the place belongs to it. -/
def Token.Covers (token : Token) (place : Int) : Prop := token.start < place ∧ place ≤ token.stop

/-- Of tokens that tile a line only one covers a place. -/
theorem Tiles.eq_of_covers {line : Text} {column place : Int} {tokens : List Token}
    (tiled : Tiles line column tokens) {first second : Token} (one : first ∈ tokens)
    (other : second ∈ tokens) (here : first.Covers place) (there : second.Covers place) :
    first = second := by
  obtain ⟨low, high⟩ := here
  obtain ⟨least, greatest⟩ := there
  have apart := tiled.apart
  induction tokens generalizing column with
  | nil => simp at one
  | cons token tokens ih =>
    obtain ⟨behind, apart⟩ := List.pairwise_cons.1 apart
    rcases List.mem_cons.1 one with rfl | left
    · rcases List.mem_cons.1 other with rfl | right
      · rfl
      · have after := behind second right
        omega
    · rcases List.mem_cons.1 other with rfl | right
      · have after := behind first left
        omega
      · exact ih tiled.2.2.2.2 left right apart

namespace Lexer

/-- At the column, or at the end of the line, the last token that was read is the answer. -/
theorem tokenAtFrom_of_reached {target : Int} {column : Nat} {unread : Text}
    (reached : unread = [] ∨ target ≤ column) (last : Token) (stack : Stack) :
    tokenAtFrom target last column unread stack = last := by
  cases unread with
  | nil => rw [tokenAtFrom]
  | cons c cs =>
    have near : target ≤ column := reached.resolve_left (List.cons_ne_nil c cs)
    rw [tokenAtFrom, if_pos near]

/-- In front of the column the next token is read. -/
theorem tokenAtFrom_cons {target : Int} {column : Nat} {c : Char} {cs read : Text} {stack : Stack}
    (ahead : (column : Int) < target)
    (text : readSoFar (c :: cs) (nextScanned c cs stack).rest = read) (last : Token) :
    tokenAtFrom target last column (c :: cs) stack =
      tokenAtFrom target
        ⟨(nextScanned c cs stack).category, column, column + read.length, read⟩
        (column + read.length) (nextScanned c cs stack).rest (nextScanned c cs stack).stack := by
  rw [tokenAtFrom, if_neg (by omega)]
  simp only [tokenBetween, text]

/-- What is read up to a column ahead is a token of the rest of the line, and it covers that column
or the line's end. -/
theorem covers_tokenAtFrom (target : Int) (last : Token) (before unread : Text) (stack : Stack)
    (ahead : (before.length : Int) < target) (nonempty : unread ≠ []) :
    tokenAtFrom target last before.length unread stack ∈
        (tokenizeFrom before.length unread stack).1 ∧
      (tokenAtFrom target last before.length unread stack).Covers
        (min target (before ++ unread).length) := by
  induction before, unread, stack using reading_induction generalizing last with
  | ended before stack => exact absurd rfl nonempty
  | token before c cs stack read some whole text ih =>
    have wide : 0 < read.length := List.length_pos_iff.2 some
    have length : (before ++ c :: cs).length =
        before.length + read.length + (nextScanned c cs stack).rest.length := by
      rw [whole, List.length_append, List.length_append, Nat.add_assoc]
    rw [tokenAtFrom_cons ahead text, tokenizeFrom_cons text]
    by_cases reached : (nextScanned c cs stack).rest = [] ∨
        target ≤ ((before.length + read.length : Nat) : Int)
    · rw [tokenAtFrom_of_reached reached]
      refine ⟨List.mem_cons_self, ?_⟩
      rw [length]
      constructor
      · simp only
        omega
      · simp only
        rcases reached with empty | near
        · have none := congrArg List.length empty
          rw [List.length_nil] at none
          omega
        · omega
    · obtain ⟨more, far⟩ := not_or.1 reached
      rw [List.append_assoc, ← whole, List.length_append] at ih
      obtain ⟨member, covers⟩ := ih _ (by omega) more
      exact ⟨List.mem_cons_of_mem _ member, covers⟩

/-- The token under a column of a line that is not empty is one of the line's tokens, and it covers
the column or the line's end. -/
theorem covers_tokenAt {line : Text} {column : Int} (stack : Stack) (ahead : 0 < column)
    (nonempty : line ≠ []) :
    tokenAt line column stack ∈ (tokenizeLine line stack).1 ∧
      (tokenAt line column stack).Covers (min column line.length) :=
  covers_tokenAtFrom column .empty [] line stack ahead nonempty

/-- The token under a column of a line that is not empty stands in the line. -/
theorem within_tokenAt {line : Text} {column : Int} (stack : Stack) (ahead : 0 < column)
    (nonempty : line ≠ []) : (tokenAt line column stack).Within line 0 :=
  (tiles_tokenizeLine line stack).within.2 _ (covers_tokenAt stack ahead nonempty).1

/-- There is only the empty token in an empty line, and in front of the first column. -/
theorem tokenAt_eq_empty {line : Text} {column : Int} (stack : Stack)
    (reached : line = [] ∨ column ≤ 0) : tokenAt line column stack = .empty :=
  tokenAtFrom_of_reached reached .empty stack

end Lexer

namespace Cursor

open Lexer

/-- A token that can be read in front of the column is the last one so far. -/
theorem readTo_of_token {column : Int} {cursor behind : Cursor} {stack next : Stack} {token : Token}
    (ahead : cursor.pos < column) (more : cursor.atEnd = false)
    (read : cursor.nextToken stack = (some token, behind, next)) (last : Token) :
    cursor.readTo column last stack = behind.readTo column token next := by
  rw [readTo, dif_pos ⟨ahead, more⟩]
  split <;> simp_all

/-- At the column, or at the end of the line, the last token that was read is the answer. -/
theorem readTo_of_reached {column : Int} {cursor : Cursor}
    (reached : ¬ (cursor.pos < column ∧ cursor.atEnd = false)) (last : Token) (stack : Stack) :
    cursor.readTo column last stack = (some last, stack) := by
  rw [readTo, dif_neg reached]

/-- Reading from a column of a line up to another one never fails, and finds the token that the
lexer does. -/
theorem readTo_behind (target : Int) (last : Token) (before unread : Text) (start : Int)
    (stack : Stack) :
    (readTo target last ⟨before ++ unread, start, before.length⟩ stack).1 =
      some (tokenAtFrom target last before.length unread stack) := by
  induction before, unread, stack using reading_induction generalizing last start with
  | ended before stack =>
    have ended : ¬ atEnd ⟨before ++ [], start, before.length⟩ = false := by simp [atEnd]
    rw [readTo_of_reached fun more => ended more.2, tokenAtFrom_of_reached (.inl rfl)]
  | token before c cs stack read _ whole text ih =>
    by_cases ahead : (before.length : Int) < target
    · have more := atEnd_behind_cons before c cs start
      have later := ih ⟨(nextScanned c cs stack).category, before.length,
        before.length + read.length, read⟩ before.length
      rw [List.append_assoc, ← whole, List.length_append, Int.natCast_add] at later
      rw [readTo_of_token ahead more (nextToken_behind whole before start),
        tokenAtFrom_cons ahead text]
      exact later
    · have near : target ≤ before.length := by omega
      rw [readTo_of_reached fun more => ahead more.1, tokenAtFrom_of_reached (.inr near)]

end Cursor

/-- Asking for the token under a column always gets an answer and leaves the stack as it was,
whatever lies on it. In front of the first column and in an empty line the answer is the empty
token. Elsewhere it is the one token of the whole line that covers the column, or the end of the
line if the column lies behind that. -/
theorem Lexer.token_under_column (line : Text) (column : Int) (stack : Stack) :
    (Cursor.tokenUnder line column).run stack = (some (tokenAt line column stack), stack) ∧
    (column ≤ 0 ∨ line = [] → tokenAt line column stack = ⟨.plain, 0, 0, []⟩) ∧
    (0 < column → line ≠ [] → ∀ token,
      token = tokenAt line column stack ↔
        token ∈ (tokenizeLine line stack).1 ∧
          token.start < min column line.length ∧ min column line.length ≤ token.stop) := by
  refine ⟨?_, fun reached => ?_, fun ahead nonempty token => ⟨?_, fun found => ?_⟩⟩
  · have answer := Cursor.readTo_behind column .empty [] line 0 stack
    exact congrArg (fun token => (token, stack)) answer
  · exact tokenAt_eq_empty stack reached.symm
  · rintro rfl
    exact covers_tokenAt stack ahead nonempty
  · obtain ⟨member, covers⟩ := covers_tokenAt stack ahead nonempty
    exact (tiles_tokenizeLine line stack).eq_of_covers found.1 member found.2 covers

/-- Behind the end of a line that starts in an open string the last token is the answer. -/
theorem Lexer.token_under_column_behind_end :
    (0 : Int) < 9 ∧ ['x', '"', ' ', 'y'] ≠ [] ∧
      tokenAt ['x', '"', ' ', 'y'] 9 [.region ['"'] .string false] = ⟨.plain, 3, 4, ['y']⟩ ∧
      ∀ token, token = tokenAt ['x', '"', ' ', 'y'] 9 [.region ['"'] .string false] ↔
        token ∈ (tokenizeLine ['x', '"', ' ', 'y'] [.region ['"'] .string false]).1 ∧
          token.start < min 9 (4 : Int) ∧ min 9 (4 : Int) ≤ token.stop := by
  have ahead : (0 : Int) < 9 := by decide
  have nonempty : ['x', '"', ' ', 'y'] ≠ [] := by decide
  refine ⟨ahead, nonempty, by decide +kernel, ?_⟩
  exact (token_under_column ['x', '"', ' ', 'y'] 9 _).2.2 ahead nonempty

-- Reading the tokens changes the stack that it is given, so the question needs the copy.
example : ((Cursor.ofLine ['"', 'x'] 0).readTo 1 .empty []).2 = [.region ['"'] .string false] := by
  decide +kernel

end BatchScript
