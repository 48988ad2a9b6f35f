import BatchScript.Proofs.Lexer.Reading

/-!
# Passages

A passage is a token of a line together with the stack in front of it and the stack behind it. The
passages of a line show what the lexer knows at each boundary between tokens.
-/
namespace BatchScript

/-- A token with the stacks around it. -/
structure Passage where
  /-- The token that is passed. -/
  token : Token
  /-- The stack in front of it. -/
  before : Stack
  /-- The stack behind it. -/
  behind : Stack
  deriving DecidableEq, Repr

namespace Lexer

/-- The passages of what is left of a line from a column on. -/
def passagesFrom (column : Nat) (unread : Text) (stack : Stack) : List Passage :=
  match unread with
  | [] => []
  | c :: cs =>
    let scanned := nextScanned c cs stack
    let token := tokenBetween column scanned.category (c :: cs) scanned.rest
    ⟨token, stack, scanned.stack⟩ ::
      passagesFrom (column + token.text.length) scanned.rest scanned.stack
termination_by unread.length
decreasing_by exact length_nextScanned_lt c cs stack

/-- The passages of a line. -/
def passages (line : Text) (stack : Stack) : List Passage := passagesFrom 0 line stack

/-- The stack behind a token of a line, given by its place among the tokens. -/
def stackBehind? (line : Text) (stack : Stack) (i : Nat) : Option Stack :=
  (passages line stack)[i]?.map Passage.behind

/-- The first passage comes before those of the text behind its token. -/
theorem passagesFrom_cons {c : Char} {cs read : Text} {stack : Stack}
    (text : readSoFar (c :: cs) (nextScanned c cs stack).rest = read) (column : Nat) :
    passagesFrom column (c :: cs) stack =
      ⟨⟨(nextScanned c cs stack).category, column, column + read.length, read⟩, stack,
        (nextScanned c cs stack).stack⟩ ::
      passagesFrom (column + read.length) (nextScanned c cs stack).rest
        (nextScanned c cs stack).stack := by
  rw [passagesFrom]
  simp only [tokenBetween, text]

/-- The tokens that are passed are those of the line, and the stack behind the last one is the stack
behind the line. -/
theorem tokenizeFrom_eq_passagesFrom (column : Nat) (unread : Text) (stack : Stack) :
    tokenizeFrom column unread stack =
      ((passagesFrom column unread stack).map Passage.token,
        ((passagesFrom column unread stack).getLast?.map Passage.behind).getD stack) := by
  fun_induction passagesFrom column unread stack with
  | case1 column stack => exact tokenizeFrom_nil column stack
  | case2 column stack c cs scanned token ih =>
    rw [tokenizeFrom_cons rfl]
    change (token :: (tokenizeFrom (column + token.text.length) scanned.rest scanned.stack).1,
      (tokenizeFrom (column + token.text.length) scanned.rest scanned.stack).2) = _
    rw [ih, List.map_cons, List.getLast?_cons]
    cases (passagesFrom (column + token.text.length) scanned.rest scanned.stack).getLast? <;> rfl

/-- Every token that is passed from a column on stops behind that column. -/
theorem lt_stop_of_mem_passagesFrom {column : Nat} {unread : Text} {stack : Stack}
    {passage : Passage} (inside : passage ∈ passagesFrom column unread stack) :
    (column : Int) < passage.token.stop := by
  fun_induction passagesFrom column unread stack with
  | case1 column stack => simp at inside
  | case2 column stack c cs scanned token ih =>
    obtain ⟨read, nonempty, -, text⟩ := nextScanned_reads c cs stack
    have wide : 0 < token.text.length := by
      rw [show token.text = read from text]
      exact List.length_pos_iff.2 nonempty
    rcases List.mem_cons.1 inside with rfl | later
    · change (column : Int) < column + token.text.length
      omega
    · have behind := ih later
      omega

end Lexer

end BatchScript
