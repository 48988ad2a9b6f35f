import BatchScript.Category

/-!
# Lexer modes

A mode says what the text at hand is inside of, and the stack of modes is all that the lexer carries
from one line to the next. The head of the list is the top of the stack, and below its last entry
lies plain text.
-/
namespace BatchScript

/-- What the text at hand is inside of. -/
inductive Mode where
  /-- Inside nothing. -/
  | plain
  /-- Behind the sign that starts the expansion of a variable. -/
  | expansion
  /-- Inside a region that ends at `closer` and is styled as `category`; while `pending`, the quote
  that opens it has not been read yet. -/
  | region (closer : Text) (category : Category) (pending : Bool)
  deriving DecidableEq, Repr

/-- The modes that lie on each other, the innermost first. -/
abbrev Stack := List Mode

namespace Mode

/-- What opens a nested region that ends at `closer`: a bracket of the same kind, or else the closer
itself. -/
def opener (closer : Text) : Text :=
  if closer = [')'] then ['('] else if closer = ['}'] then ['{'] else closer

/-- The region that a character starts right behind the sign of an expansion. -/
def expanded? : Char → Option Mode
  | '(' => some (.region [')'] .quote false)
  | '{' => some (.region ['}'] .definition false)
  | '"' => some (.region ['"'] .string false)
  | '\'' => some (.region ['\''] .string false)
  | _ => none

end Mode

/-- The innermost mode. -/
def Stack.top : Stack → Mode
  | [] => .plain
  | mode :: _ => mode

end BatchScript
