import BatchScript.Category

/-!
# Tokens

A token is a styled piece of one line with its columns: counted from zero, the stop is the first
column behind it. The columns are integers, since a cursor may stand in front of its line.
-/
namespace BatchScript

/-- A styled piece of one line. -/
structure Token where
  /-- How the piece is styled. -/
  category : Category
  /-- Column of its first character. -/
  start : Int
  /-- Column behind its last character. -/
  stop : Int
  /-- Its characters. -/
  text : Text
  deriving DecidableEq, Repr

/-- The token in front of every line: plain, empty and at column zero. -/
def Token.empty : Token := ⟨.plain, 0, 0, []⟩

end BatchScript
