import BatchScript.Text.Quoted
import BatchScript.Token

/-!
# Token dump

One row per token: the number of its line from one on, its columns, its category and its text in
quotes. Columns of more than 4300 digits, which no line has, are outside of the model.
-/
namespace BatchScript.Dump

/-- The row of a token in a line. -/
def row (number : Nat) (token : Token) : Text :=
  Text.ofNat number ++ ':' :: Text.ofInt token.start ++ '-' :: Text.ofInt token.stop ++
    ' ' :: token.category.name ++ ' ' :: token.text.quoted ++ ['\n']

/-- The rows of all lines, of which the first has a given number. -/
def rowsFrom (number : Nat) : List (List Token) → Text
  | [] => []
  | tokens :: lines => tokens.flatMap (row number) ++ rowsFrom (number + 1) lines

/-- The rows of all lines. -/
def rows (lines : List (List Token)) : Text := rowsFrom 1 lines

end BatchScript.Dump
