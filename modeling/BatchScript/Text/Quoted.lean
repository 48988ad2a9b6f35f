import BatchScript.Text.Printable

/-!
# Quoted text

Quoted text is printable and in one piece, whatever the text. Single quotes stand around it, or
double quotes if it holds single quotes only; the backslash, the chosen quote and all that cannot be
printed are escaped.
-/
namespace BatchScript.Text

/-- The quote around a text: the double one if only the single one occurs in it. -/
def quoteMark (text : Text) : Char :=
  if '\'' ∈ text ∧ '"' ∉ text then '"' else '\''

/-- A number in hexadecimal with at least `width` digits. -/
def hex (width n : Nat) : Text := padZeros width (Nat.toDigits 16 n)

/-- A character between quotes of a kind. -/
def escapeChar (mark c : Char) : Text :=
  if c = mark ∨ c = '\\' then ['\\', c]
  else if c = '\t' then ['\\', 't']
  else if c = '\n' then ['\\', 'n']
  else if c = '\r' then ['\\', 'r']
  else if isPrintable c then [c]
  else if c.toNat < 0x100 then '\\' :: 'x' :: hex 2 c.toNat
  else if c.toNat < 0x10000 then '\\' :: 'u' :: hex 4 c.toNat
  else '\\' :: 'U' :: hex 8 c.toNat

/-- The text in quotes. -/
def quoted (text : Text) : Text :=
  quoteMark text :: text.flatMap (escapeChar (quoteMark text)) ++ [quoteMark text]

end BatchScript.Text
