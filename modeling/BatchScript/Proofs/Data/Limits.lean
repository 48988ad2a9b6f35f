import BatchScript.Data
import BatchScript.Text.Numeral

/-!
# Limits of a reader

A reader of data has two limits, one on the digits of an integer and one on the brackets that are
open at a time. It is to refuse a text for one of them only where the text goes beyond it: an
integer is too long only if that many digits belong together, and a bracket is too deep only if the
brackets of the text could take up more levels than there are. That is said of every part of the
reader, and holds of parts that are read one behind the other if it holds of each.
-/
namespace BatchScript.Data

/-- What of a text counts towards the limits. -/
structure Limits where
  /-- The characters that make up a numeral. -/
  inNumeral : Char → Bool
  /-- The levels that the brackets of a text take up if none of them is closed. -/
  levels : Text → Nat
  /-- An end of a text takes up no more levels than the text. -/
  levels_mono : ∀ {later text : Text}, later <:+ text → levels later ≤ levels text

/-- Whether an answer is accounted for by the text that was read, where brackets might take up
`depth` levels: what is left of a text is an end of it, and what is refused for a limit is there. -/
def Limits.Accounted {α : Type} (limits : Limits) (depth : Nat) (text : Text) (left : α → Text) :
    Except ReadError α → Prop
  | .ok value => left value <:+ text
  | .error .malformed => True
  | .error (.numeralTooLong digits) =>
    Numeral.maxDigits < digits ∧
      ∃ run, run <:+: text ∧ run.countP Char.isDigit = digits ∧ ∀ c ∈ run, limits.inNumeral c = true
  | .error (.tooDeep _) => depth < limits.levels text

/-- A text is within the limits if its numerals are short and its brackets take up few levels. -/
structure Limits.Within (limits : Limits) (depth : Nat) (text : Text) : Prop where
  /-- No digits that belong together are too many. -/
  digits : ∀ run, run <:+: text → (∀ c ∈ run, limits.inNumeral c = true) →
    run.countP Char.isDigit ≤ Numeral.maxDigits
  /-- The brackets take up no more levels than there are. -/
  brackets : limits.levels text ≤ depth

namespace Limits.Accounted

variable {α β : Type} {limits : Limits} {depth inner : Nat} {text later : Text} {left : α → Text}
  {right : β → Text}

/-- What is accounted for by an end of a text is accounted for by the text, if the brackets of the
text take up too many levels wherever those of its end do. -/
theorem of_suffix {answer : Except ReadError α}
    (accounted : limits.Accounted inner later left answer)
    (ends : later <:+ text) (deeper : inner < limits.levels later → depth < limits.levels text) :
    limits.Accounted depth text left answer := by
  match answer, accounted with
  | .ok _, rest => exact List.IsSuffix.trans rest ends
  | .error .malformed, _ => trivial
  | .error (.numeralTooLong _), ⟨long, run, inside, wide, all⟩ =>
    exact ⟨long, run, inside.trans ends.isInfix, wide, all⟩
  | .error (.tooDeep _), deep => exact deeper deep

/-- What is accounted for by an end of a text is accounted for by the text. -/
theorem of_later {answer : Except ReadError α}
    (accounted : limits.Accounted depth later left answer)
    (ends : later <:+ text) : limits.Accounted depth text left answer :=
  accounted.of_suffix ends fun deep => Nat.lt_of_lt_of_le deep (limits.levels_mono ends)

/-- What is read in two parts is accounted for if both parts are, the second by what the first
left. -/
theorem bind {first : Except ReadError α} {next : α → Except ReadError β}
    (accounted : limits.Accounted depth text left first)
    (continues : ∀ value, left value <:+ text → limits.Accounted depth text right (next value)) :
    limits.Accounted depth text right (first >>= next) := by
  match first, accounted with
  | .ok value, ends => exact continues value ends
  | .error .malformed, _ => trivial
  | .error (.numeralTooLong _), long => exact long
  | .error (.tooDeep _), deep => exact deep

/-- What is made of a value that was read is accounted for like the value. -/
theorem map_value {answer : Except ReadError (α × Text)}
    (accounted : limits.Accounted depth text Prod.snd answer) (make : α → β) :
    limits.Accounted depth text Prod.snd (do
      let (value, rest) ← answer
      return (make value, rest)) :=
  accounted.bind fun _ ends => ends

/-- Within the limits a text is read or malformed. -/
theorem ok_or_malformed {answer : Except ReadError α}
    (accounted : limits.Accounted depth text left answer) (within : limits.Within depth text) :
    (∃ value, answer = .ok value) ∨ answer = .error .malformed := by
  match answer, accounted with
  | .ok value, _ => exact .inl ⟨value, rfl⟩
  | .error .malformed, _ => exact .inr rfl
  | .error (.numeralTooLong _), ⟨long, run, inside, wide, all⟩ =>
    have short := within.digits run inside all
    omega
  | .error (.tooDeep _), deep => exact absurd deep (Nat.not_lt.2 within.brackets)

end Limits.Accounted

end BatchScript.Data
