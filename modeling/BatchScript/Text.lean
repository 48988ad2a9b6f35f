/-!
# Text

Text is a list of characters: every column, length and offset of this library counts characters,
and every definition on text recurses on the list. Strings appear only as literals and where the
program meets its surroundings. A character is a Unicode scalar value, so no text holds half of a
surrogate pair on its own; where a notation can write one, the value is not a text.
-/
namespace BatchScript

/-- A sequence of characters. -/
abbrev Text := List Char

/-- An ASCII letter, an ASCII digit or the underscore. -/
def isWordChar (c : Char) : Bool := c.isAlphanum || c == '_'

/-- An ASCII decimal digit. -/
def isDigit (c : Char) : Bool := c.isDigit

/-- A character that continues a bare name: a word character or the hyphen. -/
def isNameChar (c : Char) : Bool := isWordChar c || c == '-'

namespace Text

/-- The two quote characters. -/
def quotes : Text := ['\'', '"']

/-- Whether `part` stands somewhere in a text as one contiguous piece; the empty text always
does. -/
def occursIn (part : Text) : Text → Bool
  | [] => part.isEmpty
  | c :: cs => part.isPrefixOf (c :: cs) || occursIn part cs

/-- A word on its own: ASCII letters and digits, at least one, or a lone underscore. -/
def isWord (text : Text) : Bool :=
  (!text.isEmpty && text.all Char.isAlphanum) || text == ['_']

/-- A non-empty run of consecutive ascending decimal digits. -/
def isDigitRun (text : Text) : Bool :=
  !text.isEmpty && occursIn text "0123456789".toList

/-- The pieces between the characters that satisfy `p`: one more than there are such characters. -/
def splitWhere (p : Char → Bool) : Text → List Text
  | [] => [[]]
  | c :: cs =>
    if p c then [] :: splitWhere p cs
    else match splitWhere p cs with
      | [] => [[c]]
      | piece :: pieces => (c :: piece) :: pieces

/-- The pieces between the separators. -/
def split (separator : Char) (text : Text) : List Text := splitWhere (· == separator) text

/-- The text before the first separator and, if there is one, the text behind it. -/
def cut (separator : Char) : Text → Text × Option Text
  | [] => ([], none)
  | c :: cs =>
    if c = separator then ([], some cs)
    else
      let (before, behind) := cut separator cs
      (c :: before, behind)

/-- A text in front of the first separator is cut off. -/
theorem cut_append {separator : Char} {front : Text} (without : separator ∉ front) (behind : Text) :
    (front ++ separator :: behind).cut separator = (front, some behind) := by
  induction front with
  | nil => rw [List.nil_append, cut, if_pos rfl]
  | cons c cs ih =>
    have other : c ≠ separator := fun same => without (same ▸ List.mem_cons_self)
    have rest := ih fun member => without (List.mem_cons_of_mem c member)
    rw [List.cons_append, cut, if_neg other, rest]

/-- The two parts that a text is cut into make it up again, with the separator between them. -/
theorem eq_append_of_cut {separator : Char} {text front behind : Text}
    (parts : text.cut separator = (front, some behind)) : text = front ++ separator :: behind := by
  induction text generalizing front with
  | nil => cases parts
  | cons c cs ih =>
    rw [cut] at parts
    by_cases here : c = separator
    · rw [if_pos here] at parts
      obtain ⟨rfl, same⟩ := Prod.mk.inj parts
      rw [here, Option.some.inj same, List.nil_append]
    · rw [if_neg here] at parts
      obtain ⟨rfl, same⟩ := Prod.mk.inj parts
      rw [List.cons_append, ← ih (Prod.ext rfl same)]

/-- The pieces in order with the separator between neighbours. -/
def join (separator : Text) (pieces : List Text) : Text := List.intercalate separator pieces

/-- A piece alone is joined to itself. -/
theorem join_singleton (separator piece : Text) : join separator [piece] = piece :=
  List.intercalate_singleton

/-- The separator stands between the first two pieces. -/
theorem join_cons_cons (separator first second : Text) (pieces : List Text) :
    join separator (first :: second :: pieces) =
      first ++ separator ++ join separator (second :: pieces) :=
  List.intercalate_cons_cons

/-- What stands in a piece stands in the joined pieces. -/
theorem mem_join {separator piece : Text} {pieces : List Text} (found : piece ∈ pieces) {c : Char}
    (member : c ∈ piece) : c ∈ join separator pieces := by
  induction pieces with
  | nil => cases found
  | cons first pieces ih =>
    cases pieces with
    | nil =>
      obtain rfl := List.mem_singleton.1 found
      rw [join_singleton]
      exact member
    | cons second pieces =>
      rw [join_cons_cons]
      rcases List.mem_cons.1 found with rfl | later
      · exact List.mem_append_left _ (List.mem_append_left _ member)
      · exact List.mem_append_right _ (ih later)

/-- What stands in joined pieces stands in one of them or in the separator. -/
theorem mem_of_mem_join {separator : Text} {pieces : List Text} {c : Char}
    (member : c ∈ join separator pieces) : c ∈ separator ∨ ∃ piece ∈ pieces, c ∈ piece := by
  induction pieces with
  | nil => cases member
  | cons first pieces ih =>
    cases pieces with
    | nil =>
      rw [join_singleton] at member
      exact .inr ⟨first, List.mem_cons_self, member⟩
    | cons second pieces =>
      rw [join_cons_cons] at member
      rcases List.mem_append.1 member with before | later
      · rcases List.mem_append.1 before with inside | between
        · exact .inr ⟨first, List.mem_cons_self, inside⟩
        · exact .inl between
      · exact (ih later).imp_right fun ⟨piece, found, inside⟩ =>
          ⟨piece, List.mem_cons_of_mem first found, inside⟩

/-- Decimal digits of a natural number. -/
def ofNat (n : Nat) : Text := Nat.toDigits 10 n

/-- Decimal digits of an integer, with a minus sign in front of a negative one. Integers of more
than 4300 digits are outside of the model. -/
def ofInt : Int → Text
  | .ofNat n => ofNat n
  | .negSucc n => '-' :: ofNat (n + 1)

/-- The text with zeros in front of it up to a width; a longer text stays as it is. -/
def padZeros (width : Nat) (text : Text) : Text :=
  List.replicate (width - text.length) '0' ++ text

/-- The characters from `start` up to `stop`, where a negative bound counts from the end and a bound
outside the text stands for its nearer end. -/
def slice (text : Text) (start stop : Int) : Text :=
  let bound (position : Int) : Nat :=
    if position < 0 then (position + text.length).toNat else position.toNat
  (text.take (bound stop)).drop (bound start)

end Text

end BatchScript
