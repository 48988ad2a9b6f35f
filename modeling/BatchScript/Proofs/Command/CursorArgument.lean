import BatchScript.Command.Options

/-!
# Arguments for a cursor

A cursor of two numerals that count from one stands for the place before, counted from zero. The
numerals may have digits of any script, but there are at most so many of them. No other argument is
understood. It is checked for digits of any kind, though, before the numbers are read, so an
argument of digits that make up no numeral gets past that check and fails over the number.
-/
namespace BatchScript.Command

/-- The number that the decimal digits of a text stand for. -/
def decimalNumber (text : Text) : Nat := Numeral.ofDigits 10 (text.filterMap decimalValue?)

/-- A text is a numeral that counts from one. -/
structure IsPosition (text : Text) : Prop where
  /-- It is made up of decimal digits. -/
  digits : ∀ c ∈ text, (decimalValue? c).isSome = true
  /-- They are not too many. -/
  short : text.length ≤ Numeral.maxDigits
  /-- They do not stand for zero. -/
  positive : 0 < decimalNumber text

/-- A cursor of two positive numbers in digits of ASCII. -/
def IsAsciiCursor (value : Text) : Prop :=
  ∃ line column, value = line ++ ':' :: column ∧ ∀ number ∈ [line, column],
    (∀ c ∈ number, c.isDigit = true) ∧ number.length ≤ Numeral.maxDigits ∧
      0 < Nat.ofDigitChars 10 number 0

/-- The value of a digit of ASCII. -/
theorem decimalValue?_of_isDigit {c : Char} (digit : c.isDigit = true) :
    decimalValue? c = some (c.toNat - '0'.toNat) := by
  have bounds : 48 ≤ c.toNat ∧ c.toNat ≤ 57 := Char.isDigit_iff_toNat.1 digit
  have small : (c.toNat - 48) % 10 = c.toNat - 48 := by omega
  rw [decimalValue?, decimalRanges, List.find?_cons_of_pos (by simpa using bounds)]
  exact congrArg some small

variable {text line column : Text}

/-- The digits of ASCII stand for the number that they spell. -/
theorem decimalNumber_of_isDigit (digits : ∀ c ∈ text, c.isDigit = true) :
    decimalNumber text = Nat.ofDigitChars 10 text 0 := by
  rw [decimalNumber, Numeral.ofDigits]
  generalize 0 = value
  induction text generalizing value with
  | nil => rfl
  | cons c cs ih =>
    have first := decimalValue?_of_isDigit (digits c List.mem_cons_self)
    rw [List.filterMap_cons_some first, List.foldl_cons, Nat.ofDigitChars_cons,
      ih fun d member => digits d (List.mem_cons_of_mem c member), Nat.mul_comm]

/-- A positive number in digits of ASCII counts from one. -/
theorem isPosition_of_isDigit (digits : ∀ c ∈ text, c.isDigit = true)
    (short : text.length ≤ Numeral.maxDigits) (positive : 0 < Nat.ofDigitChars 10 text 0) :
    IsPosition text where
  digits c member := by rw [decimalValue?_of_isDigit (digits c member), Option.isSome_some]
  short := short
  positive := by rwa [decimalNumber_of_isDigit digits]

/-- A numeral is read as the number that it stands for. -/
theorem readNumeral_of_digits (digits : ∀ c ∈ text, (decimalValue? c).isSome = true)
    (short : text.length ≤ Numeral.maxDigits) : readNumeral text = .ok (decimalNumber text) := by
  have whole : (text.map decimalValue?).takeWhile Option.isSome = text.map decimalValue? := by
    have all : ∀ value ∈ text.map decimalValue?, value.isSome = true := by simpa using digits
    have kept : (text.map decimalValue? ++ []).takeWhile Option.isSome =
        text.map decimalValue? ++ [].takeWhile Option.isSome := List.takeWhile_append_of_pos all
    simpa using kept
  have values : (text.map decimalValue?).map (Option.getD · 0) = text.filterMap decimalValue? := by
    clear short whole
    induction text with
    | nil => rfl
    | cons c cs ih =>
      obtain ⟨value, first⟩ := Option.isSome_iff_exists.1 (digits c List.mem_cons_self)
      have rest := ih fun d member => digits d (List.mem_cons_of_mem c member)
      rw [List.filterMap_cons_some first, List.map_cons, List.map_cons, rest, first,
        Option.getD_some]
  rw [readNumeral, whole, values, List.length_map, if_neg (Nat.not_lt.2 short),
    if_neg (Nat.lt_irrefl _)]
  rfl

/-- A numeral that counts from one is not empty and has digits only. -/
theorem IsPosition.isDigits (position : IsPosition text) : isDigits text = true := by
  have filled : text ≠ [] := by
    rintro rfl
    exact absurd position.positive (by decide)
  have all : ∀ c ∈ text, isAnyDigit c = true := by
    intro c member
    rw [isAnyDigit, position.digits c member, Bool.true_or]
  rw [Command.isDigits, List.isEmpty_eq_false_iff.2 filled, List.all_eq_true.2 all]
  rfl

/-- The colon is no digit. -/
theorem IsPosition.colon_not_mem (position : IsPosition text) : ':' ∉ text :=
  fun colon => absurd (position.digits ':' colon) (by decide)

/-- A cursor of two numerals that count from one stands for the place before. -/
theorem parseCursor_of_positions (first : IsPosition line) (second : IsPosition column) :
    parseCursor (line ++ ':' :: column) =
      .ok (decimalNumber line - 1, decimalNumber column - 1) := by
  have lineNumber := readNumeral_of_digits first.digits first.short
  have columnNumber := readNumeral_of_digits second.digits second.short
  have above : ∀ {text}, IsPosition text → ¬ decimalNumber text < 1 :=
    fun position => Nat.not_lt.2 position.positive
  rw [parseCursor, Text.cut_append first.colon_not_mem]
  simp only [first.isDigits, second.isDigits, Bool.and_self, if_true, lineNumber, columnNumber]
  simp only [bind, Except.bind, above first, above second, if_false]
  rfl

/-- Such a cursor is understood. -/
theorem IsAsciiCursor.parseCursor {value : Text} (cursor : IsAsciiCursor value) :
    ∃ place, Command.parseCursor value = .ok place := by
  obtain ⟨line, column, rfl, numbers⟩ := cursor
  have position : ∀ number ∈ [line, column], IsPosition number := fun number found =>
    isPosition_of_isDigit (numbers number found).1 (numbers number found).2.1
      (numbers number found).2.2
  exact ⟨_, parseCursor_of_positions (position line (by simp)) (position column (by simp))⟩

/-- A text is a numeral that can be read. -/
structure IsNumeral (text : Text) : Prop where
  /-- It is made up of decimal digits. -/
  digits : ∀ c ∈ text, (decimalValue? c).isSome = true
  /-- They are not too many. -/
  short : text.length ≤ Numeral.maxDigits

/-- A numeral counts from one exactly if it can be read and does not stand for zero. -/
theorem isPosition_iff : IsPosition text ↔ IsNumeral text ∧ decimalNumber text ≠ 0 :=
  ⟨fun position => ⟨⟨position.digits, position.short⟩, Nat.ne_of_gt position.positive⟩,
    fun ⟨numeral, nonzero⟩ => ⟨numeral.digits, numeral.short, Nat.pos_of_ne_zero nonzero⟩⟩

/-- The errors over a number that cannot be read. -/
inductive NumberError : Error → Prop
  /-- It has too many digits. -/
  | tooLong (digits : Nat) : NumberError (.numeralTooLong digits)
  /-- A digit in it is no decimal digit. -/
  | notDecimal (number : Text) : NumberError (.notNumeral number)

/-- Every other text than a numeral is refused over its number. -/
theorem readNumeral_of_not_numeral (other : ¬ IsNumeral text) :
    ∃ cause, NumberError cause ∧ readNumeral text = .error cause := by
  let values := (text.map decimalValue?).takeWhile Option.isSome
  by_cases long : Numeral.maxDigits < values.length
  · exact ⟨_, .tooLong _, if_pos long⟩
  · by_cases cut : values.length < text.length
    · exact ⟨_, .notDecimal _, (if_neg long).trans (if_pos cut)⟩
    · refine absurd ⟨fun c member => ?_, ?_⟩ other
      · have whole : values = text.map decimalValue? :=
          (List.takeWhile_prefix _).eq_of_length_le (by simpa using cut)
        have all : values.all Option.isSome = true := List.all_takeWhile
        rw [whole] at all
        exact List.all_eq_true.1 all _ (List.mem_map_of_mem member)
      · omega

/-- An argument has a line and a column in digits of any kind, with a colon between them. -/
structure DigitPair (argument line column : Text) : Prop where
  /-- The colon stands between them. -/
  whole : argument = line ++ ':' :: column
  /-- The line has digits only. -/
  line : isDigits line = true
  /-- The column has digits only. -/
  column : isDigits column = true

/-- The colon is no digit of any kind. -/
theorem colon_not_mem_of_isDigits (digits : isDigits text = true) : ':' ∉ text := by
  intro colon
  rw [isDigits, Bool.and_eq_true, List.all_eq_true] at digits
  exact absurd (digits.2 ':' colon) (by decide)

variable {argument : Text}

/-- The line and the column are cut apart at the colon. -/
theorem DigitPair.cut (pair : DigitPair argument line column) :
    argument.cut ':' = (line, some column) := by
  rw [pair.whole]
  exact Text.cut_append (colon_not_mem_of_isDigits pair.line) column

/-- An argument that is not a line and a column is refused over its format. -/
theorem parseCursor_of_unpaired (unpaired : ¬ ∃ line column, DigitPair argument line column) :
    parseCursor argument = .error (.cursorFormat argument) := by
  unfold parseCursor
  split
  · rfl
  · rename_i line column cut
    refine if_neg fun digits => unpaired ⟨line, column, ?_⟩
    obtain ⟨lineDigits, columnDigits⟩ := Bool.and_eq_true_iff.1 digits
    exact ⟨Text.eq_append_of_cut cut, lineDigits, columnDigits⟩

/-- The number of the line is read first. -/
theorem parseCursor_of_pair (pair : DigitPair argument line column) :
    parseCursor argument = readNumeral line >>= fun lineNumber =>
      if lineNumber < 1 then .error (.cursorBelowOne argument)
      else readNumeral column >>= fun columnNumber =>
        if columnNumber < 1 then .error (.cursorBelowOne argument)
        else .ok (lineNumber - 1, columnNumber - 1) := by
  rw [parseCursor, pair.cut]
  simp only [pair.line, pair.column, Bool.and_self, if_true]
  cases readNumeral line with
  | error cause => rfl
  | ok lineNumber =>
    simp only [bind, Except.bind]
    split
    · rfl
    · cases readNumeral column with
      | error cause => rfl
      | ok columnNumber =>
        simp only
        split <;> rfl

/-- Behind a line that counts from one the number of the column is read. -/
theorem parseCursor_of_position (pair : DigitPair argument line column)
    (first : IsPosition line) :
    parseCursor argument = readNumeral column >>= fun columnNumber =>
      if columnNumber < 1 then .error (.cursorBelowOne argument)
      else .ok (decimalNumber line - 1, columnNumber - 1) := by
  rw [parseCursor_of_pair pair, readNumeral_of_digits first.digits first.short]
  exact if_neg (Nat.not_lt.2 first.positive)

/-- A line that is no numeral, or such a column behind a line that counts from one, makes for an
error over the number. -/
theorem exists_numberError (pair : DigitPair argument line column)
    (other : ¬ IsNumeral line ∨ IsPosition line ∧ ¬ IsNumeral column) :
    ∃ cause, NumberError cause ∧ parseCursor argument = .error cause := by
  rcases other with unread | ⟨first, unread⟩
  · obtain ⟨cause, number, refused⟩ := readNumeral_of_not_numeral unread
    refine ⟨cause, number, ?_⟩
    rw [parseCursor_of_pair pair, refused]
    rfl
  · obtain ⟨cause, number, refused⟩ := readNumeral_of_not_numeral unread
    refine ⟨cause, number, ?_⟩
    rw [parseCursor_of_position pair first, refused]
    rfl

/-- What becomes of an argument for a cursor. -/
inductive Verdict (argument : Text) : Except Error (Nat × Nat) → Prop
  /-- It is not a line and a column. -/
  | malformed (unpaired : ¬ ∃ line column, DigitPair argument line column) :
    Verdict argument (.error (.cursorFormat argument))
  /-- Both count from one. -/
  | understood {line column : Text} (pair : DigitPair argument line column)
    (first : IsPosition line) (second : IsPosition column) :
    Verdict argument (.ok (decimalNumber line - 1, decimalNumber column - 1))
  /-- One of them is zero; behind a line that is zero the column does not matter. -/
  | belowOne {line column : Text} (pair : DigitPair argument line column) (numeral : IsNumeral line)
    (zero : decimalNumber line = 0 ∨ IsNumeral column ∧ decimalNumber column = 0) :
    Verdict argument (.error (.cursorBelowOne argument))
  /-- One of them cannot be read as a number. -/
  | unreadable {line column : Text} {cause : Error} (pair : DigitPair argument line column)
    (number : NumberError cause) (other : ¬ IsNumeral line ∨ IsPosition line ∧ ¬ IsNumeral column) :
    Verdict argument (.error cause)

/-- Behind a line that counts from one, the column decides. -/
theorem verdict_of_position (pair : DigitPair argument line column) (first : IsPosition line) :
    Verdict argument (parseCursor argument) := by
  by_cases numeral : IsNumeral column
  · by_cases zero : decimalNumber column = 0
    · have refused : parseCursor argument = .error (.cursorBelowOne argument) := by
        rw [parseCursor_of_position pair first,
          readNumeral_of_digits numeral.digits numeral.short, zero]
        rfl
      rw [refused]
      exact .belowOne pair (isPosition_iff.1 first).1 (.inr ⟨numeral, zero⟩)
    · have second := isPosition_iff.2 ⟨numeral, zero⟩
      have read := parseCursor_of_positions first second
      rw [← pair.whole] at read
      rw [read]
      exact .understood pair first second
  · obtain ⟨cause, number, failed⟩ := exists_numberError pair (.inr ⟨first, numeral⟩)
    rw [failed]
    exact .unreadable pair number (.inr ⟨first, numeral⟩)

/-- Every argument for a cursor is dealt with in one of these ways. -/
theorem verdict_parseCursor (argument : Text) : Verdict argument (parseCursor argument) := by
  by_cases paired : ∃ line column, DigitPair argument line column
  · obtain ⟨line, column, pair⟩ := paired
    by_cases numeral : IsNumeral line
    · by_cases zero : decimalNumber line = 0
      · have refused : parseCursor argument = .error (.cursorBelowOne argument) := by
          rw [parseCursor_of_pair pair, readNumeral_of_digits numeral.digits numeral.short, zero]
          rfl
        rw [refused]
        exact .belowOne pair numeral (.inl zero)
      · exact verdict_of_position pair (isPosition_iff.2 ⟨numeral, zero⟩)
    · obtain ⟨cause, number, failed⟩ := exists_numberError pair (.inl numeral)
      rw [failed]
      exact .unreadable pair number (.inl numeral)
  · rw [parseCursor_of_unpaired paired]
    exact .malformed paired

/-- An argument for a cursor is understood exactly if it is two numerals that count from one with a
colon between them, and stands for the place before, counted from zero. Every other argument is
refused with a complaint about it, except for a line and a column in digits of any kind of which one
is not a numeral that can be read, unless it is a column behind a line that is zero: these fail with
an error over that number. -/
theorem cursor_read_or_refused (argument : Text) :
    (∀ place, parseCursor argument = .ok place ↔
      ∃ line column, argument = line ++ ':' :: column ∧ IsPosition line ∧ IsPosition column ∧
        place = (decimalNumber line - 1, decimalNumber column - 1)) ∧
    (∀ cause, parseCursor argument = .error cause →
      cause = .cursorFormat argument ∨ cause = .cursorBelowOne argument ∨ NumberError cause) ∧
    ((∃ cause, NumberError cause ∧ parseCursor argument = .error cause) ↔
      ∃ line column, DigitPair argument line column ∧
        (¬ IsNumeral line ∨ IsPosition line ∧ ¬ IsNumeral column)) := by
  have verdict := verdict_parseCursor argument
  refine ⟨fun place => ⟨fun read => ?_, ?_⟩, fun cause failed => ?_, ?_, ?_⟩
  · rw [read] at verdict
    cases verdict with
    | understood pair first second => exact ⟨_, _, pair.whole, first, second, rfl⟩
  · rintro ⟨line, column, rfl, first, second, rfl⟩
    exact parseCursor_of_positions first second
  · rw [failed] at verdict
    cases verdict with
    | malformed => exact .inl rfl
    | belowOne => exact .inr (.inl rfl)
    | unreadable _ number => exact .inr (.inr number)
  · rintro ⟨cause, number, failed⟩
    rw [failed] at verdict
    cases verdict with
    | malformed => cases number
    | belowOne => cases number
    | unreadable pair _ other => exact ⟨_, _, pair, other⟩
  · rintro ⟨line, column, pair, other⟩
    exact exists_numberError pair other

/-- A superscript is a digit, but no decimal digit: a cursor with one is not refused with a
complaint about the argument, but fails over the number. -/
theorem cursor_fails_at_superscript :
    isDigits "²".toList = true ∧ parseCursor "²:1".toList = .error (.notNumeral "²".toList) :=
  ⟨by decide, rfl⟩

end BatchScript.Command
