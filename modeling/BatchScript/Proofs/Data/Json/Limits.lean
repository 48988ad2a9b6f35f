import BatchScript.Data.Json.Reader
import BatchScript.Proofs.Data.Limits

/-!
# Limits of reading JSON

The reader refuses a text for one of its two limits only where the text goes beyond it: an integer
is too long only if that many digits stand in a row, and a bracket is too deep only if more brackets
are opened than may be open at a time. Both follow from one statement about every part of the
reader, which holds of what is read first and of what is read behind it.
-/
namespace BatchScript.Json

open Data (ReadError)

/-- Whether a character opens an array or an object. -/
def opensBracket (c : Char) : Bool := c == '[' || c == '{'

/-- The limits of the reader: digits stand in a row, and each bracket takes up one level. -/
def limits : Data.Limits where
  inNumeral := Char.isDigit
  levels text := text.countP opensBracket
  levels_mono ends := ends.sublist.countP_le

/-- Whether an answer is accounted for by the text that was read, where `depth` brackets might be
open at a time. -/
abbrev Accounted {α : Type} (depth : Nat) (text : Text)
    (answer : Except ReadError (α × Text)) : Prop :=
  limits.Accounted depth text Prod.snd answer

/-- Behind a bracket one bracket less may be opened. -/
theorem Accounted.of_bracket {α : Type} {depth : Nat} {text later : Text}
    {answer : Except ReadError (α × Text)} {c : Char}
    (accounted : Accounted (depth - 1) later answer)
    (opens : opensBracket c = true) (ends : later <:+ text) :
    Accounted depth (c :: text) answer := by
  refine accounted.of_suffix (ends.trans (List.suffix_cons c text)) fun deep => ?_
  have fewer := limits.levels_mono ends
  change depth < (c :: text).countP opensBracket
  rw [List.countP_cons_of_pos opens]
  change _ ≤ text.countP opensBracket at fewer
  omega

/-! ## Strings and scalars -/

/-- Skipping blanks leaves an end of the text. -/
theorem skipBlanks_suffix (text : Text) : skipBlanks text <:+ text := List.dropWhile_suffix _

/-- What stands behind the first character past blanks is an end of the text. -/
theorem suffix_of_skipBlanks {text rest : Text} {c : Char} (front : skipBlanks text = c :: rest) :
    rest <:+ text :=
  (List.suffix_cons c rest).trans (front ▸ skipBlanks_suffix text)

/-- What is left behind a string is an end of the text. -/
theorem readUnits_suffix {text rest : Text} {units : List Nat}
    (found : readUnits text = some (units, rest)) : rest <:+ text := by
  fun_induction readUnits text generalizing units rest with
  | case1 => simp at found
  | case2 behind =>
    cases found
    exact List.suffix_cons _ _
  | case3 a b c d behind ih =>
    obtain ⟨unit, -, later⟩ := Option.bind_eq_some_iff.1 found
    obtain ⟨⟨more, left⟩, read, same⟩ := Option.bind_eq_some_iff.1 later
    cases same
    exact (ih read).trans ⟨['\\', 'u', a, b, c, d], rfl⟩
  | case4 c behind _ ih =>
    obtain ⟨character, -, later⟩ := Option.bind_eq_some_iff.1 found
    obtain ⟨⟨more, left⟩, read, same⟩ := Option.bind_eq_some_iff.1 later
    cases same
    exact (ih read).trans ⟨['\\', c], rfl⟩
  | case5 => simp at found
  | case6 c behind _ _ _ _ ih =>
    obtain ⟨⟨more, left⟩, read, same⟩ := Option.bind_eq_some_iff.1 found
    cases same
    exact (ih read).trans (List.suffix_cons c behind)

/-- The answer for a string is accounted for. -/
theorem accounted_readString (depth : Nat) (text : Text) :
    Accounted depth text (readString text) := by
  rw [readString]
  cases found : readUnits text with
  | none => trivial
  | some read => exact readUnits_suffix found

/-- A fraction leaves an end of the text. -/
theorem readFraction_suffix (text : Text) : (readFraction text).2 <:+ text := by
  fun_cases readFraction text with
  | case1 c rest digit =>
    exact (List.dropWhile_suffix Char.isDigit).trans ⟨['.', c], rfl⟩
  | case2 => exact List.suffix_rfl
  | case3 => exact List.suffix_rfl

/-- An exponent leaves an end of the text. -/
theorem readExponent_suffix (text : Text) : (readExponent text).2 <:+ text := by
  fun_cases readExponent text with
  | case1 c rest _ negative digits sign =>
    have behind : digits <:+ rest := by
      split at sign
      all_goals cases sign
      · exact List.suffix_cons _ _
      · exact List.suffix_cons _ _
      · exact List.suffix_rfl
    exact ((List.dropWhile_suffix Char.isDigit).trans behind).trans (List.suffix_cons c rest)
  | case2 => exact List.suffix_rfl
  | case3 => exact List.suffix_rfl
  | case4 => exact List.suffix_rfl

/-- What stands behind the digits of a number and what may follow them is an end of the text. -/
theorem suffix_of_readExponent {text fraction behind rest : Text} {exponent : Option (Bool × Text)}
    (point : readFraction text = (fraction, behind))
    (power : readExponent behind = (exponent, rest)) :
    rest <:+ text := by
  have first := readFraction_suffix text
  have second := readExponent_suffix behind
  rw [point] at first
  rw [power] at second
  exact second.trans first

/-- The whole part of a number is a run of digits at the front of the text. -/
theorem digits_in_front {text whole rest : List Char}
    (same : (match text with
      | '0' :: rest => (['0'], rest)
      | _ => (text.takeWhile Char.isDigit, text.dropWhile Char.isDigit)) = (whole, rest)) :
    whole ++ rest = text ∧ ∀ c ∈ whole, c.isDigit = true := by
  split at same
  · cases same
    exact ⟨rfl, by simp⟩
  · cases same
    exact ⟨List.takeWhile_append_dropWhile, fun c => List.all_eq_true.1 List.all_takeWhile c⟩

/-- The answer for the digits of a number is accounted for. -/
theorem accounted_readUnsigned (depth : Nat) (negative : Bool) (text : Text) :
    Accounted depth text (readUnsigned negative text) := by
  fun_cases readUnsigned negative text with
  | case1 => trivial
  | case2 whole rest same _ _ _ long =>
    obtain ⟨whole_rest, digits⟩ := digits_in_front same
    exact ⟨long, whole, ⟨[], rest, whole_rest⟩, List.countP_eq_length.2 digits, digits⟩
  | case3 whole rest same _ _ _ _ point power =>
    exact (suffix_of_readExponent point power).trans ⟨whole, (digits_in_front same).1⟩
  | case4 whole rest same _ _ _ _ _ _ _ _ _ _ point power =>
    exact (suffix_of_readExponent point power).trans ⟨whole, (digits_in_front same).1⟩

/-- The answer for a number is accounted for. -/
theorem accounted_readNumber (depth : Nat) (text : Text) :
    Accounted depth text (readNumber text) := by
  fun_cases readNumber text with
  | case1 rest => exact (accounted_readUnsigned depth true rest).of_later (List.suffix_cons _ _)
  | case2 => exact accounted_readUnsigned depth false text

/-- The answer for a word or a number is accounted for. -/
theorem accounted_readScalar (depth : Nat) (text : Text) :
    Accounted depth text (readScalar text) := by
  rw [readScalar]
  split
  case h_1 result found =>
    obtain ⟨⟨word, value⟩, -, known⟩ := List.exists_of_findSome?_eq_some found
    obtain ⟨rest, ahead, rfl⟩ := Option.map_eq_some_iff.1 known
    rw [behind?] at ahead
    split at ahead
    · cases ahead
      exact List.drop_suffix _ _
    · contradiction
  case h_2 => exact accounted_readNumber depth text

/-! ## Values -/

/-- If the answers within a bracket are accounted for, so is the answer for a value. -/
theorem accounted_readValue_succ {steps : Nat}
    (items : ∀ depth text, Accounted depth text (readItems steps depth text))
    (entries : ∀ depth known text, Accounted depth text (readEntries steps depth known text))
    (depth : Nat) (text : Text) : Accounted depth text (readValue (steps + 1) depth text) := by
  unfold readValue
  split
  case h_1 rest =>
    exact ((accounted_readString depth rest).of_later (List.suffix_cons _ _)).map_value stringValue
  case h_2 rest =>
    split
    case isTrue none =>
      -- No bracket may be opened any more, and the text opens this one.
      subst none
      exact List.countP_pos_iff.2 ⟨'[', List.mem_cons_self, rfl⟩
    case isFalse some =>
      split
      case h_1 left front =>
        exact (suffix_of_skipBlanks front).trans (List.suffix_cons _ _)
      case h_2 =>
        exact ((items (depth - 1) _).of_bracket rfl (skipBlanks_suffix rest)).map_value Data.array
  case h_3 rest =>
    split
    case isTrue none =>
      subst none
      exact List.countP_pos_iff.2 ⟨'{', List.mem_cons_self, rfl⟩
    case isFalse some =>
      split
      case h_1 left front =>
        exact (suffix_of_skipBlanks front).trans (List.suffix_cons _ _)
      case h_2 =>
        exact ((entries (depth - 1) [] _).of_bracket rfl (skipBlanks_suffix rest)).map_value
          Data.table
  case h_4 => exact accounted_readScalar depth text

/-- If the answers for an item and for the items behind it are accounted for, so is the answer for
both. -/
theorem accounted_readItems_succ {steps : Nat}
    (value : ∀ depth text, Accounted depth text (readValue steps depth text))
    (items : ∀ depth text, Accounted depth text (readItems steps depth text))
    (depth : Nat) (text : Text) : Accounted depth text (readItems (steps + 1) depth text) := by
  unfold readItems
  refine (value depth text).bind ?_
  rintro ⟨item, rest⟩ ends
  dsimp only
  split
  case h_1 left front => exact (suffix_of_skipBlanks front).trans ends
  case h_2 left front =>
    have behind := (skipBlanks_suffix left).trans ((suffix_of_skipBlanks front).trans ends)
    exact ((items depth _).of_later behind).map_value (item :: ·)
  case h_3 => trivial

/-- If the answers for a value and for the entries behind it are accounted for, so is the answer for
an entry and those behind it. -/
theorem accounted_readEntries_succ {steps : Nat}
    (value : ∀ depth text, Accounted depth text (readValue steps depth text))
    (entries : ∀ depth known text, Accounted depth text (readEntries steps depth known text))
    (depth : Nat) (known : Data.Entries) (text : Text) :
    Accounted depth text (readEntries (steps + 1) depth known text) := by
  unfold readEntries
  split
  case h_1 rest =>
    refine ((accounted_readString depth rest).of_later (List.suffix_cons _ _)).bind ?_
    rintro ⟨codes, behind⟩ ends
    dsimp only
    split
    case h_1 left colon =>
      have start := (skipBlanks_suffix left).trans ((suffix_of_skipBlanks colon).trans ends)
      refine ((value depth _).of_later start).bind ?_
      rintro ⟨found, left⟩ ends
      dsimp only
      split
      case h_1 last front => exact (suffix_of_skipBlanks front).trans ends
      case h_2 last front =>
        have next := (skipBlanks_suffix last).trans ((suffix_of_skipBlanks front).trans ends)
        exact (entries depth _ _).of_later next
      case h_3 => trivial
    case h_2 => trivial
  case h_2 => trivial

/-- Every answer is accounted for, however many steps there are. -/
theorem accounted_steps (steps : Nat) :
    (∀ depth text, Accounted depth text (readValue steps depth text)) ∧
      (∀ depth text, Accounted depth text (readItems steps depth text)) ∧
      ∀ depth known text, Accounted depth text (readEntries steps depth known text) := by
  induction steps with
  | zero => exact ⟨fun _ _ => trivial, fun _ _ => trivial, fun _ _ _ => trivial⟩
  | succ steps ih =>
    obtain ⟨value, items, entries⟩ := ih
    exact ⟨accounted_readValue_succ items entries, accounted_readItems_succ value items,
      accounted_readEntries_succ value entries⟩

/-- A text is read, or is malformed, if it has no more digits in a row and opens no more brackets
than the limits allow. -/
theorem read_within_limits {depth : Nat} {text : Text}
    (digits : ∀ run, run <:+: text → (∀ c ∈ run, c.isDigit = true) →
      run.length ≤ Numeral.maxDigits)
    (brackets : text.countP opensBracket ≤ depth) :
    (∃ value, read depth text = .ok value) ∨ read depth text = .error .malformed := by
  have accounted : Accounted depth text
      (readValue (2 * text.length + 2) depth (skipBlanks text)) :=
    ((accounted_steps _).1 depth _).of_later (skipBlanks_suffix text)
  have within : limits.Within depth text :=
    ⟨fun run inside all => Nat.le_trans List.countP_le_length (digits run inside all), brackets⟩
  rw [read]
  rcases accounted.ok_or_malformed within with ⟨⟨value, rest⟩, found⟩ | refused
  · rw [found]
    by_cases blank : (skipBlanks rest).isEmpty = true
    · exact .inl ⟨value, if_pos blank⟩
    · exact .inr (if_neg blank)
  · rw [refused]
    exact .inr rfl

/-- A run of ones is no integer if there are too many of them. -/
theorem readUnsigned_ones {count : Nat} (long : Numeral.maxDigits < count + 1) :
    readUnsigned false ('1' :: (List.replicate count '1' ++ [']'])) =
      .error (.numeralTooLong (count + 1)) := by
  have ones : ∀ c ∈ List.replicate count '1', c.isDigit = true := by
    intro c inside
    rw [List.eq_of_mem_replicate inside]
    rfl
  have digits : ('1' :: (List.replicate count '1' ++ [']'])).takeWhile Char.isDigit =
      '1' :: List.replicate count '1' := by
    rw [List.takeWhile_cons_of_pos rfl, List.takeWhile_append_of_pos ones]
    exact congrArg ('1' :: ·) (List.append_nil _)
  have behind : ('1' :: (List.replicate count '1' ++ [']'])).dropWhile Char.isDigit = [']'] := by
    rw [List.dropWhile_cons_of_pos rfl, List.dropWhile_append_of_pos ones]
    rfl
  simp only [readUnsigned]
  rw [digits, behind]
  simp [readFraction, readExponent, long]

/-- An array is refused for the integer that it starts with. -/
theorem read_array_of_refused {depth : Nat} (room : 0 < depth) {rest : Text} {cause : ReadError}
    (refused : readUnsigned false ('1' :: rest) = .error cause) :
    read depth ('[' :: '1' :: rest) = .error cause := by
  have value : ∀ steps depth, readValue (steps + 1) depth ('1' :: rest) = .error cause :=
    fun _ _ => refused
  have items : ∀ steps depth, readItems (steps + 2) depth ('1' :: rest) = .error cause := by
    intro steps depth
    rw [readItems, value]
    rfl
  have array : ∀ steps depth, readValue (steps + 3) (depth + 1) ('[' :: '1' :: rest) =
      .error cause := by
    intro steps depth
    change (readItems (steps + 2) depth ('1' :: rest) >>= _) = _
    rw [items]
    rfl
  obtain ⟨inner, rfl⟩ := Nat.exists_eq_add_of_lt room
  rw [Nat.zero_add]
  have whole : readValue (2 * ('[' :: '1' :: rest).length + 2) (inner + 1)
      (skipBlanks ('[' :: '1' :: rest)) = .error cause := array (2 * rest.length + 3) inner
  rw [read, whole]
  rfl

end BatchScript.Json
