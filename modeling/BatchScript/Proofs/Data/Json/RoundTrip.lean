import BatchScript.Data.Json.Reader
import BatchScript.Data.Json.Writer
import BatchScript.Proofs.Text.Quoted

/-!
# Reading written JSON

An array of strings that was written as JSON is read back as it was, whatever characters the strings
hold. A character is written as itself or as an escape, and read as the UTF-16 units of its code
point; the units of a whole string are joined to its code points again.
-/
namespace BatchScript

namespace Json

/-- Four hexadecimal digits of a code unit are read as that unit. -/
theorem hex4?_hex {unit : Nat} (small : unit < 0x10000) :
    ∃ a b c d, Text.hex 4 unit = [a, b, c, d] ∧ hex4? a b c d = some unit := by
  have first : Text.hex 1 (unit / 16 / 16 / 16) = [Nat.digitChar (unit / 16 / 16 / 16)] := by
    rw [Text.hex, Nat.toDigits_of_lt_base (by omega)]
    rfl
  refine ⟨Nat.digitChar (unit / 16 / 16 / 16), Nat.digitChar (unit / 16 / 16 % 16),
    Nat.digitChar (unit / 16 % 16), Nat.digitChar (unit % 16), ?_, ?_⟩
  · rw [Text.hex_succ (by decide), Text.hex_succ (by decide), Text.hex_succ (by decide), first]
    rfl
  · rw [hex4?, Numeral.hexValue?_digitChar (by omega), Numeral.hexValue?_digitChar (by omega),
      Numeral.hexValue?_digitChar (by omega), Numeral.hexValue?_digitChar (by omega)]
    have value : Numeral.ofDigits 16
        [unit / 16 / 16 / 16, unit / 16 / 16 % 16, unit / 16 % 16, unit % 16] = unit := by
      simp only [Numeral.ofDigits, List.foldl_cons, List.foldl_nil]
      omega
    exact congrArg some value

/-- The code point of a character is below the greatest one, and half of no surrogate pair. -/
theorem scalar_toNat (c : Char) : c.toNat < 0xD800 ∨ 0xDFFF < c.toNat ∧ c.toNat < 0x110000 :=
  c.valid

/-- The UTF-16 units of a character. -/
def unitsOf (c : Char) : List Nat :=
  if c.toNat < 0x10000 then [c.toNat] else [(surrogates c.toNat).1, (surrogates c.toNat).2]

/-- An escape of four digits is read as its unit. -/
theorem readUnits_unicodeEscape {unit : Nat} (small : unit < 0x10000) (rest : Text) :
    readUnits (unicodeEscape unit ++ rest) =
      (readUnits rest).map fun (units, rest) => (unit :: units, rest) := by
  obtain ⟨a, b, c, d, digits, value⟩ := hex4?_hex small
  rw [unicodeEscape, digits]
  simp only [List.cons_append, List.nil_append, readUnits, value]
  cases readUnits rest <;> rfl

/-- An escape of one letter is read as the character it stands for. -/
theorem readUnits_letter {c letter : Char} (escape : escaped? letter = some c) (rest : Text) :
    readUnits ('\\' :: letter :: rest) =
      (readUnits rest).map fun (units, rest) => (c.toNat :: units, rest) := by
  have other : letter ≠ 'u' := by
    rintro rfl
    simp [escaped?] at escape
  rw [readUnits]
  · rw [escape]
    cases readUnits rest <;> rfl
  · intro a b c d behind same
    exact absurd same other

/-- A character that needs no escape is read as itself. -/
theorem readUnits_plain {c : Char} (quote : c ≠ '"') (backslash : c ≠ '\\')
    (printed : 0x20 ≤ c.toNat) (rest : Text) :
    readUnits (c :: rest) = (readUnits rest).map fun (units, rest) => (c.toNat :: units, rest) := by
  have kept : ¬ (c = '\\' ∨ c.toNat < 0x20) := by
    rintro (same | low)
    · exact backslash same
    · omega
  rw [readUnits]
  · rw [if_neg kept]
    cases readUnits rest <;> rfl
  · exact quote
  · intro a b d e f same
    exact absurd same backslash
  · intro d behind same
    exact absurd same backslash

/-- A written character is read as its units. -/
theorem readUnits_writeChar (c : Char) (rest : Text) :
    readUnits (writeChar c ++ rest) =
      (readUnits rest).map fun (units, rest) => (unitsOf c ++ units, rest) := by
  unfold writeChar
  split
  · rename_i special
    rcases special with rfl | rfl
    · exact readUnits_letter rfl rest
    · exact readUnits_letter rfl rest
  split
  · subst c
    exact readUnits_letter rfl rest
  split
  · subst c
    exact readUnits_letter rfl rest
  split
  · subst c
    exact readUnits_letter rfl rest
  split
  · subst c
    exact readUnits_letter rfl rest
  split
  · subst c
    exact readUnits_letter rfl rest
  rename_i special _ _ _ _ _
  obtain ⟨quote, backslash⟩ := not_or.1 special
  split
  · rename_i printed
    have small : c.toNat < 0x10000 := by omega
    rw [unitsOf, if_pos small]
    exact readUnits_plain quote backslash printed.1 rest
  split
  · rename_i small
    rw [unitsOf, if_pos small]
    exact readUnits_unicodeEscape small rest
  · rename_i large
    have scalar := scalar_toNat c
    rw [unitsOf, if_neg large, List.append_assoc,
      readUnits_unicodeEscape (by rw [surrogates]; omega),
      readUnits_unicodeEscape (by rw [surrogates]; omega), Option.map_map]
    rfl

/-- A written string is read as the units of its characters, up to its closing quote. -/
theorem readUnits_flatMap (text rest : Text) :
    readUnits (text.flatMap writeChar ++ '"' :: rest) = some (text.flatMap unitsOf, rest) := by
  induction text with
  | nil => rw [List.flatMap_nil, List.nil_append, readUnits, List.flatMap_nil]
  | cons c cs ih =>
    rw [List.flatMap_cons, List.append_assoc, readUnits_writeChar, ih, List.flatMap_cons]
    rfl

/-- The first halves of surrogate pairs make up one range. -/
theorem isHighSurrogate_iff (unit : Nat) :
    isHighSurrogate unit = true ↔ 0xD800 ≤ unit ∧ unit < 0xDC00 := by
  simp [isHighSurrogate]

/-- The second halves of surrogate pairs make up the range behind it. -/
theorem isLowSurrogate_iff (unit : Nat) :
    isLowSurrogate unit = true ↔ 0xDC00 ≤ unit ∧ unit < 0xE000 := by
  simp [isLowSurrogate]

/-- The units of a character in front of others are joined to its code point. -/
theorem joinUnits_unitsOf (c : Char) (units : List Nat) :
    joinUnits (unitsOf c ++ units) = c.toNat :: joinUnits units := by
  have scalar := scalar_toNat c
  by_cases small : c.toNat < 0x10000
  · have single : isHighSurrogate c.toNat = false := by
      rw [← Bool.not_eq_true, isHighSurrogate_iff]
      omega
    rw [unitsOf, if_pos small]
    cases units with
    | nil => rfl
    | cons next rest =>
      rw [List.singleton_append, joinUnits, single]
      rfl
  · have high : isHighSurrogate (surrogates c.toNat).1 = true := by
      rw [isHighSurrogate_iff, surrogates]
      omega
    have low : isLowSurrogate (surrogates c.toNat).2 = true := by
      rw [isLowSurrogate_iff, surrogates]
      omega
    have code : 0x10000 + ((surrogates c.toNat).1 - 0xD800) * 0x400 +
        ((surrogates c.toNat).2 - 0xDC00) = c.toNat := by
      simp only [surrogates]
      omega
    rw [unitsOf, if_neg small, List.cons_append, List.singleton_append, joinUnits, high, low, code]
    rfl

/-- The units of a text are joined to its code points. -/
theorem joinUnits_flatMap (text : Text) :
    joinUnits (text.flatMap unitsOf) = text.map Char.toNat := by
  induction text with
  | nil => rfl
  | cons c cs ih => rw [List.flatMap_cons, joinUnits_unitsOf, ih, List.map_cons]

/-- The code points of a text are read as that text. -/
theorem stringValue_map_toNat (text : Text) : stringValue (text.map Char.toNat) = .string text := by
  have scalars : (text.map Char.toNat).any isSurrogate = false := by
    rw [List.any_eq_false]
    intro code inside
    obtain ⟨c, -, rfl⟩ := List.mem_map.1 inside
    have scalar := scalar_toNat c
    rw [isSurrogate, Bool.or_eq_true, isHighSurrogate_iff, isLowSurrogate_iff]
    omega
  have same : (text.map Char.toNat).map Char.ofNat = text := by
    rw [List.map_map]
    exact List.map_id'' Char.ofNat_toNat text
  simp only [stringValue, scalars, same]
  rfl

/-- A written string is read as that string, whatever stands behind it. -/
theorem readValue_writeString (steps depth : Nat) (text rest : Text) :
    readValue (steps + 1) depth (writeString text ++ rest) = .ok (.string text, rest) := by
  have units : readString (text.flatMap writeChar ++ '"' :: rest) =
      .ok (text.map Char.toNat, rest) := by
    rw [readString, readUnits_flatMap]
    exact congrArg (fun codes => Except.ok (codes, rest)) (joinUnits_flatMap text)
  have whole : writeString text ++ rest = '"' :: (text.flatMap writeChar ++ '"' :: rest) := by
    simp [writeString]
  rw [whole, readValue, units]
  exact congrArg (fun value => Except.ok (value, rest)) (stringValue_map_toNat text)

/-- Written strings with commas between them start with a quote. -/
theorem join_writeString_cons (name : Text) (names : List Text) :
    ∃ behind, Text.join [',', ' '] ((name :: names).map writeString) = '"' :: behind := by
  cases names with
  | nil => exact ⟨_, Text.join_singleton [',', ' '] (writeString name)⟩
  | cons next names =>
    exact ⟨_, Text.join_cons_cons [',', ' '] (writeString name) (writeString next)
      (names.map writeString)⟩

/-- Written strings with commas between them are read as the items of an array up to its bracket. -/
theorem readItems_join {names : List Text} (some : names ≠ []) {steps : Nat}
    (enough : names.length < steps) (depth : Nat) (rest : Text) :
    readItems steps depth (Text.join [',', ' '] (names.map writeString) ++ ']' :: rest) =
      .ok (names.map .string, rest) := by
  induction names generalizing steps with
  | nil => exact absurd rfl some
  | cons name names ih =>
    obtain ⟨steps, rfl⟩ : ∃ more, steps = more + 2 := ⟨steps - 2, by simp at enough; omega⟩
    cases names with
    | nil =>
      rw [List.map_singleton, Text.join_singleton, readItems, readValue_writeString]
      rfl
    | cons next names =>
      have split : Text.join [',', ' '] ((name :: next :: names).map writeString) ++ ']' :: rest =
          writeString name ++
            ',' :: ' ' ::
              (Text.join [',', ' '] ((next :: names).map writeString) ++ ']' :: rest) := by
        simp only [List.map_cons, Text.join_cons_cons, List.append_assoc, List.cons_append,
          List.nil_append]
      have fewer : (next :: names).length < steps + 1 := Nat.lt_of_succ_lt_succ enough
      have later := ih (List.cons_ne_nil next names) fewer
      have front : skipBlanks (' ' ::
          (Text.join [',', ' '] ((next :: names).map writeString) ++ ']' :: rest)) =
            Text.join [',', ' '] ((next :: names).map writeString) ++ ']' :: rest := by
        obtain ⟨behind, quote⟩ := join_writeString_cons next names
        rw [quote]
        rfl
      rw [split, readItems, readValue_writeString]
      change (readItems (steps + 1) depth (skipBlanks (' ' :: _)) >>= _) = _
      rw [front, later]
      rfl

/-- There are no more written strings than characters in them. -/
theorem length_le_length_join (names : List Text) :
    names.length ≤ (Text.join [',', ' '] (names.map writeString)).length := by
  induction names with
  | nil => exact Nat.zero_le _
  | cons name names ih =>
    have wide : (writeString name).length = (name.flatMap writeChar).length + 2 := by
      simp [writeString]
    cases names with
    | nil =>
      rw [List.map_singleton, Text.join_singleton, wide, List.length_singleton]
      omega
    | cons next names =>
      simp only [List.map_cons, Text.join_cons_cons, List.length_append, List.length_cons] at ih ⊢
      omega

/-- An array of strings that was written is read as that array, whatever stands behind it. -/
theorem readValue_writeStrings {names : List Text} {steps : Nat} (enough : names.length < steps)
    (depth : Nat) (rest : Text) :
    readValue (steps + 1) (depth + 1) (writeStrings names ++ rest) =
      .ok (.array (names.map .string), rest) := by
  have whole : writeStrings names ++ rest =
      '[' :: (Text.join [',', ' '] (names.map writeString) ++ ']' :: rest) := by
    simp [writeStrings]
  rw [whole, readValue, if_neg (Nat.succ_ne_zero depth)]
  cases names with
  | nil => rfl
  | cons name names =>
    have items := readItems_join (List.cons_ne_nil name names) enough depth rest
    obtain ⟨behind, quote⟩ := join_writeString_cons name names
    rw [quote] at items ⊢
    change (readItems steps depth ('"' :: (behind ++ ']' :: rest)) >>= _) = _
    rw [← List.cons_append, items]
    rfl

/-- An array of strings that was written is read back, if one bracket may be open. -/
theorem read_writeStrings {depth : Nat} (room : 0 < depth) (names : List Text) :
    read depth (writeStrings names) = .ok (.array (names.map .string)) := by
  have enough : names.length < 2 * (writeStrings names).length + 1 := by
    have bound := length_le_length_join names
    simp only [writeStrings, List.length_append, List.length_cons]
    omega
  obtain ⟨inner, rfl⟩ := Nat.exists_eq_add_of_lt room
  rw [Nat.zero_add]
  have value : readValue (2 * (writeStrings names).length + 2) (inner + 1)
      (writeStrings names ++ []) = .ok (.array (names.map .string), []) :=
    readValue_writeStrings enough inner []
  have front : skipBlanks (writeStrings names) = writeStrings names := rfl
  rw [List.append_nil] at value
  rw [read, front, value]
  rfl

end Json

end BatchScript
