import BatchScript.Data.Toml.Reader
import BatchScript.Proofs.Data.Limits

/-!
# Limits of reading TOML

The reader refuses a text for one of its two limits only where the text goes beyond it: an integer
is too long only if that many digits stand in a row, with underscores at most between them, and a
bracket is too deep only if the brackets of the text could take up more levels than there are.
-/
namespace BatchScript.Toml

open Data (ReadError)

/-- The limits of the reader: underscores may stand between the digits, and the brackets of arrays
and inline tables take up levels. -/
def limits : Data.Limits where
  inNumeral c := c.isDigit || c == '_'
  levels text := arrayLevels * text.count '[' + tableLevels * text.count '{'
  levels_mono ends :=
    Nat.add_le_add (Nat.mul_le_mul_left _ (ends.sublist.count_le _))
      (Nat.mul_le_mul_left _ (ends.sublist.count_le _))

/-! ## Blanks, strings and keys -/

/-- Skipping spaces leaves an end of the text. -/
theorem skipSpaces_suffix (text : Text) : skipSpaces text <:+ text := List.dropWhile_suffix _

/-- What stands behind the first character past spaces is an end of the text. -/
theorem suffix_of_skipSpaces {text rest : Text} {c : Char} (front : skipSpaces text = c :: rest) :
    rest <:+ text :=
  (List.suffix_cons c rest).trans (front ▸ skipSpaces_suffix text)

/-- The answer for a comment is accounted for. -/
theorem accounted_skipComment (depth : Nat) (text : Text) :
    limits.Accounted depth text id (skipComment text) := by
  fun_cases skipComment text with
  | case1 => trivial
  | case2 rest => exact (List.dropWhile_suffix _).trans (List.suffix_cons '#' rest)
  | case3 => exact List.suffix_rfl

/-- The answer for blanks, line ends and comments is accounted for. -/
theorem accounted_skipLayout (depth : Nat) (inside : Bool) (text : Text) :
    limits.Accounted depth text id (skipLayout inside text) := by
  fun_induction skipLayout inside text with
  | case1 => exact List.suffix_rfl
  | case2 rest ih => exact ih.of_later (List.suffix_cons _ rest)
  | case3 => trivial
  | case4 c rest _ _ ih => exact ih.of_later (List.suffix_cons c rest)
  | case5 inside c rest _ _ ih => exact ih.of_later (List.suffix_cons c rest)
  | case6 inside rest _ _ ih => exact ih.of_later (List.suffix_cons _ rest)
  | case7 => exact List.suffix_rfl

/-- The answer for a string in single quotes is accounted for. -/
theorem accounted_readLiteral (depth : Nat) (text : Text) :
    limits.Accounted depth text Prod.snd (readLiteral text) := by
  fun_induction readLiteral text with
  | case1 => trivial
  | case2 rest => exact List.suffix_cons _ rest
  | case3 => trivial
  | case4 c rest _ _ ih => exact (ih.of_later (List.suffix_cons c rest)).map_value (c :: ·)

/-- The answer for a string in three single quotes is accounted for. -/
theorem accounted_readLongLiteral (depth : Nat) (text : Text) :
    limits.Accounted depth text Prod.snd (readLongLiteral text) := by
  fun_induction readLongLiteral text with
  | case1 => trivial
  | case2 rest => exact ⟨['\'', '\'', '\''], rfl⟩
  | case3 => trivial
  | case4 c rest _ _ ih => exact (ih.of_later (List.suffix_cons c rest)).map_value (c :: ·)

/-- The answer for a string in double quotes is accounted for. -/
theorem accounted_readBasic (depth : Nat) (long trimming : Bool) (text : Text) :
    limits.Accounted depth text Prod.snd (readBasic long trimming text) := by
  fun_induction readBasic long trimming text with
  | case2 trimming c rest _ ih => exact ih.of_later (List.suffix_cons c rest)
  | case3 => exact ⟨['"', '"', '"'], rfl⟩
  | case4 trimming rest _ _ _ ih =>
    exact (ih.of_later (List.suffix_cons '"' rest)).map_value ('"' :: ·)
  | case5 trimming rest => exact List.suffix_cons '"' rest
  | case7 trimming a b c d rest point _ _ ih =>
    exact (ih.of_later ⟨['\\', 'u', a, b, c, d], rfl⟩).map_value (point :: ·)
  | case9 trimming a b c d e f g h rest point _ _ ih =>
    exact (ih.of_later ⟨['\\', 'U', a, b, c, d, e, f, g, h], rfl⟩).map_value (point :: ·)
  | case10 trimming letter rest _ _ _ _ _ ih => exact ih.of_later ⟨['\\', letter], rfl⟩
  | case13 trimming letter rest _ _ _ point _ _ ih =>
    exact (ih.of_later ⟨['\\', letter], rfl⟩).map_value (point :: ·)
  | case15 trimming c rest _ _ _ _ _ _ ih =>
    exact (ih.of_later (List.suffix_cons c rest)).map_value (c :: ·)
  | _ => trivial

/-- A line feed that is dropped leaves an end of the text. -/
theorem dropLineFeed_suffix (text : Text) : dropLineFeed text <:+ text := by
  fun_cases dropLineFeed text with
  | case1 rest => exact List.suffix_cons _ rest
  | case2 => exact List.suffix_rfl

/-- Quotes behind a string leave an end of the text. -/
theorem takeExtraQuotes_suffix (mark : Char) (value text : Text) :
    (takeExtraQuotes mark value text).2 <:+ text := by
  fun_cases takeExtraQuotes mark value text with
  | case1 rest => exact ⟨[mark, mark], rfl⟩
  | case2 => exact List.suffix_cons _ _
  | case3 => exact List.nil_suffix
  | case4 => exact List.suffix_rfl
  | case5 => exact List.suffix_rfl

/-- The answer for a string of any kind is accounted for. -/
theorem accounted_readString (depth : Nat) (text : Text) :
    limits.Accounted depth text Prod.snd (readString text) := by
  fun_cases readString text with
  | case1 rest =>
    have start : dropLineFeed rest <:+ '"' :: '"' :: '"' :: rest :=
      (dropLineFeed_suffix rest).trans ⟨['"', '"', '"'], rfl⟩
    refine ((accounted_readBasic depth true false _).of_later start).bind ?_
    exact fun read ends => (takeExtraQuotes_suffix _ _ _).trans ends
  | case2 rest =>
    have start : dropLineFeed rest <:+ '\'' :: '\'' :: '\'' :: rest :=
      (dropLineFeed_suffix rest).trans ⟨['\'', '\'', '\''], rfl⟩
    refine ((accounted_readLongLiteral depth _).of_later start).bind ?_
    exact fun read ends => (takeExtraQuotes_suffix _ _ _).trans ends
  | case3 rest => exact (accounted_readBasic depth false false rest).of_later (List.suffix_cons _ _)
  | case4 rest => exact (accounted_readLiteral depth rest).of_later (List.suffix_cons _ _)
  | case5 => trivial

/-- The answer for one name of a key is accounted for. -/
theorem accounted_readKeyPart (depth : Nat) (text : Text) :
    limits.Accounted depth text Prod.snd (readKeyPart text) := by
  fun_cases readKeyPart text with
  | case1 rest => exact (accounted_readLiteral depth rest).of_later (List.suffix_cons _ _)
  | case2 rest => exact (accounted_readBasic depth false false rest).of_later (List.suffix_cons _ _)
  | case3 _ bare =>
    rw [if_pos bare]
    exact List.dropWhile_suffix _
  | case4 _ other =>
    rw [if_neg other]
    trivial

/-- The answer for the names of a key is accounted for. -/
theorem accounted_readKeyParts (depth steps : Nat) (text : Text) :
    limits.Accounted depth text Prod.snd (readKeyParts steps text) := by
  induction steps generalizing text with
  | zero => trivial
  | succ steps ih =>
    rw [readKeyParts]
    refine (accounted_readKeyPart depth text).bind ?_
    rintro ⟨part, rest⟩ ends
    dsimp only
    split
    case h_1 behind dot =>
      have next := (skipSpaces_suffix behind).trans ((suffix_of_skipSpaces dot).trans ends)
      exact ((ih _).of_later next).map_value (part :: ·)
    case h_2 => exact (skipSpaces_suffix rest).trans ends

/-- The answer for a key is accounted for. -/
theorem accounted_readKey (depth : Nat) (text : Text) :
    limits.Accounted depth text Prod.snd (readKey text) := accounted_readKeyParts depth _ text

/-! ## Dates, times and numbers -/

/-- The fraction of a second leaves an end of the text. -/
theorem readMicros_suffix (text : Text) : (readMicros text).2 <:+ text := by
  fun_cases readMicros text with
  | case1 rest => exact (List.dropWhile_suffix _).trans (List.suffix_cons _ rest)
  | case2 => exact List.suffix_rfl
  | case3 => exact List.suffix_rfl

/-- A time of day leaves an end of the text. -/
theorem readTime?_suffix {text rest : Text} {time : TimeOfDay}
    (found : readTime? text = some (time, rest)) : rest <:+ text := by
  unfold readTime? at found
  split at found
  case h_1 h1 h2 m1 m2 s1 s2 behind =>
    obtain ⟨hour, -, found⟩ := Option.bind_eq_some_iff.1 found
    obtain ⟨minute, -, found⟩ := Option.bind_eq_some_iff.1 found
    obtain ⟨second, -, found⟩ := Option.bind_eq_some_iff.1 found
    split at found
    · obtain ⟨-, rfl⟩ := Prod.mk.inj (Option.some.inj found)
      exact (readMicros_suffix behind).trans ⟨[h1, h2, ':', m1, m2, ':', s1, s2], rfl⟩
    · cases found
  case h_2 => cases found

/-- A date leaves an end of the text. -/
theorem readDate?_suffix {text rest : Text} {date : Date}
    (found : readDate? text = some (date, rest)) : rest <:+ text := by
  unfold readDate? at found
  split at found
  case h_1 y1 y2 y3 y4 m1 m2 d1 d2 behind =>
    obtain ⟨century, -, found⟩ := Option.bind_eq_some_iff.1 found
    obtain ⟨year, -, found⟩ := Option.bind_eq_some_iff.1 found
    obtain ⟨month, -, found⟩ := Option.bind_eq_some_iff.1 found
    obtain ⟨day, -, found⟩ := Option.bind_eq_some_iff.1 found
    split at found
    · obtain ⟨-, rfl⟩ := Prod.mk.inj (Option.some.inj found)
      exact ⟨[y1, y2, y3, y4, '-', m1, m2, '-', d1, d2], rfl⟩
    · cases found
  case h_2 => cases found

/-- An offset leaves an end of the text. -/
theorem readOffset_suffix (text : Text) : (readOffset text).2 <:+ text := by
  fun_cases readOffset text with
  | case1 rest => exact List.suffix_cons _ rest
  | case2 rest => exact List.suffix_cons _ rest
  | case3 h1 h2 m1 m2 rest => exact ⟨['+', h1, h2, ':', m1, m2], rfl⟩
  | case4 h1 h2 m1 m2 rest => exact ⟨['-', h1, h2, ':', m1, m2], rfl⟩
  | _ => exact List.suffix_rfl

/-- The time behind a date leaves an end of the text. -/
theorem readMomentOf_suffix (date : Date) (text : Text) : (readMomentOf date text).2 <:+ text := by
  fun_cases readMomentOf date text with
  | case1 joint rest _ time behind found offset left same =>
    have ends := readOffset_suffix behind
    rw [same] at ends
    exact (ends.trans (readTime?_suffix found)).trans (List.suffix_cons joint rest)
  | _ => exact List.suffix_rfl

/-- A run of digits with underscores between them stands at the front of the text. -/
theorem readDigits_front {p : Char → Bool} (plain : p '_' = false) (text : Text) :
    ∃ run, run ++ (readDigits p text).2 = text ∧ run.countP p = (readDigits p text).1.length ∧
      ∀ c ∈ run, p c = true ∨ c = '_' := by
  fun_induction readDigits p text with
  | case1 => exact ⟨[], rfl, rfl, by simp⟩
  | case2 c digit => exact ⟨[c], rfl, by simp [digit], by simp [digit]⟩
  | case3 c other => exact ⟨[], rfl, rfl, by simp⟩
  | case4 c rest digit _ digits left same ih =>
    obtain ⟨run, front, count, all⟩ := ih
    rw [same] at front count
    refine ⟨c :: '_' :: run, ?_, ?_, ?_⟩
    · simpa using front
    · simp [digit, plain, count]
    · simpa [digit] using all
  | case5 c rest digit => exact ⟨[c], rfl, by simp [digit], by simp [digit]⟩
  | case6 c d rest digit _ digits left same ih =>
    obtain ⟨run, front, count, all⟩ := ih
    rw [same] at front count
    refine ⟨c :: run, ?_, ?_, ?_⟩
    · simpa using front
    · simp [digit, count]
    · simpa [digit] using all
  | case7 => exact ⟨[], rfl, rfl, by simp⟩

/-- Digits leave an end of the text. -/
theorem readDigits_suffix {p : Char → Bool} (plain : p '_' = false) (text : Text) :
    (readDigits p text).2 <:+ text := by
  obtain ⟨run, front, -⟩ := readDigits_front plain text
  exact ⟨run, front⟩

/-- No base has the underscore for a digit. -/
theorem baseOf?_plain {letter : Char} {base : Nat} {p : Char → Bool}
    (found : baseOf? letter = some (base, p)) : p '_' = false := by
  unfold baseOf? at found
  split at found
  · obtain ⟨-, rfl⟩ := Prod.mk.inj (Option.some.inj found)
    decide
  · obtain ⟨-, rfl⟩ := Prod.mk.inj (Option.some.inj found)
    decide
  · obtain ⟨-, rfl⟩ := Prod.mk.inj (Option.some.inj found)
    decide
  · cases found

/-- An integer in another base leaves an end of the text. -/
theorem readBased?_suffix {text rest : Text} {value : Data}
    (found : readBased? text = some (value, rest)) : rest <:+ text := by
  unfold readBased? at found
  split at found
  case h_1 letter behind =>
    obtain ⟨⟨base, p⟩, known, found⟩ := Option.bind_eq_some_iff.1 found
    have ends := readDigits_suffix (baseOf?_plain known) behind
    dsimp only at found
    split at found
    · cases found
    · next same =>
      obtain ⟨-, rfl⟩ := Prod.mk.inj (Option.some.inj found)
      rw [same] at ends
      exact ends.trans ⟨['0', letter], rfl⟩
  case h_2 => cases found

/-- A sign leaves an end of the text. -/
theorem readSign_suffix (text : Text) : (readSign text).2 <:+ text := by
  fun_cases readSign text with
  | case1 rest => exact List.suffix_cons _ rest
  | case2 rest => exact List.suffix_cons _ rest
  | case3 => exact List.suffix_rfl

/-- The digits of a whole number, with underscores between them, stand at the front of the text. -/
theorem readWhole_front (text : Text) :
    ∃ run, run ++ (readWhole text).2 = text ∧ run.countP Char.isDigit = (readWhole text).1.length ∧
      ∀ c ∈ run, limits.inNumeral c = true := by
  fun_cases readWhole text with
  | case1 rest => exact ⟨['0'], rfl, rfl, List.all_eq_true.1 rfl⟩
  | case2 =>
    obtain ⟨run, front, count, all⟩ := readDigits_front (p := Char.isDigit) rfl text
    exact ⟨run, front, count, fun c member => by simpa [limits] using all c member⟩

/-- The digits behind a mark leave an end of the text. -/
theorem readPart_suffix (isMark : Char → Bool) (withSign : Bool) (text : Text) :
    (readPart isMark withSign text).2 <:+ text := by
  fun_cases readPart isMark withSign text with
  | case2 mark rest _ negative signed sign digits behind _ same =>
    have start : signed <:+ rest := by
      split at sign
      · have ends := readSign_suffix rest
        rwa [sign] at ends
      · cases sign
        exact List.suffix_rfl
    have ends := readDigits_suffix (p := Char.isDigit) rfl signed
    rw [same] at ends
    exact (ends.trans start).trans (List.suffix_cons mark rest)
  | _ => exact List.suffix_rfl

/-- What stands behind a number is an end of the text. -/
theorem suffix_of_decimal {text start behind middle rest whole : Text} {negative : Bool}
    {fraction exponent : Option (Bool × Text)} (sign : readSign text = (negative, start))
    (digits : readWhole start = (whole, behind))
    (point : readPart (· == '.') false behind = (fraction, middle))
    (power : readPart (fun c => c == 'e' || c == 'E') true middle = (exponent, rest)) :
    rest <:+ text := by
  have first := readSign_suffix text
  obtain ⟨run, front, -⟩ := readWhole_front start
  have third := readPart_suffix (· == '.') false behind
  have fourth := readPart_suffix (fun c => c == 'e' || c == 'E') true middle
  rw [sign] at first
  rw [digits] at front
  rw [point] at third
  rw [power] at fourth
  exact ((fourth.trans third).trans ⟨run, front⟩).trans first

/-- The answer for a decimal number is accounted for. -/
theorem accounted_readDecimal? (depth : Nat) (text : Text) :
    ∀ answer ∈ readDecimal? text, limits.Accounted depth text Prod.snd answer := by
  fun_cases readDecimal? text with
  | case1 => exact nofun
  | case2 negative start sign whole behind _ digits middle rest long point power =>
    rintro _ ⟨⟩
    obtain ⟨run, front, count, all⟩ := readWhole_front start
    have first := readSign_suffix text
    rw [digits] at front count
    rw [sign] at first
    exact ⟨long, run, List.IsInfix.trans ⟨[], behind, front⟩ first.isInfix, count, all⟩
  | case3 negative start sign whole behind _ digits middle rest _ point power =>
    rintro _ ⟨⟩
    exact suffix_of_decimal sign digits point power
  | case4 negative start sign whole behind _ digits middle rest _ _ _ _ _ _ _ _ point power =>
    rintro _ ⟨⟩
    exact suffix_of_decimal sign digits point power

/-- A number that is no decimal leaves an end of the text. -/
theorem readSpecial?_suffix {text rest : Text} {value : Data}
    (found : readSpecial? text = some (value, rest)) : rest <:+ text := by
  have sign := readSign_suffix text
  unfold readSpecial? at found
  dsimp only at found
  split at found
  · next behind same =>
    obtain ⟨-, rfl⟩ := Prod.mk.inj (Option.some.inj found)
    rw [same] at sign
    exact (List.IsSuffix.trans ⟨['i', 'n', 'f'], rfl⟩ sign)
  · next behind same =>
    obtain ⟨-, rfl⟩ := Prod.mk.inj (Option.some.inj found)
    rw [same] at sign
    exact (List.IsSuffix.trans ⟨['n', 'a', 'n'], rfl⟩ sign)
  · cases found

/-- The answer for a truth value, a date, a time or a number is accounted for. -/
theorem accounted_readScalar (depth : Nat) (text : Text) :
    limits.Accounted depth text Prod.snd (readScalar text) := by
  unfold readScalar
  split
  · exact ⟨['t', 'r', 'u', 'e'], rfl⟩
  · exact ⟨['f', 'a', 'l', 's', 'e'], rfl⟩
  · split
    · next date behind found =>
      split
      · exact (readMomentOf_suffix date behind).trans (readDate?_suffix found)
      · trivial
    · split
      · next found => exact readTime?_suffix found
      · split
        · next found => exact readBased?_suffix found
        · split
          · next found => exact accounted_readDecimal? depth text _ found
          · split
            · next found => exact readSpecial?_suffix found
            · trivial

/-! ## Tables

Nothing is read to change the tables of a document, and no change is refused for a limit. -/

section Tables

variable (depth : Nat) (text : Text)

/-- A change that leaves nothing to read is accounted for by every text. -/
abbrev Harmless {α : Type} (answer : Except ReadError α) : Prop :=
  limits.Accounted depth text (fun _ => []) answer

/-- The change of a table is harmless if that of its innermost table is. -/
theorem harmless_modifyTable {throughArrays : Bool}
    {change : Data.Entries → Except ReadError Data.Entries}
    (changes : ∀ entries, Harmless depth text (change entries)) (key : Key)
    (entries : Data.Entries) :
    Harmless depth text (modifyTable throughArrays change key entries) := by
  fun_induction modifyTable throughArrays change key entries with
  | case1 entries => exact changes entries
  | case2 name path entries _ ih => exact ih.bind fun _ _ => List.nil_suffix
  | case3 name path entries inner _ ih => exact ih.bind fun _ _ => List.nil_suffix
  | case4 name path entries items _ inner _ through ih =>
    rw [through] at ih
    exact ih.bind fun _ _ => List.nil_suffix
  | _ => trivial

/-- Adding a value is harmless. -/
theorem harmless_addEntry (name : Text) (value : Data) (entries : Data.Entries) :
    Harmless depth text (addEntry name value entries) := by
  rw [addEntry]
  split
  · exact List.nil_suffix
  · trivial

/-- Adding a table to an array is harmless. -/
theorem harmless_addTable (name : Text) (entries : Data.Entries) :
    Harmless depth text (addTable name entries) := by
  rw [addTable]
  split
  · exact List.nil_suffix
  · exact List.nil_suffix
  · trivial

/-- Adding an entry to an inline table is harmless. -/
theorem harmless_add (table : Inline) (key : Key) (value : Data) :
    Harmless depth text (table.add key value) := by
  rw [Inline.add]
  split
  · trivial
  · exact (harmless_modifyTable depth text (harmless_addEntry depth text _ value) _ _).bind
      fun _ _ => List.nil_suffix

/-- The header of a table is harmless. -/
theorem harmless_declareTable (document : Document) (key : Key) :
    Harmless depth text (document.declareTable key) := by
  rw [Document.declareTable]
  have kept : ∀ entries, Harmless depth text (.ok entries : Except ReadError Data.Entries) :=
    fun _ => List.nil_suffix
  split
  · trivial
  · exact (harmless_modifyTable depth text kept _ _).bind fun _ _ => List.nil_suffix

/-- The header of a table in an array is harmless. -/
theorem harmless_declareArrayTable (document : Document) (key : Key) :
    Harmless depth text (document.declareArrayTable key) := by
  rw [Document.declareArrayTable]
  split
  · trivial
  · exact (harmless_modifyTable depth text (harmless_addTable depth text _) _ _).bind
      fun _ _ => List.nil_suffix

/-- A value under a key is harmless. -/
theorem harmless_assign (document : Document) (header key : Key) (value : Data) :
    Harmless depth text (document.assign header key value) := by
  rw [Document.assign]
  split
  · trivial
  · exact (harmless_modifyTable depth text (harmless_addEntry depth text _ value) _ _).bind
      fun _ _ => List.nil_suffix

end Tables

/-! ## Values -/

/-- The bracket of an array takes up its levels. -/
theorem levels_array (text : Text) :
    limits.levels ('[' :: text) = arrayLevels + limits.levels text := by
  change arrayLevels * ('[' :: text).count '[' + tableLevels * ('[' :: text).count '{' =
    arrayLevels + _
  rw [List.count_cons_self, List.count_cons_of_ne (by decide), Nat.mul_succ]
  change _ = arrayLevels + (arrayLevels * text.count '[' + tableLevels * text.count '{')
  omega

/-- The bracket of an inline table takes up its levels. -/
theorem levels_table (text : Text) :
    limits.levels ('{' :: text) = tableLevels + limits.levels text := by
  change arrayLevels * ('{' :: text).count '[' + tableLevels * ('{' :: text).count '{' =
    tableLevels + _
  rw [List.count_cons_self, List.count_cons_of_ne (by decide), Nat.mul_succ]
  change _ = tableLevels + (arrayLevels * text.count '[' + tableLevels * text.count '{')
  omega

/-- If the answers within a bracket are accounted for, so is the answer for a value. -/
theorem accounted_readValue_succ {steps : Nat}
    (items : ∀ levels text, limits.Accounted levels text Prod.snd (readItems steps levels text))
    (inline : ∀ levels table text,
      limits.Accounted levels text Prod.snd (readInline steps levels table text))
    (levels : Nat) (text : Text) :
    limits.Accounted levels text Prod.snd (readValue (steps + 1) levels text) := by
  unfold readValue
  split
  · exact (accounted_readString levels _).map_value Data.string
  · exact (accounted_readString levels _).map_value Data.string
  · next rest =>
    have takes := levels_array rest
    dsimp only
    split
    · next few =>
      change levels < limits.levels ('[' :: rest)
      omega
    · next enough =>
      refine Data.Limits.Accounted.map_value ?_ Data.array
      exact (items (levels - arrayLevels) rest).of_suffix (List.suffix_cons _ _) (by omega)
  · next rest =>
    have takes := levels_table rest
    split
    · next few =>
      change levels < limits.levels ('{' :: rest)
      omega
    · next enough =>
      split
      · next behind front => exact (suffix_of_skipSpaces front).trans (List.suffix_cons _ _)
      · refine Data.Limits.Accounted.map_value ?_ Data.table
        have fewer := limits.levels_mono (skipSpaces_suffix rest)
        exact (inline (levels - tableLevels) _ _).of_suffix
          ((skipSpaces_suffix rest).trans (List.suffix_cons _ _)) (by omega)
  · exact accounted_readScalar levels text

/-- If the answers for an item and for the items behind it are accounted for, so is the answer for
both. -/
theorem accounted_readItems_succ {steps : Nat}
    (value : ∀ levels text, limits.Accounted levels text Prod.snd (readValue steps levels text))
    (items : ∀ levels text, limits.Accounted levels text Prod.snd (readItems steps levels text))
    (levels : Nat) (text : Text) :
    limits.Accounted levels text Prod.snd (readItems (steps + 1) levels text) := by
  unfold readItems
  refine (accounted_skipLayout levels false text).bind fun start ends => ?_
  split
  · next rest => exact (List.suffix_cons _ rest).trans ends
  · refine ((value levels start).of_later ends).bind ?_
    rintro ⟨item, rest⟩ left
    refine ((accounted_skipLayout levels false rest).of_later left).bind fun behind last => ?_
    dsimp only
    split
    · next rest => exact (List.suffix_cons _ rest).trans last
    · next rest =>
      exact ((items levels rest).of_later ((List.suffix_cons _ rest).trans last)).map_value
        (item :: ·)
    · trivial

/-- If the answers for a value and for the entries behind it are accounted for, so is the answer for
an entry and those behind it. -/
theorem accounted_readInline_succ {steps : Nat}
    (value : ∀ levels text, limits.Accounted levels text Prod.snd (readValue steps levels text))
    (inline : ∀ levels table text,
      limits.Accounted levels text Prod.snd (readInline steps levels table text))
    (levels : Nat) (table : Inline) (text : Text) :
    limits.Accounted levels text Prod.snd (readInline (steps + 1) levels table text) := by
  unfold readInline
  refine (accounted_readKey levels text).bind ?_
  rintro ⟨key, rest⟩ ends
  dsimp only
  split
  · next rest =>
    have start := (skipSpaces_suffix rest).trans ((List.suffix_cons _ rest).trans ends)
    refine ((value levels _).of_later start).bind ?_
    rintro ⟨found, behind⟩ left
    refine (harmless_add levels text table key found).bind fun changed _ => ?_
    dsimp only
    split
    · next rest front => exact (suffix_of_skipSpaces front).trans left
    · next rest front =>
      exact (inline levels _ _).of_later
        ((skipSpaces_suffix rest).trans ((suffix_of_skipSpaces front).trans left))
    · trivial
  · trivial

/-- Every answer is accounted for, however many steps there are. -/
theorem accounted_steps (steps : Nat) :
    (∀ levels text, limits.Accounted levels text Prod.snd (readValue steps levels text)) ∧
      (∀ levels text, limits.Accounted levels text Prod.snd (readItems steps levels text)) ∧
      ∀ levels table text,
        limits.Accounted levels text Prod.snd (readInline steps levels table text) := by
  induction steps with
  | zero => exact ⟨fun _ _ => trivial, fun _ _ => trivial, fun _ _ _ => trivial⟩
  | succ steps ih =>
    obtain ⟨value, items, inline⟩ := ih
    exact ⟨accounted_readValue_succ items inline, accounted_readItems_succ value items,
      accounted_readInline_succ value inline⟩

/-! ## Statements -/

/-- The answer for a key with its value is accounted for. -/
theorem accounted_readAssignment (levels : Nat) (text : Text) :
    limits.Accounted levels text (fun read => read.2.2) (readAssignment levels text) := by
  rw [readAssignment]
  refine (accounted_readKey levels text).bind ?_
  rintro ⟨key, rest⟩ ends
  dsimp only
  split
  · next rest =>
    have start := (skipSpaces_suffix rest).trans ((List.suffix_cons _ rest).trans ends)
    exact (((accounted_steps _).1 levels _).of_later start).bind fun _ left => left
  · trivial

/-- The answer for a statement is accounted for. -/
theorem accounted_readStatement (levels : Nat) (document : Document) (header : Key) (text : Text) :
    limits.Accounted levels text (fun read => read.2.2)
      (readStatement levels document header text) := by
  unfold readStatement
  split
  · next rest =>
    have start : skipSpaces rest <:+ '[' :: '[' :: rest :=
      (skipSpaces_suffix rest).trans ⟨['[', '['], rfl⟩
    refine ((accounted_readKey levels _).of_later start).bind ?_
    rintro ⟨key, behind⟩ ends
    refine (harmless_declareArrayTable levels _ document.settle key).bind fun changed _ => ?_
    split
    · next rest => exact List.IsSuffix.trans ⟨[']', ']'], rfl⟩ ends
    · trivial
  · next rest _ =>
    have start : skipSpaces rest <:+ '[' :: rest :=
      (skipSpaces_suffix rest).trans (List.suffix_cons _ _)
    refine ((accounted_readKey levels _).of_later start).bind ?_
    rintro ⟨key, behind⟩ ends
    refine (harmless_declareTable levels _ document.settle key).bind fun changed _ => ?_
    split
    · next rest => exact (List.suffix_cons _ rest).trans ends
    · trivial
  · exact List.suffix_rfl
  · refine (accounted_readAssignment levels text).bind ?_
    rintro ⟨key, value, rest⟩ ends
    exact (harmless_assign levels text document header key value).bind fun _ _ => ends

/-- The answer for statements is accounted for, however many steps there are. -/
theorem accounted_readStatements (levels steps : Nat) (document : Document) (header : Key)
    (text : Text) :
    limits.Accounted levels text (fun _ => [])
      (readStatements levels steps document header text) := by
  induction steps generalizing document header text with
  | zero => trivial
  | succ steps ih =>
    rw [readStatements]
    have start := skipSpaces_suffix text
    split
    · exact List.nil_suffix
    · next rest front => exact (ih _ _ rest).of_later (suffix_of_skipSpaces front)
    · refine ((accounted_readStatement levels document header _).of_later start).bind ?_
      rintro ⟨changed, inForce, rest⟩ ends
      have behind := (skipSpaces_suffix rest).trans ends
      refine ((accounted_skipComment levels _).of_later behind).bind fun last left => ?_
      split
      · exact List.nil_suffix
      · next rest => exact (ih _ _ rest).of_later ((List.suffix_cons _ rest).trans left)
      · trivial

/-! ## Documents -/

/-- Nothing but carriage returns is dropped. -/
theorem dropReturns_sublist (text : Text) : (dropReturns text).Sublist text := by
  fun_induction dropReturns text with
  | case1 => exact .slnil
  | case2 rest ih => exact (ih.cons_cons '\n').cons '\r'
  | case3 c rest _ ih => exact ih.cons_cons c

/-- A run without line feeds that starts what is kept starts the text. -/
theorem prefix_of_dropReturns {text run : Text} (kept : run <+: dropReturns text)
    (inLine : '\n' ∉ run) :
    run <+: text := by
  fun_induction dropReturns text generalizing run with
  | case1 => exact kept
  | case2 rest ih =>
    cases run with
    | nil => exact List.nil_prefix
    | cons c cs =>
      obtain ⟨rfl, -⟩ := List.cons_prefix_cons.1 kept
      exact absurd List.mem_cons_self inLine
  | case3 c rest _ ih =>
    cases run with
    | nil => exact List.nil_prefix
    | cons d ds =>
      obtain ⟨rfl, later⟩ := List.cons_prefix_cons.1 kept
      exact List.cons_prefix_cons.2
        ⟨rfl, ih later fun member => inLine (List.mem_cons_of_mem d member)⟩

/-- An end of what is kept is what is kept of an end of the text. -/
theorem suffix_of_dropReturns {text tail : Text} (kept : tail <:+ dropReturns text) :
    ∃ later, later <:+ text ∧ tail = dropReturns later := by
  fun_induction dropReturns text with
  | case1 => exact ⟨[], List.suffix_rfl, List.suffix_nil.1 kept⟩
  | case2 rest ih =>
    rcases List.suffix_cons_iff.1 kept with rfl | behind
    · exact ⟨'\r' :: '\n' :: rest, List.suffix_rfl, rfl⟩
    · obtain ⟨later, ends, same⟩ := ih behind
      exact ⟨later, ends.trans ⟨['\r', '\n'], rfl⟩, same⟩
  | case3 c rest other ih =>
    rcases List.suffix_cons_iff.1 kept with rfl | behind
    · exact ⟨c :: rest, List.suffix_rfl, by rw [dropReturns]; exact other⟩
    · obtain ⟨later, ends, same⟩ := ih behind
      exact ⟨later, ends.trans (List.suffix_cons c rest), same⟩

/-- A run without line feeds that is kept stands in the text. -/
theorem infix_of_dropReturns {text run : Text} (kept : run <:+: dropReturns text)
    (inLine : '\n' ∉ run) :
    run <:+: text := by
  obtain ⟨tail, front, ends⟩ := List.infix_iff_prefix_suffix.1 kept
  obtain ⟨later, behind, rfl⟩ := suffix_of_dropReturns ends
  exact (prefix_of_dropReturns front inLine).isInfix.trans behind.isInfix

/-- Without carriage returns a text within the limits is within them. -/
theorem within_dropReturns {levels : Nat} {text : Text} (within : limits.Within levels text) :
    limits.Within levels (dropReturns text) := by
  refine ⟨fun run inside all => ?_, ?_⟩
  · have inLine : '\n' ∉ run := fun member => absurd (all '\n' member) (by decide)
    exact within.digits run (infix_of_dropReturns inside inLine) all
  · have arrays := (dropReturns_sublist text).count_le '['
    have tables := (dropReturns_sublist text).count_le '{'
    have brackets := within.brackets
    change arrayLevels * _ + tableLevels * _ ≤ levels at brackets ⊢
    rw [arrayLevels, tableLevels] at brackets ⊢
    omega

/-- A document is read, or is malformed, if it has no more digits in a row and its brackets take up
no more levels than the limits allow. -/
theorem read_within_limits {levels : Nat} {text : Text} (within : limits.Within levels text) :
    (∃ entries, read levels text = .ok entries) ∨ read levels text = .error .malformed := by
  have accounted :=
    accounted_readStatements levels (text.length + 1) .empty [] (dropReturns text)
  rw [read]
  rcases accounted.ok_or_malformed (within_dropReturns within) with ⟨document, found⟩ | refused
  · rw [found]
    exact .inl ⟨document.root, rfl⟩
  · rw [refused]
    exact .inr rfl

end BatchScript.Toml
