import BatchScript.Text.Numeral
import BatchScript.Text.Quoted

/-!
# Reading quoted text

A reader goes through quoted text character by character: it knows the quote in front, whether it
stands behind a backslash, and how many hexadecimal digits of an escape are still to come. From
every quoted text it gets the text back, whatever stands behind the closing quote, and all that it
goes through is printable.
-/
namespace BatchScript

/-- A hexadecimal digit stands for its value. -/
theorem Numeral.hexValue?_digitChar {d : Nat} (digit : d < 16) :
    hexValue? (Nat.digitChar d) = some d := by
  have all : ∀ d < 16, hexValue? (Nat.digitChar d) = some d := by decide
  exact all d digit

namespace Text

/-- One more hexadecimal digit shows the remainder behind the digits of the quotient. -/
theorem hex_succ {width : Nat} (some : 0 < width) (n : Nat) :
    hex (width + 1) n = hex width (n / 16) ++ [Nat.digitChar (n % 16)] := by
  have last : Nat.toDigits 16 (n % 16) = [Nat.digitChar (n % 16)] :=
    Nat.toDigits_of_lt_base (Nat.mod_lt n (by decide))
  by_cases small : n < 16
  · obtain ⟨w, rfl⟩ : ∃ w, width = w + 1 := ⟨width - 1, by omega⟩
    have quotient : n / 16 = 0 := by omega
    have remainder : n % 16 = n := Nat.mod_eq_of_lt small
    rw [remainder] at last ⊢
    rw [hex, hex, last, quotient]
    simp [padZeros, List.replicate_succ']
  · have digits : Nat.toDigits 16 n = Nat.toDigits 16 (n / 16) ++ [Nat.digitChar (n % 16)] := by
      have joined := Nat.toDigits_append_toDigits (b := 16) (n := n / 16) (d := n % 16) (by decide)
        (by omega) (Nat.mod_lt n (by decide))
      rw [last, Nat.div_add_mod] at joined
      exact joined.symm
    rw [hex, hex, digits]
    simp [padZeros]

/-- A number that fits is written in just as many hexadecimal digits, which stand for it. -/
theorem hex_eq_map_digitChar (width : Nat) {n : Nat} (fits : n < Nat.pow 16 (width + 1)) :
    ∃ digits : List Nat, digits.length = width + 1 ∧ (∀ d ∈ digits, d < 16) ∧
      Numeral.ofDigits 16 digits = n ∧ hex (width + 1) n = digits.map Nat.digitChar := by
  induction width generalizing n with
  | zero =>
    have digit : n < 16 := fits
    refine ⟨[n], rfl, by simpa using digit, by simp [Numeral.ofDigits], ?_⟩
    rw [hex, Nat.toDigits_of_lt_base digit]
    rfl
  | succ width ih =>
    have bound : n < Nat.pow 16 (width + 1) * 16 := fits
    have quotient : n / 16 < Nat.pow 16 (width + 1) := by omega
    obtain ⟨digits, count, small, value, written⟩ := ih quotient
    have last : n % 16 < 16 := Nat.mod_lt n (by decide)
    refine ⟨digits ++ [n % 16], by simp [count], ?_, ?_, ?_⟩
    · intro d member
      rcases List.mem_append.1 member with before | behind
      · exact small d before
      · rw [List.mem_singleton.1 behind]
        exact last
    · have shifted : Numeral.ofDigits 16 (digits ++ [n % 16]) =
          Numeral.ofDigits 16 digits * 16 + n % 16 := by
        rw [Numeral.ofDigits, List.foldl_append]
        rfl
      rw [shifted, value]
      omega
    · rw [hex_succ (Nat.succ_pos width), written, List.map_append]
      rfl

/-- The number of hexadecimal digits that follow a letter behind a backslash. -/
def hexWidth? : Char → Option Nat
  | 'x' => some 2
  | 'u' => some 4
  | 'U' => some 8
  | _ => none

/-- The character that stands behind a backslash, or that a letter there stands for. -/
def escaped? : Char → Option Char
  | 't' => some '\t'
  | 'n' => some '\n'
  | 'r' => some '\r'
  | '\\' => some '\\'
  | '\'' => some '\''
  | '"' => some '"'
  | _ => none

/-- Where a reader of quoted text stands. -/
inductive QuoteState where
  /-- In front of a character or an escape. -/
  | ready
  /-- Behind a backslash. -/
  | behindBackslash
  /-- In front of the last hexadecimal digits of an escape, of which the others stand for a
  number. -/
  | inDigits (left code : Nat)
  deriving DecidableEq, Repr

/-- Reads quoted text up to the closing quote, and gives what stands behind it. -/
def readQuotedFrom (mark : Char) : QuoteState → Text → Option (Text × Text)
  | _, [] => none
  | .ready, c :: cs =>
    if c = mark then some ([], cs)
    else if c = '\\' then readQuotedFrom mark .behindBackslash cs
    else (readQuotedFrom mark .ready cs).map fun (text, rest) => (c :: text, rest)
  | .behindBackslash, letter :: cs =>
    match hexWidth? letter, escaped? letter with
    | some width, _ => readQuotedFrom mark (.inDigits width 0) cs
    | none, some c => (readQuotedFrom mark .ready cs).map fun (text, rest) => (c :: text, rest)
    | none, none => none
  | .inDigits left code, c :: cs =>
    match Numeral.hexValue? c with
    | none => none
    | some digit =>
      if left ≤ 1 then
        (readQuotedFrom mark .ready cs).map fun (text, rest) =>
          (Char.ofNat (code * 16 + digit) :: text, rest)
      else readQuotedFrom mark (.inDigits (left - 1) (code * 16 + digit)) cs

/-- Reads quoted text: a quote, and what follows up to the next one of its kind that is no part of
the text. -/
def readQuoted : Text → Option (Text × Text)
  | [] => none
  | mark :: cs => if mark ∈ quotes then readQuotedFrom mark .ready cs else none

variable (mark : Char)

/-- The digits of an escape are read as the character with their number. -/
theorem readQuotedFrom_digits {digits : List Nat} (some : digits ≠ [])
    (small : ∀ d ∈ digits, d < 16)
    (code : Nat) (rest : Text) :
    readQuotedFrom mark (.inDigits digits.length code) (digits.map Nat.digitChar ++ rest) =
      (readQuotedFrom mark .ready rest).map fun (text, behind) =>
        (Char.ofNat (digits.foldl (fun value digit => value * 16 + digit) code) :: text,
          behind) := by
  induction digits generalizing code with
  | nil => exact absurd rfl some
  | cons d digits ih =>
    have first := Numeral.hexValue?_digitChar (small d List.mem_cons_self)
    rw [List.map_cons, List.cons_append, readQuotedFrom, first]
    cases digits with
    | nil => rfl
    | cons next digits =>
      have many : ¬ (d :: next :: digits).length ≤ 1 := by simp
      simp only [if_neg many]
      exact ih (List.cons_ne_nil next digits)
        (fun digit member => small digit (List.mem_cons_of_mem d member)) (code * 16 + d)

variable {mark}

/-- An escape by the number of a character is read as the character. -/
theorem readQuotedFrom_hex (other : mark ≠ '\\') {letter : Char} {width : Nat}
    (wide : hexWidth? letter = some (width + 1)) {c : Char}
    (fits : c.toNat < Nat.pow 16 (width + 1))
    (rest : Text) :
    readQuotedFrom mark .ready ('\\' :: letter :: hex (width + 1) c.toNat ++ rest) =
      (readQuotedFrom mark .ready rest).map fun (text, behind) => (c :: text, behind) := by
  obtain ⟨digits, count, small, value, written⟩ := hex_eq_map_digitChar width fits
  have some : digits ≠ [] := List.ne_nil_of_length_eq_add_one count
  have same : Char.ofNat (digits.foldl (fun value digit => value * 16 + digit) 0) = c := by
    change Char.ofNat (Numeral.ofDigits 16 digits) = c
    rw [value, Char.ofNat_toNat]
  have read := readQuotedFrom_digits mark some small 0 rest
  rw [count, same] at read
  rw [written, List.cons_append, List.cons_append, readQuotedFrom, if_neg other.symm, if_pos rfl,
    readQuotedFrom]
  simp only [wide]
  exact read

/-- An escape by one character is read as the character that this stands for. -/
theorem readQuotedFrom_letter (other : mark ≠ '\\') {letter c : Char}
    (single : hexWidth? letter = none)
    (value : escaped? letter = some c) (rest : Text) :
    readQuotedFrom mark .ready ('\\' :: letter :: rest) =
      (readQuotedFrom mark .ready rest).map fun (text, behind) => (c :: text, behind) := by
  rw [readQuotedFrom, if_neg other.symm, if_pos rfl, readQuotedFrom]
  simp only [single, value]

/-- The forms in which a character stands between quotes of a kind. -/
inductive Form (mark c : Char) : Text → Prop
  /-- It stands for itself. -/
  | itself (noMark : c ≠ mark) (noBackslash : c ≠ '\\') (shown : isPrintable c = true) :
    Form mark c [c]
  /-- A backslash and one character stand for it. -/
  | letter {letter : Char} (single : hexWidth? letter = none) (value : escaped? letter = some c)
    (shown : isPrintable letter = true) : Form mark c ['\\', letter]
  /-- A backslash, a letter and the hexadecimal digits of its number stand for it. -/
  | digits {letter : Char} {width : Nat} (wide : hexWidth? letter = some (width + 1))
    (shown : isPrintable letter = true) (fits : c.toNat < Nat.pow 16 (width + 1)) :
    Form mark c ('\\' :: letter :: hex (width + 1) c.toNat)

/-- A character is written in one of these forms. -/
theorem form_escapeChar (quote : mark ∈ quotes) (c : Char) : Form mark c (escapeChar mark c) := by
  unfold escapeChar
  split
  · rename_i special
    rcases special with rfl | rfl
    · have marks : quotes.all (fun mark =>
          decide (hexWidth? mark = none ∧ escaped? mark = some mark ∧
            isPrintable mark = true)) = true := by decide
      obtain ⟨single, same, shown⟩ := of_decide_eq_true (List.all_eq_true.1 marks _ quote)
      exact .letter single same shown
    · exact .letter rfl rfl (by decide)
  rename_i ordinary
  obtain ⟨noMark, noBackslash⟩ := not_or.1 ordinary
  split
  · subst c
    exact .letter rfl rfl (by decide)
  split
  · subst c
    exact .letter rfl rfl (by decide)
  split
  · subst c
    exact .letter rfl rfl (by decide)
  split
  · rename_i shown
    exact .itself noMark noBackslash shown
  split
  · rename_i two
    exact .digits rfl (by decide) two
  split
  · rename_i four
    exact .digits rfl (by decide) four
  · exact .digits rfl (by decide) c.val.toNat_lt

/-- A character between quotes is read as that character. -/
theorem readQuotedFrom_escapeChar (quote : mark ∈ quotes) (c : Char) (rest : Text) :
    readQuotedFrom mark .ready (escapeChar mark c ++ rest) =
      (readQuotedFrom mark .ready rest).map fun (text, behind) => (c :: text, behind) := by
  have other : mark ≠ '\\' := by
    rintro rfl
    exact absurd quote (by decide)
  have form := form_escapeChar quote c
  generalize escapeChar mark c = written at form
  cases form with
  | itself noMark noBackslash =>
    rw [List.singleton_append, readQuotedFrom, if_neg noMark, if_neg noBackslash]
  | letter single value => exact readQuotedFrom_letter other single value rest
  | digits wide _ fits => exact readQuotedFrom_hex other wide fits rest

/-- The quote around a text is one of the two. -/
theorem quoteMark_mem_quotes (text : Text) : text.quoteMark ∈ quotes := by
  rw [quoteMark]
  split
  · decide
  · decide

/-- Quoted text is read as the text, whatever stands behind it. -/
theorem readQuoted_quoted (text rest : Text) :
    readQuoted (text.quoted ++ rest) = some (text, rest) := by
  have quote := quoteMark_mem_quotes text
  rw [quoted]
  generalize text.quoteMark = mark at quote
  -- The reader keeps the quote in mind and goes through the text character by character.
  have inside : readQuotedFrom mark .ready (text.flatMap (escapeChar mark) ++ mark :: rest) =
      some (text, rest) := by
    induction text with
    | nil => rw [List.flatMap_nil, List.nil_append, readQuotedFrom, if_pos rfl]
    | cons c cs ih =>
      rw [List.flatMap_cons, List.append_assoc, readQuotedFrom_escapeChar quote, ih,
        Option.map_some]
  rw [List.append_assoc, List.cons_append, readQuoted, if_pos quote]
  exact inside

/-- The digits of an escape are printable. -/
theorem isPrintable_of_mem_hex {width n : Nat} (fits : n < Nat.pow 16 (width + 1)) {c : Char}
    (member : c ∈ hex (width + 1) n) : isPrintable c = true := by
  have all : ∀ d < 16, isPrintable (Nat.digitChar d) = true := by decide
  obtain ⟨digits, -, small, -, written⟩ := hex_eq_map_digitChar width fits
  rw [written] at member
  obtain ⟨d, inside, rfl⟩ := List.mem_map.1 member
  exact all d (small d inside)

/-- A character between quotes is written in printable characters. -/
theorem isPrintable_of_mem_escapeChar (quote : mark ∈ quotes) (c : Char) :
    ∀ d ∈ escapeChar mark c, isPrintable d = true := by
  have backslash : isPrintable '\\' = true := by decide
  have form := form_escapeChar quote c
  generalize escapeChar mark c = written at form
  cases form with
  | itself _ _ shown => simpa using shown
  | letter _ _ shown => simpa using ⟨backslash, shown⟩
  | digits _ shown fits =>
    intro d member
    rcases List.mem_cons.1 member with rfl | behind
    · exact backslash
    · rcases List.mem_cons.1 behind with rfl | digit
      · exact shown
      · exact isPrintable_of_mem_hex fits digit

/-- Quoted text is printable. -/
theorem isPrintable_of_mem_quoted {text : Text} {d : Char} (member : d ∈ text.quoted) :
    isPrintable d = true := by
  have quote := quoteMark_mem_quotes text
  have marks : ∀ mark ∈ quotes, isPrintable mark = true := List.all_eq_true.1 (by decide)
  rw [quoted] at member
  rcases List.mem_append.1 member with before | closing
  · rcases List.mem_cons.1 before with rfl | inside
    · exact marks _ quote
    · obtain ⟨c, -, written⟩ := List.mem_flatMap.1 inside
      exact isPrintable_of_mem_escapeChar quote c d written
  · rw [List.mem_singleton.1 closing]
    exact marks _ quote

end Text

end BatchScript
