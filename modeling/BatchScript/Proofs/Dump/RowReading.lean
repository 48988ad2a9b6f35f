import BatchScript.Dump
import BatchScript.Editor.Document
import BatchScript.Proofs.Text.Lines
import BatchScript.Proofs.Text.Quoted

/-!
# Reading a dump

A dump has one row for each token, and from its rows the tokens can be read back with the numbers of
their lines: no column runs into the next sign, and quoted text ends where its quote does. Since
quoted text is printable, no character of a row but the last ends a line, of all that end lines
anywhere.
-/
namespace BatchScript.Dump

/-- Reads a number in decimal digits, and gives what stands behind it. -/
def readNat (text : Text) : Option (Nat × Text) :=
  let digits := text.takeWhile Char.isDigit
  if digits = [] then none else some (Nat.ofDigitChars 10 digits 0, text.dropWhile Char.isDigit)

/-- Reads an integer, with a minus sign in front of a negative one. -/
def readInt : Text → Option (Int × Text)
  | '-' :: rest => (readNat rest).map fun (n, rest) => (-(n : Int), rest)
  | text => (readNat text).map fun (n, rest) => ((n : Int), rest)

/-- Passes over one character that must be there. -/
def skip (c : Char) : Text → Option Text
  | [] => none
  | d :: rest => if d = c then some rest else none

/-- Reads a row without its line feed: the number of a line and a token. -/
def readRow (row : Text) : Option (Nat × Token) := do
  let (number, rest) ← readNat row
  let (start, rest) ← readInt (← skip ':' rest)
  let (stop, rest) ← readInt (← skip '-' rest)
  let (name, rest) := (← skip ' ' rest).cut ' '
  let category ← Category.ofName? name
  let (text, rest) ← Text.readQuoted (← rest)
  if rest.isEmpty then return (number, ⟨category, start, stop, text⟩) else none

/-- Reads a dump row by row. -/
def read (dump : Text) : Option (List (Nat × Token)) := (dump.split '\n').dropLast.mapM readRow

/-- The tokens of all lines in order, each with the number of its line, of which the first is
given. -/
def numberedFrom (number : Nat) (lines : List (List Token)) : List (Nat × Token) :=
  (lines.zipIdx number).flatMap fun (tokens, number) => tokens.map (number, ·)

/-- The tokens of all lines in order, each with the number of its line from one on. -/
def numbered (lines : List (List Token)) : List (Nat × Token) := numberedFrom 1 lines

/-- A row without its line feed. -/
def rowText (entry : Nat × Token) : Text :=
  Text.ofNat entry.1 ++ ':' :: Text.ofInt entry.2.start ++ '-' :: Text.ofInt entry.2.stop ++
    ' ' :: entry.2.category.name ++ ' ' :: entry.2.text.quoted

/-- The characters of a number are digits. -/
theorem isDigit_of_mem_ofNat {n : Nat} {c : Char} (member : c ∈ Text.ofNat n) : c.isDigit = true :=
  Nat.isDigit_of_mem_toDigits (by decide) (by decide) member

/-- A number is read up to a character that is no digit. -/
theorem readNat_ofNat (n : Nat) {c : Char} (ending : c.isDigit = false) (rest : Text) :
    readNat (Text.ofNat n ++ c :: rest) = some (n, c :: rest) := by
  have some : Text.ofNat n ≠ [] := Nat.toDigits_ne_nil
  have digits : ∀ d ∈ Text.ofNat n, d.isDigit = true := fun d => isDigit_of_mem_ofNat
  have value : Nat.ofDigitChars 10 (Text.ofNat n) 0 = n := Nat.ofDigitChars_ten_toDigits
  have read : (Text.ofNat n ++ c :: rest).takeWhile Char.isDigit = Text.ofNat n := by
    rw [List.takeWhile_append_of_pos digits, List.takeWhile_cons_of_neg (by simp [ending]),
      List.append_nil]
  have left : (Text.ofNat n ++ c :: rest).dropWhile Char.isDigit = c :: rest := by
    rw [List.dropWhile_append_of_pos digits, List.dropWhile_cons_of_neg (by simp [ending])]
  simp only [readNat, read, left, if_neg some, value]

/-- An integer is read up to a character that is no digit. -/
theorem readInt_ofInt (i : Int) {c : Char} (ending : c.isDigit = false) (rest : Text) :
    readInt (Text.ofInt i ++ c :: rest) = some (i, c :: rest) := by
  cases i with
  | ofNat n =>
    have read := readNat_ofNat n ending rest
    rw [Text.ofInt]
    cases digits : Text.ofNat n with
    | nil => exact absurd digits Nat.toDigits_ne_nil
    | cons d ds =>
      have first : d.isDigit = true := isDigit_of_mem_ofNat (digits ▸ List.mem_cons_self)
      have unsigned : d ≠ '-' := by
        rintro rfl
        exact absurd first (by decide)
      rw [digits] at read
      rw [List.cons_append] at read ⊢
      rw [readInt, read]
      · rfl
      · intro _ same
        exact absurd (List.cons.inj same).1 unsigned
  | negSucc n =>
    rw [Text.ofInt, List.cons_append, readInt, readNat_ofNat (n + 1) ending rest]
    rfl

/-- The name of a category is made up of printable characters other than the space. -/
theorem of_mem_name (category : Category) :
    ∀ c ∈ category.name, c ≠ ' ' ∧ isPrintable c = true := by
  have all : category.name.all (fun c => decide (c ≠ ' ' ∧ isPrintable c = true)) = true := by
    cases category <;> decide
  exact fun c member => of_decide_eq_true (List.all_eq_true.1 all c member)

/-- A row is read as the number and the token it was written for. -/
theorem readRow_rowText (entry : Nat × Token) : readRow (rowText entry) = some entry := by
  obtain ⟨number, category, start, stop, text⟩ := entry
  have space : ' ' ∉ category.name := fun member => (of_mem_name category ' ' member).1 rfl
  have quoted := Text.readQuoted_quoted text []
  rw [List.append_nil] at quoted
  simp only [readRow, rowText, List.append_assoc, List.cons_append]
  rw [readNat_ofNat number (by decide)]
  simp only [Option.bind_eq_bind, Option.bind_some, skip, if_pos]
  rw [readInt_ofInt start (by decide)]
  simp only [Option.bind_some, if_pos]
  rw [readInt_ofInt stop (by decide)]
  simp only [Option.bind_some, if_pos]
  rw [Text.cut_append space]
  simp only [Category.ofName?_name, Option.bind_some, quoted]
  rfl

/-- The tokens of the first line come before those of the others. -/
theorem numberedFrom_cons (number : Nat) (tokens : List Token) (lines : List (List Token)) :
    numberedFrom number (tokens :: lines) =
      tokens.map (number, ·) ++ numberedFrom (number + 1) lines := by
  rw [numberedFrom, List.zipIdx_cons, List.flatMap_cons, numberedFrom]

/-- The rows of all lines are those of their tokens with their numbers, each with a line feed. -/
theorem rowsFrom_eq_flatMap (number : Nat) (lines : List (List Token)) :
    rowsFrom number lines =
      (numberedFrom number lines).flatMap fun entry => rowText entry ++ ['\n'] := by
  induction lines generalizing number with
  | nil => rfl
  | cons tokens lines ih =>
    rw [rowsFrom, ih, numberedFrom_cons, List.flatMap_append, List.flatMap_map]
    rfl

/-- Without their numbers the tokens are those of the lines. -/
theorem map_snd_numberedFrom (number : Nat) (lines : List (List Token)) :
    (numberedFrom number lines).map Prod.snd = lines.flatten := by
  induction lines generalizing number with
  | nil => rfl
  | cons tokens lines ih =>
    have first : (tokens.map (number, ·)).map Prod.snd = tokens := by
      rw [List.map_map]
      exact List.map_id tokens
    rw [numberedFrom_cons, List.map_append, first, ih, List.flatten_cons]

/-- The characters of an integer are printable. -/
theorem isPrintable_of_mem_ofInt {i : Int} {c : Char} (member : c ∈ Text.ofInt i) :
    isPrintable c = true := by
  have digit : ∀ {n : Nat}, c ∈ Text.ofNat n → isPrintable c = true := by
    intro n inside
    obtain ⟨low, high⟩ := Char.isDigit_iff_toNat.1 (isDigit_of_mem_ofNat inside)
    have above : 0x20 ≤ c.toNat := Nat.le_trans (by decide) low
    have below : c.toNat < 0x7F := Nat.lt_of_le_of_lt high (by decide)
    rw [isPrintable, if_pos below, decide_eq_true above]
  cases i with
  | ofNat n => exact digit member
  | negSucc n =>
    rcases List.mem_cons.1 member with rfl | behind
    · decide
    · exact digit behind

/-- A row is printable. -/
theorem isPrintable_of_mem_rowText {entry : Nat × Token} {c : Char} (member : c ∈ rowText entry) :
    isPrintable c = true := by
  simp only [rowText, List.mem_append, List.mem_cons] at member
  rcases member with (((number | rfl | start) | rfl | stop) | rfl | name) | rfl | quoted
  · exact isPrintable_of_mem_ofInt (i := .ofNat entry.1) number
  · decide
  · exact isPrintable_of_mem_ofInt start
  · decide
  · exact isPrintable_of_mem_ofInt stop
  · decide
  · exact (of_mem_name entry.2.category c name).2
  · decide
  · exact Text.isPrintable_of_mem_quoted quoted

/-- A character that ends a line is not printable. -/
theorem not_isPrintable_of_isLineEnd {c : Char} (ends : Editor.isLineEnd c = true) :
    isPrintable c = false := by
  have codes : c.toNat ∈ [0xA, 0xB, 0xC, 0xD, 0x1C, 0x1D, 0x1E, 0x85, 0x2028, 0x2029] := by
    simp only [Editor.isLineEnd, Bool.or_eq_true, Bool.and_eq_true, decide_eq_true_eq,
      beq_iff_eq] at ends
    simp only [List.mem_cons, List.not_mem_nil, or_false]
    omega
  have hidden : ∀ code ∈ [0xA, 0xB, 0xC, 0xD, 0x1C, 0x1D, 0x1E, 0x85, 0x2028, 0x2029],
      isPrintable (Char.ofNat code) = false := by decide +kernel
  have same := hidden c.toNat codes
  rwa [Char.ofNat_toNat] at same

/-- No row holds a line feed. -/
theorem feed_not_mem_rowText (entry : Nat × Token) : '\n' ∉ rowText entry := by
  intro member
  have shown := isPrintable_of_mem_rowText member
  exact absurd shown (by decide)

/-- A dump has as many line feeds as there are tokens. -/
theorem count_feed_rows (lines : List (List Token)) :
    (rows lines).count '\n' = lines.flatten.length := by
  rw [rows, rowsFrom_eq_flatMap, ← map_snd_numberedFrom 1, List.length_map]
  induction numberedFrom 1 lines with
  | nil => rfl
  | cons entry entries ih =>
    have none : (rowText entry).count '\n' = 0 := List.count_eq_zero.2 (feed_not_mem_rowText entry)
    rw [List.flatMap_cons, List.count_append, List.count_append, none, ih, List.length_cons,
      List.count_singleton_self]
    omega

/-- A dump is read as the tokens it was made of, with the numbers of their lines. -/
theorem read_rows (lines : List (List Token)) : read (rows lines) = some (numbered lines) := by
  have joined : rows lines = ((numbered lines).map rowText).flatMap (· ++ ['\n']) := by
    rw [rows, rowsFrom_eq_flatMap, List.flatMap_map]
    rfl
  have cut : (rows lines).split '\n' = (numbered lines).map rowText ++ [[]] := by
    rw [joined]
    refine Text.split_flatMap_append fun row member => ?_
    obtain ⟨entry, -, rfl⟩ := List.mem_map.1 member
    exact feed_not_mem_rowText entry
  rw [read, cut, List.dropLast_concat]
  induction numbered lines with
  | nil => rfl
  | cons entry entries ih =>
    rw [List.map_cons, List.mapM_cons, readRow_rowText, ih]
    rfl

/-- A dump ends a line once for each token and nowhere else, by whatever character, and a reader
gets every token back from it with the number of its line. So what has the same dump has the same
tokens on lines with the same numbers. -/
theorem dump_read_back (lines : List (List Token)) :
    (rows lines).count '\n' = lines.flatten.length ∧
    (∀ c ∈ rows lines, Editor.isLineEnd c = true → c = '\n') ∧
    read (rows lines) = some (numbered lines) ∧
    ∀ others, rows others = rows lines → numbered others = numbered lines := by
  refine ⟨count_feed_rows lines, fun c member ends => ?_, read_rows lines, fun others same => ?_⟩
  · rw [rows, rowsFrom_eq_flatMap] at member
    obtain ⟨entry, -, inside⟩ := List.mem_flatMap.1 member
    rcases List.mem_append.1 inside with before | last
    · have shown := isPrintable_of_mem_rowText before
      rw [not_isPrintable_of_isLineEnd ends] at shown
      contradiction
    · exact List.mem_singleton.1 last
  · have read := read_rows others
    rw [same, read_rows lines] at read
    exact (Option.some.inj read).symm

/-- Quotes of both kinds, a backslash, a control character in front of a digit and a line separator
are read back, and an empty line behind the last token leaves no trace. -/
theorem dump_read_back_before_empty_line :
    let token : Token := ⟨.string, 0, 7, "'\"\\\x011\u2028😀".toList⟩
    rows [[], [token]] = "2:0-7 STRING '\\'\"\\\\\\x011\\u2028😀'\n".toList ∧
      ('\n' ∈ rows [[], [token]] ∧ Editor.isLineEnd '\n' = true) ∧
      rows [[], [token], []] = rows [[], [token]] ∧
      numbered [[], [token], []] = numbered [[], [token]] := by
  intro token
  obtain ⟨-, -, -, same⟩ := dump_read_back [[], [token]]
  have kept : rows [[], [token], []] = rows [[], [token]] := rfl
  exact ⟨by decide +kernel, by decide +kernel, kept, same _ kept⟩

end BatchScript.Dump
