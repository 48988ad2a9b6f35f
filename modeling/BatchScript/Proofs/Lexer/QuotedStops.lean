import BatchScript.Proofs.Lexer.Regions
import BatchScript.Proofs.Scanner.Outcomes

/-!
# Where quoted text stops

The scanner of a region hides what stands behind a backslash as it goes. Seen from any one place,
that place is hidden if the backslashes right in front of it are odd in number. Quoted text stops at
the first place that is not hidden and holds the quote, or in double quotes a dollar sign that is
not the last character in front of a quote.
-/
namespace BatchScript

namespace Text

/-- The length of the run of backslashes right in front of a place. -/
def backslashesBefore (text : Text) (i : Nat) : Nat :=
  ((text.take i).reverse.takeWhile (· == '\\')).length

/-- The run of backslashes right in front of the place has odd length. -/
def Escaped (text : Text) (i : Nat) : Prop := text.backslashesBefore i % 2 = 1

/-- Text that is quoted by `quote` stops at a place: it is not escaped, and it holds the quote or,
in double quotes, a dollar sign with no such quote behind it. -/
def StopsAt (quote : Char) (text : Text) (i : Nat) : Prop :=
  ¬ text.Escaped i ∧
    (text[i]? = some quote ∨ quote = '"' ∧ text[i]? = some '$' ∧ text[i + 1]? ≠ some '"')

instance (text : Text) (i : Nat) : Decidable (text.Escaped i) :=
  inferInstanceAs (Decidable (_ = _))

instance (quote : Char) (text : Text) (i : Nat) : Decidable (text.StopsAt quote i) :=
  inferInstanceAs (Decidable (_ ∧ _))

/-- No backslash stands in front of the first place. -/
theorem not_escaped_zero (text : Text) : ¬ text.Escaped 0 := by
  simp [Escaped, backslashesBefore]

/-- The run in front of a place is not longer for a first character that is no backslash. -/
theorem backslashesBefore_cons {c : Char} (other : c ≠ '\\') (cs : Text) (i : Nat) :
    backslashesBefore (c :: cs) (i + 1) = backslashesBefore cs i := by
  simp only [backslashesBefore, List.take_succ_cons, List.reverse_cons, List.takeWhile_append]
  split
  · rename_i all
    simp [other, all]
  · rfl

/-- A backslash in front, with the character that it hides, makes the run longer by two or not at
all. -/
theorem escaped_hidden (hidden : Char) (cs : Text) (i : Nat) :
    Escaped ('\\' :: hidden :: cs) (i + 2) ↔ Escaped cs i := by
  have pair :
      (('\\' :: hidden :: cs).take (i + 2)).reverse = (cs.take i).reverse ++ [hidden, '\\'] := by
    simp
  rw [Escaped, Escaped, backslashesBefore, backslashesBefore, pair, List.takeWhile_append]
  split
  · rename_i all
    by_cases other : hidden = '\\'
    · simp only [other, all, List.length_append, List.takeWhile_cons, List.takeWhile_nil,
        beq_self_eq_true, ↓reduceIte, List.length_cons, List.length_nil]
      omega
    · simp [other, all]
  · rfl

/-- Behind a first backslash a place is escaped. -/
theorem escaped_behind_backslash (cs : Text) : Escaped ('\\' :: cs) 1 := by
  simp [Escaped, backslashesBefore]

variable {quote : Char}

/-- At the first character quoted text stops for what stands there. -/
theorem stopsAt_zero {c : Char} {cs : Text} :
    StopsAt quote (c :: cs) 0 ↔ c = quote ∨ quote = '"' ∧ c = '$' ∧ cs.head? ≠ some '"' := by
  simp [StopsAt, not_escaped_zero, List.head?_eq_getElem?]

/-- Behind a first character that is no backslash the stops are those of the text behind it. -/
theorem stopsAt_cons {c : Char} (other : c ≠ '\\') (cs : Text) (i : Nat) :
    StopsAt quote (c :: cs) (i + 1) ↔ StopsAt quote cs i := by
  simp only [StopsAt, Escaped, backslashesBefore_cons other, List.getElem?_cons_succ]

/-- Behind a first backslash the stops are those of the text behind the character that it hides. -/
theorem stopsAt_hidden (hidden : Char) (cs : Text) (i : Nat) :
    StopsAt quote ('\\' :: hidden :: cs) (i + 2) ↔ StopsAt quote cs i := by
  have next : i + 2 + 1 = i + 1 + 1 + 1 := rfl
  simp only [StopsAt, escaped_hidden, next, List.getElem?_cons_succ]

/-- Quoted text does not stop at what a backslash hides. -/
theorem not_stopsAt_behind_backslash (cs : Text) : ¬ StopsAt quote ('\\' :: cs) 1 :=
  fun stops => stops.1 (escaped_behind_backslash cs)

/-- The first place where quoted text stops. -/
structure FirstStop (quote : Char) (text : Text) (i : Nat) : Prop where
  /-- It stops there. -/
  stops : text.StopsAt quote i
  /-- It stops nowhere in front of it. -/
  first : ∀ j < i, ¬ text.StopsAt quote j

/-- There is only one first place. -/
theorem FirstStop.eq {text : Text} {i j : Nat} (one : FirstStop quote text i)
    (other : FirstStop quote text j) : i = j := by
  rcases Nat.lt_trichotomy i j with less | same | more
  · exact absurd one.stops (other.first i less)
  · exact same
  · exact absurd other.stops (one.first j more)

/-- Quoted text starts with `front` and does not stop in it, so that its stops are those behind. -/
structure Passes (quote : Char) (front rest : Text) : Prop where
  /-- It does not stop in front. -/
  inside : ∀ j < front.length, ¬ (front ++ rest).StopsAt quote j
  /-- Behind it stops where the rest does. -/
  behind : ∀ i, (front ++ rest).StopsAt quote (i + front.length) ↔ rest.StopsAt quote i

/-- A character that is no backslash is passed, unless quoted text stops there. -/
theorem passes_single {c : Char} {rest : Text} (other : c ≠ '\\')
    (goes : ¬ StopsAt quote (c :: rest) 0) : Passes quote [c] rest where
  inside j front := by
    obtain rfl : j = 0 := by simpa using front
    exact goes
  behind := stopsAt_cons other rest

/-- A backslash is passed with the character behind it, if the quote is none. -/
theorem passes_hidden (other : quote ≠ '\\') (hidden : Char) (rest : Text) :
    Passes quote ['\\', hidden] rest where
  inside j front := by
    have cases : j = 0 ∨ j = 1 := by
      simp only [List.length_cons, List.length_nil] at front
      omega
    rcases cases with rfl | rfl
    · simp [stopsAt_zero, other.symm]
    · exact not_stopsAt_behind_backslash (hidden :: rest)
  behind := stopsAt_hidden hidden rest

/-- The first stop behind what is passed is the first stop of all. -/
theorem Passes.firstStop {front rest : Text} {i : Nat} (passes : Passes quote front rest)
    (first : FirstStop quote rest i) : FirstStop quote (front ++ rest) (i + front.length) where
  stops := (passes.behind i).2 first.stops
  first j before := by
    by_cases inside : j < front.length
    · exact passes.inside j inside
    · have later := first.first (j - front.length) (by omega)
      rw [← passes.behind, Nat.sub_add_cancel (by omega)] at later
      exact later

/-- If what stands behind never stops, then nor does the text. -/
theorem Passes.never {front rest : Text} (passes : Passes quote front rest)
    (never : ∀ i, ¬ rest.StopsAt quote i) (i : Nat) : ¬ (front ++ rest).StopsAt quote i := by
  by_cases inside : i < front.length
  · exact passes.inside i inside
  · have later := never (i - front.length)
    rw [← passes.behind, Nat.sub_add_cancel (by omega)] at later
    exact later

end Text

open Text

namespace Scanner

/-- What the scanner of quoted text settles on when it stops at a place: behind the quote, or in
front of the dollar sign with an expansion on the stack. -/
def stopped (quote : Char) (text : Text) (below : Stack) (i : Nat) : Scanned :=
  if text[i]? = some quote then ⟨.string, text.drop (i + 1), below⟩
  else ⟨.string, text.drop i, .expansion :: .region [quote] .string false :: below⟩

/-- What is passed in front of a stop does not matter to what the scanner settles on. -/
theorem stopped_append (quote : Char) (front rest : Text) (below : Stack) (i : Nat) :
    stopped quote (front ++ rest) below (i + front.length) = stopped quote rest below i := by
  have next : i + front.length + 1 = front.length + (i + 1) := by omega
  rw [stopped, stopped, next, Nat.add_comm i, List.getElem?_append_right (by omega),
    List.drop_length_add_append, List.drop_length_add_append, Nat.add_sub_cancel_left]

/-- One character of quoted text. -/
theorem scanRegion_quoted_cons {quote : Char} (one : quote ∈ Text.quotes) (c : Char) (cs : Text)
    (below : Stack) :
    scanRegion [quote] .string (c :: cs) below =
      if StopsAt quote (c :: cs) 0 then stopped quote (c :: cs) below 0
      else if c = '\\' then scanRegion [quote] .string (cs.drop 1) below
      else scanRegion [quote] .string cs below := by
  have quotes : quote = '\'' ∨ quote = '"' := by simpa [Text.quotes] using one
  have opener : Mode.opener [quote] = [quote] := by
    rcases quotes with rfl | rfl <;> rfl
  have inside : occursIn [quote] Text.quotes = true := by
    rcases quotes with rfl | rfl <;> rfl
  have nested : ¬ (c ∈ Text.quotes ∧ ¬ occursIn [quote] Text.quotes = true) :=
    fun both => both.2 inside
  rw [scanRegion_cons, opener]
  by_cases closed : c = quote
  · simp [closed, stopsAt_zero, stopped]
  · have open_ : ¬ [c] = [quote] := by simpa using closed
    have dollar : StopsAt quote (c :: cs) 0 ↔
        c = '$' ∧ [quote] ≠ ['\''] ∧ cs.take 1 ≠ [quote] := by
      rw [stopsAt_zero]
      rcases quotes with rfl | rfl
      · simp [closed]
      · cases cs <;> simp [closed]
    rw [if_neg open_, if_neg open_, if_neg nested]
    by_cases stops : StopsAt quote (c :: cs) 0
    · rw [if_pos (dollar.1 stops), if_pos stops, stopped, List.getElem?_cons_zero,
        if_neg (by simpa using closed)]
      rfl
    · rw [if_neg (mt dollar.2 stops), if_neg stops]

/-- Quoted text is read to the end of a line that never stops, and otherwise to its first stop. -/
inductive ReadsQuoted (quote : Char) (below : Stack) (text : Text) : Scanned → Prop where
  /-- Nothing stops it. -/
  | never (never : ∀ i, ¬ text.StopsAt quote i) :
      ReadsQuoted quote below text ⟨.string, [], .region [quote] .string false :: below⟩
  /-- It stops. -/
  | stop {i : Nat} (first : FirstStop quote text i) :
      ReadsQuoted quote below text (stopped quote text below i)

/-- What is passed in front is read with what stands behind it. -/
theorem ReadsQuoted.behind {quote : Char} {below : Stack} {front rest : Text} {result : Scanned}
    (reads : ReadsQuoted quote below rest result) (passes : Passes quote front rest) :
    ReadsQuoted quote below (front ++ rest) result := by
  cases reads with
  | never never => exact .never (passes.never never)
  | stop first =>
    rw [← stopped_append quote front rest]
    exact .stop (passes.firstStop first)

/-- That is how the scanner of a quoted region reads. -/
theorem readsQuoted_scanRegion {quote : Char} (one : quote ∈ Text.quotes) (text : Text)
    (below : Stack) : ReadsQuoted quote below text (scanRegion [quote] .string text below) := by
  have other : quote ≠ '\\' := by
    rintro rfl
    simp [Text.quotes] at one
  -- A backslash takes two characters at once, so the induction is on the length.
  induction count : text.length using Nat.strongRecOn generalizing text with
  | ind n ih =>
    subst count
    cases text with
    | nil => exact .never (by simp [StopsAt])
    | cons c cs =>
      rw [scanRegion_quoted_cons one]
      by_cases stops : StopsAt quote (c :: cs) 0
      · rw [if_pos stops]
        exact .stop ⟨stops, by simp⟩
      · rw [if_neg stops]
        by_cases escape : c = '\\'
        · subst escape
          rw [if_pos rfl]
          cases cs with
          | nil =>
            refine .never fun i => ?_
            cases i with
            | zero => exact stops
            | succ i => simp [StopsAt]
          | cons hidden cs =>
            have fewer : cs.length < cs.length + 1 + 1 := by omega
            exact (ih cs.length fewer cs rfl).behind (passes_hidden other hidden cs)
        · rw [if_neg escape]
          exact (ih cs.length (Nat.lt_add_one _) cs rfl).behind (passes_single escape stops)

/-- Quoted text that never stops is read to its end. -/
theorem scanRegion_of_never {quote : Char} {text : Text} (one : quote ∈ Text.quotes)
    (never : ∀ i, ¬ text.StopsAt quote i) (below : Stack) :
    scanRegion [quote] .string text below =
      ⟨.string, [], .region [quote] .string false :: below⟩ := by
  generalize outcome : scanRegion [quote] .string text below = result
  have reads := readsQuoted_scanRegion one text below
  rw [outcome] at reads
  cases reads with
  | never => rfl
  | @stop i first => exact absurd first.stops (never i)

/-- Quoted text that stops is read to its first stop. -/
theorem scanRegion_of_firstStop {quote : Char} {text : Text} {i : Nat} (one : quote ∈ Text.quotes)
    (first : FirstStop quote text i) (below : Stack) :
    scanRegion [quote] .string text below = stopped quote text below i := by
  generalize outcome : scanRegion [quote] .string text below = result
  have reads := readsQuoted_scanRegion one text below
  rw [outcome] at reads
  cases reads with
  | never never => exact absurd first.stops (never i)
  | stop other => rw [first.eq other]

end Scanner

namespace Cursor

open Lexer Scanner

/-- A cursor reads the same token from two stacks for which the lexer finds the same. -/
theorem nextToken_ofLine_congr {c : Char} {cs : Text} {stack other : Stack}
    (same : nextScanned c cs stack = nextScanned c cs other) :
    (ofLine (c :: cs) 0).nextToken stack = (ofLine (c :: cs) 0).nextToken other := by
  obtain ⟨read, -, whole, -⟩ := nextScanned_reads c cs stack
  rw [nextToken_ofLine whole, nextToken_ofLine (same ▸ whole), same]

/-- What a region reads of a line, if it reads something, is the first token. -/
theorem nextToken_of_scanRegion {line closer : Text} {category : Category} {below next : Stack}
    {n : Nat} (read : scanRegion closer category line below = ⟨category, line.drop n, next⟩)
    (wide : 0 < n) (inside : n ≤ line.length) :
    (ofLine line 0).nextToken (.region closer category false :: below) =
      (some ⟨category, 0, n, line.take n⟩, ⟨line, 0, n⟩, next) := by
  cases line with
  | nil =>
    rw [List.length_nil] at inside
    omega
  | cons c cs =>
    have shorter : (scanRegion closer category (c :: cs) below).rest.length ≤ cs.length := by
      rw [read, List.length_drop, List.length_cons]
      omega
    have scanned := (nextScanned_region_of_read shorter).trans read
    have whole : c :: cs = (c :: cs).take n ++
        (nextScanned c cs (.region closer category false :: below)).rest := by
      rw [scanned, List.take_append_drop]
    rw [nextToken_ofLine whole, scanned, List.length_take, Nat.min_eq_left inside]

/-- A dollar sign above a mode starts an expansion. It is a definition of at most one character and
the word behind it, which leaves the stack as it was, or the beginning of a region of its own. -/
theorem nextToken_dollar (cs : Text) (top : Mode) (below : Stack) :
    ∃ token behind next,
      (ofLine ('$' :: cs) 0).nextToken (.expansion :: top :: below) = (some token, behind, next) ∧
      token.start = 0 ∧ token.text.head? = some '$' ∧
      (token.category = .definition ∧ next = top :: below ∧
          (∀ c ∈ token.text.drop 2, isWordChar c = true) ∨
        ∃ c closer, Mode.expanded? c = some (.region closer token.category false) ∧
          ['$', c] <+: token.text) := by
  cases found : cs.head?.bind Mode.expanded? with
  | none =>
    have name : ∀ c ∈ cs.head?, Mode.expanded? c = none := by
      intro c first
      rw [Option.mem_def.1 first] at found
      exact found
    have scanned := nextScanned_dollar_name cs top below name
    let word := if cs.head?.any isDigit then [] else (cs.drop 1).takeWhile isWordChar
    have letters : ∀ c ∈ word, isWordChar c = true := by
      dsimp only [word]
      split
      · simp
      · exact List.all_eq_true.1 List.all_takeWhile
    have behind : word ++ (nextScanned '$' cs (.expansion :: top :: below)).rest = cs.drop 1 := by
      rw [scanned]
      dsimp only [word]
      split
      · rfl
      · exact List.takeWhile_append_dropWhile
    have whole : '$' :: cs = '$' :: (cs.take 1 ++ word) ++
        (nextScanned '$' cs (.expansion :: top :: below)).rest := by
      rw [List.cons_append, List.append_assoc, behind, List.take_append_drop]
    refine ⟨_, _, _, nextToken_ofLine whole, rfl, rfl, .inl ⟨?_, ?_, fun c inside => ?_⟩⟩
    · rw [scanned]
    · rw [scanned]
    · cases cs with
      | nil => simp [word] at inside
      | cons d ds => exact letters c inside
  | some mode =>
    obtain ⟨c, first, region⟩ := Option.bind_eq_some_iff.1 found
    obtain ⟨ds, rfl⟩ := List.head?_eq_some_iff.1 first
    obtain ⟨closer, category, rfl⟩ := Mode.open_of_expanded? region
    have scanned := nextScanned_dollar_region region ds top below
    obtain ⟨front, split⟩ := scanRegion_suffix closer category ds (top :: below)
    have whole : '$' :: c :: ds = '$' :: c :: front ++
        (nextScanned '$' (c :: ds) (.expansion :: top :: below)).rest := by
      rw [scanned, List.cons_append, List.cons_append, split]
    refine ⟨_, _, _, nextToken_ofLine whole, rfl, rfl, .inr ⟨c, closer, ?_, front, rfl⟩⟩
    rw [scanned, category_scanRegion]
    exact region

end Cursor

/-- Quoted text, on whatever stack, is read to the first place where it stops. A line that never
stops is string text to its end and leaves the stack as it was. At the quote the string is closed
and the quote belongs to it. In front of a dollar sign the string text ends with an expansion put on
the stack, and a dollar sign that comes first is read as that expansion. -/
theorem Lexer.quoted_text_stops (quote : Char) (one : quote ∈ Text.quotes) (text : Text)
    (nonempty : text ≠ []) (below : Stack) :
    ((∀ i, ¬ text.StopsAt quote i) →
      (Cursor.ofLine text 0).nextToken (.region [quote] .string false :: below) =
        (some ⟨.string, 0, text.length, text⟩, ⟨text, 0, text.length⟩,
          .region [quote] .string false :: below)) ∧
    ∀ i, text.StopsAt quote i → (∀ j < i, ¬ text.StopsAt quote j) →
      (text[i]? = some quote →
        (Cursor.ofLine text 0).nextToken (.region [quote] .string false :: below) =
          (some ⟨.string, 0, i + 1, text.take (i + 1)⟩, ⟨text, 0, i + 1⟩, below)) ∧
      (text[i]? = some '$' → 0 < i →
        (Cursor.ofLine text 0).nextToken (.region [quote] .string false :: below) =
          (some ⟨.string, 0, i, text.take i⟩, ⟨text, 0, i⟩,
            .expansion :: .region [quote] .string false :: below)) ∧
      (text[i]? = some '$' → i = 0 →
        ∃ token behind next,
          (Cursor.ofLine text 0).nextToken (.region [quote] .string false :: below) =
            (some token, behind, next) ∧
          (Cursor.ofLine text 0).nextToken (.expansion :: .region [quote] .string false :: below) =
            (some token, behind, next) ∧
          token.start = 0 ∧ token.text.head? = some '$' ∧
          (token.category = .definition ∧ next = .region [quote] .string false :: below ∧
              (∀ c ∈ token.text.drop 2, isWordChar c = true) ∨
            ∃ c closer, Mode.expanded? c = some (.region closer token.category false) ∧
              ['$', c] <+: token.text)) := by
  refine ⟨fun never => ?_, fun i stops first => ?_⟩
  · have read : Scanner.scanRegion [quote] .string text below =
        ⟨.string, text.drop text.length, .region [quote] .string false :: below⟩ := by
      rw [List.drop_length]
      exact Scanner.scanRegion_of_never one never below
    have token :=
      Cursor.nextToken_of_scanRegion read (List.length_pos_iff.2 nonempty) (Nat.le_refl _)
    rw [List.take_length] at token
    exact token
  · have read := Scanner.scanRegion_of_firstStop one ⟨stops, first⟩ below
    rw [Scanner.stopped] at read
    have other : quote ≠ '$' := by
      rintro rfl
      simp [Text.quotes] at one
    refine ⟨fun closed => ?_, fun dollar later => ?_, fun dollar front => ?_⟩
    · obtain ⟨inside, -⟩ := List.getElem?_eq_some_iff.1 closed
      rw [if_pos closed] at read
      exact Cursor.nextToken_of_scanRegion read (Nat.succ_pos i) inside
    · obtain ⟨inside, -⟩ := List.getElem?_eq_some_iff.1 dollar
      rw [if_neg (by simp [dollar, other.symm])] at read
      exact Cursor.nextToken_of_scanRegion read later (Nat.le_of_lt inside)
    · subst front
      rw [← List.head?_eq_getElem?] at dollar
      obtain ⟨cs, rfl⟩ := List.head?_eq_some_iff.1 dollar
      rw [if_neg (by simp [other.symm])] at read
      have stalled : nextScanned '$' cs (.region [quote] .string false :: below) =
          nextScanned '$' cs (.expansion :: .region [quote] .string false :: below) := by
        rw [nextScanned_region_of_stalled (by rw [read]; rfl), read]
      obtain ⟨token, behind, next, found, start, sign, expands⟩ :=
        Cursor.nextToken_dollar cs (.region [quote] .string false) below
      exact ⟨token, behind, next, (Cursor.nextToken_ofLine_congr stalled).trans found, found, start,
        sign, expands⟩

/-- An escaped quote is passed, and behind two backslashes a dollar sign ends the string text. -/
theorem Lexer.quoted_text_stops_at_dollar :
    StopsAt '"' "\\\"\\\\$x\"".toList 4 ∧
      (∀ j < 4, ¬ StopsAt '"' "\\\"\\\\$x\"".toList j) ∧
      (Cursor.ofLine "\\\"\\\\$x\"".toList 0).nextToken [.region ['"'] .string false] =
        (some ⟨.string, 0, 4, "\\\"\\\\".toList⟩, ⟨"\\\"\\\\$x\"".toList, 0, 4⟩,
          [.expansion, .region ['"'] .string false]) := by
  have stops : StopsAt '"' "\\\"\\\\$x\"".toList 4 := by decide
  have first : ∀ j < 4, ¬ StopsAt '"' "\\\"\\\\$x\"".toList j := by decide
  have token := quoted_text_stops '"' (by decide) "\\\"\\\\$x\"".toList (by decide) []
  exact ⟨stops, first, (token.2 4 stops first).2.1 rfl (by decide)⟩

end BatchScript
