import BatchScript.Proofs.Lexer.Leaving
import BatchScript.Proofs.Lexer.QuotedStops
import Mathlib.Data.List.Chain

/-!
# Literals in double quotes

A literal is written as units between two quotes, where a unit is a character or a backslash with
the character that it hides. The lexer reads it piece by piece: a dollar sign ends the string text,
and the name behind it starts with whatever comes next, also with a backslash, which then hides
nothing. A literal is left at its own closing quote if no name takes a backslash that was needed;
where a name takes the backslash of an escaped quote, the literal is left at that quote.
-/
namespace BatchScript

/-- A unit of a literal in double quotes. -/
inductive QuotedUnit where
  /-- A character other than the quote and the backslash. -/
  | bare (c : Char) (free : c ≠ '"' ∧ c ≠ '\\')
  /-- A backslash and the character that it hides. -/
  | escaped (c : Char)

namespace QuotedUnit

/-- How a unit is written. -/
def text : QuotedUnit → Text
  | bare c _ => [c]
  | escaped c => ['\\', c]

/-- How units are written between double quotes. -/
def literal (units : List QuotedUnit) : Text := '"' :: units.flatMap text ++ ['"']

/-- No bare dollar sign has one of the texts as the unit right behind it. -/
def NoneBehindDollar (texts : List Text) (units : List QuotedUnit) : Prop :=
  units.IsChain fun unit next => unit.text = ['$'] → next.text ∉ texts

instance (texts : List Text) (units : List QuotedUnit) : Decidable (NoneBehindDollar texts units) :=
  inferInstanceAs (Decidable (List.IsChain _ _))

end QuotedUnit

/-- Text between double quotes as the lexer reads it: a backslash hides the character behind it, and
a dollar sign takes the character behind it for a name. -/
inductive QuotedBody : Text → Prop where
  /-- There is no text. -/
  | nil : QuotedBody []
  /-- A character stands for itself. -/
  | bare {c : Char} {text : Text} (free : c ∉ ['"', '\\', '$']) (behind : QuotedBody text) :
      QuotedBody (c :: text)
  /-- A backslash hides a character. -/
  | escaped (c : Char) {text : Text} (behind : QuotedBody text) : QuotedBody ('\\' :: c :: text)
  /-- A dollar sign takes a character that starts no region. -/
  | name {c : Char} {text : Text} (free : Mode.expanded? c = none) (behind : QuotedBody text) :
      QuotedBody ('$' :: c :: text)

/-- The closing quote in front of the rest of a line; a dollar sign right before it takes
nothing. -/
def Closing (rest closing : Text) : Prop := closing = '"' :: rest ∨ closing = '$' :: '"' :: rest

/-- The rest stands behind the closing quote. -/
theorem Closing.length_lt {rest closing : Text} (closes : Closing rest closing) (text : Text) :
    rest.length < (text ++ closing).length := by
  rcases closes with rfl | rfl <;> simp only [List.length_append, List.length_cons] <;> omega

/-- So something is left in front of it. -/
theorem Closing.append_ne_nil {rest closing : Text} (closes : Closing rest closing) (text : Text) :
    text ++ closing ≠ [] :=
  List.ne_nil_of_length_pos (Nat.zero_lt_of_lt (closes.length_lt text))

namespace QuotedBody

/-- Two bodies make one. -/
theorem append {front text : Text} (first : QuotedBody front) (second : QuotedBody text) :
    QuotedBody (front ++ text) := by
  induction first with
  | nil => exact second
  | bare free _ ih => exact .bare free ih
  | escaped c _ ih => exact .escaped c ih
  | name free _ ih => exact .name free ih

variable {text rest closing : Text}

/-- Behind the word that a body starts with a body is left. -/
theorem dropWhile_word (body : QuotedBody text) (closes : Closing rest closing) :
    ∃ kept, QuotedBody kept ∧ (text ++ closing).dropWhile isWordChar = kept ++ closing := by
  induction body with
  | nil =>
    refine ⟨[], .nil, ?_⟩
    rcases closes with rfl | rfl
    · exact List.dropWhile_cons_of_neg (by decide)
    · exact List.dropWhile_cons_of_neg (by decide)
  | @bare c text free behind ih =>
    by_cases word : isWordChar c = true
    · rw [List.cons_append, List.dropWhile_cons_of_pos word]
      exact ih
    · exact ⟨c :: text, .bare free behind, List.dropWhile_cons_of_neg word⟩
  | @escaped c text behind ih =>
    exact ⟨'\\' :: c :: text, .escaped c behind, List.dropWhile_cons_of_neg (by decide)⟩
  | @name c text free behind ih =>
    exact ⟨'$' :: c :: text, .name free behind, List.dropWhile_cons_of_neg (by decide)⟩

end QuotedBody

namespace Scanner

open Text

variable {text rest closing : Text}

/-- The closing quote ends the region. -/
theorem scanRegion_closing (closes : Closing rest closing) (below : Stack) :
    scanRegion ['"'] .string closing below = ⟨.string, rest, below⟩ := by
  have quote : scanRegion ['"'] .string ('"' :: rest) below = ⟨.string, rest, below⟩ := by
    rw [scanRegion_cons, if_pos rfl]
  rcases closes with rfl | rfl
  · exact quote
  · have goes : ¬ StopsAt '"' ('$' :: '"' :: rest) 0 := by simp [stopsAt_zero]
    rw [scanRegion_quoted_cons (by decide), if_neg goes, if_neg (by decide), quote]

/-- A body is read to the closing quote or to the first name in it. -/
theorem scanRegion_body (body : QuotedBody text) (closes : Closing rest closing) (below : Stack) :
    scanRegion ['"'] .string (text ++ closing) below = ⟨.string, rest, below⟩ ∨
      ∃ c later, Mode.expanded? c = none ∧ QuotedBody later ∧
        scanRegion ['"'] .string (text ++ closing) below =
          ⟨.string, '$' :: c :: later ++ closing,
            .expansion :: .region ['"'] .string false :: below⟩ := by
  induction body with
  | nil => exact .inl (scanRegion_closing closes below)
  | @bare c text free behind ih =>
    simp only [List.mem_cons, List.not_mem_nil, or_false, not_or] at free
    have goes : ¬ StopsAt '"' (c :: (text ++ closing)) 0 := by simp [stopsAt_zero, free]
    rw [List.cons_append, scanRegion_quoted_cons (by decide), if_neg goes, if_neg free.2.1]
    exact ih
  | @escaped c text behind ih =>
    have goes : ¬ StopsAt '"' ('\\' :: c :: (text ++ closing)) 0 := by simp [stopsAt_zero]
    rw [List.cons_append, List.cons_append, scanRegion_quoted_cons (by decide), if_neg goes,
      if_pos rfl]
    exact ih
  | @name c text free behind ih =>
    have other : c ≠ '"' := by
      rintro rfl
      simp [Mode.expanded?] at free
    have stops : StopsAt '"' ('$' :: c :: (text ++ closing)) 0 := by simp [stopsAt_zero, other]
    refine .inr ⟨c, text, free, behind, ?_⟩
    rw [List.cons_append, List.cons_append, scanRegion_quoted_cons (by decide), if_pos stops,
      stopped, if_neg (by simp)]
    rfl

end Scanner

namespace Lexer

open Scanner

variable {c : Char} {text rest closing : Text}

/-- What is left of a line inside a literal, with the stack there. -/
inductive InLiteral (closing : Text) : Text → Stack → Prop where
  /-- In front of the literal. -/
  | opening {text : Text} (body : QuotedBody text) : InLiteral closing ('"' :: text ++ closing) []
  /-- In string text. -/
  | inside {text : Text} (body : QuotedBody text) :
      InLiteral closing (text ++ closing) [.region ['"'] .string false]
  /-- In front of a name. -/
  | dollar {c : Char} {text : Text} (free : Mode.expanded? c = none) (body : QuotedBody text) :
      InLiteral closing ('$' :: c :: text ++ closing) [.expansion, .region ['"'] .string false]

/-- String text leaves the literal in front of `rest` or stays in it. -/
theorem leavesOrStays_scanRegion (body : QuotedBody text) (closes : Closing rest closing) :
    LeavesOrStays [] [.string, .definition] rest (InLiteral closing)
      (scanRegion ['"'] .string (text ++ closing) []) := by
  rcases scanRegion_body body closes [] with read | ⟨c, later, free, behind, read⟩
  · rw [read]
    exact ⟨List.mem_cons_self, .inl ⟨rfl, rfl⟩⟩
  · rw [read]
    exact ⟨List.mem_cons_self, .inr ⟨List.cons_ne_nil _ _, .dollar free behind⟩⟩

/-- A name stays in the literal. -/
theorem leavesOrStays_name (free : Mode.expanded? c = none) (body : QuotedBody text)
    (closes : Closing rest closing) :
    LeavesOrStays [] [.string, .definition] rest (InLiteral closing)
      (nextScanned '$' (c :: text ++ closing) [.expansion, .region ['"'] .string false]) := by
  have name : ∀ d ∈ (c :: text ++ closing).head?, Mode.expanded? d = none := by
    intro d first
    obtain rfl : c = d := by simpa using first
    exact free
  rw [nextScanned_dollar_name _ _ _ name]
  refine ⟨by simp, .inr ⟨List.cons_ne_nil _ _, ?_⟩⟩
  change InLiteral closing (if _ then text ++ closing else (text ++ closing).dropWhile isWordChar) _
  split
  · exact .inside body
  · obtain ⟨kept, left, same⟩ := body.dropWhile_word closes
    rw [same]
    exact .inside left

/-- So every token that starts in a literal leaves it in front of `rest` or stays in it. -/
theorem leavesOrStays_nextScanned {unread : Text} {stack : Stack}
    (inside : InLiteral closing unread stack) (closes : Closing rest closing) :
    ∃ c cs, unread = c :: cs ∧
      LeavesOrStays [] [.string, .definition] rest (InLiteral closing)
        (nextScanned c cs stack) := by
  cases inside with
  | @opening text body =>
    refine ⟨'"', text ++ closing, rfl, ?_⟩
    rw [nextScanned_quote (by decide)]
    exact leavesOrStays_scanRegion body closes
  | @dollar c text free body =>
    exact ⟨'$', c :: text ++ closing, rfl, leavesOrStays_name free body closes⟩
  | @inside text body =>
    obtain ⟨c, cs, whole⟩ := List.exists_cons_of_ne_nil (closes.append_ne_nil text)
    have reads := scanRegion_body body closes []
    have step := leavesOrStays_scanRegion body closes
    rw [whole] at reads step
    have settled (read : (scanRegion ['"'] .string (c :: cs) []).rest.length ≤ cs.length) :
        LeavesOrStays [] [.string, .definition] rest (InLiteral closing)
          (nextScanned c cs [.region ['"'] .string false]) := by
      rw [nextScanned_region_of_read read]
      exact step
    refine ⟨c, cs, whole, ?_⟩
    rcases reads with closed | ⟨d, later, free, behind, opened⟩
    · apply settled
      have shorter := closes.length_lt text
      rw [whole] at shorter
      rw [closed]
      exact Nat.le_of_lt_succ shorter
    · by_cases read : (scanRegion ['"'] .string (c :: cs) []).rest.length ≤ cs.length
      · exact settled read
      · -- The name comes first, so the token is the name itself.
        have stalled := eq_cons_of_stalled (scanRegion_suffix ['"'] .string (c :: cs) []) read
        rw [nextScanned_region_of_stalled stalled, opened]
        rw [opened] at stalled
        obtain ⟨rfl, rfl⟩ := List.cons.inj stalled
        exact leavesOrStays_name free behind closes

/-- A literal that the lexer can read as a body is left at its closing quote. -/
theorem leftAt_of_body (body : QuotedBody text) (closes : Closing rest closing) :
    LeftAt [] [.string, .definition] (('"' :: text ++ closing).length - rest.length)
      (passages ('"' :: text ++ closing) []) :=
  leftAt_of_step (fun _ _ inside => leavesOrStays_nextScanned inside closes) []
    ('"' :: text ++ closing) [] (.opening body)

end Lexer

open QuotedUnit

/-- Units are read as a body if no name in them starts a region and none takes the backslash of a
quote, a backslash or a dollar sign. -/
theorem QuotedUnit.exists_body (units : List QuotedUnit)
    (named : NoneBehindDollar [['('], ['{'], ['\'']] units)
    (hidden : NoneBehindDollar [['\\', '"'], ['\\', '\\'], ['\\', '$']] units) (rest : Text) :
    ∃ body closing, QuotedBody body ∧ Closing rest closing ∧
      units.flatMap text ++ '"' :: rest = body ++ closing := by
  -- A name takes two units at once, so the induction is on the number of units.
  induction count : units.length using Nat.strongRecOn generalizing units with
  | ind n ih =>
    subst count
    cases units with
    | nil => exact ⟨[], '"' :: rest, .nil, .inl rfl, rfl⟩
    | cons unit units =>
      have behind := ih units.length (Nat.lt_add_one _) units named.tail hidden.tail rfl
      cases unit with
      | escaped c =>
        obtain ⟨body, closing, left, closes, same⟩ := behind
        exact ⟨'\\' :: c :: body, closing, .escaped c left, closes, by simp [text, same]⟩
      | bare c free =>
        by_cases dollar : c = '$'
        · subst dollar
          cases units with
          | nil => exact ⟨[], '$' :: '"' :: rest, .nil, .inr rfl, rfl⟩
          | cons next units =>
            have fewer : units.length < units.length + 1 + 1 := by omega
            obtain ⟨body, closing, left, closes, same⟩ :=
              ih units.length fewer units named.tail.tail hidden.tail.tail rfl
            have opens := (List.isChain_cons_cons.1 named).1 rfl
            have hides := (List.isChain_cons_cons.1 hidden).1 rfl
            cases next with
            | bare d other =>
              have name : Mode.expanded? d = none := by
                simp only [text, List.mem_cons, List.cons.injEq, and_true, List.not_mem_nil,
                  or_false, not_or] at opens
                simp [Mode.expanded?, opens, other]
              exact ⟨'$' :: d :: body, closing, .name name left, closes, by simp [text, same]⟩
            | escaped d =>
              have bare : d ∉ ['"', '\\', '$'] := by simpa [text] using hides
              exact ⟨'$' :: '\\' :: d :: body, closing, .name rfl (.bare bare left), closes,
                by simp [text, same]⟩
        · obtain ⟨body, closing, left, closes, same⟩ := behind
          exact ⟨c :: body, closing, .bare (by simp [free, dollar]) left, closes,
            by simp [text, same]⟩

/-- A literal in double quotes, whatever stands behind it, is left at its closing quote if no dollar
sign in it starts a region, and none stands in front of an escaped quote, backslash or dollar sign.
It is left there too if the lexer's reading of names and escapes covers it. But a name that takes
the backslash of an escaped quote makes that quote the closing one. -/
theorem Lexer.escaped_literal_ends (units : List QuotedUnit)
    (named : NoneBehindDollar [['('], ['{'], ['\'']] units) (rest : Text) :
    (NoneBehindDollar [['\\', '"'], ['\\', '\\'], ['\\', '$']] units →
      LeftAt [] [.string, .definition] (literal units).length
        (passages (literal units ++ rest) [])) ∧
    (∀ body, QuotedBody body →
      units.flatMap text = body ∨ units.flatMap text = body ++ ['$'] →
      LeftAt [] [.string, .definition] (literal units).length
        (passages (literal units ++ rest) [])) ∧
    ∀ front later, QuotedBody front →
      units.flatMap text = front ++ '$' :: '\\' :: '"' :: later →
      LeftAt [] [.string, .definition] (front.length + 4)
        (passages (literal units ++ rest) []) := by
  have whole : literal units ++ rest = '"' :: (units.flatMap text ++ '"' :: rest) := by
    simp [literal]
  have ends {body closing : Text} (left : QuotedBody body) (closes : Closing rest closing)
      (same : units.flatMap text ++ '"' :: rest = body ++ closing) :
      LeftAt [] [.string, .definition] (literal units).length
        (passages (literal units ++ rest) []) := by
    have place := leftAt_of_body left closes
    rw [List.cons_append, ← same, ← whole, List.length_append] at place
    simpa using place
  refine ⟨fun hidden => ?_, fun body left same => ?_, fun front later left same => ?_⟩
  · obtain ⟨body, closing, left, closes, same⟩ := exists_body units named hidden rest
    exact ends left closes same
  · rcases same with same | same
    · exact ends left (.inl rfl) (by rw [same])
    · exact ends left (.inr rfl) (by rw [same, List.append_assoc]; rfl)
  · have body : QuotedBody (front ++ ['$', '\\']) := left.append (.name rfl .nil)
    have place := leftAt_of_body body (.inl rfl : Closing (later ++ '"' :: rest) _)
    have split : '"' :: (front ++ ['$', '\\']) ++ '"' :: (later ++ '"' :: rest) =
        literal units ++ rest := by
      simp [whole, same]
    have width :
        (literal units ++ rest).length = front.length + 4 + (later ++ '"' :: rest).length := by
      rw [← split]
      simp only [List.length_append, List.length_cons, List.length_nil]
      omega
    rw [split, width] at place
    simpa using place

/-- Names and escapes, an escape behind a name and a dollar sign in front of the closing quote are
passed; behind a name an escaped quote is not. -/
theorem Lexer.escaped_literal_ends_behind_names :
    LeftAt [] [.string, .definition] 12
      (passages (literal [.bare '$' (by decide), .bare 'p' (by decide), .escaped '"',
        .bare '$' (by decide), .escaped 'n', .escaped '\\', .bare '$' (by decide)] ++ ['"']) []) ∧
    LeftAt [] [.string, .definition] 5
      (passages (literal [.bare 'a' (by decide), .bare '$' (by decide), .escaped '"',
        .bare 'x' (by decide)] ++ ['"']) []) := by
  have passed := escaped_literal_ends [.bare '$' (by decide), .bare 'p' (by decide), .escaped '"',
    .bare '$' (by decide), .escaped 'n', .escaped '\\', .bare '$' (by decide)] (by decide) ['"']
  have taken := escaped_literal_ends [.bare 'a' (by decide), .bare '$' (by decide), .escaped '"',
    .bare 'x' (by decide)] (by decide) ['"']
  exact ⟨passed.1 (by decide), taken.2.2 ['a'] ['x'] (.bare (by decide) .nil) rfl⟩

/-- No dollar sign of this literal starts a region, and yet it is left in front of its last
character. -/
theorem Lexer.literal_left_at_escaped_quote :
    NoneBehindDollar [['('], ['{'], ['\'']]
        [.bare '$' (by decide), .escaped '"', .bare 'x' (by decide)] ∧
      ∃ passage ∈
          passages (literal [.bare '$' (by decide), .escaped '"', .bare 'x' (by decide)]) [],
        0 < passage.token.stop ∧ passage.behind = [] ∧ passage.token.stop <
          (literal [.bare '$' (by decide), .escaped '"', .bare 'x' (by decide)]).length := by
  have place : LeftAt [] [.string, .definition] 4 (passages _ []) :=
    leftAt_of_body (.name rfl .nil : QuotedBody ['$', '\\']) (.inl rfl : Closing ['x', '"'] _)
  obtain ⟨passage, member, stop, bare⟩ := place.reached
  refine ⟨by decide, passage, member, by omega, bare, ?_⟩
  rw [stop]
  decide

end BatchScript
