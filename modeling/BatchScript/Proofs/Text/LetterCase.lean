import BatchScript.Proofs.Text.Lines
import BatchScript.Text.Blank

/-!
# Letters and their case

Two texts differ only in the case of their ASCII letters if they agree once every capital has become
small. Whatever takes the same value at each capital and at its small letter is blind to case, and
so are comparisons with a text that holds no letter. Line ends are no letters, so a script and its
small form have their lines in the same places.
-/
namespace BatchScript

/-- The ASCII capitals. -/
def capitals : Text := (List.range 26).map fun i => Char.ofNat ('A'.toNat + i)

/-- A character is a capital, or it is its own small form. -/
theorem mem_capitals_or_toLower_eq (c : Char) : c ∈ capitals ∨ c.toLower = c := by
  by_cases upper : c.val ≥ 'A'.val ∧ c.val ≤ 'Z'.val
  · have low : 65 ≤ c.toNat := UInt32.le_iff_toNat_le.1 upper.1
    have high : c.toNat ≤ 90 := UInt32.le_iff_toNat_le.1 upper.2
    have sum : 'A'.toNat + (c.toNat - 65) = c.toNat := by
      change 65 + (c.toNat - 65) = c.toNat
      omega
    refine .inl (List.mem_map.2 ⟨c.toNat - 65, List.mem_range.2 (by omega), ?_⟩)
    rw [sum, Char.ofNat_toNat]
  · exact .inr (dif_neg upper)

/-- What does not tell the capitals from their small letters is blind to case. -/
theorem blind_of_capitals {α : Type} {f : Char → α}
    (same : capitals.map (fun c => f c.toLower) = capitals.map f) (c : Char) :
    f c.toLower = f c := by
  rcases mem_capitals_or_toLower_eq c with capital | small
  · exact List.map_inj_left.1 same c capital
  · rw [small]

/-- Word characters are told apart from others whatever their case. -/
theorem isWordChar_toLower (c : Char) : isWordChar c.toLower = isWordChar c :=
  blind_of_capitals (by decide) c

/-- Digits have no case. -/
theorem isDigit_toLower (c : Char) : isDigit c.toLower = isDigit c :=
  blind_of_capitals (by decide) c

/-- What continues a name does so whatever its case. -/
theorem isNameChar_toLower (c : Char) : isNameChar c.toLower = isNameChar c :=
  blind_of_capitals (by decide) c

/-- Blanks have no case. -/
theorem isBlank_toLower (c : Char) : isBlank c.toLower = isBlank c :=
  blind_of_capitals (by decide) c

/-- A character that is no letter is its own small form. -/
theorem toLower_of_not_isAlpha {c : Char} (other : c.isAlpha = false) : c.toLower = c := by
  have letters : capitals.all Char.isAlpha = true := by decide
  rcases mem_capitals_or_toLower_eq c with capital | small
  · have letter := List.all_eq_true.1 letters c capital
    rw [other] at letter
    contradiction
  · exact small

/-- A character that is no letter is the small form of itself alone. -/
theorem toLower_eq_iff {c d : Char} (other : d.isAlpha = false) : c.toLower = d ↔ c = d := by
  constructor
  · intro lower
    have kept : c.toLower.isAlpha = c.isAlpha := blind_of_capitals (by decide) c
    rw [lower, other] at kept
    rw [← lower, toLower_of_not_isAlpha kept.symm]
  · rintro rfl
    exact toLower_of_not_isAlpha other

namespace Text

/-- The text with every ASCII capital made small. -/
def lowered (text : Text) : Text := text.map Char.toLower

/-- A text without letters. -/
def Caseless (text : Text) : Prop := ∀ c ∈ text, c.isAlpha = false

/-- The small form starts with the small form of the first character. -/
theorem lowered_cons (c : Char) (cs : Text) : lowered (c :: cs) = c.toLower :: lowered cs := rfl

/-- The small form has as many characters. -/
theorem length_lowered (text : Text) : text.lowered.length = text.length := List.length_map ..

/-- A text without letters is the small form of itself alone. -/
theorem lowered_eq_iff {text fixed : Text} (caseless : fixed.Caseless) :
    text.lowered = fixed ↔ text = fixed := by
  induction text generalizing fixed with
  | nil => exact Iff.rfl
  | cons c cs ih =>
    cases fixed with
    | nil => exact iff_of_false (List.cons_ne_nil _ _) (List.cons_ne_nil _ _)
    | cons d ds =>
      have first : d.isAlpha = false := caseless d List.mem_cons_self
      have others : Caseless ds := fun e inside => caseless e (List.mem_cons_of_mem d inside)
      rw [lowered_cons, List.cons.injEq, List.cons.injEq, toLower_eq_iff first, ih others]

/-- A run of characters that is blind to case ends at the same place. -/
theorem dropWhile_lowered {p : Char → Bool} (blind : ∀ c, p c.toLower = p c) (text : Text) :
    text.lowered.dropWhile p = lowered (text.dropWhile p) := by
  have same : p ∘ Char.toLower = p := funext blind
  rw [lowered, List.dropWhile_map, same, lowered]

/-- Whether some character satisfies a property that is blind to case can be told from the small
form. -/
theorem any_lowered {p : Char → Bool} (blind : ∀ c, p c.toLower = p c) (text : Text) :
    text.lowered.any p = text.any p := by
  have same : p ∘ Char.toLower = p := funext blind
  rw [lowered, List.any_map, same]

/-- A next character that is no letter is the same in the small form. -/
theorem head?_lowered_eq_iff {d : Char} (other : d.isAlpha = false) (text : Text) :
    text.lowered.head? = some d ↔ text.head? = some d := by
  cases text with
  | nil => exact Iff.rfl
  | cons c cs =>
    rw [lowered_cons, List.head?_cons, List.head?_cons, Option.some.injEq, Option.some.injEq,
      toLower_eq_iff other]

/-- A text is cut at the same places as its small form, if no letter cuts it. -/
theorem split_lowered {separator : Char} (other : separator.isAlpha = false) (text : Text) :
    text.lowered.split separator = (text.split separator).map lowered := by
  induction text with
  | nil => rfl
  | cons c cs ih =>
    rw [split] at ih ⊢
    have cut : (c.toLower == separator) = (c == separator) := by
      rw [Bool.eq_iff_iff, beq_iff_eq, beq_iff_eq, toLower_eq_iff other]
    rw [lowered_cons, splitWhere, split, splitWhere, cut, ih]
    split
    · rfl
    · rw [split]
      cases splitWhere (· == separator) cs <;> rfl

/-- A carriage return at the end of a line is dropped from the small form too. -/
theorem dropReturn_lowered (line : Text) : line.lowered.dropReturn = line.dropReturn.lowered := by
  have last : line.lowered.getLast? = some '\r' ↔ line.getLast? = some '\r' := by
    rw [← List.head?_reverse, ← List.head?_reverse, lowered, ← List.map_reverse]
    exact head?_lowered_eq_iff rfl line.reverse
  simp only [dropReturn, last]
  split
  · exact List.map_dropLast.symm
  · rfl

/-- The lines of the small form are the small forms of the lines. -/
theorem lines_lowered (source : Text) : source.lowered.lines = source.lines.map lowered := by
  rw [lines, split_lowered rfl, lines, List.map_map, List.map_map]
  exact List.map_congr_left fun line _ => dropReturn_lowered line

end Text

end BatchScript
