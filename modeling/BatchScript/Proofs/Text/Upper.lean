import BatchScript.Text.Upper

/-!
# Length of the upper-case form

The upper-case form of a character is at least one character, so a text does not get shorter in
upper case, and it keeps its length exactly if every one of its characters has a single character as
its form. A text in upper case starts with the form of each of its fronts, but as many characters of
it as the front has are that form only if the front keeps its length.
-/
namespace BatchScript

/-- The forms of several characters are not empty, and no ASCII character has such a form. -/
theorem of_mem_upperExpansions {entry : Nat × List Nat} (member : entry ∈ upperExpansions) :
    entry.2 ≠ [] ∧ 128 ≤ entry.1 := by
  have checked : upperExpansions.all (fun entry => !entry.2.isEmpty && 128 ≤ entry.1) = true := by
    decide +kernel
  have both := List.all_eq_true.1 checked entry member
  rw [Bool.and_eq_true] at both
  exact ⟨by simpa using both.1, by simpa using both.2⟩

/-- The upper-case form of a character is one character, or that of an entry in the list of the
forms of several characters. -/
theorem upperChar_cases (c : Char) :
    (upperChar c).length = 1 ∨
      ∃ codes, (c.toNat, codes) ∈ upperExpansions ∧ upperChar c = codes.map Char.ofNat := by
  rw [upperChar]
  split
  · exact .inl rfl
  · split
    · rename_i codes found
      obtain ⟨before, behind, whole, -⟩ := List.lookup_eq_some_iff.1 found
      refine .inr ⟨codes, ?_, rfl⟩
      rw [whole]
      exact List.mem_append_right before List.mem_cons_self
    · exact .inl rfl

/-- The upper-case form of a character is not empty. -/
theorem one_le_length_upperChar (c : Char) : 1 ≤ (upperChar c).length := by
  rcases upperChar_cases c with single | ⟨codes, member, several⟩
  · exact Nat.le_of_eq single.symm
  · rw [several, List.length_map]
    exact List.length_pos_iff.2 (of_mem_upperExpansions member).1

/-- An ASCII character has a single character as its upper-case form. -/
theorem length_upperChar_of_ascii {c : Char} (ascii : c.toNat < 128) :
    (upperChar c).length = 1 := by
  rcases upperChar_cases c with single | ⟨codes, member, -⟩
  · exact single
  · have beyond := (of_mem_upperExpansions member).2
    omega

namespace Text

/-- The upper-case form of two texts is that of the one and then that of the other. -/
theorem upper_append (front rest : Text) : (front ++ rest).upper = front.upper ++ rest.upper :=
  List.flatMap_append

/-- A text does not get shorter in upper case. -/
theorem length_le_length_upper (text : Text) : text.length ≤ text.upper.length := by
  induction text with
  | nil => exact Nat.le_refl 0
  | cons c cs ih =>
    have first := one_le_length_upperChar c
    rw [upper, List.flatMap_cons, List.length_append, List.length_cons, ← upper]
    omega

/-- A text keeps its length in upper case exactly if every character has a single one as its
form. -/
theorem length_upper_eq_iff (text : Text) :
    text.upper.length = text.length ↔ ∀ c ∈ text, (upperChar c).length = 1 := by
  induction text with
  | nil => simp [upper]
  | cons c cs ih =>
    have first := one_le_length_upperChar c
    have others := length_le_length_upper cs
    rw [List.forall_mem_cons, ← ih, upper, List.flatMap_cons, List.length_append, List.length_cons,
      ← upper]
    omega

/-- As many characters of a text in upper case as one of its fronts has are the upper-case form of
that front exactly if every character of the front has a single one as its form. -/
theorem take_upper_eq_iff {front text : Text} (starts : front <+: text) :
    text.upper.take front.length = front.upper ↔ ∀ c ∈ front, (upperChar c).length = 1 := by
  obtain ⟨rest, rfl⟩ := starts
  have longer := length_le_length_upper front
  have cut : (front ++ rest).upper.take front.length = front.upper.take front.length := by
    rw [upper_append, List.take_append_of_le_length longer]
  rw [cut, ← length_upper_eq_iff]
  constructor
  · intro same
    have lengths := congrArg List.length same
    rw [List.length_take] at lengths
    omega
  · intro kept
    exact List.take_of_length_le (Nat.le_of_eq kept)

end Text

end BatchScript
