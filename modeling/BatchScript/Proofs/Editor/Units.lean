import BatchScript.Editor.Document

/-!
# Code units

Counting code units is additive over texts, and no character is without one. So the units in front
of a column grow with the column, and the column can be found again from them.
-/
namespace BatchScript.Editor

variable (encoding : Encoding)

/-- Every character has a code unit. -/
theorem Encoding.size_pos (c : Char) : 0 < encoding.size c := by
  cases encoding with
  | utf8 => exact c.utf8Size_pos
  | utf16 =>
    rw [Encoding.size]
    split <;> decide
  | utf32 => exact Nat.one_pos

/-- The units of a text are those of its first character and of the others. -/
theorem Encoding.units_cons (c : Char) (cs : Text) :
    encoding.units (c :: cs) = encoding.size c + encoding.units cs := rfl

/-- The units of two texts put together are the units of both. -/
theorem Encoding.units_append (front behind : Text) :
    encoding.units (front ++ behind) = encoding.units front + encoding.units behind := by
  induction front with
  | nil => simp [Encoding.units]
  | cons c cs ih => rw [List.cons_append, units_cons, units_cons, ih, Nat.add_assoc]

/-- A text that is not empty has a code unit. -/
theorem Encoding.units_pos {text : Text} (nonempty : text ≠ []) : 0 < encoding.units text := by
  match text, nonempty with
  | c :: cs, _ =>
    rw [units_cons]
    exact Nat.add_pos_left (encoding.size_pos c) _

/-- There are no fewer units in front of a later column. -/
theorem Encoding.units_take_mono (text : Text) {first second : Nat} (ordered : first ≤ second) :
    encoding.units (text.take first) ≤ encoding.units (text.take second) := by
  obtain ⟨width, rfl⟩ := Nat.exists_eq_add_of_le ordered
  rw [List.take_add, units_append]
  exact Nat.le_add_right _ _

/-- There are more units in front of a later column that the text has. -/
theorem Encoding.units_take_lt {text : Text} {first second : Nat} (ordered : first < second)
    (near : second ≤ text.length) :
    encoding.units (text.take first) < encoding.units (text.take second) := by
  obtain ⟨width, rfl⟩ := Nat.exists_eq_add_of_lt ordered
  have between : (text.drop first).take (width + 1) ≠ [] := by
    rw [Ne, List.take_eq_nil_iff, List.drop_eq_nil_iff]
    omega
  have size := encoding.units_pos between
  rw [Nat.add_assoc, List.take_add, units_append]
  omega

end BatchScript.Editor
