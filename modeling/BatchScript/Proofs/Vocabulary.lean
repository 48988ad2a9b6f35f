import BatchScript.Vocabulary

/-!
# What the vocabulary knows

Only truth values, keywords and commands are looked up, and a text that is found has an ASCII
letter: every word has one besides the letter that the Kelvin sign folds to.
-/
namespace BatchScript.Vocabulary

/-- The categories of the words. -/
def categories : List Category := [.atom, .keyword, .builtin]

/-- A text that is found stands in the table in its folded form. -/
theorem mem_table_of_lookup {word : Text} {category : Category}
    (found : lookup word = some category) : (word.map fold, category) ∈ table := by
  obtain ⟨before, behind, whole, -⟩ := List.lookup_eq_some_iff.1 found
  rw [whole]
  exact List.mem_append_right before List.mem_cons_self

/-- A text that is found has one of the three categories of words. -/
theorem category_of_lookup {word : Text} {category : Category}
    (found : lookup word = some category) : category ∈ categories := by
  have inside := mem_table_of_lookup found
  simp only [table, List.mem_append, List.mem_map, Prod.mk.injEq] at inside
  rcases inside with (⟨_, -, -, rfl⟩ | ⟨_, -, -, rfl⟩) | ⟨_, -, -, rfl⟩ <;> decide

/-- A character that folds to a small letter other than `k` is an ASCII letter. -/
theorem isWordChar_of_fold {c : Char} (lower : (fold c).isLower = true) (other : fold c ≠ 'k') :
    isWordChar c = true := by
  have kelvin : c ≠ '\u212a' := by
    rintro rfl
    exact other rfl
  have letter : c.isUpper = true ∨ c.isLower = true := by
    by_cases upper : c.val ≥ 'A'.val ∧ c.val ≤ 'Z'.val
    · exact .inl (decide_eq_true upper)
    · have same : c.toLower = c := dif_neg upper
      rw [fold, if_neg kelvin, same] at lower
      exact .inr lower
  have alpha : c.isAlpha = true := Bool.or_eq_true_iff.2 letter
  simp [isWordChar, Char.isAlphanum, alpha]

/-- Every word in its folded form has a small letter other than `k`. -/
theorem lower_of_mem_table {key : Text} {category : Category} (inside : (key, category) ∈ table) :
    ∃ c ∈ key, c.isLower = true ∧ c ≠ 'k' := by
  have all : (table.all fun entry => entry.1.any fun c => c.isLower && c != 'k') = true := by
    decide +kernel
  have some := List.all_eq_true.1 all (key, category) inside
  simpa using some

/-- A text that is found has a word character. -/
theorem any_isWordChar_of_lookup {word : Text} {category : Category}
    (found : lookup word = some category) : word.any isWordChar = true := by
  obtain ⟨folded, inside, lower, other⟩ := lower_of_mem_table (mem_table_of_lookup found)
  obtain ⟨c, member, rfl⟩ := List.mem_map.1 inside
  exact List.any_eq_true.2 ⟨c, member, isWordChar_of_fold lower other⟩

end BatchScript.Vocabulary
