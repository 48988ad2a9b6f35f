import BatchScript.Files.Path
import BatchScript.Proofs.Text.Lines

/-!
# Paths that files can have

The character that ends every path for the system does not come into a path but with the text that
the path is made from.
-/
namespace BatchScript.Path

/-- No part of the path holds the character that ends every path. -/
structure Plain (path : Path) : Prop where
  /-- The slashes in front of it do not. -/
  root : '\x00' ∉ path.root
  /-- Its components do not. -/
  parts : ∀ part ∈ path.parts, '\x00' ∉ part

/-- The path of a text without the character is plain. -/
theorem plain_ofText {text : Text} (without : '\x00' ∉ text) : (ofText text).Plain := by
  refine ⟨?_, fun part found null => ?_⟩
  · change '\x00' ∉ rootOf text
    unfold rootOf
    split <;> decide
  · exact without (Text.mem_of_mem_split (List.mem_filter.1 found).1 null)

variable {path : Path}

/-- A plain name beside a plain path is plain. -/
theorem Plain.sibling (plain : path.Plain) {name : Text} (without : '\x00' ∉ name) :
    (path.parent.child name).Plain := by
  refine ⟨plain.root, fun part found => ?_⟩
  rcases List.mem_append.1 found with before | last
  · exact plain.parts part (List.dropLast_subset path.parts before)
  · rw [List.mem_singleton.1 last]
    exact without

/-- A plain path can be the path of a file. -/
theorem Plain.hasNull (plain : path.Plain) : path.hasNull = false := by
  rw [Path.hasNull, decide_eq_false_iff_not, toText]
  split
  · decide
  · intro member
    rcases List.mem_append.1 member with root | inside
    · exact plain.root root
    · rcases Text.mem_of_mem_join inside with slash | ⟨part, found, null⟩
      · exact absurd slash (by decide)
      · exact plain.parts part found null

end BatchScript.Path
