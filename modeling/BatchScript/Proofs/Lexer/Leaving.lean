import BatchScript.Proofs.Lexer.Passages

/-!
# Leaving what was opened

What was put on a stack is left at the first boundary between two tokens where the stack lies bare
again. Where that is follows from what one token does: it leaves, or it stays inside. A property of
the text and the stack that every token keeps until it leaves carries the argument along the line.
-/
namespace BatchScript

/-- What lies on `below` is left at a place of its line. -/
structure LeftAt (below : Stack) (categories : List Category) (place : Int)
    (passages : List Passage) : Prop where
  /-- At the place there is a boundary between tokens where `below` lies bare. -/
  reached : ∃ passage ∈ passages, passage.token.stop = place ∧ passage.behind = below
  /-- At every boundary in front of it the stack is another one. -/
  inside : ∀ passage ∈ passages, passage.token.stop < place → passage.behind ≠ below
  /-- The tokens up to the place have one of the categories. -/
  styled : ∀ passage ∈ passages, passage.token.stop ≤ place → passage.token.category ∈ categories

/-- What lies on `below` is not left in a line. -/
structure NotLeft (below : Stack) (categories : List Category)
    (passages : List Passage) : Prop where
  /-- At every boundary the stack is another one. -/
  inside : ∀ passage ∈ passages, passage.behind ≠ below
  /-- The tokens have one of the categories. -/
  styled : ∀ passage ∈ passages, passage.token.category ∈ categories

/-- What lies on `below` is left behind `last`, in the line that goes on with `tail`, and in none of
the lines before. -/
structure LeftBehind (below : Stack) (categories : List Category) (before : List Text)
    (last tail : Text) (stack : Stack) : Prop where
  /-- It is not left in a line before. -/
  inside : ∀ passed ∈ before.zip (Lexer.lineStacks before stack),
    NotLeft below categories (Lexer.passages passed.1 passed.2)
  /-- It is left in its line. -/
  left : LeftAt below categories last.length
    (Lexer.passages (last ++ tail) (Lexer.stackAfter before stack))

section

variable {below : Stack} {categories : List Category} {place : Int} {first : Passage}
  {later : List Passage}

/-- The first token leaves, if all later ones stop behind it. -/
theorem LeftAt.head (stop : first.token.stop = place) (bare : first.behind = below)
    (styled : first.token.category ∈ categories)
    (behind : ∀ passage ∈ later, place < passage.token.stop) :
    LeftAt below categories place (first :: later) where
  reached := ⟨first, List.mem_cons_self, stop, bare⟩
  inside passage member front := by
    rcases List.mem_cons.1 member with rfl | member
    · omega
    · have after := behind passage member
      omega
  styled passage member front := by
    rcases List.mem_cons.1 member with rfl | member
    · exact styled
    · have after := behind passage member
      omega

/-- A later token leaves, if the first one does not. -/
theorem LeftAt.cons (onward : LeftAt below categories place later) (covered : first.behind ≠ below)
    (styled : first.token.category ∈ categories) :
    LeftAt below categories place (first :: later) where
  reached := by
    obtain ⟨passage, member, reached⟩ := onward.reached
    exact ⟨passage, List.mem_cons_of_mem first member, reached⟩
  inside passage member front := by
    rcases List.mem_cons.1 member with rfl | member
    · exact covered
    · exact onward.inside passage member front
  styled passage member front := by
    rcases List.mem_cons.1 member with rfl | member
    · exact styled
    · exact onward.styled passage member front

/-- No token leaves, if neither the first one does nor a later one. -/
theorem NotLeft.cons (onward : NotLeft below categories later) (covered : first.behind ≠ below)
    (styled : first.token.category ∈ categories) : NotLeft below categories (first :: later) where
  inside := List.forall_mem_cons.2 ⟨covered, onward.inside⟩
  styled := List.forall_mem_cons.2 ⟨styled, onward.styled⟩

/-- A line in which it is not left can stand in front of the others. -/
theorem LeftBehind.cons {before : List Text} {line last tail : Text} {stack : Stack}
    (covered : NotLeft below categories (Lexer.passages line stack))
    (onward : LeftBehind below categories before last tail (Lexer.tokenizeLine line stack).2) :
    LeftBehind below categories (line :: before) last tail stack where
  inside := List.forall_mem_cons.2 ⟨covered, onward.inside⟩
  left := onward.left

end

namespace Lexer

/-- A token of one of the categories leaves what lies on `below` in front of `rest`, or it stays
inside. -/
def LeavesOrStays (below : Stack) (categories : List Category) (rest : Text)
    (Inside : Text → Stack → Prop) (scanned : Scanned) : Prop :=
  scanned.category ∈ categories ∧
    (scanned.rest = rest ∧ scanned.stack = below ∨
      scanned.stack ≠ below ∧ Inside scanned.rest scanned.stack)

variable {Inside : Text → Stack → Prop} {rest : Text} {below : Stack} {categories : List Category}

/-- If every token that starts inside leaves in front of `rest` or stays inside, then a line that is
taken up inside is left in front of `rest`. -/
theorem leftAt_of_step
    (step : ∀ unread stack, Inside unread stack → ∃ c cs, unread = c :: cs ∧
      LeavesOrStays below categories rest Inside (nextScanned c cs stack))
    (before unread : Text) (stack : Stack) (inside : Inside unread stack) :
    LeftAt below categories ((before ++ unread).length - rest.length)
      (passagesFrom before.length unread stack) := by
  induction before, unread, stack using reading_induction with
  | ended before stack =>
    obtain ⟨c, cs, none, -⟩ := step [] stack inside
    contradiction
  | token before c cs stack read nonempty whole text ih =>
    obtain ⟨d, ds, same, styled, outcome⟩ := step (c :: cs) stack inside
    obtain ⟨rfl, rfl⟩ := List.cons.inj same
    have width : (before ++ read).length = before.length + read.length := List.length_append
    rw [passagesFrom_cons text]
    rcases outcome with ⟨left, bare⟩ | ⟨covered, kept⟩
    · have length : (before ++ c :: cs).length = before.length + read.length + rest.length := by
        rw [whole, left, ← List.append_assoc, List.length_append, width]
      refine .head ?_ bare styled fun passage member => ?_
      · change (before.length : Int) + read.length = _
        omega
      · have behind := lt_stop_of_mem_passagesFrom member
        omega
    · have onward := ih kept
      rw [List.append_assoc, ← whole, width] at onward
      exact onward.cons covered styled

/-- If every token that starts inside stays inside, then a line that is taken up inside is not left,
and its end is inside. -/
theorem notLeft_of_step
    (step : ∀ c cs stack, Inside (c :: cs) stack →
      (nextScanned c cs stack).category ∈ categories ∧ (nextScanned c cs stack).stack ≠ below ∧
        Inside (nextScanned c cs stack).rest (nextScanned c cs stack).stack)
    (column : Nat) (unread : Text) (stack : Stack) (inside : Inside unread stack) :
    NotLeft below categories (passagesFrom column unread stack) ∧
      Inside [] (tokenizeLine unread stack).2 := by
  fun_induction passagesFrom column unread stack with
  | case1 column stack =>
    rw [tokenizeLine, tokenizeFrom_nil]
    exact ⟨⟨by simp, by simp⟩, inside⟩
  | case2 column stack c cs scanned token ih =>
    obtain ⟨styled, covered, kept⟩ := step c cs stack inside
    obtain ⟨onward, ended⟩ := ih kept
    rw [snd_tokenizeLine_cons]
    exact ⟨onward.cons covered styled, ended⟩

end Lexer

end BatchScript
