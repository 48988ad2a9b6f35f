import BatchScript.Scanner.Progress

/-!
# Outcomes of the scanners

What each scanner can do to the stack, said once. Plain text keeps the stack or puts one mode on it;
an expansion is taken off, or makes room for the region that it starts. A region never settles on
another category than its own. Where nothing has been read, an open region has put a mode on the
stack.
-/
namespace BatchScript

namespace Mode

/-- An expansion starts a region at a bracket or a quote, and the region is open. -/
theorem expanded?_cases {c : Char} {mode : Mode} (found : expanded? c = some mode) :
    (c = '(' ∧ mode = .region [')'] .quote false) ∨
      (c = '{' ∧ mode = .region ['}'] .definition false) ∨
      (c ∈ Text.quotes ∧ mode = .region [c] .string false) := by
  unfold expanded? at found
  split at found
  · exact .inl ⟨rfl, (Option.some.inj found).symm⟩
  · exact .inr (.inl ⟨rfl, (Option.some.inj found).symm⟩)
  · exact .inr (.inr ⟨by decide, (Option.some.inj found).symm⟩)
  · exact .inr (.inr ⟨by decide, (Option.some.inj found).symm⟩)
  · contradiction

/-- A region that an expansion starts is an open one. -/
theorem open_of_expanded? {c : Char} {mode : Mode} (found : expanded? c = some mode) :
    ∃ closer category, mode = .region closer category false := by
  rcases expanded?_cases found with ⟨-, rfl⟩ | ⟨-, rfl⟩ | ⟨-, rfl⟩ <;> exact ⟨_, _, rfl⟩

end Mode

namespace Scanner

/-- Plain text settles on the stack it has, or hands over to a quoted region or to an expansion that
it has put there. -/
theorem scanPlain_cases (current : Text → Text) (stack : Stack) (unread : Text) :
    (∃ category rest, scanPlain current stack unread = .settled ⟨category, rest, stack⟩) ∨
      (∃ c rest, c ∈ Text.quotes ∧ unread = c :: rest ∧
        scanPlain current stack unread = .handedOver rest (.region [c] .string false :: stack)) ∨
      (∃ rest, unread = '%' :: rest ∧
        scanPlain current stack unread = .handedOver rest (.expansion :: stack)) := by
  have settledOn {result : Scanned} (kept : result.stack = stack) :
      Step.settled result = .settled ⟨result.category, result.rest, stack⟩ := by
    rw [← kept]
  have name (rest : Text) : (scanName current rest stack).stack = stack := by
    unfold scanName settleName
    split <;> rfl
  have number (rest : Text) : (settleNumber current rest stack).stack = stack := by
    unfold settleNumber
    split
    · exact name rest
    · rfl
  cases unread with
  | nil => exact .inl ⟨.plain, [], rfl⟩
  | cons c cs =>
    generalize outcome : scanPlain current stack (c :: cs) = step
    rw [scanPlain] at outcome
    split at outcome
    · exact .inl ⟨_, _, outcome.symm⟩
    · split at outcome
      · rename_i quote
        exact .inr (.inl ⟨c, cs, quote, rfl, outcome.symm⟩)
      · split at outcome
        · exact .inl ⟨_, _, outcome.symm⟩
        · split at outcome
          · rename_i percent
            exact .inr (.inr ⟨cs, by rw [percent], outcome.symm⟩)
          · split at outcome
            · exact .inl ⟨_, _, outcome.symm⟩
            · split at outcome
              · exact .inl ⟨_, _, outcome.symm⟩
              · split at outcome
                · exact .inl ⟨_, _, outcome.symm.trans (settledOn (number _))⟩
                · exact .inl ⟨_, _, outcome.symm.trans (settledOn (name _))⟩

/-- What stands behind the sign of an expansion settles a definition on the stack below, or hands
over to the region that its first character starts. -/
theorem scanReference_cases (current : Text → Text) (below : Stack) (unread : Text) :
    (∃ rest, scanReference current below unread = .settled ⟨.definition, rest, below⟩) ∨
      (∃ c cs mode, unread = c :: cs ∧ Mode.expanded? c = some mode ∧
        scanReference current below unread = .handedOver cs (mode :: below)) := by
  cases unread with
  | nil => exact .inl ⟨[], rfl⟩
  | cons c cs =>
    generalize outcome : scanReference current below (c :: cs) = step
    rw [scanReference] at outcome
    split at outcome
    · rename_i mode found
      exact .inr ⟨c, cs, mode, rfl, found, outcome.symm⟩
    · split at outcome
      · exact .inl ⟨cs, outcome.symm⟩
      · unfold settleReference at outcome
        split at outcome
        · exact .inl ⟨_, outcome.symm⟩
        · exact .inl ⟨_, outcome.symm⟩

/-- A region gives its own category to its text. -/
theorem category_scanRegion (closer : Text) (category : Category) (unread : Text) (below : Stack) :
    (scanRegion closer category unread below).category = category := by
  fun_induction scanRegion closer category unread below with
  | case1 | case2 | case3 | case5 | case6 => rfl
  | case4 _ _ _ _ _ _ nested => exact nested
  | case7 _ _ _ _ _ _ _ read => exact read
  | case8 _ _ _ _ _ _ _ _ read => exact read

/-- Only an open region settles without having read anything, and it has then put an expansion or a
pending string on the stack. -/
theorem dispatch_stalled_cases {current : Text → Text} {c : Char} {cs : Text} {stack : Stack}
    (stalled : ¬ (dispatch current (c :: cs) stack).rest.length ≤ cs.length) :
    (∃ closer category below, stack = .region closer category false :: below) ∧
      ∃ opened, (opened = .expansion ∨ opened = .region [c] .string true) ∧
        (dispatch current (c :: cs) stack).stack = opened :: stack := by
  by_cases settles : handovers stack = 0
  · match stack, settles with
    | .region closer category false :: below, _ =>
      rw [dispatch_settled rfl] at stalled ⊢
      refine ⟨⟨closer, category, below, rfl⟩, ?_⟩
      rcases scanRegion_advances closer category c cs below with read | sign | quote
      · exact absurd read.length_le stalled
      · exact ⟨.expansion, .inl rfl, sign⟩
      · exact ⟨.region [c] .string true, .inr rfl, quote⟩
  · have read := dispatch_advances current c cs stack (Nat.pos_of_ne_zero settles)
    exact absurd read.length_le stalled

end Scanner

end BatchScript
