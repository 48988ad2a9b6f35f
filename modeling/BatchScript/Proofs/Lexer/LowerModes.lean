import BatchScript.Proofs.Lexer.Reading
import BatchScript.Proofs.Scanner.Outcomes

/-!
# Modes under the top of the stack

A scanner takes off the mode on top, puts modes on it or leaves it, and never looks further down:
more modes under a stack stay under whatever it leaves of the stack. Only two stacks are not enough
to read by: the empty one, which stands for plain text, and an expansion alone, which reads no
dollar sign where an expansion on some other mode does.
-/
namespace BatchScript

/-- A settled token with more modes under its stack. -/
def Scanned.above (lower : Stack) : Scanned → Scanned := Scanned.map id (· ++ lower)

/-- A step with more modes under its stack. -/
def Step.above (lower : Stack) : Step → Step := Step.map id (· ++ lower)

/-- A stack by which a token can be read, whatever lies under it. -/
structure Stack.Enough (stack : Stack) : Prop where
  /-- It has a mode on top. -/
  nonempty : stack ≠ []
  /-- An expansion on top lies on another mode. -/
  supported : stack ≠ [.expansion]

/-- A mode that is no expansion is enough. -/
theorem Stack.enough_cons {mode : Mode} (other : mode ≠ .expansion) (below : Stack) :
    Stack.Enough (mode :: below) :=
  ⟨List.cons_ne_nil mode below, fun same => other (List.cons.inj same).1⟩

/-- A mode that lies on another one is enough. -/
theorem Stack.enough_cons_cons (mode top : Mode) (below : Stack) :
    Stack.Enough (mode :: top :: below) :=
  ⟨List.cons_ne_nil mode _, fun same => List.cons_ne_nil top below (List.cons.inj same).2⟩

namespace Scanner

variable (current : Text → Text) (lower : Stack)

/-- A name leaves the modes under the stack. -/
theorem scanName_above (unread : Text) (stack : Stack) :
    scanName current unread (stack ++ lower) = (scanName current unread stack).above lower := by
  unfold scanName settleName
  split <;> rfl

/-- Digits leave the modes under the stack. -/
theorem settleNumber_above (rest : Text) (stack : Stack) :
    settleNumber current rest (stack ++ lower) = (settleNumber current rest stack).above lower := by
  unfold settleNumber
  split
  · exact scanName_above current lower rest stack
  · rfl

/-- Plain text leaves the modes under the stack. -/
theorem scanPlain_above (unread : Text) (stack : Stack) :
    scanPlain current (stack ++ lower) unread = (scanPlain current stack unread).above lower := by
  cases unread with
  | nil => rfl
  | cons c cs =>
    have number := settleNumber_above current lower (cs.dropWhile isDigit) stack
    have name := scanName_above current lower cs stack
    simp only [scanPlain, number, name, apply_ite (Step.above lower)]
    rfl

/-- What stands behind the sign of an expansion leaves the modes under the stack. -/
theorem scanReference_above (unread : Text) (below : Stack) :
    scanReference current (below ++ lower) unread =
      (scanReference current below unread).above lower := by
  cases unread with
  | nil => rfl
  | cons c cs =>
    rw [scanReference, scanReference]
    split
    · rfl
    · split
      · rfl
      · unfold settleReference
        split <;> rfl

/-- A region leaves the modes under the stack. -/
theorem scanRegion_above (closer : Text) (category : Category) (unread : Text) (below : Stack) :
    scanRegion closer category unread (below ++ lower) =
      (scanRegion closer category unread below).above lower := by
  fun_induction scanRegion closer category unread below with
  | case1 below => rfl
  | case2 c cs below closed =>
    rw [scanRegion_cons, if_pos closed]
    rfl
  | case3 c cs below closed dollar =>
    rw [scanRegion_cons, if_neg closed, if_pos dollar]
    rfl
  | case4 c cs below closed dollar opened nested =>
    rw [scanRegion_cons, if_neg closed, if_neg dollar, if_pos opened]
    exact nested
  | case5 c cs below closed dollar opened quote =>
    rw [scanRegion_cons, if_neg closed, if_neg dollar, if_neg opened, if_pos quote]
    rfl
  | case6 below closed opened quote dollar =>
    rw [scanRegion_cons, if_neg closed, if_neg dollar, if_neg opened, if_neg quote, if_pos rfl]
    rfl
  | case7 below hidden cs closed opened quote dollar read =>
    rw [scanRegion_cons, if_neg closed, if_neg dollar, if_neg opened, if_neg quote, if_pos rfl]
    exact read
  | case8 c cs below closed dollar opened quote escape read =>
    rw [scanRegion_cons, if_neg closed, if_neg dollar, if_neg opened, if_neg quote, if_neg escape]
    exact read

/-- A scanner leaves the modes under a stack that is enough for it. -/
theorem scan_above (unread : Text) {stack : Stack} (enough : stack.Enough) :
    scan current unread (stack ++ lower) = (scan current unread stack).above lower := by
  match stack, enough with
  | [], enough => exact absurd rfl enough.nonempty
  | .plain :: below, _ => exact scanPlain_above current lower unread (.plain :: below)
  | [.expansion], enough => exact absurd rfl enough.supported
  | .expansion :: top :: below, _ =>
    exact scanReference_above current lower (dropFront '$' unread) (top :: below)
  | .region _ _ true :: _, _ => rfl
  | .region closer category false :: below, _ =>
    exact congrArg Step.settled (scanRegion_above lower closer category unread below)

variable {current}

/-- What is enough for a scanner is enough for the one that it hands over to. -/
theorem enough_of_handedOver {unread rest : Text} {stack next : Stack} (enough : stack.Enough)
    (handed : scan current unread stack = .handedOver rest next) : next.Enough := by
  match stack, enough with
  | [], enough => exact absurd rfl enough.nonempty
  | .plain :: below, _ =>
    change scanPlain current (.plain :: below) unread = .handedOver rest next at handed
    rcases scanPlain_cases current (.plain :: below) unread with
      ⟨category, left, found⟩ | ⟨c, left, -, -, found⟩ | ⟨left, -, found⟩
    · rw [found] at handed
      cases handed
    · rw [found] at handed
      cases handed
      exact Stack.enough_cons_cons _ .plain below
    · rw [found] at handed
      cases handed
      exact Stack.enough_cons_cons .expansion .plain below
  | [.expansion], enough => exact absurd rfl enough.supported
  | .expansion :: top :: below, _ =>
    change scanReference current (top :: below) (dropFront '$' unread) = .handedOver rest next
      at handed
    rcases scanReference_cases current (top :: below) (dropFront '$' unread) with
      ⟨left, found⟩ | ⟨c, cs, mode, -, -, found⟩
    · rw [found] at handed
      cases handed
    · rw [found] at handed
      cases handed
      exact Stack.enough_cons_cons mode top below
  | .region closer category true :: below, _ =>
    cases handed
    exact Stack.enough_cons (by simp) below
  | .region _ _ false :: _, _ => cases handed

/-- Every scanner leaves the modes under a stack, wherever that is enough for it. -/
theorem transport_above :
    Transport current current id (· ++ lower) fun _ stack => stack.Enough where
  length _ := rfl
  step {unread _} enough := scan_above current lower unread enough
  handed enough handed := enough_of_handedOver enough handed
  stalled _ stuck := by
    -- the second attempt has the new mode on the stack of the first one
    obtain ⟨⟨closer, category, below, rfl⟩, opened, -, pushed⟩ := dispatch_stalled_cases stuck
    rw [pushed]
    exact Stack.enough_cons_cons opened _ below

variable (current)

/-- An expansion on some mode leaves all modes under it, and what it reads does not depend on
them. -/
theorem exists_dispatch_expansion (unread : Text) :
    ∃ result : Scanned, ∀ lower, lower ≠ [] →
      dispatch current unread (.expansion :: lower) = result.above lower := by
  have step {lower : Stack} (nonempty : lower ≠ []) : scan current unread (.expansion :: lower) =
      (scanReference current [] (dropFront '$' unread)).above lower := by
    have sign : lower.isEmpty = false := List.isEmpty_eq_false_iff.2 nonempty
    rw [scan, scanExpansion, sign]
    exact scanReference_above current lower (dropFront '$' unread) []
  rcases scanReference_cases current [] (dropFront '$' unread) with
    ⟨rest, found⟩ | ⟨c, cs, mode, -, region, found⟩
  · refine ⟨⟨.definition, rest, []⟩, fun lower nonempty => dispatch_settled ?_⟩
    rw [step nonempty, found]
    rfl
  · obtain ⟨closer, category, rfl⟩ := Mode.open_of_expanded? region
    refine ⟨dispatch current cs [.region closer category false], fun lower nonempty => ?_⟩
    have handed : scan current unread (.expansion :: lower) =
        .handedOver cs (.region closer category false :: lower) := by
      rw [step nonempty, found]
      rfl
    rw [dispatch_handedOver handed]
    exact (transport_above lower).dispatch (Stack.enough_cons (by simp) [])

/-- What a token reads, and what it puts in the place of the mode on top, does not depend on the
modes under that, except that an expansion must lie on some mode. -/
theorem exists_scanToken_above (c : Char) (cs : Text) (top : Mode) :
    ∃ result : Scanned, ∀ lower, lower ≠ [] ∨ top ≠ .expansion →
      scanToken current c cs (top :: lower) = result.above lower := by
  by_cases expands : top = .expansion
  · subst expands
    obtain ⟨result, found⟩ := exists_dispatch_expansion current (c :: cs)
    refine ⟨result, fun lower deep => ?_⟩
    have nonempty : lower ≠ [] := deep.resolve_right fun other => other rfl
    have read := dispatch_advances current c cs (.expansion :: lower) Nat.zero_lt_one
    rw [scanToken_of_read read.length_le]
    exact found lower nonempty
  · have enough : Stack.Enough [top] := Stack.enough_cons expands []
    exact ⟨scanToken current c cs [top], fun lower _ =>
      (transport_above lower).scanToken rfl enough⟩

end Scanner

namespace Cursor

/-- A cursor that can read gets the same token from the mode on top whatever lies under it, and
leaves that. -/
theorem exists_nextToken_above {cursor : Cursor} {unread : Text}
    (readable : cursor.unread? = some unread) (top : Mode) :
    ∃ token behind upper, ∀ lower, lower ≠ [] ∨ top ≠ .expansion →
      cursor.nextToken (top :: lower) = (some token, behind, upper ++ lower) := by
  have same : cursor.mark.unread? = some unread := readable
  cases unread with
  | nil =>
    refine ⟨cursor.mark.token .plain, cursor.mark, [top], fun lower _ => ?_⟩
    simp only [nextToken, same]
    rfl
  | cons c cs =>
    obtain ⟨result, found⟩ := Scanner.exists_scanToken_above
      (fun rest => (cursor.mark.leaving (c :: cs) rest).current) c cs top
    let behind := cursor.mark.leaving (c :: cs) result.rest
    refine ⟨behind.token result.category, behind, result.stack, fun lower deep => ?_⟩
    simp only [nextToken, same, found lower deep]
    rfl

end Cursor

/-- Two stacks with the same mode on top lead to the same token at every column of every line, and
the same modes then lie in the place of that mode, on the modes that lay under it. An expansion on
top must lie on some mode in both. -/
theorem Lexer.lower_modes_untouched (line : Text) (column : Nat) (top : Mode) (lower other : Stack)
    (deep : lower ≠ [] ∧ other ≠ [] ∨ top ≠ .expansion) :
    ∃ token behind upper,
      (Cursor.ofLine line column).nextToken (top :: lower) = (some token, behind, upper ++ lower) ∧
      (Cursor.ofLine line column).nextToken (top :: other) =
        (some token, behind, upper ++ other) := by
  have readable : (Cursor.ofLine line column).unread? = some (line.drop column) := by
    simp [Cursor.ofLine, Cursor.unread?]
  obtain ⟨token, behind, upper, found⟩ := Cursor.exists_nextToken_above readable top
  refine ⟨token, behind, upper, found lower ?_, found other ?_⟩
  · exact deep.imp_left And.left
  · exact deep.imp_left And.right

/-- A dollar sign and a bracket in a string start the same region as in braces within a string. -/
theorem Lexer.lower_modes_untouched_by_dollar :
    (([.region ['"'] .string false] : Stack) ≠ [] ∧
      ([.region ['}'] .definition false, .region ['"'] .string false] : Stack) ≠ []) ∧
    ∃ token behind upper,
      (Cursor.ofLine "a$(b".toList 1).nextToken [.expansion, .region ['"'] .string false] =
        (some token, behind, upper ++ [.region ['"'] .string false]) ∧
      (Cursor.ofLine "a$(b".toList 1).nextToken
          [.expansion, .region ['}'] .definition false, .region ['"'] .string false] =
        (some token, behind,
          upper ++ [.region ['}'] .definition false, .region ['"'] .string false]) := by
  have deep : ([.region ['"'] .string false] : Stack) ≠ [] ∧
      ([.region ['}'] .definition false, .region ['"'] .string false] : Stack) ≠ [] := by decide
  exact ⟨deep, Lexer.lower_modes_untouched "a$(b".toList 1 .expansion _ _ (.inl deep)⟩

-- On nothing an expansion takes the dollar sign for a name, and the bracket is left.
example :
    ((Cursor.ofLine "$(b".toList 0).nextToken [.expansion]).1 =
      some ⟨.definition, 0, 1, ['$']⟩ ∧
    ((Cursor.ofLine "$(b".toList 0).nextToken [.expansion, .plain]).1 =
      some ⟨.quote, 0, 3, "$(b".toList⟩ := by
  decide +kernel

end BatchScript
