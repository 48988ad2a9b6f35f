import BatchScript.Proofs.Lexer.CarriedStacks
import BatchScript.Proofs.Lexer.RemainingText

/-!
# References to variables

A variable is referred to by its name between percent signs in plain text, or behind a dollar sign
inside a region. Either way the reference is one token, and behind it the text goes on where it was:
nothing of the expansion stays on the stack. A dollar sign never takes a percent sign behind the
name, and inside single quotes it starts no reference.
-/
namespace BatchScript

/-- The name of a variable: an ASCII letter or an underscore, and word characters behind it. -/
def Text.isVariableName : Text → Bool
  | [] => false
  | c :: cs => (c.isAlpha || c == '_') && cs.all isWordChar

/-- What ends the region on top of the stack, if one lies there. -/
def Stack.closer? : Stack → Option Text
  | .region closer _ _ :: _ => some closer
  | _ => none

/-- The stack without an expansion on top. -/
def Stack.restored : Stack → Stack
  | .expansion :: below => below
  | stack => stack

/-- The letters start behind the digits. -/
theorem le_toNat_of_isAlpha {c : Char} (alpha : c.isAlpha = true) : 65 ≤ c.toNat := by
  rcases Bool.or_eq_true_iff.1 alpha with upper | lower
  · have low : 'A'.val ≤ c.val := (of_decide_eq_true upper).1
    exact UInt32.le_iff_toNat_le.1 low
  · have low : 'a'.val ≤ c.val := of_decide_eq_true (Bool.and_eq_true_iff.1 lower).1
    have high : 97 ≤ c.toNat := UInt32.le_iff_toNat_le.1 low
    omega

/-- A letter or an underscore is no digit. -/
theorem isDigit_of_letter {c : Char} (letter : (c.isAlpha || c == '_') = true) :
    isDigit c = false := by
  rcases Bool.or_eq_true_iff.1 letter with alpha | underscore
  · cases digit : isDigit c with
    | false => rfl
    | true =>
      have high : c.val ≤ '9'.val := of_decide_eq_true (Bool.and_eq_true_iff.1 digit).2
      have least : c.toNat ≤ 57 := UInt32.le_iff_toNat_le.1 high
      have low := le_toNat_of_isAlpha alpha
      omega
  · rw [beq_iff_eq.1 underscore]
    decide

/-- A letter or an underscore is a word character. -/
theorem isWordChar_of_letter {c : Char} (letter : (c.isAlpha || c == '_') = true) :
    isWordChar c = true := by
  rcases Bool.or_eq_true_iff.1 letter with alpha | underscore
  · have alphanum : c.isAlphanum = true := Bool.or_eq_true_iff.2 (.inl alpha)
    exact Bool.or_eq_true_iff.2 (.inl alphanum)
  · exact Bool.or_eq_true_iff.2 (.inr underscore)

/-- A name is a word that does not start with a digit. -/
theorem Text.exists_of_isVariableName {name : Text} (named : name.isVariableName = true) :
    ∃ c cs, name = c :: cs ∧ isWordChar c = true ∧ isDigit c = false ∧
      ∀ d ∈ cs, isWordChar d = true := by
  match name, named with
  | c :: cs, named =>
    obtain ⟨letter, letters⟩ := Bool.and_eq_true_iff.1 named
    exact ⟨c, cs, rfl, isWordChar_of_letter letter, isDigit_of_letter letter,
      List.all_eq_true.1 letters⟩

/-- A word ends where a text begins that does not continue it. -/
theorem Text.dropWhile_word {word rest : Text} (letters : ∀ c ∈ word, isWordChar c = true)
    (ends : rest.head?.any isWordChar = false) : (word ++ rest).dropWhile isWordChar = rest := by
  rw [List.dropWhile_append_of_pos letters]
  cases rest with
  | nil => rfl
  | cons d ds =>
    have other : ¬ isWordChar d = true := Bool.eq_false_iff.1 ends
    exact List.dropWhile_cons_of_neg other

/-- A word character starts no region behind the sign of an expansion. -/
theorem Mode.expanded?_of_isWordChar {c : Char} (word : isWordChar c = true) :
    Mode.expanded? c = none := by
  cases found : Mode.expanded? c with
  | none => rfl
  | some mode =>
    rcases Mode.expanded?_cases found with ⟨rfl, -⟩ | ⟨rfl, -⟩ | ⟨quote, -⟩
    · exact absurd word (by decide)
    · exact absurd word (by decide)
    · simp only [Text.quotes, List.mem_cons, List.not_mem_nil, or_false] at quote
      rcases quote with rfl | rfl <;> exact absurd word (by decide)

namespace Lexer

open Scanner

/-- In plain text a name between percent signs is a definition, and the text stays plain. -/
theorem nextScanned_percent_name {name : Text} (named : name.isVariableName = true) (rest : Text) :
    nextScanned '%' (name ++ '%' :: rest) [] = ⟨.definition, rest, []⟩ := by
  obtain ⟨c, cs, rfl, word, digit, letters⟩ := Text.exists_of_isVariableName named
  let current := readSoFar ('%' :: (c :: cs ++ '%' :: rest))
  have sign : scan current ('%' :: (c :: cs ++ '%' :: rest)) [] =
      .handedOver (c :: cs ++ '%' :: rest) [.expansion] := by
    simp [scan, scanPlain, Text.quotes, show isBlank '%' = false by decide]
  have stops : (cs ++ '%' :: rest).dropWhile isWordChar = '%' :: rest :=
    Text.dropWhile_word letters rfl
  have first : (current ('%' :: rest)).head? = some '%' := by
    rw [show current ('%' :: rest) = _ from readSoFar_front rfl '%', List.head?_cons]
  have settled : scan current (c :: cs ++ '%' :: rest) [.expansion] =
      .settled ⟨.definition, rest, []⟩ := by
    simp [scan, scanExpansion, scanReference, Mode.expanded?_of_isWordChar word, digit, stops,
      settleReference, word, first, dropFront]
  have read := dispatch_advances current '%' (c :: cs ++ '%' :: rest) [] (by decide)
  rw [nextScanned, scanToken_of_read read.length_le, dispatch_handedOver sign]
  exact dispatch_settled settled

/-- Above some mode a dollar sign and a name are a definition, and the mode is on top again. -/
theorem nextScanned_dollar_variable {name rest : Text} (named : name.isVariableName = true)
    (ends : rest.head?.any isWordChar = false) (top : Mode) (below : Stack) :
    nextScanned '$' (name ++ rest) (.expansion :: top :: below) =
      ⟨.definition, rest, top :: below⟩ := by
  obtain ⟨c, cs, rfl, word, digit, letters⟩ := Text.exists_of_isVariableName named
  have plain : ∀ d ∈ (c :: cs ++ rest).head?, Mode.expanded? d = none := by
    intro d first
    obtain rfl : c = d := Option.some.inj first
    exact Mode.expanded?_of_isWordChar word
  rw [nextScanned_dollar_name (c :: cs ++ rest) top below plain]
  simp [digit, Text.dropWhile_word letters ends]

/-- In a region whose text may hold references, a dollar sign and a name are a definition, and the
stack stays. -/
theorem nextScanned_region_variable {name rest closer : Text} {category : Category} {below : Stack}
    (named : name.isVariableName = true) (ends : rest.head?.any isWordChar = false)
    (region : Mode.region closer category false ∈ Mode.carried) (shown : closer ≠ ['\'']) :
    nextScanned '$' (name ++ rest) (.region closer category false :: below) =
      ⟨.definition, rest, .region closer category false :: below⟩ := by
  obtain ⟨c, cs, rfl, word, -, -⟩ := Text.exists_of_isVariableName named
  -- neither the sign nor the first character of the name closes the region
  have other {d : Char} (plain : d ∉ ['"', ')', '}']) : [d] ≠ closer := by
    intro same
    rcases Mode.region_of_mem_carried region with ⟨rfl, -⟩ | ⟨rfl, -⟩ | ⟨rfl, -⟩ | ⟨rfl, -⟩
    · exact shown rfl
    all_goals
      obtain rfl := List.singleton_inj.1 same
      exact absurd plain (by decide)
  have inside : (c :: cs ++ rest).take 1 ≠ closer := by
    apply other
    intro closes
    simp only [List.mem_cons, List.not_mem_nil, or_false] at closes
    rcases closes with rfl | rfl | rfl <;> exact absurd word (by decide)
  have stopped : scanRegion closer category ('$' :: (c :: cs ++ rest)) below =
      ⟨category, '$' :: (c :: cs ++ rest),
        .expansion :: .region closer category false :: below⟩ := by
    rw [scanRegion_cons, if_neg (other (by decide)), if_pos ⟨rfl, shown, inside⟩]
  rw [nextScanned_region_of_stalled (by rw [stopped]), stopped]
  exact nextScanned_dollar_variable named ends _ below

/-- A carried stack has no expansion on top. -/
theorem restored_of_carried {stack : Stack} (carried : Stack.Carried stack) :
    stack.restored = stack := by
  cases stack with
  | nil => rfl
  | cons mode below =>
    have region := carried.modes mode List.mem_cons_self
    obtain ⟨closer, category, rfl⟩ := Mode.open_of_mem_carried region
    rfl

/-- Wherever the stack fits a dollar sign and a name, and no single quotes hide them, they are a
definition, and the region that they stand in is on top again. -/
theorem nextScanned_variable {name rest : Text} {stack : Stack}
    (named : name.isVariableName = true) (ends : rest.head?.any isWordChar = false)
    (between : FitsBetween ('$' :: (name ++ rest)) stack) (inside : stack ≠ [])
    (shown : stack.closer? ≠ some ['\'']) :
    nextScanned '$' (name ++ rest) stack = ⟨.definition, rest, stack.restored⟩ := by
  obtain ⟨fits, settled⟩ := between
  cases fits with
  | carried carried =>
    match stack, inside with
    | mode :: below, _ =>
      have region := carried.modes mode List.mem_cons_self
      obtain ⟨closer, category, rfl⟩ := Mode.open_of_mem_carried region
      have visible : closer ≠ ['\''] := fun same => shown (congrArg some same)
      exact nextScanned_region_variable named ends region visible
  | percent => exact absurd rfl settled
  | dollar => exact nextScanned_dollar_variable named ends _ _
  | quote _ quote _ => exact absurd quote (by decide)

end Lexer

namespace Cursor

open Lexer

/-- A cursor reads the token that the lexer is known to find at its column. -/
theorem nextToken_of_scanned {c : Char} {cs read rest : Text} {category : Category}
    {stack next : Stack} (scanned : nextScanned c cs stack = ⟨category, rest, next⟩)
    (whole : c :: cs = read ++ rest) (before : Text) (start : Int) :
    nextToken ⟨before ++ c :: cs, start, before.length⟩ stack =
      (some ⟨category, before.length, before.length + read.length, read⟩,
        ⟨before ++ c :: cs, before.length, before.length + read.length⟩, next) := by
  have left : c :: cs = read ++ (nextScanned c cs stack).rest := by
    rw [scanned]
    exact whole
  rw [nextToken_behind left, scanned]

/-- A cursor in front of a dollar sign and a name, where the stack fits and no single quotes hide
them, reads them as one token. -/
theorem nextToken_variable {name rest : Text} {stack : Stack} (named : name.isVariableName = true)
    (ends : rest.head?.any isWordChar = false)
    (between : FitsBetween ('$' :: (name ++ rest)) stack) (inside : stack ≠ [])
    (shown : stack.closer? ≠ some ['\'']) (before : Text) (start : Int) :
    nextToken ⟨before ++ '$' :: (name ++ rest), start, before.length⟩ stack =
      (some ⟨.definition, before.length, before.length + (name.length + 1), '$' :: name⟩,
        ⟨before ++ '$' :: (name ++ rest), before.length, before.length + (name.length + 1)⟩,
        stack.restored) := by
  have scanned := nextScanned_variable named ends between inside shown
  have whole : '$' :: (name ++ rest) = '$' :: name ++ rest := rfl
  exact nextToken_of_scanned scanned whole before start

/-- The stack goes on to fit what is left of the line. -/
theorem keptByTokens_fitsBetween :
    KeptByTokens fun _ _ unread stack => FitsBetween unread stack where
  ended here := here
  token _ _ here := Scanner.scanToken_between _ here

/-- The stack fits what is left of a line behind any number of its tokens, if it does at the
front. -/
theorem between_of_pass {line : Text} {stack next : Stack} {count column : Nat} {begun : Int}
    (between : FitsBetween line stack)
    (reached : (ofLine line 0).pass stack count = (⟨line, begun, column⟩, next)) :
    column ≤ line.length ∧ FitsBetween (line.drop column) next := by
  obtain ⟨front, rest, first, found, whole, passed, fits⟩ :=
    keptByTokens_fitsBetween.pass_ofLine between count
  rw [passed, Prod.mk.injEq, Cursor.mk.injEq] at reached
  obtain ⟨⟨-, -, place⟩, rfl⟩ := reached
  have column : front.length = column := Int.ofNat.inj place
  rw [← column, ← whole, List.length_append, List.drop_left]
  exact ⟨Nat.le_add_right _ _, fits⟩

end Cursor

namespace Lexer

/-- The name of a variable between percent signs in plain text is one token, and the text stays
plain. A name behind a dollar sign inside a region that a script has left open, single quotes apart,
is one token without what follows the name, and leaves the stack as it was. And wherever in a line
the lexer comes to such a name, the token ends with it, and the region around it is on top again. -/
theorem references_restore_stack (name : Text) (named : name.isVariableName = true) :
    (∀ rest : Text,
      (Cursor.ofLine ('%' :: (name ++ '%' :: rest)) 0).nextToken [] =
        (some ⟨.definition, 0, name.length + 2, '%' :: (name ++ ['%'])⟩,
          ⟨'%' :: (name ++ '%' :: rest), 0, name.length + 2⟩, [])) ∧
    (∀ (rest : Text) (stack : Stack), rest.head?.any isWordChar = false →
      (∃ source, (tokenize source []).2 = stack) → stack ≠ [] → stack.closer? ≠ some ['\''] →
      (Cursor.ofLine ('$' :: (name ++ rest)) 0).nextToken stack =
        (some ⟨.definition, 0, name.length + 1, '$' :: name⟩,
          ⟨'$' :: (name ++ rest), 0, name.length + 1⟩, stack)) ∧
    ∀ (source line rest : Text) (count column : Nat) (begun : Int) (stack : Stack),
      (Cursor.ofLine line 0).pass (tokenize source []).2 count = (⟨line, begun, column⟩, stack) →
      line.drop column = '$' :: (name ++ rest) → rest.head?.any isWordChar = false →
      stack ≠ [] → stack.closer? ≠ some ['\''] →
      Cursor.nextToken ⟨line, begun, column⟩ stack =
        (some ⟨.definition, column, column + (name.length + 1), '$' :: name⟩,
          ⟨line, column, column + (name.length + 1)⟩, stack.restored) := by
  refine ⟨fun rest => ?_, fun rest stack ends reachable inside shown => ?_, ?_⟩
  · have whole : '%' :: (name ++ '%' :: rest) = '%' :: (name ++ ['%']) ++ rest := by simp
    have width : (0 : Int) + ('%' :: (name ++ ['%'])).length = name.length + 2 := by
      rw [List.length_cons, List.length_append, List.length_singleton]
      omega
    have token := Cursor.nextToken_of_scanned (nextScanned_percent_name named rest) whole [] 0
    rw [List.length_nil, Int.natCast_zero, width] at token
    exact token
  · obtain ⟨source, rfl⟩ := reachable
    have carried : Stack.Carried (tokenize source []).2 := carried_tokenizeLines source.lines .nil
    have token := Cursor.nextToken_variable named ends (carried.between _) inside shown [] 0
    rw [restored_of_carried carried, List.length_nil, Int.natCast_zero, Int.zero_add] at token
    exact token
  · intro source line rest count column begun stack reached left ends inside shown
    have carried : Stack.Carried (tokenize source []).2 := carried_tokenizeLines source.lines .nil
    obtain ⟨within, between⟩ := Cursor.between_of_pass (carried.between line) reached
    rw [left] at between
    have token := Cursor.nextToken_variable named ends between inside shown (line.take column) begun
    rw [← left, List.take_append_drop, List.length_take_of_le within] at token
    exact token

/-- A name between percent signs in plain text, one in a string within brackets that a script has
left open, with a percent sign behind it, and one that interrupts a string further on in a line. -/
theorem references_restore_stack_in_strings :
    Text.isVariableName ['a', '_', '1'] = true ∧
    (Cursor.ofLine ['%', 'a', '_', '1', '%', '%'] 0).nextToken [] =
      (some ⟨.definition, 0, 5, ['%', 'a', '_', '1', '%']⟩, ⟨['%', 'a', '_', '1', '%', '%'], 0, 5⟩,
        []) ∧
    (tokenize ['%', '(', '"'] []).2 = [Mode.doubleQuoted, Mode.parenthesised] ∧
    (Cursor.ofLine ['$', 'a', '_', '1', '%'] 0).nextToken [Mode.doubleQuoted, Mode.parenthesised] =
      (some ⟨.definition, 0, 4, ['$', 'a', '_', '1']⟩, ⟨['$', 'a', '_', '1', '%'], 0, 4⟩,
        [Mode.doubleQuoted, Mode.parenthesised]) ∧
    (Cursor.ofLine ['"', 'x', '$', 'a', '_', '1', '"'] 0).pass (tokenize [] []).2 1 =
      (⟨['"', 'x', '$', 'a', '_', '1', '"'], 0, 2⟩, [.expansion, Mode.doubleQuoted]) ∧
    Cursor.nextToken ⟨['"', 'x', '$', 'a', '_', '1', '"'], 0, 2⟩ [.expansion, Mode.doubleQuoted] =
      (some ⟨.definition, 2, 6, ['$', 'a', '_', '1']⟩, ⟨['"', 'x', '$', 'a', '_', '1', '"'], 2, 6⟩,
        [Mode.doubleQuoted]) := by
  have named : Text.isVariableName ['a', '_', '1'] = true := by decide
  have left : (tokenize ['%', '(', '"'] []).2 = [Mode.doubleQuoted, Mode.parenthesised] := by
    decide +kernel
  have reached : (Cursor.ofLine ['"', 'x', '$', 'a', '_', '1', '"'] 0).pass (tokenize [] []).2 1 =
      (⟨['"', 'x', '$', 'a', '_', '1', '"'], 0, 2⟩, [.expansion, Mode.doubleQuoted]) := by
    decide +kernel
  obtain ⟨percent, region, within⟩ := references_restore_stack ['a', '_', '1'] named
  refine ⟨named, percent ['%'], left, ?_, reached, ?_⟩
  · exact region ['%'] _ (by decide) ⟨_, left⟩ (by decide) (by decide)
  · exact within [] _ ['"'] 1 2 0 _ reached rfl (by decide) (by decide) (by decide)

-- In single quotes the sign and the name are string text.
example : ((Cursor.ofLine ['$', 'a'] 0).nextToken [Mode.singleQuoted]).1 =
    some ⟨.string, 0, 2, ['$', 'a']⟩ := by
  decide +kernel

end Lexer

end BatchScript
