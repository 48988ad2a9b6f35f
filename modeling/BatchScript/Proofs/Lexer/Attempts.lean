import BatchScript.Proofs.Lexer.Reading
import BatchScript.Proofs.Scanner.Outcomes

/-!
# Attempts at a token

The scanners are run for a token until something has been read, and in a run each scanner may call
the next one. That ends soon: a run that reads nothing has put a mode on the stack whose scanner
reads a character, so there is no third run, and calls lead only from plain text to an expansion and
from there to a region.
-/
namespace BatchScript

namespace Scanner

/-- The scanners are run for a token from a stack on, with these results in order, until something
of the text has been read. -/
inductive Attempts (current : Text → Text) (unread : Text) : Stack → List Scanned → Prop
  /-- A run that reads something is the last one. -/
  | last {stack : Stack} (read : (dispatch current unread stack).rest.length < unread.length) :
    Attempts current unread stack [dispatch current unread stack]
  /-- A run that reads nothing is followed by another one on the stack that it leaves. -/
  | again {stack : Stack} {results : List Scanned}
    (stalled : ¬ (dispatch current unread stack).rest.length < unread.length)
    (later : Attempts current unread (dispatch current unread stack).stack results) :
    Attempts current unread stack (dispatch current unread stack :: results)

/-- A call of the scanner for a stack leads to calls inside each other, so many with itself. -/
inductive Nested (current : Text → Text) : Text → Stack → Nat → Prop
  /-- The call itself. -/
  | call (unread : Text) (stack : Stack) : Nested current unread stack 1
  /-- A scanner that hands over calls the next one. -/
  | inner {unread rest : Text} {stack next : Stack} {depth : Nat}
    (handed : scan current unread stack = .handedOver rest next)
    (called : Nested current rest next depth) : Nested current unread stack (depth + 1)

/-- How attempts at a token end that start with a text and a stack. -/
inductive Ends (unread : Text) (stack : Stack) : List Scanned → Prop
  /-- The only attempt reads something. -/
  | once {first : Scanned} (read : first.rest.length < unread.length) : Ends unread stack [first]
  /-- The first attempt reads nothing, but puts an expansion or a pending string on the stack, and
  the second one reads something. -/
  | twice {first second : Scanned} {opened : Mode} (nothing : first.rest = unread)
    (mode : opened = .expansion ∨ opened = .region (unread.take 1) .string true)
    (pushed : first.stack = opened :: stack) (read : second.rest.length < unread.length) :
    Ends unread stack [first, second]

/-- There is no third attempt. -/
theorem Ends.length_le {unread : Text} {stack : Stack} {results : List Scanned}
    (ends : Ends unread stack results) : results.length ≤ 2 := by
  cases ends with
  | once => exact Nat.le_succ 1
  | twice => exact Nat.le_refl 2

variable {current : Text → Text}

/-- The attempts at a token are determined. -/
theorem Attempts.eq {unread : Text} {stack : Stack} {results others : List Scanned}
    (made : Attempts current unread stack results) (other : Attempts current unread stack others) :
    others = results := by
  induction made generalizing others with
  | last read =>
    cases other with
    | last => rfl
    | again stalled => exact absurd read stalled
  | again stalled _ ih =>
    cases other with
    | last read => exact absurd read stalled
    | again _ later => rw [ih later]

/-- The last attempt at a token settles it. -/
theorem Attempts.getLast? {c : Char} {cs : Text} {stack : Stack} {results : List Scanned}
    (made : Attempts current (c :: cs) stack results) :
    results.getLast? = some (scanToken current c cs stack) := by
  induction made with
  | last read =>
    rw [scanToken_of_read (Nat.le_of_lt_succ read)]
    rfl
  | again stalled later ih =>
    rw [scanToken_of_stalled fun read => stalled (Nat.lt_succ_of_le read), List.getLast?_cons, ih]
    rfl

/-- Wherever a character is left, the attempts at a token end with the first or the second one. -/
theorem exists_attempts (current : Text → Text) (c : Char) (cs : Text) (stack : Stack) :
    ∃ results, Attempts current (c :: cs) stack results ∧ Ends (c :: cs) stack results := by
  by_cases read : (dispatch current (c :: cs) stack).rest.length ≤ cs.length
  · exact ⟨_, .last (Nat.lt_succ_of_le read), .once (Nat.lt_succ_of_le read)⟩
  · obtain ⟨-, opened, mode, pushed⟩ := dispatch_stalled_cases read
    have nothing := eq_cons_of_stalled (dispatch_suffix current (c :: cs) stack) read
    have movable : 0 < handovers (opened :: stack) := by
      rcases mode with rfl | rfl <;> exact Nat.zero_lt_one
    have second := (dispatch_advances current c cs (opened :: stack) movable).length_le
    have stalled : ¬ (dispatch current (c :: cs) stack).rest.length < (c :: cs).length :=
      fun less => read (Nat.le_of_lt_succ less)
    have later : Attempts current (c :: cs) (dispatch current (c :: cs) stack).stack
        [dispatch current (c :: cs) (opened :: stack)] := by
      rw [pushed]
      exact .last (Nat.lt_succ_of_le second)
    exact ⟨_, .again stalled later, .twice nothing mode pushed (Nat.lt_succ_of_le second)⟩

/-- Calls inside each other are no more than the scanner on top can hand over, and one. -/
theorem Nested.depth_le {unread : Text} {stack : Stack} {depth : Nat}
    (nested : Nested current unread stack depth) : depth ≤ handovers stack + 1 := by
  induction nested with
  | call unread stack => exact Nat.le_add_left 1 (handovers stack)
  | inner handed _ ih =>
    have less := handovers_lt handed
    omega

/-- No scanner can hand over more than twice. -/
theorem handovers_le_two (stack : Stack) : handovers stack ≤ 2 := by
  unfold handovers
  split <;> decide

end Scanner

namespace Cursor

/-- In front of the end of its line a cursor has a character to read, if it is not too far in front
of the line. -/
theorem exists_unread {cursor : Cursor} (before : cursor.pos < cursor.line.length)
    (near : 0 ≤ cursor.pos + cursor.line.length) : ∃ c cs, cursor.unread? = some (c :: cs) := by
  have some : ∃ unread, cursor.unread? = some unread := by
    unfold unread?
    by_cases inside : 0 ≤ cursor.pos
    · exact ⟨_, if_pos inside⟩
    · exact ⟨_, (if_neg inside).trans (if_pos near)⟩
  obtain ⟨unread, readable⟩ := some
  cases unread with
  | nil => exact absurd readable (unread?_ne_nil before)
  | cons c cs => exact ⟨c, cs, readable⟩

end Cursor

/-- At every position of every line and on every stack, the runs of the scanners for the next token
are one or two. If the first one reads nothing, it has put an expansion or a pending string on the
stack, which is otherwise unchanged, and the second one reads a character. The last one settles the
token. In no run are there more than three calls inside each other. -/
theorem Lexer.attempts_end (line : Text) (position : Int) (stack : Stack)
    (before : position < line.length) (near : 0 ≤ position + line.length) :
    let cursor := Cursor.ofLine line position
    ∃ unread results last, cursor.unread? = some unread ∧
      (∀ attempts, Scanner.Attempts (fun rest => (cursor.leaving unread rest).current) unread stack
        attempts ↔ attempts = results) ∧
      results.length ≤ 2 ∧ Scanner.Ends unread stack results ∧ results.getLast? = some last ∧
      cursor.nextToken stack = (some ((cursor.leaving unread last.rest).token last.category),
        cursor.leaving unread last.rest, last.stack) ∧
      ∀ current text modes depth, Scanner.Nested current text modes depth → depth ≤ 3 := by
  intro cursor
  obtain ⟨c, cs, readable⟩ : ∃ c cs, cursor.unread? = some (c :: cs) :=
    Cursor.exists_unread before near
  let current := fun rest => (cursor.leaving (c :: cs) rest).current
  obtain ⟨results, made, ends⟩ := Scanner.exists_attempts current c cs stack
  refine ⟨c :: cs, results, Scanner.scanToken current c cs stack, readable,
    fun attempts => ⟨?_, ?_⟩, ends.length_le, ends, made.getLast?, ?_,
    fun current text modes depth nested => ?_⟩
  · exact made.eq
  · rintro rfl
    exact made
  · have same : cursor.mark.unread? = some (c :: cs) := readable
    simp only [Cursor.nextToken, same]
    rfl
  · have called := nested.depth_le
    have bound := Scanner.handovers_le_two modes
    omega

/-- In a string, the first run stops in front of a dollar sign without having read anything, and the
second one reads the variable. -/
theorem Lexer.attempts_end_at_dollar :
    let line := "a$x\"".toList
    let unread := "$x\"".toList
    let stack : Stack := [.region ['"'] .string false]
    let cursor := Cursor.ofLine line 1
    let results : List Scanned :=
      [⟨.string, unread, .expansion :: stack⟩, ⟨.definition, ['"'], stack⟩]
    (1 : Int) < line.length ∧ 0 ≤ (1 : Int) + line.length ∧
      Scanner.Attempts (fun rest => (cursor.leaving unread rest).current) unread stack results ∧
      Scanner.Ends unread stack results ∧
      cursor.nextToken stack = (some ⟨.definition, 1, 3, "$x".toList⟩, ⟨line, 1, 3⟩, stack) := by
  intro line unread stack cursor results
  have before : (1 : Int) < line.length := by decide
  have near : 0 ≤ (1 : Int) + line.length := by decide
  let current := fun rest => (cursor.leaving unread rest).current
  have first : Scanner.dispatch current unread stack = ⟨.string, unread, .expansion :: stack⟩ := by
    decide +kernel
  have second :
      Scanner.dispatch current unread (.expansion :: stack) = ⟨.definition, ['"'], stack⟩ := by
    decide +kernel
  have made : Scanner.Attempts current unread stack
      [Scanner.dispatch current unread stack,
        Scanner.dispatch current unread (.expansion :: stack)] := by
    refine .again ?_ ?_
    · rw [first]
      decide
    · rw [first]
      refine .last ?_
      rw [second]
      decide
  rw [first, second] at made
  obtain ⟨left, found, last, readable, only, -, ends, settled, token, -⟩ :=
    Lexer.attempts_end line 1 stack before near
  obtain rfl : unread = left := Option.some.inj readable
  obtain rfl : results = found := (only results).1 made
  obtain rfl : (⟨.definition, ['"'], stack⟩ : Scanned) = last := Option.some.inj settled
  exact ⟨before, near, made, ends, token⟩

-- Plain text, an expansion and the region that it starts call each other: three calls are reached.
example : Scanner.Nested id "%(x".toList [] 3 :=
  .inner rfl (.inner rfl (.call _ _))

end BatchScript
