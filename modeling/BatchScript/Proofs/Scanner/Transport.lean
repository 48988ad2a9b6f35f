import BatchScript.Scanner.Progress

/-!
# Tokens carried over to another text and stack

A change of texts and a change of stacks carry every token over if they carry over what one scanner
does. The changes need to agree with the scanners only where some property holds that handing over
keeps, and that a second attempt finds again. The argument along the scanners of a token is made
here once.
-/
namespace BatchScript

/-- A settled token with another rest and another stack. -/
def Scanned.map (text : Text → Text) (modes : Stack → Stack) (scanned : Scanned) : Scanned :=
  ⟨scanned.category, text scanned.rest, modes scanned.stack⟩

/-- A step with another rest and another stack. -/
def Step.map (text : Text → Text) (modes : Stack → Stack) : Step → Step
  | .settled result => .settled (result.map text modes)
  | .handedOver rest stack => .handedOver (text rest) (modes stack)

/-- A step with the same rest and the same stack is the same. -/
theorem Step.map_id (step : Step) : step.map id id = step := by
  cases step <;> rfl

namespace Scanner

/-- The changes `text` and `modes` carry over what one scanner does wherever `kept` holds of what is
left and of the stack. The token so far is asked for through `current` before and through `other`
after the changes. -/
structure Transport (current other : Text → Text) (text : Text → Text) (modes : Stack → Stack)
    (kept : Text → Stack → Prop) : Prop where
  /-- The change of texts keeps their length. -/
  length : ∀ unread, (text unread).length = unread.length
  /-- A scanner does to the changed text and stack what it does to the text and the stack. -/
  step : ∀ {unread stack}, kept unread stack →
    scan other (text unread) (modes stack) = (scan current unread stack).map text modes
  /-- The scanner that the token is handed over to finds the property again. -/
  handed : ∀ {unread stack rest next}, kept unread stack →
    scan current unread stack = .handedOver rest next → kept rest next
  /-- So does a second attempt, where the first one has read nothing. -/
  stalled : ∀ {c cs stack}, kept (c :: cs) stack →
    ¬ (dispatch current (c :: cs) stack).rest.length ≤ cs.length →
    kept (c :: cs) (dispatch current (c :: cs) stack).stack

variable {current other text : Text → Text} {modes : Stack → Stack} {kept : Text → Stack → Prop}

/-- Handing over is carried over. -/
theorem Transport.dispatch (transport : Transport current other text modes kept) {unread : Text}
    {stack : Stack} (here : kept unread stack) :
    Scanner.dispatch other (text unread) (modes stack) =
      (Scanner.dispatch current unread stack).map text modes := by
  fun_induction Scanner.dispatch current unread stack with
  | case1 unread stack result settled =>
    have step := transport.step here
    rw [settled] at step
    exact dispatch_settled step
  | case2 unread stack rest next handed ih =>
    have step := transport.step here
    rw [handed] at step
    rw [dispatch_handedOver step]
    exact ih (transport.handed here handed)

/-- A token is carried over. -/
theorem Transport.scanToken (transport : Transport current other text modes kept) {c d : Char}
    {cs ds : Text} {stack : Stack} (whole : text (c :: cs) = d :: ds)
    (here : kept (c :: cs) stack) :
    Scanner.scanToken other d ds (modes stack) =
      (Scanner.scanToken current c cs stack).map text modes := by
  have long : ds.length = cs.length := by
    have same := transport.length (c :: cs)
    rw [whole, List.length_cons, List.length_cons] at same
    omega
  fun_induction Scanner.scanToken current c cs stack with
  | case1 stack scanned read =>
    have attempt : Scanner.dispatch other (d :: ds) (modes stack) = scanned.map text modes := by
      rw [← whole]
      exact transport.dispatch here
    have short : (Scanner.dispatch other (d :: ds) (modes stack)).rest.length ≤ ds.length := by
      rw [attempt, long, Scanned.map, transport.length]
      exact read
    rw [scanToken_of_read short, attempt]
  | case2 stack scanned stalled ih =>
    have attempt : Scanner.dispatch other (d :: ds) (modes stack) = scanned.map text modes := by
      rw [← whole]
      exact transport.dispatch here
    have stuck : ¬ (Scanner.dispatch other (d :: ds) (modes stack)).rest.length ≤ ds.length := by
      rw [attempt, long, Scanned.map, transport.length]
      exact stalled
    rw [scanToken_of_stalled stuck, attempt]
    exact ih (transport.stalled here stalled)

end Scanner

end BatchScript
