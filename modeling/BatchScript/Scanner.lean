import BatchScript.Mode
import BatchScript.Text.Blank
import BatchScript.Vocabulary

/-!
# Scanners

One scanner per mode reads from the text that is left of a line. It either settles the category of
the token or hands over to the scanner of the mode it has just put on the stack. Handing over always
ends, since it leads from plain text to an expansion and from there to a region, and a region never
hands over. A region may settle without having read anything, because it has opened a new mode at
the character in front of it; the scanner of that mode then reads at least one character.

A scanner asks for the token's text so far through `current`, a function of the text that is left.
-/
namespace BatchScript

/-- A settled token: its category, the text that is left and the stack behind it. -/
structure Scanned where
  /-- How the token is styled. -/
  category : Category
  /-- What is left of the line. -/
  rest : Text
  /-- The modes that the rest is inside of. -/
  stack : Stack
  deriving DecidableEq, Repr

/-- What one scanner does. -/
inductive Step where
  /-- It settles the token. -/
  | settled (result : Scanned)
  /-- It leaves the token to the mode on top of the new stack. -/
  | handedOver (rest : Text) (stack : Stack)
  deriving DecidableEq, Repr

/-- What one scanner leaves of the line. -/
def Step.rest : Step → Text
  | .settled result => result.rest
  | .handedOver rest _ => rest

namespace Scanner

/-- The text without `c` at its front, if it stands there. -/
def dropFront (c : Char) : Text → Text
  | [] => []
  | d :: rest => if d = c then rest else d :: rest

/-- Settles a bare name that ends where `rest` begins: right in front of an equals sign it is a
definition, and otherwise it is looked up. -/
def settleName (current : Text → Text) (rest : Text) (stack : Stack) : Scanned :=
  if rest.head? = some '=' ∧ (current rest).any isWordChar then ⟨.definition, rest, stack⟩
  else ⟨(Vocabulary.lookup (current rest)).getD .plain, rest, stack⟩

/-- Reads the rest of a bare name. -/
def scanName (current : Text → Text) (unread : Text) (stack : Stack) : Scanned :=
  settleName current (unread.dropWhile isNameChar) stack

/-- Settles digits that end where `rest` begins: in front of a word they belong to a name. -/
def settleNumber (current : Text → Text) (rest : Text) (stack : Stack) : Scanned :=
  if rest.head?.any isWordChar then scanName current rest stack else ⟨.number, rest, stack⟩

/-- Settles the expansion of a variable whose name starts with `c` and ends where `rest` begins: a
name that started behind a percent sign takes a second one with it. -/
def settleReference (current : Text → Text) (c : Char) (rest : Text) (below : Stack) : Scanned :=
  if isWordChar c ∧ (current rest).head? = some '%' then ⟨.definition, dropFront '%' rest, below⟩
  else ⟨.definition, rest, below⟩

/-- Reads plain text: blanks, a quote or a percent sign that opens a mode, a comment, an operator, a
flag, a number or a name. -/
def scanPlain (current : Text → Text) (stack : Stack) : Text → Step
  | [] => .settled ⟨.plain, [], stack⟩
  | c :: cs =>
    if isBlank c then .settled ⟨.plain, cs.dropWhile isBlank, stack⟩
    else if c ∈ Text.quotes then .handedOver cs (.region [c] .string false :: stack)
    else if c = ':' ∧ cs.head? = some ':' then .settled ⟨.comment, [], stack⟩
    else if c = '%' then .handedOver cs (.expansion :: stack)
    else if c = '+' ∨ c = '=' ∨ c = '@' then .settled ⟨.operator, cs, stack⟩
    else if c = '-' then .settled ⟨.flag, (dropFront '-' cs).dropWhile isWordChar, stack⟩
    else if isDigit c ∨ c = '.' then .settled (settleNumber current (cs.dropWhile isDigit) stack)
    else .settled (scanName current cs stack)

/-- Reads a region, which lies on `below`, up to its closer, to a sign that opens another mode, or
to the end of the line. A backslash hides the character behind it, and an opener of the same kind
nests a region. -/
def scanRegion (closer : Text) (category : Category) : Text → Stack → Scanned
  | [], below => ⟨category, [], .region closer category false :: below⟩
  | c :: cs, below =>
    if [c] = closer then ⟨category, cs, below⟩
    else if c = '$' ∧ closer ≠ ['\''] ∧ cs.take 1 ≠ closer then
      ⟨category, c :: cs, .expansion :: .region closer category false :: below⟩
    else if [c] = Mode.opener closer then
      scanRegion closer category cs (.region closer category false :: below)
    else if c ∈ Text.quotes ∧ ¬ Text.occursIn closer Text.quotes then
      ⟨category, c :: cs, .region [c] .string true :: .region closer category false :: below⟩
    else if c = '\\' then
      match cs with
      | [] => ⟨category, [], .region closer category false :: below⟩
      | _ :: cs => scanRegion closer category cs below
    else scanRegion closer category cs below

/-- One character of a region: a backslash drops the one behind it, if there is one. -/
theorem scanRegion_cons (closer : Text) (category : Category) (c : Char) (cs : Text)
    (below : Stack) :
    scanRegion closer category (c :: cs) below =
      if [c] = closer then ⟨category, cs, below⟩
      else if c = '$' ∧ closer ≠ ['\''] ∧ cs.take 1 ≠ closer then
        ⟨category, c :: cs, .expansion :: .region closer category false :: below⟩
      else if [c] = Mode.opener closer then
        scanRegion closer category cs (.region closer category false :: below)
      else if c ∈ Text.quotes ∧ ¬ Text.occursIn closer Text.quotes then
        ⟨category, c :: cs, .region [c] .string true :: .region closer category false :: below⟩
      else if c = '\\' then scanRegion closer category (cs.drop 1) below
      else scanRegion closer category cs below := by
  cases cs <;> rfl

/-- Reads what stands behind the sign of an expansion: a bracket or a quote starts a region in place
of the expansion; anything else is one character and, if that is no digit, the word behind it. -/
def scanReference (current : Text → Text) (below : Stack) : Text → Step
  | [] => .settled ⟨.definition, [], below⟩
  | c :: cs =>
    match Mode.expanded? c with
    | some region => .handedOver cs (region :: below)
    | none =>
      if isDigit c then .settled ⟨.definition, cs, below⟩
      else .settled (settleReference current c (cs.dropWhile isWordChar) below)

/-- Reads an expansion; the dollar sign that may start it is read only above another mode. -/
def scanExpansion (current : Text → Text) (below : Stack) (unread : Text) : Step :=
  scanReference current below (if below.isEmpty then unread else dropFront '$' unread)

/-- Runs the scanner of the mode on top. A pending region reads its opening quote first. -/
def scan (current : Text → Text) (unread : Text) : Stack → Step
  | [] => scanPlain current [] unread
  | .plain :: below => scanPlain current (.plain :: below) unread
  | .expansion :: below => scanExpansion current below unread
  | .region closer category true :: below =>
    .handedOver (unread.drop 1) (.region closer category false :: below)
  | .region closer category false :: below =>
    .settled (scanRegion closer category unread below)

/-- How often the scanner on top can hand over before a token is settled. -/
def handovers : Stack → Nat
  | [] => 2
  | .plain :: _ => 2
  | .expansion :: _ => 1
  | .region _ _ true :: _ => 1
  | .region _ _ false :: _ => 0

/-- A region that an expansion starts is open, so it never hands over. -/
theorem handovers_expanded {c : Char} {mode : Mode} (found : Mode.expanded? c = some mode)
    (below : Stack) : handovers (mode :: below) = 0 := by
  unfold Mode.expanded? at found
  split at found <;> simp at found <;> subst found <;> rfl

/-- Handing over leads to a mode that hands over less often. -/
theorem handovers_lt {current : Text → Text} {unread rest : Text} {stack next : Stack}
    (handed : scan current unread stack = .handedOver rest next) :
    handovers next < handovers stack := by
  have plain : ∀ stack, scanPlain current stack unread = .handedOver rest next →
      handovers next < 2 := by
    intro stack handed
    unfold scanPlain at handed
    repeat' split at handed
    all_goals simp only [Step.handedOver.injEq, reduceCtorEq] at handed
    all_goals
      obtain ⟨rfl, rfl⟩ := handed
      simp [handovers]
  unfold scan at handed
  split at handed
  · exact plain _ handed
  · exact plain _ handed
  · unfold scanExpansion scanReference at handed
    split at handed
    · contradiction
    · split at handed
      · rename_i found
        simp only [Step.handedOver.injEq] at handed
        obtain ⟨rfl, rfl⟩ := handed
        rw [handovers_expanded found]
        exact Nat.zero_lt_one
      · repeat' split at handed
        all_goals simp only [reduceCtorEq] at handed
  · simp only [Step.handedOver.injEq] at handed
    obtain ⟨rfl, rfl⟩ := handed
    simp [handovers]
  · contradiction

/-- Hands over from scanner to scanner until one of them settles. -/
def dispatch (current : Text → Text) (unread : Text) (stack : Stack) : Scanned :=
  match _ : scan current unread stack with
  | .settled result => result
  | .handedOver rest next => dispatch current rest next
termination_by handovers stack
decreasing_by exact handovers_lt (by assumption)

/-- A scanner that settles is the last one to run. -/
theorem dispatch_settled {current : Text → Text} {unread : Text} {stack : Stack} {result : Scanned}
    (settled : scan current unread stack = .settled result) :
    dispatch current unread stack = result := by
  unfold dispatch
  split
  · simp_all
  · simp_all

/-- A scanner that hands over leaves the token to the next one. -/
theorem dispatch_handedOver {current : Text → Text} {unread rest : Text} {stack next : Stack}
    (handed : scan current unread stack = .handedOver rest next) :
    dispatch current unread stack = dispatch current rest next := by
  rw [dispatch]
  split
  · simp_all
  · simp_all

end Scanner

end BatchScript
