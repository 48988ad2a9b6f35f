import BatchScript.Proofs.Lexer.Regions
import BatchScript.Proofs.Scanner.Outcomes
import BatchScript.Proofs.Text.Lines

/-!
# Stacks that lines leave behind

A line leaves open regions only: every sign that starts an expansion and every quote that opens a
nested string is read before the line ends. Single quotes hide all else, so nothing lies on them,
and a double quote inside double quotes closes them, so none lies directly on another. Every stack
of that form does occur.

Within a line the stack may also hold a mode whose first character is still to be read. `Fits` ties
such a mode to the text in front of it, and every scanner keeps the two together.
-/
namespace BatchScript

namespace Mode

/-- Inside single quotes. -/
def singleQuoted : Mode := .region ['\''] .string false

/-- Inside double quotes. -/
def doubleQuoted : Mode := .region ['"'] .string false

/-- Inside a parenthesised expansion. -/
def parenthesised : Mode := .region [')'] .quote false

/-- Inside an expansion in braces. -/
def braced : Mode := .region ['}'] .definition false

/-- The modes in which a line can end. -/
def carried : List Mode := [singleQuoted, doubleQuoted, parenthesised, braced]

end Mode

namespace Stack

/-- The form of the stacks that lines leave behind. -/
structure Carried (stack : Stack) : Prop where
  /-- Only open regions, of four kinds, outlast a line. -/
  modes : ∀ mode ∈ stack, mode ∈ Mode.carried
  /-- Nothing lies on single quotes. -/
  single_on_top : ∀ mode ∈ stack.tail, mode ≠ Mode.singleQuoted
  /-- No double quotes lie directly on double quotes. -/
  double_apart : ¬ [Mode.doubleQuoted, Mode.doubleQuoted] <:+: stack

/-- The empty stack is carried. -/
theorem Carried.nil : Carried [] := ⟨by simp, by simp, by simp⟩

/-- What lies under the top of a carried stack is carried. -/
theorem Carried.below {mode : Mode} {below : Stack} (stack : Carried (mode :: below)) :
    Carried below where
  modes lower inside := stack.modes lower (List.mem_cons_of_mem mode inside)
  single_on_top lower inside := stack.single_on_top lower (List.mem_of_mem_tail inside)
  double_apart inside := stack.double_apart (List.infix_cons inside)

/-- A region alone is carried. -/
theorem Carried.single {mode : Mode} (region : mode ∈ Mode.carried) : Carried [mode] :=
  ⟨by simpa using region, by simp, fun inside => absurd inside.length_le (by simp)⟩

/-- A region may be put on a carried stack whose top is not in single quotes and is not the same
double-quoted region. -/
theorem Carried.push {mode top : Mode} {below : Stack} (stack : Carried (top :: below))
    (region : mode ∈ Mode.carried) (hidden : top ≠ Mode.singleQuoted)
    (apart : ¬ (mode = Mode.doubleQuoted ∧ top = Mode.doubleQuoted)) :
    Carried (mode :: top :: below) where
  modes other inside := by
    rcases List.mem_cons.1 inside with rfl | lower
    · exact region
    · exact stack.modes other lower
  single_on_top other inside := by
    rcases List.mem_cons.1 inside with rfl | lower
    · exact hidden
    · exact stack.single_on_top other lower
  double_apart inside := by
    rcases List.infix_cons_iff.1 inside with front | lower
    · simp only [List.cons_prefix_cons] at front
      exact apart ⟨front.1.symm, front.2.1.symm⟩
    · exact stack.double_apart lower

end Stack

open Stack

/-- The modes in which a line can end are open regions. -/
theorem Mode.open_of_mem_carried {mode : Mode} (region : mode ∈ Mode.carried) :
    ∃ closer category, mode = .region closer category false := by
  simp only [Mode.carried, List.mem_cons, List.not_mem_nil, or_false] at region
  rcases region with rfl | rfl | rfl | rfl <;> exact ⟨_, _, rfl⟩

/-- Of the regions in which a line can end, each closer has its category. -/
theorem Mode.region_of_mem_carried {closer : Text} {category : Category}
    (region : Mode.region closer category false ∈ Mode.carried) :
    (closer = ['\''] ∧ category = .string) ∨ (closer = ['"'] ∧ category = .string) ∨
      (closer = [')'] ∧ category = .quote) ∨ (closer = ['}'] ∧ category = .definition) := by
  simpa only [Mode.carried, singleQuoted, doubleQuoted, parenthesised, braced, List.mem_cons,
    Mode.region.injEq, List.not_mem_nil, or_false, and_true] using region

/-- A quoted region can be carried. -/
theorem Mode.quoted_mem_carried {c : Char} (quote : c ∈ Text.quotes) :
    Mode.region [c] .string false ∈ Mode.carried := by
  simp only [Text.quotes, List.mem_cons, List.not_mem_nil, or_false] at quote
  rcases quote with rfl | rfl <;> decide

/-- A region that an expansion starts can be carried. -/
theorem Mode.expanded?_mem_carried {c : Char} {mode : Mode} (found : expanded? c = some mode) :
    mode ∈ Mode.carried := by
  rcases expanded?_cases found with ⟨-, rfl⟩ | ⟨-, rfl⟩ | ⟨quote, rfl⟩
  · decide
  · decide
  · exact quoted_mem_carried quote

/-- Every region that can be carried is started by an expansion, and not by a line end. -/
theorem Mode.exists_expanded? {mode : Mode} (region : mode ∈ Mode.carried) :
    ∃ c, expanded? c = some mode ∧ c ≠ '\n' ∧ c ≠ '\r' := by
  simp only [Mode.carried, List.mem_cons, List.not_mem_nil, or_false] at region
  rcases region with rfl | rfl | rfl | rfl
  · exact ⟨'\'', rfl, by decide, by decide⟩
  · exact ⟨'"', rfl, by decide, by decide⟩
  · exact ⟨'(', rfl, by decide, by decide⟩
  · exact ⟨'{', rfl, by decide, by decide⟩

/-- Only brackets have an opener of their own. -/
theorem Mode.bracket_of_opener {c : Char} {closer : Text} (open_ : ¬ [c] = closer)
    (opened : [c] = opener closer) : closer = [')'] ∨ closer = ['}'] := by
  unfold opener at opened
  split at opened
  · exact .inl (by assumption)
  · split at opened
    · exact .inr (by assumption)
    · exact absurd opened open_

/-- The stack fits the text in front of it: it is carried, or a mode lies on a carried stack whose
first character comes next. Only behind a percent sign an expansion lies on nothing. -/
inductive Fits : Text → Stack → Prop where
  /-- Nothing is pending. -/
  | carried {unread : Text} {stack : Stack} (carried : Carried stack) : Fits unread stack
  /-- A percent sign has just been read. -/
  | percent {unread : Text} : Fits unread [.expansion]
  /-- A dollar sign in a region comes next, and what follows does not close the region. -/
  | dollar {closer rest : Text} {category : Category} {below : Stack}
      (stack : Carried (.region closer category false :: below)) (shown : closer ≠ ['\''])
      (inside : rest.take 1 ≠ closer) :
      Fits ('$' :: rest) (.expansion :: .region closer category false :: below)
  /-- A quote in brackets comes next. -/
  | quote {c : Char} {closer rest : Text} {category : Category} {below : Stack}
      (stack : Carried (.region closer category false :: below)) (quote : c ∈ Text.quotes)
      (bracket : ¬ closer.occursIn Text.quotes) :
      Fits (c :: rest) (.region [c] .string true :: .region closer category false :: below)

/-- Between two tokens the stack fits, and no expansion lies on nothing. -/
def FitsBetween (unread : Text) (stack : Stack) : Prop :=
  Fits unread stack ∧ stack ≠ [.expansion]

/-- At the end of a line nothing is pending. -/
theorem FitsBetween.ended {stack : Stack} (between : FitsBetween [] stack) : Carried stack := by
  obtain ⟨fits, settled⟩ := between
  cases fits with
  | carried carried => exact carried
  | percent => exact absurd rfl settled

/-- A carried stack fits every text. -/
theorem Stack.Carried.between {stack : Stack} (carried : Carried stack) (unread : Text) :
    FitsBetween unread stack := by
  refine ⟨.carried carried, ?_⟩
  rintro rfl
  obtain ⟨closer, category, region⟩ :=
    Mode.open_of_mem_carried (carried.modes .expansion List.mem_cons_self)
  contradiction

namespace Scanner

/-- A region that can be carried leaves a stack that fits. -/
theorem scanRegion_between (closer : Text) (category : Category) (unread : Text) (below : Stack)
    (stack : Carried (.region closer category false :: below)) :
    FitsBetween (scanRegion closer category unread below).rest
      (scanRegion closer category unread below).stack := by
  fun_induction scanRegion closer category unread below with
  | case1 below => exact stack.between []
  | case2 c cs below closed => exact stack.below.between cs
  | case3 c cs below _ dollar =>
    obtain ⟨rfl, shown, inside⟩ := dollar
    exact ⟨.dollar stack shown inside, by simp⟩
  | case4 c cs below closed _ opened nested =>
    have bracket := Mode.bracket_of_opener closed opened
    refine nested (stack.push (stack.modes _ List.mem_cons_self) ?_ ?_)
    · rcases bracket with rfl | rfl <;> simp [Mode.singleQuoted]
    · rcases bracket with rfl | rfl <;> simp [Mode.doubleQuoted]
  | case5 c cs below _ _ _ quote => exact ⟨.quote stack quote.1 quote.2, by simp⟩
  | case6 below => exact stack.between []
  | case7 below hidden cs _ _ _ _ read => exact read stack
  | case8 c cs below _ _ _ _ _ read => exact read stack

/-- The region that an expansion starts can lie on the region that the expansion stood in, unless
its first character closes that region. -/
theorem carried_expanded {c : Char} {closer : Text} {category : Category} {mode : Mode}
    {below : Stack} (stack : Carried (.region closer category false :: below))
    (shown : closer ≠ ['\'']) (inside : [c] ≠ closer) (found : Mode.expanded? c = some mode) :
    Carried (mode :: .region closer category false :: below) := by
  refine stack.push (Mode.expanded?_mem_carried found) ?_ ?_
  · simp [Mode.singleQuoted, shown]
  · rintro ⟨rfl, same⟩
    simp only [Mode.doubleQuoted, Mode.region.injEq, and_true] at same
    rcases Mode.expanded?_cases found with ⟨-, other⟩ | ⟨-, other⟩ | ⟨-, other⟩
    · simp [Mode.doubleQuoted] at other
    · simp [Mode.doubleQuoted] at other
    · simp only [Mode.doubleQuoted, Mode.region.injEq, and_true] at other
      exact inside (other.symm.trans same.1.symm)

/-- A quoted region can lie on brackets. -/
theorem carried_quote {c : Char} {closer : Text} {category : Category} {below : Stack}
    (stack : Carried (.region closer category false :: below)) (quote : c ∈ Text.quotes)
    (bracket : ¬ closer.occursIn Text.quotes) :
    Carried (.region [c] .string false :: .region closer category false :: below) := by
  refine stack.push (Mode.quoted_mem_carried quote) ?_ ?_
  · rintro same
    simp only [Mode.singleQuoted, Mode.region.injEq] at same
    exact bracket (by rw [same.1]; decide)
  · rintro ⟨-, same⟩
    simp only [Mode.doubleQuoted, Mode.region.injEq] at same
    exact bracket (by rw [same.1]; decide)

/-- Every scanner keeps the stack and the text in front of it together, and a scanner that settles
leaves nothing behind a percent sign. -/
theorem scan_fits (current : Text → Text) {unread : Text} {stack : Stack}
    (fits : Fits unread stack) :
    match scan current unread stack with
    | .settled result => FitsBetween result.rest result.stack
    | .handedOver rest next => Fits rest next := by
  cases fits with
  | carried carried =>
    match stack with
    | [] =>
      rcases scanPlain_cases current [] unread with
        ⟨category, rest, found⟩ | ⟨c, rest, quote, -, found⟩ | ⟨rest, -, found⟩
      · simp only [scan, found]
        exact Carried.nil.between rest
      · simp only [scan, found]
        exact .carried (.single (Mode.quoted_mem_carried quote))
      · simp only [scan, found]
        exact .percent
    | .plain :: _ | .expansion :: _ | .region _ _ true :: _ =>
      obtain ⟨closer, category, region⟩ :=
        Mode.open_of_mem_carried (carried.modes _ List.mem_cons_self)
      simp at region
    | .region closer category false :: below =>
      exact scanRegion_between closer category unread below carried
  | percent =>
    rcases scanReference_cases current [] unread with
      ⟨rest, found⟩ | ⟨c, cs, mode, -, region, found⟩
    · simp only [scan, scanExpansion, List.isEmpty_nil, ↓reduceIte, found]
      exact Carried.nil.between rest
    · simp only [scan, scanExpansion, List.isEmpty_nil, ↓reduceIte, found]
      exact .carried (.single (Mode.expanded?_mem_carried region))
  | @dollar closer rest category below stack shown inside =>
    rcases scanReference_cases current (.region closer category false :: below) rest with
      ⟨left, found⟩ | ⟨c, cs, mode, rfl, region, found⟩
    · simp only [scan, scanExpansion, List.isEmpty_cons, Bool.false_eq_true, ↓reduceIte, dropFront,
        found]
      exact stack.between left
    · simp only [scan, scanExpansion, List.isEmpty_cons, Bool.false_eq_true, ↓reduceIte, dropFront,
        found]
      exact .carried (carried_expanded stack shown inside region)
  | quote stack quote bracket => exact .carried (carried_quote stack quote bracket)

/-- A stack that fits is left as one that fits between tokens, whichever scanners run. -/
theorem dispatch_between (current : Text → Text) {unread : Text} {stack : Stack}
    (fits : Fits unread stack) :
    FitsBetween (dispatch current unread stack).rest (dispatch current unread stack).stack := by
  fun_induction dispatch current unread stack with
  | case1 unread stack result settled =>
    have step := scan_fits current fits
    rw [settled] at step
    exact step
  | case2 unread stack rest next handed ih =>
    have step := scan_fits current fits
    rw [handed] at step
    exact ih step

/-- Where nothing has been read, the new stack fits the same text. -/
theorem dispatch_stalled_between (current : Text → Text) {c : Char} {cs : Text} {stack : Stack}
    (fits : Fits (c :: cs) stack)
    (stalled : ¬ (dispatch current (c :: cs) stack).rest.length ≤ cs.length) :
    FitsBetween (c :: cs) (dispatch current (c :: cs) stack).stack := by
  have step := dispatch_between current fits
  rw [eq_cons_of_stalled (dispatch_suffix current (c :: cs) stack) stalled] at step
  exact step

/-- A token keeps the stack and the text in front of it together. -/
theorem scanToken_between (current : Text → Text) {c : Char} {cs : Text} {stack : Stack}
    (between : FitsBetween (c :: cs) stack) :
    FitsBetween (scanToken current c cs stack).rest (scanToken current c cs stack).stack := by
  fun_induction scanToken current c cs stack with
  | case1 stack scanned read => exact dispatch_between current between.1
  | case2 stack scanned stalled ih =>
    exact ih (dispatch_stalled_between current between.1 stalled)

end Scanner

namespace Lexer

/-- A line taken up where its stack fits leaves a carried stack. -/
theorem carried_tokenizeFrom (column : Nat) {unread : Text} {stack : Stack}
    (between : FitsBetween unread stack) : Carried (tokenizeFrom column unread stack).2 := by
  fun_induction tokenizeFrom column unread stack with
  | case1 column stack => exact between.ended
  | case2 column stack c cs scanned token tokens final later ih =>
    rw [later] at ih
    exact ih (Scanner.scanToken_between (readSoFar (c :: cs)) between)

/-- Lines that start with a carried stack leave one. -/
theorem carried_tokenizeLines (lines : List Text) {stack : Stack} (carried : Carried stack) :
    Carried (tokenizeLines lines stack).2 := by
  induction lines generalizing stack with
  | nil => exact carried
  | cons line lines ih => exact ih (carried_tokenizeFrom 0 (carried.between line))

/-- The stack behind a line that is taken up in a region is the stack behind what the region leaves,
whether it has read anything or only opened a mode. -/
theorem snd_tokenizeLine_region (closer : Text) (category : Category) (unread : Text)
    (below : Stack) :
    (tokenizeLine unread (.region closer category false :: below)).2 =
      (tokenizeLine (Scanner.scanRegion closer category unread below).rest
        (Scanner.scanRegion closer category unread below).stack).2 := by
  cases unread with
  | nil => rfl
  | cons c cs =>
    rw [snd_tokenizeLine_cons]
    by_cases read : (Scanner.scanRegion closer category (c :: cs) below).rest.length ≤ cs.length
    · rw [nextScanned_region_of_read read]
    · -- nothing was read, so the mode that the region has opened reads the same text
      have whole := Scanner.eq_cons_of_stalled
        (Scanner.scanRegion_suffix closer category (c :: cs) below) read
      rw [nextScanned_region_of_stalled whole, whole, snd_tokenizeLine_cons]

/-- A percent sign and the first character of a region open the region on the empty stack. -/
theorem snd_tokenizeLine_percent {c : Char} {mode : Mode} (found : Mode.expanded? c = some mode)
    (rest : Text) : (tokenizeLine ('%' :: c :: rest) []).2 = (tokenizeLine rest [mode]).2 := by
  obtain ⟨closer, category, rfl⟩ := Mode.open_of_mem_carried (Mode.expanded?_mem_carried found)
  rw [snd_tokenizeLine_cons, nextScanned_percent found, ← snd_tokenizeLine_region]

/-- A dollar sign and the first character of a region open the region on another one, which the two
characters do not close. -/
theorem snd_tokenizeLine_dollar {c : Char} {mode : Mode} {closer : Text} {category : Category}
    (found : Mode.expanded? c = some mode) (shown : closer ≠ ['\'']) (dollar : ['$'] ≠ closer)
    (inside : [c] ≠ closer) (rest : Text) (below : Stack) :
    (tokenizeLine ('$' :: c :: rest) (.region closer category false :: below)).2 =
      (tokenizeLine rest (mode :: .region closer category false :: below)).2 := by
  obtain ⟨next, style, rfl⟩ := Mode.open_of_mem_carried (Mode.expanded?_mem_carried found)
  have stopped : Scanner.scanRegion closer category ('$' :: c :: rest) below =
      ⟨category, '$' :: c :: rest, .expansion :: .region closer category false :: below⟩ := by
    simp [Scanner.scanRegion, shown, dollar, inside]
  rw [snd_tokenizeLine_region, stopped, snd_tokenizeLine_cons, nextScanned_dollar_region found,
    ← snd_tokenizeLine_region]

/-- Two characters, no line ends, put the top of a carried stack on what lies below it. -/
theorem exists_signs {mode : Mode} {below : Stack} (carried : Carried (mode :: below)) :
    ∃ signs : Text, '\n' ∉ signs ∧ '\r' ∉ signs ∧
      ∀ rest, (tokenizeLine (signs ++ rest) below).2 = (tokenizeLine rest (mode :: below)).2 := by
  obtain ⟨c, found, feed, return_⟩ := Mode.exists_expanded? (carried.modes mode List.mem_cons_self)
  match below with
  | [] =>
    exact ⟨['%', c], by simp [feed.symm], by simp [return_.symm], snd_tokenizeLine_percent found⟩
  | top :: lower =>
    have shown : top ≠ Mode.singleQuoted := carried.single_on_top top List.mem_cons_self
    refine ⟨['$', c], by simp [feed.symm], by simp [return_.symm], fun rest => ?_⟩
    have region := carried.modes top (by simp)
    simp only [Mode.carried, List.mem_cons, List.not_mem_nil, or_false] at region
    rcases region with rfl | rfl | rfl | rfl
    · exact absurd rfl shown
    · refine snd_tokenizeLine_dollar found (by decide) (by decide) ?_ rest lower
      -- the same quote again would lie directly on the one below
      rintro same
      obtain rfl : c = '"' := by simpa using same
      obtain rfl : Mode.doubleQuoted = mode := Option.some.inj found
      exact carried.double_apart ⟨[], lower, rfl⟩
    · refine snd_tokenizeLine_dollar found (by decide) (by decide) ?_ rest lower
      rintro same
      obtain rfl : c = ')' := by simpa using same
      contradiction
    · refine snd_tokenizeLine_dollar found (by decide) (by decide) ?_ rest lower
      rintro same
      obtain rfl : c = '}' := by simpa using same
      contradiction

/-- Every carried stack lies behind some text without line ends, whatever follows the text. -/
theorem exists_opening {stack : Stack} (carried : Carried stack) :
    ∃ text : Text, '\n' ∉ text ∧ '\r' ∉ text ∧
      ∀ rest, (tokenizeLine (text ++ rest) []).2 = (tokenizeLine rest stack).2 := by
  induction stack with
  | nil => exact ⟨[], by simp, by simp, fun _ => rfl⟩
  | cons mode below ih =>
    obtain ⟨text, feed, return_, reached⟩ := ih carried.below
    obtain ⟨signs, noFeed, noReturn, pushed⟩ := exists_signs carried
    refine ⟨text ++ signs, by simp [feed, noFeed], by simp [return_, noReturn], fun rest => ?_⟩
    rw [List.append_assoc, reached, pushed]

/-- The stacks that scripts leave behind, lexed from the empty stack, are exactly the carried
ones. -/
theorem exists_source_iff_carried (stack : Stack) :
    (∃ source, (tokenize source []).2 = stack) ↔ Carried stack := by
  constructor
  · rintro ⟨source, rfl⟩
    exact carried_tokenizeLines source.lines Carried.nil
  · intro carried
    obtain ⟨text, feed, return_, reached⟩ := exists_opening carried
    refine ⟨text, ?_⟩
    have line : (tokenize text []).2 = (tokenizeLine text []).2 := by
      rw [tokenize, Text.lines_of_not_mem feed return_]
      rfl
    have ended := reached []
    rw [List.append_nil] at ended
    rw [line, ended, tokenizeLine, tokenizeFrom_nil]

end Lexer

end BatchScript
