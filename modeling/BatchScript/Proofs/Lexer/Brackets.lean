import BatchScript.Proofs.Lexer.Leaving
import BatchScript.Proofs.Lexer.Regions
import BatchScript.Proofs.Lexer.Restart

/-!
# Nested brackets

A region of brackets puts itself on the stack once more for every opening bracket, all in one token,
and a token ends at every closing one. How deep the text is nested can be told from the numbers of
opening and closing brackets in front of a place, and the stack behind each token agrees with that,
from token to token and from line to line. So a region is left at the bracket that closes it.
-/
namespace BatchScript

/-- The two kinds of brackets that a region can have. -/
inductive BracketKind where
  /-- Parentheses. -/
  | parenthesis
  /-- Braces. -/
  | brace
  deriving DecidableEq, Repr

/-- Text in which a region of brackets minds nothing but brackets: it holds no backslash, no dollar
sign and no quote. -/
def Text.Unmarked (text : Text) : Prop := ∀ c ∈ text, c ∉ ['\\', '$', '\'', '"']

instance (text : Text) : Decidable text.Unmarked :=
  decidable_of_iff (text.all fun c => decide (c ∉ ['\\', '$', '\'', '"'])) (by
    simp only [List.all_eq_true, decide_eq_true_eq, Text.Unmarked])

namespace BracketKind

/-- The opening bracket. -/
def opener : BracketKind → Char
  | parenthesis => '('
  | brace => '{'

/-- The closing bracket. -/
def closer : BracketKind → Char
  | parenthesis => ')'
  | brace => '}'

/-- How text between the brackets is styled. -/
def category : BracketKind → Category
  | parenthesis => .quote
  | brace => .definition

/-- The mode inside the brackets. -/
def mode (kind : BracketKind) : Mode := .region [kind.closer] kind.category false

/-- A text in brackets, behind the sign of an expansion in plain text. -/
def enclose (kind : BracketKind) (body : Text) : Text := '%' :: kind.opener :: body ++ [kind.closer]

/-- A text closes `depth` brackets more than it opens. -/
def Closes (kind : BracketKind) (depth : Nat) (text : Text) : Prop :=
  text.count kind.closer = text.count kind.opener + depth

instance (kind : BracketKind) (depth : Nat) (text : Text) : Decidable (kind.Closes depth text) :=
  inferInstanceAs (Decidable (_ = _))

/-- A text closes its brackets, and never more than it has opened. -/
structure Balanced (kind : BracketKind) (text : Text) : Prop where
  /-- In front of no place are there more closing brackets than opening ones. -/
  opened : ∀ n ≤ text.length, (text.take n).count kind.closer ≤ (text.take n).count kind.opener
  /-- In the end all of them are closed. -/
  closed : text.count kind.closer = text.count kind.opener

/-- Text that leads from one depth of nesting to another and does not leave the brackets before its
end. -/
inductive Leads (kind : BracketKind) : Nat → Text → Nat → Prop where
  /-- Without text the depth stays. -/
  | nil (depth : Nat) : Leads kind depth [] depth
  /-- An opening bracket leads one deeper. -/
  | opener {depth final : Nat} {text : Text} (behind : Leads kind (depth + 2) text final) :
      Leads kind (depth + 1) (kind.opener :: text) final
  /-- A closing bracket leads back. -/
  | closer {depth final : Nat} {text : Text} (behind : Leads kind depth text final) :
      Leads kind (depth + 1) (kind.closer :: text) final
  /-- Any other character that is not marked does not matter. -/
  | other {depth final : Nat} {text : Text} {c : Char} (opens : c ≠ kind.opener)
      (closes : c ≠ kind.closer) (plain : c ∉ ['\\', '$', '\'', '"'])
      (behind : Leads kind (depth + 1) text final) : Leads kind (depth + 1) (c :: text) final

variable {kind : BracketKind} {depth middle final : Nat} {text front rest : Text}

/-- The two brackets differ. -/
theorem opener_ne_closer (kind : BracketKind) : kind.opener ≠ kind.closer := by
  cases kind <;> decide

/-- The opening bracket is the one that nests a region. -/
theorem opener_closer (kind : BracketKind) : Mode.opener [kind.closer] = [kind.opener] := by
  cases kind <;> rfl

/-- The opening bracket starts the region behind the sign of an expansion. -/
theorem expanded?_opener (kind : BracketKind) : Mode.expanded? kind.opener = some kind.mode := by
  cases kind <;> rfl

namespace Leads

/-- The depth changes by the difference of the brackets. -/
theorem count (leads : kind.Leads depth text final) :
    text.count kind.opener + depth = text.count kind.closer + final := by
  have differ := kind.opener_ne_closer
  induction leads with
  | nil => rfl
  | opener _ ih =>
    rw [List.count_cons_self, List.count_cons_of_ne differ]
    omega
  | closer _ ih =>
    rw [List.count_cons_self, List.count_cons_of_ne differ.symm]
    omega
  | other opens closes _ _ ih =>
    rw [List.count_cons_of_ne opens, List.count_cons_of_ne closes]
    exact ih

/-- Two texts lead on one after the other. -/
theorem append (first : kind.Leads depth front middle) (second : kind.Leads middle text final) :
    kind.Leads depth (front ++ text) final := by
  induction first with
  | nil => exact second
  | opener _ ih => exact .opener (ih second)
  | closer _ ih => exact .closer (ih second)
  | other opens closes plain _ ih => exact .other opens closes plain (ih second)

/-- At every place there is a depth. -/
theorem split {front text : Text} (leads : kind.Leads depth (front ++ text) final) :
    ∃ middle, kind.Leads depth front middle ∧ kind.Leads middle text final := by
  induction front generalizing depth with
  | nil => exact ⟨depth, .nil depth, leads⟩
  | cons c cs ih =>
    rw [List.cons_append] at leads
    generalize whole : c :: (cs ++ text) = line at leads
    cases leads with
    | nil => contradiction
    | opener behind =>
      obtain ⟨rfl, rfl⟩ := List.cons.inj whole
      obtain ⟨middle, first, second⟩ := ih behind
      exact ⟨middle, .opener first, second⟩
    | closer behind =>
      obtain ⟨rfl, rfl⟩ := List.cons.inj whole
      obtain ⟨middle, first, second⟩ := ih behind
      exact ⟨middle, .closer first, second⟩
    | other opens closes plain behind =>
      obtain ⟨rfl, rfl⟩ := List.cons.inj whole
      obtain ⟨middle, first, second⟩ := ih behind
      exact ⟨middle, .other opens closes plain first, second⟩

/-- Outside the brackets nothing is left. -/
theorem eq_nil (leads : kind.Leads 0 text final) : text = [] := by
  cases leads
  rfl

/-- Without text the depth stays. -/
theorem eq_of_nil (leads : kind.Leads depth [] final) : depth = final := by
  cases leads
  rfl

/-- A character that is no bracket does not change the depth. -/
theorem of_other {c : Char} (opens : c ≠ kind.opener) (closes : c ≠ kind.closer)
    (leads : kind.Leads depth (c :: text) final) : kind.Leads depth text final := by
  cases leads with
  | opener => contradiction
  | closer => contradiction
  | other _ _ _ behind => exact behind

end Leads

/-- An opening bracket calls for one more closing bracket behind it. -/
theorem closes_opener :
    kind.Closes (depth + 1) (kind.opener :: text) ↔ kind.Closes (depth + 2) text := by
  rw [Closes, Closes, List.count_cons_self, List.count_cons_of_ne kind.opener_ne_closer]
  omega

/-- A closing bracket calls for one less. -/
theorem closes_closer : kind.Closes (depth + 1) (kind.closer :: text) ↔ kind.Closes depth text := by
  rw [Closes, Closes, List.count_cons_self, List.count_cons_of_ne kind.opener_ne_closer.symm]
  omega

/-- Any other character does not matter. -/
theorem closes_other {c : Char} (opens : c ≠ kind.opener) (closes : c ≠ kind.closer) :
    kind.Closes depth (c :: text) ↔ kind.Closes depth text := by
  rw [Closes, Closes, List.count_cons_of_ne opens, List.count_cons_of_ne closes]

/-- Unmarked text that has not left the brackets before its end leads to some depth. -/
theorem exists_leads (plain : text.Unmarked)
    (inside : ∀ n < text.length, ¬ kind.Closes depth (text.take n)) :
    ∃ final, kind.Leads depth text final := by
  induction text generalizing depth with
  | nil => exact ⟨depth, .nil depth⟩
  | cons c cs ih =>
    have start : depth ≠ 0 := by
      have first := inside 0 (Nat.zero_lt_succ _)
      simpa [Closes, eq_comm] using first
    obtain ⟨depth, rfl⟩ := Nat.exists_eq_succ_of_ne_zero start
    have behind : Text.Unmarked cs := fun d member => plain d (List.mem_cons_of_mem c member)
    have later (n : Nat) (short : n < cs.length) : ¬ kind.Closes (depth + 1) (c :: cs.take n) :=
      inside (n + 1) (Nat.succ_lt_succ short)
    by_cases opens : c = kind.opener
    · subst opens
      obtain ⟨final, leads⟩ := ih behind fun n short => mt closes_opener.2 (later n short)
      exact ⟨final, .opener leads⟩
    · by_cases closes : c = kind.closer
      · subst closes
        obtain ⟨final, leads⟩ := ih behind fun n short => mt closes_closer.2 (later n short)
        exact ⟨final, .closer leads⟩
      · obtain ⟨final, leads⟩ := ih behind fun n short =>
          mt (closes_other opens closes).2 (later n short)
        exact ⟨final, .other opens closes (plain c List.mem_cons_self) leads⟩

/-- Text that closes the brackets at its end and not before leads out of them. -/
theorem leads_of_closes (plain : text.Unmarked) (closes : kind.Closes depth text)
    (inside : ∀ n < text.length, ¬ kind.Closes depth (text.take n)) : kind.Leads depth text 0 := by
  obtain ⟨final, leads⟩ := exists_leads plain inside
  have count := leads.count
  rw [Closes] at closes
  obtain rfl : final = 0 := by omega
  exact leads

/-- Text that never closes the brackets leads to a depth inside them. -/
theorem leads_of_never (plain : text.Unmarked)
    (never : ∀ n ≤ text.length, ¬ kind.Closes depth (text.take n)) :
    ∃ final, final + 1 = depth + text.count kind.opener - text.count kind.closer ∧
      kind.Leads depth text (final + 1) := by
  obtain ⟨final, leads⟩ := exists_leads plain fun n short => never n (Nat.le_of_lt short)
  have count := leads.count
  have last := never text.length (Nat.le_refl _)
  rw [List.take_length, Closes] at last
  obtain ⟨final, rfl⟩ : ∃ less, final = less + 1 := Nat.exists_eq_succ_of_ne_zero (by omega)
  exact ⟨final, by omega, leads⟩

/-- A balanced text with a closing bracket behind it leads out of one bracket. -/
theorem Balanced.leads (balanced : kind.Balanced text) (plain : text.Unmarked) :
    kind.Leads 1 (text ++ [kind.closer]) 0 := by
  have mark : kind.closer ∉ ['\\', '$', '\'', '"'] := by cases kind <;> decide
  have closed := balanced.closed
  apply leads_of_closes
  · intro c member
    rcases List.mem_append.1 member with inside | last
    · exact plain c inside
    · obtain rfl := List.mem_singleton.1 last
      exact mark
  · rw [Closes, List.count_append, List.count_append, List.count_singleton_self,
      List.count_singleton, if_neg (by simpa using kind.opener_ne_closer.symm)]
    omega
  · intro n short
    rw [List.length_append, List.length_singleton] at short
    have inside : n ≤ text.length := Nat.le_of_lt_succ short
    have opened := balanced.opened n inside
    rw [List.take_append_of_le_length inside, Closes]
    omega

/-- A carriage return at the end of a line does not matter to the depth. -/
theorem Leads.dropReturn (leads : kind.Leads depth text final) :
    kind.Leads depth text.dropReturn final := by
  rw [Text.dropReturn]
  split
  · rename_i last
    obtain ⟨front, rfl⟩ := List.getLast?_eq_some_iff.1 last
    obtain ⟨middle, first, second⟩ := leads.split
    have other : '\r' ≠ kind.opener ∧ '\r' ≠ kind.closer := by cases kind <;> decide
    obtain rfl := (second.of_other other.1 other.2).eq_of_nil
    rw [List.dropLast_concat]
    exact first
  · exact leads

/-- Nor do line feeds. -/
theorem Leads.lines (leads : kind.Leads depth text final) :
    kind.Leads depth text.lines.flatten final := by
  have other : '\n' ≠ kind.opener ∧ '\n' ≠ kind.closer := by cases kind <;> decide
  have joined : Text.join ['\n'] (text.splitOn '\n') = text := List.intercalate_splitOn '\n'
  rw [← joined] at leads
  rw [Text.lines, Text.split_eq_splitOn]
  generalize text.splitOn '\n' = pieces at leads
  induction pieces generalizing depth with
  | nil => exact leads
  | cons piece pieces ih =>
    rw [List.map_cons, List.flatten_cons]
    cases pieces with
    | nil =>
      rw [Text.join_singleton] at leads
      exact leads.dropReturn.append (.nil final)
    | cons second pieces =>
      rw [Text.join_cons_cons, List.append_assoc] at leads
      obtain ⟨middle, first, behind⟩ := leads.split
      exact first.dropReturn.append (ih (behind.of_other other.1 other.2))

end BracketKind

namespace Lexer

open Scanner BracketKind

variable {kind : BracketKind} {depth final : Nat} {text unread rest : Text} {stack below : Stack}

/-- A region of brackets ends at the closing one. -/
theorem scanRegion_closer (kind : BracketKind) (cs : Text) (below : Stack) :
    scanRegion [kind.closer] kind.category (kind.closer :: cs) below =
      ⟨kind.category, cs, below⟩ := by
  rw [scanRegion_cons, if_pos rfl]

/-- An opening one nests it. -/
theorem scanRegion_opener (kind : BracketKind) (cs : Text) (below : Stack) :
    scanRegion [kind.closer] kind.category (kind.opener :: cs) below =
      scanRegion [kind.closer] kind.category cs (kind.mode :: below) := by
  cases kind <;> simp [scanRegion_cons, opener, closer, Mode.opener, BracketKind.category, mode]

/-- Any other character that is not marked is passed. -/
theorem scanRegion_other {c : Char} (opens : c ≠ kind.opener) (closes : c ≠ kind.closer)
    (plain : c ∉ ['\\', '$', '\'', '"']) (cs : Text) (below : Stack) :
    scanRegion [kind.closer] kind.category (c :: cs) below =
      scanRegion [kind.closer] kind.category cs below := by
  simp only [List.mem_cons, List.not_mem_nil, or_false, not_or] at plain
  simp [scanRegion_cons, opener_closer, Text.quotes, opens, closes, plain]

/-- A region of brackets stops in a text that leads on, at the depth that is reached there, and it
has read a character if there is one. -/
theorem scanRegion_leads (leads : kind.Leads (depth + 1) text final) (ends : final = 0 ∨ rest = [])
    (below : Stack) :
    ∃ middle later, kind.Leads middle later final ∧ later.length ≤ text.length - 1 ∧
      scanRegion [kind.closer] kind.category (text ++ rest)
        (List.replicate depth kind.mode ++ below) =
        ⟨kind.category, later ++ rest, List.replicate middle kind.mode ++ below⟩ := by
  generalize start : depth + 1 = deep at leads
  induction leads generalizing depth with
  | nil deep =>
    subst start
    obtain rfl : rest = [] := ends.resolve_left (Nat.succ_ne_zero depth)
    exact ⟨depth + 1, [], .nil _, Nat.le_refl _, rfl⟩
  | @opener deep final text behind ih =>
    obtain rfl : depth = deep := Nat.succ.inj start
    obtain ⟨middle, later, leads, read, same⟩ := ih ends rfl
    refine ⟨middle, later, leads, Nat.le_trans read (Nat.sub_le _ _), ?_⟩
    rw [List.cons_append, scanRegion_opener]
    exact same
  | @closer deep final text behind ih =>
    obtain rfl : depth = deep := Nat.succ.inj start
    rw [List.cons_append, scanRegion_closer]
    exact ⟨depth, text, behind, Nat.le_refl _, rfl⟩
  | @other deep final text c opens closes plain behind ih =>
    obtain rfl : depth = deep := Nat.succ.inj start
    obtain ⟨middle, later, leads, read, same⟩ := ih ends rfl
    refine ⟨middle, later, leads, Nat.le_trans read (Nat.sub_le _ _), ?_⟩
    rw [List.cons_append, scanRegion_other opens closes plain]
    exact same

/-- What is left of a line inside brackets that lie on `below`, with the stack there. -/
inductive InBrackets (kind : BracketKind) (final : Nat) (rest : Text) (below : Stack) :
    Text → Stack → Prop where
  /-- In plain text, in front of the sign and the opening bracket. -/
  | opening {text : Text} (bare : below = []) (leads : kind.Leads 1 text final) :
      InBrackets kind final rest below ('%' :: kind.opener :: text ++ rest) []
  /-- In the brackets. -/
  | inside {depth : Nat} {text : Text} (leads : kind.Leads (depth + 1) text final) :
      InBrackets kind final rest below (text ++ rest)
        (List.replicate (depth + 1) kind.mode ++ below)

/-- A token that starts inside brackets has their category and stops at the depth that is
reached. -/
theorem nextScanned_inBrackets {c : Char} {cs : Text}
    (inside : InBrackets kind final rest below (c :: cs) stack) (ends : final = 0 ∨ rest = []) :
    ∃ middle later, kind.Leads middle later final ∧ nextScanned c cs stack =
      ⟨kind.category, later ++ rest, List.replicate middle kind.mode ++ below⟩ := by
  generalize whole : c :: cs = unread at inside
  cases inside with
  | @opening text bare leads =>
    subst bare
    obtain ⟨middle, later, onward, -, same⟩ := scanRegion_leads leads ends []
    obtain ⟨rfl, rfl⟩ := List.cons.inj whole
    refine ⟨middle, later, onward, ?_⟩
    rw [← same]
    exact nextScanned_percent kind.expanded?_opener (text ++ rest)
  | @inside depth text leads =>
    obtain ⟨middle, later, onward, read, same⟩ := scanRegion_leads leads ends below
    have width : (c :: cs).length = text.length + rest.length := by
      rw [whole, List.length_append]
    have nonempty : text.length ≠ 0 := by
      intro empty
      obtain rfl := List.eq_nil_of_length_eq_zero empty
      obtain rfl := leads.eq_of_nil
      obtain rfl := ends.resolve_left (Nat.succ_ne_zero depth)
      contradiction
    rw [← whole] at same
    have shorter : (scanRegion [kind.closer] kind.category (c :: cs)
        (List.replicate depth kind.mode ++ below)).rest.length ≤ cs.length := by
      rw [same, List.length_append]
      rw [List.length_cons] at width
      omega
    exact ⟨middle, later, onward, (nextScanned_region_of_read shorter).trans same⟩

/-- At the end of a line the stack shows how deep it has led. -/
theorem stack_of_inBrackets (inside : InBrackets kind final rest below unread stack)
    (ended : unread = []) : stack = List.replicate final kind.mode ++ below := by
  cases inside with
  | opening => contradiction
  | inside leads =>
    obtain rfl := (List.append_eq_nil_iff.1 ended).1
    rw [leads.eq_of_nil]

/-- A stack with brackets on it is another one. -/
theorem replicate_append_ne (kind : BracketKind) (depth : Nat) (below : Stack) :
    List.replicate (depth + 1) kind.mode ++ below ≠ below := by
  intro same
  have length := congrArg List.length same
  rw [List.length_append, List.length_replicate] at length
  omega

/-- Brackets are left behind a text that leads out of them. -/
theorem leftAt_of_inBrackets (inside : InBrackets kind 0 rest below (text ++ rest) stack) :
    LeftAt below [kind.category] text.length (passages (text ++ rest) stack) := by
  have step : ∀ unread stack, InBrackets kind 0 rest below unread stack → ∃ c cs, unread = c :: cs ∧
      LeavesOrStays below [kind.category] rest (InBrackets kind 0 rest below)
        (nextScanned c cs stack) := by
    intro unread stack inside
    obtain ⟨c, cs, rfl⟩ : ∃ c cs, unread = c :: cs := by
      cases inside with
      | opening => exact ⟨_, _, rfl⟩
      | inside leads => cases leads <;> exact ⟨_, _, rfl⟩
    obtain ⟨middle, later, leads, same⟩ := nextScanned_inBrackets inside (.inl rfl)
    refine ⟨c, cs, rfl, ?_⟩
    rw [same]
    cases middle with
    | zero =>
      obtain rfl := leads.eq_nil
      exact ⟨List.mem_cons_self, .inl ⟨rfl, rfl⟩⟩
    | succ middle =>
      exact ⟨List.mem_cons_self, .inr ⟨replicate_append_ne kind middle below, .inside leads⟩⟩
  have left := leftAt_of_step step [] (text ++ rest) stack inside
  rw [passages]
  simpa using left

/-- Brackets are not left in a line that stays in them, and the stack behind it shows how deep. -/
theorem notLeft_of_inBrackets (inside : InBrackets kind (final + 1) [] below (text ++ []) stack) :
    NotLeft below [kind.category] (passages text stack) ∧
      (tokenizeLine text stack).2 = List.replicate (final + 1) kind.mode ++ below := by
  rw [List.append_nil] at inside
  have step : ∀ c cs stack, InBrackets kind (final + 1) [] below (c :: cs) stack →
      (nextScanned c cs stack).category ∈ [kind.category] ∧ (nextScanned c cs stack).stack ≠ below ∧
        InBrackets kind (final + 1) [] below (nextScanned c cs stack).rest
          (nextScanned c cs stack).stack := by
    intro c cs stack inside
    obtain ⟨middle, later, leads, same⟩ := nextScanned_inBrackets inside (.inr rfl)
    rw [same]
    cases middle with
    | zero =>
      obtain rfl := leads.eq_nil
      exact absurd leads.eq_of_nil (Nat.succ_ne_zero final).symm
    | succ middle =>
      exact ⟨List.mem_cons_self, replicate_append_ne kind middle below, .inside leads⟩
  obtain ⟨covered, ended⟩ := notLeft_of_step step 0 text stack inside
  exact ⟨covered, stack_of_inBrackets ended rfl⟩

/-- Brackets that are closed some lines further on are left there and in no line before. -/
theorem leftBehind_of_leads {before : List Text} {last : Text} (nonempty : last ≠ [])
    (leads : kind.Leads (depth + 1) (before.flatten ++ last) 0) (tail : Text) (below : Stack) :
    LeftBehind below [kind.category] before last tail
      (List.replicate (depth + 1) kind.mode ++ below) := by
  induction before generalizing depth with
  | nil =>
    have inside : InBrackets kind 0 tail below (last ++ tail)
        (List.replicate (depth + 1) kind.mode ++ below) := .inside leads
    exact ⟨by simp, leftAt_of_inBrackets inside⟩
  | cons line before ih =>
    rw [List.flatten_cons, List.append_assoc] at leads
    obtain ⟨middle, first, second⟩ := leads.split
    cases middle with
    | zero => exact absurd (List.append_eq_nil_iff.1 second.eq_nil).2 nonempty
    | succ middle =>
      obtain ⟨covered, behind⟩ := notLeft_of_inBrackets (.inside first)
      exact .cons covered (behind ▸ ih second)

/-- A text in brackets that leads out of them is left behind its last bracket, and in no line
before. -/
theorem leftBehind_of_enclose {body : Text} (leads : kind.Leads 1 (body ++ [kind.closer]) 0)
    (rest : Text) :
    ∃ before last tail later, (kind.enclose body).lines = before ++ [last] ∧
      Text.lines (kind.enclose body ++ rest) = before ++ (last ++ tail) :: later ∧
      LeftBehind [] [kind.category] before last tail [] := by
  have ending : kind.closer ≠ '\n' ∧ kind.closer ≠ '\r' := by cases kind <;> decide
  have signs (text : Text) : Text.lines ('%' :: kind.opener :: text) =
      text.lines.modifyHead ('%' :: kind.opener :: ·) := by
    have feed : '\n' ∉ ['%', kind.opener] := by cases kind <;> decide
    have kept : Text.dropReturn ['%', kind.opener] = ['%', kind.opener] := by cases kind <;> rfl
    exact Text.lines_append feed kept text
  obtain ⟨before, last, tail, later, lines, nonempty, whole⟩ :=
    Text.exists_lines_append body ending.1 ending.2 rest
  have flat := leads.lines
  rw [lines, List.flatten_append, List.flatten_singleton] at flat
  have closed : (kind.enclose body).lines =
      (before ++ [last]).modifyHead ('%' :: kind.opener :: ·) := by
    rw [← lines, ← signs]
    rfl
  have goes : Text.lines (kind.enclose body ++ rest) =
      (before ++ (last ++ tail) :: later).modifyHead ('%' :: kind.opener :: ·) := by
    rw [← whole, ← signs, enclose]
    simp
  cases before with
  | nil =>
    have inside : InBrackets kind 0 tail [] ('%' :: kind.opener :: last ++ tail) [] :=
      .opening rfl flat
    exact ⟨[], '%' :: kind.opener :: last, tail, later, closed, goes, by simp,
      leftAt_of_inBrackets inside⟩
  | cons line before =>
    refine ⟨('%' :: kind.opener :: line) :: before, last, tail, later, closed, goes, ?_⟩
    rw [List.flatten_cons, List.append_assoc] at flat
    obtain ⟨middle, first, second⟩ := flat.split
    cases middle with
    | zero => exact absurd (List.append_eq_nil_iff.1 second.eq_nil).2 nonempty
    | succ middle =>
      obtain ⟨covered, behind⟩ := notLeft_of_inBrackets (.opening rfl first)
      exact .cons covered (behind ▸ leftBehind_of_leads nonempty second tail [])

/-- Brackets close where they match. A line that is taken up inside some brackets is left behind its
shortest part that closes all of them; a line without such a part is all inside, and its end is as
deep as the numbers of brackets say. So a balanced text in brackets is left behind its last bracket,
on however many lines it stands. -/
theorem brackets_close_at_match (kind : BracketKind) :
    (∀ (below : Stack) (depth : Nat) (front behind : Text), 0 < depth → front.Unmarked →
      kind.Closes depth front → (∀ n < front.length, ¬ kind.Closes depth (front.take n)) →
      LeftAt below [kind.category] front.length
        (passages (front ++ behind) (List.replicate depth kind.mode ++ below))) ∧
    (∀ (below : Stack) (depth : Nat) (line : Text), 0 < depth → line.Unmarked →
      (∀ n ≤ line.length, ¬ kind.Closes depth (line.take n)) →
      NotLeft below [kind.category] (passages line (List.replicate depth kind.mode ++ below)) ∧
      (tokenizeLine line (List.replicate depth kind.mode ++ below)).2 =
        List.replicate (depth + line.count kind.opener - line.count kind.closer) kind.mode ++
          below) ∧
    ∀ body rest : Text, body.Unmarked → kind.Balanced body →
      ∃ before last tail later, (kind.enclose body).lines = before ++ [last] ∧
        Text.lines (kind.enclose body ++ rest) = before ++ (last ++ tail) :: later ∧
        LeftBehind [] [kind.category] before last tail [] := by
  refine ⟨fun below depth front behind positive plain closes first => ?_,
    fun below depth line positive plain never => ?_, fun body rest plain balanced => ?_⟩
  · obtain ⟨depth, rfl⟩ := Nat.exists_eq_succ_of_ne_zero (Nat.ne_of_gt positive)
    exact leftAt_of_inBrackets (.inside (leads_of_closes plain closes first))
  · obtain ⟨depth, rfl⟩ := Nat.exists_eq_succ_of_ne_zero (Nat.ne_of_gt positive)
    obtain ⟨final, deep, leads⟩ := leads_of_never plain never
    rw [← deep]
    exact notLeft_of_inBrackets (.inside leads)
  · exact leftBehind_of_enclose (balanced.leads plain) rest

/-- Two parentheses over a string are closed with another pair in between, two braces are not
closed, and a pair on two lines with pairs in it is closed on the second. -/
theorem brackets_close_at_match_over_lines :
    LeftAt [.region ['"'] .string false] [.quote] 7
        (passages "a(b)c)) (\"".toList
          [.region [')'] .quote false, .region [')'] .quote false, .region ['"'] .string false]) ∧
      (tokenizeLine ['{', 'x', '}', '}', 'y', '{']
          [.region ['}'] .definition false, .region ['}'] .definition false]).2 =
        [.region ['}'] .definition false, .region ['}'] .definition false] ∧
      ∃ before last tail later, Text.lines "%(a(b\r\n)(c))".toList = before ++ [last] ∧
        Text.lines "%(a(b\r\n)(c))) $".toList = before ++ (last ++ tail) :: later ∧
        LeftBehind [] [.quote] before last tail [] := by
  have parentheses := brackets_close_at_match .parenthesis
  have braces := brackets_close_at_match .brace
  exact ⟨parentheses.1 [.region ['"'] .string false] 2 "a(b)c))".toList " (\"".toList (by decide)
      (by decide) (by decide) (by decide),
    (braces.2.1 [] 2 ['{', 'x', '}', '}', 'y', '{'] (by decide) (by decide) (by decide)).2,
    parentheses.2.2 "a(b\r\n)(c)".toList ") $".toList (by decide) ⟨by decide, by decide⟩⟩

end Lexer

end BatchScript
