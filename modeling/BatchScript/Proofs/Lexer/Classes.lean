import BatchScript.Proofs.Lexer.CarriedStacks
import BatchScript.Proofs.Lexer.Passages
import BatchScript.Proofs.Lexer.Restart
import BatchScript.Proofs.Vocabulary

/-!
# What the category of a token says

Inside a region or an expansion every token is a string, a quote or a definition. A token of any
other category stands in plain text, leaves it plain, and looks as its category promises: it has the
signs of the category, and the character behind it could not have been part of it.

Only stacks that a script can reach are considered. On others a region may carry any category.
-/
namespace BatchScript

open Stack

namespace Category

/-- The categories of text inside a region or an expansion. -/
def inner : List Category := [.string, .quote, .definition]

/-- The look that a category promises of a token with a text, in front of the rest of its line.
Strings, quotes, definitions and plain text promise nothing. -/
def Admits (category : Category) (text rest : Text) : Prop :=
  match category with
  | .comment => [':', ':'] <+: text ∧ rest = []
  | .operator => text = ['+'] ∨ text = ['='] ∨ text = ['@']
  | .flag =>
    (∃ word : Text, (text = '-' :: word ∨ text = '-' :: '-' :: word) ∧
      ∀ c ∈ word, isWordChar c = true) ∧
    ∀ next ∈ rest.head?, isWordChar next = false
  | .number =>
    (∃ c digits, text = c :: digits ∧ (isDigit c = true ∨ c = '.') ∧
      ∀ d ∈ digits, isDigit d = true) ∧
    ∀ next ∈ rest.head?, isWordChar next = false
  | .atom | .keyword | .builtin =>
    Vocabulary.lookup text = some category ∧
    ∀ next ∈ rest.head?, next ≠ '=' ∧ isWordChar next = false ∧ next ≠ '-'
  | .definition | .string | .quote | .plain => True

/-- The categories of text inside something promise nothing. -/
theorem admits_of_inner {category : Category} (inside : category ∈ inner) (text rest : Text) :
    category.Admits text rest := by
  simp only [inner, List.mem_cons, List.not_mem_nil, or_false] at inside
  rcases inside with rfl | rfl | rfl <;> trivial

/-- A word of the vocabulary keeps the promise of its category, if nothing behind it belongs to
it. -/
theorem admits_of_lookup {category : Category} {text rest : Text}
    (found : Vocabulary.lookup text = some category)
    (ended : ∀ next ∈ rest.head?, next ≠ '=' ∧ isWordChar next = false ∧ next ≠ '-') :
    category.Admits text rest := by
  have word := Vocabulary.category_of_lookup found
  simp only [Vocabulary.categories, List.mem_cons, List.not_mem_nil, or_false] at word
  rcases word with rfl | rfl | rfl <;> exact ⟨found, ended⟩

end Category

/-- The modes in which a line can end carry a category of text inside something. -/
theorem Mode.category_of_mem_carried {closer : Text} {category : Category}
    (region : Mode.region closer category false ∈ Mode.carried) : category ∈ Category.inner := by
  rcases region_of_mem_carried region with ⟨-, rfl⟩ | ⟨-, rfl⟩ | ⟨-, rfl⟩ | ⟨-, rfl⟩ <;> decide

namespace Scanner

/-- A run of characters ends in front of one that does not belong to it. -/
theorem of_mem_head?_dropWhile {p : Char → Bool} {text : Text} {next : Char}
    (first : next ∈ (text.dropWhile p).head?) : p next = false := by
  have stop := List.head?_dropWhile_not p text
  rw [Option.mem_def.1 first] at stop
  exact stop

/-- A character that continues no name is neither a word character nor a hyphen. -/
theorem isNameChar_eq_false {c : Char} (other : isNameChar c = false) :
    isWordChar c = false ∧ c ≠ '-' := by
  simpa [isNameChar] using other

variable (current : Text → Text) (stack : Stack)

/-- A name keeps the promise of its category. -/
theorem settleName_admits {rest : Text} (ended : ∀ next ∈ rest.head?, isNameChar next = false) :
    (settleName current rest stack).category.Admits
      (current (settleName current rest stack).rest) (settleName current rest stack).rest := by
  unfold settleName
  split
  · trivial
  · rename_i target
    cases found : Vocabulary.lookup (current rest) with
    | none => trivial
    | some category =>
      refine Category.admits_of_lookup found fun next first =>
        ⟨?_, isNameChar_eq_false (ended next first)⟩
      -- in front of an equals sign the word would have been a definition
      rintro rfl
      exact target ⟨first, Vocabulary.any_isWordChar_of_lookup found⟩

/-- A name that is read to its end keeps the promise of its category. -/
theorem scanName_admits (unread : Text) :
    (scanName current unread stack).category.Admits
      (current (scanName current unread stack).rest) (scanName current unread stack).rest :=
  settleName_admits current stack fun _ => of_mem_head?_dropWhile

variable {stack}

/-- A hyphen with what is read behind it keeps the promise of a flag. -/
theorem flag_admits (cs : Text) :
    Category.flag.Admits
      (Lexer.readSoFar ('-' :: cs) ((dropFront '-' cs).dropWhile isWordChar))
      ((dropFront '-' cs).dropWhile isWordChar) := by
  refine ⟨?_, fun _ => of_mem_head?_dropWhile⟩
  have word (text : Text) : ∀ c ∈ text.takeWhile isWordChar, isWordChar c = true :=
    List.all_eq_true.1 List.all_takeWhile
  cases cs with
  | nil => exact ⟨[], .inl rfl, by simp⟩
  | cons d ds =>
    rw [dropFront]
    split
    · rename_i second
      subst second
      have whole : '-' :: ds.takeWhile isWordChar ++ ds.dropWhile isWordChar = '-' :: ds :=
        congrArg ('-' :: ·) List.takeWhile_append_dropWhile
      exact ⟨ds.takeWhile isWordChar, .inr (Lexer.readSoFar_front whole '-'), word ds⟩
    · exact ⟨(d :: ds).takeWhile isWordChar,
        .inl (Lexer.readSoFar_front List.takeWhile_append_dropWhile '-'), word (d :: ds)⟩

/-- Digits, or a dot with digits behind it, keep the promise of a number; where they run into a
word, the name that comes out keeps its own. -/
theorem settleNumber_admits {c : Char} (number : isDigit c = true ∨ c = '.') (cs : Text) :
    (settleNumber (Lexer.readSoFar (c :: cs)) (cs.dropWhile isDigit) stack).category.Admits
      (Lexer.readSoFar (c :: cs)
        (settleNumber (Lexer.readSoFar (c :: cs)) (cs.dropWhile isDigit) stack).rest)
      (settleNumber (Lexer.readSoFar (c :: cs)) (cs.dropWhile isDigit) stack).rest := by
  unfold settleNumber
  split
  · exact scanName_admits _ stack _
  · rename_i ended
    refine ⟨⟨c, cs.takeWhile isDigit, ?_, number, List.all_eq_true.1 List.all_takeWhile⟩, ?_⟩
    · exact Lexer.readSoFar_front List.takeWhile_append_dropWhile c
    · intro next first
      rw [Option.mem_def.1 first] at ended
      simpa using ended

/-- Plain text that settles keeps the promise of the category it settles on. -/
theorem scanPlain_admits {c : Char} {cs : Text} {result : Scanned}
    (settled : scanPlain (Lexer.readSoFar (c :: cs)) stack (c :: cs) = .settled result) :
    result.category.Admits (Lexer.readSoFar (c :: cs) result.rest) result.rest := by
  rw [scanPlain] at settled
  split at settled
  · cases settled
    trivial
  split at settled
  · cases settled
  split at settled
  · rename_i colons
    cases settled
    obtain ⟨rfl, second⟩ := colons
    obtain ⟨behind, rfl⟩ := List.head?_eq_some_iff.1 second
    rw [Lexer.readSoFar_front (List.append_nil _)]
    exact ⟨⟨behind, rfl⟩, rfl⟩
  split at settled
  · cases settled
  split at settled
  · rename_i sign
    cases settled
    rw [Lexer.readSoFar_front (List.nil_append cs)]
    rcases sign with rfl | rfl | rfl <;> simp [Category.Admits]
  split at settled
  · rename_i hyphen
    cases settled
    subst hyphen
    exact flag_admits cs
  split at settled
  · rename_i number
    cases settled
    exact settleNumber_admits number cs
  · cases settled
    exact scanName_admits _ stack cs

/-- Inside something a scanner settles on a category of text inside something, or hands over to
another mode on the stack. -/
theorem scan_inner {unread : Text} (fits : Fits unread stack) (inside : stack ≠ []) :
    match scan current unread stack with
    | .settled result => result.category ∈ Category.inner
    | .handedOver _ next => next ≠ [] := by
  have reference (below : Stack) (text : Text) :
      match scanReference current below text with
      | .settled result => result.category ∈ Category.inner
      | .handedOver _ next => next ≠ [] := by
    rcases scanReference_cases current below text with ⟨rest, found⟩ | ⟨c, cs, mode, -, -, found⟩
    · rw [found]
      change Category.definition ∈ Category.inner
      decide
    · rw [found]
      exact List.cons_ne_nil mode below
  cases fits with
  | carried carried =>
    match stack, inside with
    | mode :: below, _ =>
      obtain ⟨closer, category, rfl⟩ :=
        Mode.open_of_mem_carried (carried.modes mode List.mem_cons_self)
      simp only [scan, category_scanRegion]
      exact Mode.category_of_mem_carried (carried.modes _ List.mem_cons_self)
  | percent => exact reference [] unread
  | dollar => exact reference _ _
  | quote => simp [scan]

/-- Inside something the scanners settle on a category of text inside something. -/
theorem dispatch_inner {unread : Text} (fits : Fits unread stack) (inside : stack ≠ []) :
    (dispatch current unread stack).category ∈ Category.inner := by
  fun_induction dispatch current unread stack with
  | case1 unread stack result settled =>
    have step := scan_inner current fits inside
    rw [settled] at step
    exact step
  | case2 unread stack rest next handed ih =>
    have step := scan_inner current fits inside
    have kept := scan_fits current fits
    rw [handed] at step kept
    exact ih kept step

/-- A token inside something has a category of text inside something. -/
theorem scanToken_inner {c : Char} {cs : Text} (between : FitsBetween (c :: cs) stack)
    (inside : stack ≠ []) : (scanToken current c cs stack).category ∈ Category.inner := by
  fun_induction scanToken current c cs stack with
  | case1 stack scanned read => exact dispatch_inner current between.1 inside
  | case2 stack scanned stalled ih =>
    obtain ⟨-, opened, -, pushed⟩ := dispatch_stalled_cases stalled
    apply ih (dispatch_stalled_between current between.1 stalled)
    rw [pushed]
    exact List.cons_ne_nil opened stack

/-- A token in plain text has a category of text inside something, or plain text settles it. -/
theorem dispatch_plain (c : Char) (cs : Text) :
    (dispatch current (c :: cs) []).category ∈ Category.inner ∨
      (dispatch current (c :: cs) []).stack = [] ∧
        scanPlain current [] (c :: cs) = .settled (dispatch current (c :: cs) []) := by
  have kept := scan_fits current (Fits.carried Carried.nil : Fits (c :: cs) [])
  rcases scanPlain_cases current [] (c :: cs) with
    ⟨category, rest, found⟩ | ⟨quote, rest, -, -, found⟩ | ⟨rest, -, found⟩
  · have settled : scan current (c :: cs) [] = _ := found
    rw [dispatch_settled settled]
    exact .inr ⟨rfl, found⟩
  · have handed : scan current (c :: cs) [] = _ := found
    rw [handed] at kept
    rw [dispatch_handedOver handed]
    exact .inl (dispatch_inner current kept (List.cons_ne_nil _ _))
  · have handed : scan current (c :: cs) [] = _ := found
    rw [handed] at kept
    rw [dispatch_handedOver handed]
    exact .inl (dispatch_inner current kept (List.cons_ne_nil _ _))

end Scanner

/-- What the category of a token in a line says about the stacks around it and about its text. -/
structure Passage.Classified (line : Text) (passage : Passage) : Prop where
  /-- Inside something there are only strings, quotes and definitions. -/
  inside : passage.before ≠ [] → passage.token.category ∈ Category.inner
  /-- Any other token stands in plain text, and so does what follows it. -/
  outside : passage.token.category ∉ Category.inner → passage.before = [] ∧ passage.behind = []
  /-- The token looks as its category promises, in front of what follows it in its line. -/
  admitted : passage.token.category.Admits passage.token.text (line.drop passage.token.stop.toNat)

namespace Lexer

/-- The next token has a category of text inside something, or plain text on both sides; and it
looks as its category promises. -/
theorem nextScanned_classified {c : Char} {cs : Text} {stack : Stack}
    (between : FitsBetween (c :: cs) stack) :
    ((nextScanned c cs stack).category ∈ Category.inner ∨
      stack = [] ∧ (nextScanned c cs stack).stack = []) ∧
    (nextScanned c cs stack).category.Admits
      (readSoFar (c :: cs) (nextScanned c cs stack).rest) (nextScanned c cs stack).rest := by
  by_cases plain : stack = []
  · subst plain
    have read : nextScanned c cs [] = Scanner.dispatch (readSoFar (c :: cs)) (c :: cs) [] :=
      Scanner.scanToken_of_read
        (Scanner.dispatch_advances _ c cs [] (by decide)).length_le
    rw [read]
    rcases Scanner.dispatch_plain (readSoFar (c :: cs)) c cs with inner | ⟨kept, settled⟩
    · exact ⟨.inl inner, Category.admits_of_inner inner _ _⟩
    · exact ⟨.inr ⟨rfl, kept⟩, Scanner.scanPlain_admits settled⟩
  · have inner := Scanner.scanToken_inner (readSoFar (c :: cs)) between plain
    exact ⟨.inl inner, Category.admits_of_inner inner _ _⟩

/-- Every token of what is left of a line is classified, if the stack fits where the line is taken
up. -/
theorem classified_of_mem_passagesFrom (before unread : Text) (stack : Stack)
    (between : FitsBetween unread stack) :
    ∀ passage ∈ passagesFrom before.length unread stack, passage.Classified (before ++ unread) := by
  induction before, unread, stack using reading_induction with
  | ended before stack =>
    rw [passagesFrom]
    simp
  | token before c cs stack read nonempty whole text ih =>
    obtain ⟨sorts, admitted⟩ := nextScanned_classified between
    have later := ih (Scanner.scanToken_between _ between)
    rw [List.append_assoc, ← whole, List.length_append] at later
    rw [passagesFrom_cons text]
    intro passage inside
    rcases List.mem_cons.1 inside with rfl | behind
    · refine ⟨fun inner => ?_, fun outer => ?_, ?_⟩
      · exact sorts.resolve_right fun plain => inner plain.1
      · exact sorts.resolve_left outer
      · have left : (before ++ c :: cs).drop (before.length + read.length) =
            (nextScanned c cs stack).rest := by
          rw [whole, ← List.append_assoc]
          exact List.drop_left' List.length_append
        rw [text] at admitted
        rw [← left] at admitted
        exact admitted
    · exact later passage behind

/-- In every line of a script that is lexed from the empty stack, the tokens are those of the
passages from the stack in front of the line, and each is classified: inside something there are
only strings, quotes and definitions, and any other token stands in plain text and looks as its
category
promises. -/
theorem tokens_classified (source : Text) (i : Nat) (line : Text)
    (found : source.lines[i]? = some line) :
    ∃ stack, (lineStacks source.lines [])[i]? = some stack ∧
      (tokenize source []).1[i]? = some ((passages line stack).map Passage.token) ∧
      ∀ passage ∈ passages line stack, passage.Classified line := by
  obtain ⟨stack, tokens, behind, front, shown, -, lexed, settled⟩ := tokenizeLine_in_place found []
  have carried : Carried stack := by
    rw [settled, ← snd_tokenizeLines]
    exact carried_tokenizeLines _ .nil
  refine ⟨stack, front, ?_, classified_of_mem_passagesFrom [] line stack (carried.between line)⟩
  rw [tokenizeLine, tokenizeFrom_eq_passagesFrom] at lexed
  rw [passages, (Prod.mk.inj lexed).1]
  exact shown

/-- Behind an open quote two colons are string text, and once the quote is closed they start a
comment. -/
theorem tokens_classified_behind_quote :
    (Text.lines "echo \"a\r\n:: b\" :: c".toList)[1]? = some ":: b\" :: c".toList ∧
      (tokenize "echo \"a\r\n:: b\" :: c".toList []).1[1]? =
        some [⟨.string, 0, 5, ":: b\"".toList⟩, ⟨.plain, 5, 6, [' ']⟩,
          ⟨.comment, 6, 10, ":: c".toList⟩] ∧
      ∃ stack, (lineStacks (Text.lines "echo \"a\r\n:: b\" :: c".toList) [])[1]? = some stack ∧
        (tokenize "echo \"a\r\n:: b\" :: c".toList []).1[1]? =
          some ((passages ":: b\" :: c".toList stack).map Passage.token) ∧
        ∀ passage ∈ passages ":: b\" :: c".toList stack,
          passage.Classified ":: b\" :: c".toList := by
  have found : (Text.lines "echo \"a\r\n:: b\" :: c".toList)[1]? = some ":: b\" :: c".toList := by
    decide +kernel
  exact ⟨found, by decide +kernel, tokens_classified _ 1 _ found⟩

end Lexer

end BatchScript
