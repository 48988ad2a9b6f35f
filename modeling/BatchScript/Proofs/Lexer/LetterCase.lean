import BatchScript.Proofs.Lexer.CarriedStacks
import BatchScript.Proofs.Text.LetterCase

/-!
# Lexing ignores the case of letters

Every scanner does to the small form of a text what it does to the text: it stops at the same place,
settles on the same category and leaves the same stack. What it compares characters with holds no
letter, the classes it sorts them into are blind to case, and the vocabulary is looked up in small
letters. Two scripts with the same small form therefore have the same tokens but for their letters.

The closers of regions must hold no letter either. Those of the stacks that fit never do.
-/
namespace BatchScript

/-- A settled token with the rest in small letters. -/
def Scanned.lowered (scanned : Scanned) : Scanned := { scanned with rest := scanned.rest.lowered }

/-- A step with the rest in small letters. -/
def Step.lowered : Step → Step
  | .settled result => .settled result.lowered
  | .handedOver rest stack => .handedOver rest.lowered stack

/-- A token with its text in small letters. -/
def Token.lowered (token : Token) : Token := { token with text := token.text.lowered }

/-- The category of a token and its place in the line. -/
def Token.outline (token : Token) : Category × Int × Int :=
  (token.category, token.start, token.stop)

/-- A word is looked up in small letters. -/
theorem Vocabulary.lookup_lowered (word : Text) : lookup word.lowered = lookup word := by
  have blind : fold ∘ Char.toLower = fold := funext (blind_of_capitals (by decide))
  rw [lookup, lookup, Text.lowered, List.map_map, blind]

/-- No letter starts a region. -/
theorem Mode.expanded?_toLower (c : Char) : expanded? c.toLower = expanded? c :=
  blind_of_capitals (by decide) c

/-- A closer without letters has an opener without letters. -/
theorem Mode.opener_caseless {closer : Text} (caseless : closer.Caseless) :
    Text.Caseless (opener closer) := by
  unfold opener
  split
  · exact List.forall_mem_singleton.2 rfl
  · split
    · exact List.forall_mem_singleton.2 rfl
    · exact caseless

/-- An open region whose stack fits is closed by no letter. -/
theorem Fits.closer_caseless {unread closer : Text} {category : Category} {below : Stack}
    (fits : Fits unread (.region closer category false :: below)) : closer.Caseless := by
  cases fits with
  | carried carried =>
    have region := carried.modes _ List.mem_cons_self
    rcases Mode.region_of_mem_carried region with ⟨rfl, -⟩ | ⟨rfl, -⟩ | ⟨rfl, -⟩ | ⟨rfl, -⟩ <;>
      exact List.forall_mem_singleton.2 rfl

namespace Scanner

variable {current other : Text → Text}

/-- Where a scanner of `unread` can ask for the token so far, a scanner of its small form is told
the small form of that. -/
def LoweredReading (current other : Text → Text) (unread : Text) : Prop :=
  ∀ rest : Text, rest <:+ unread → other rest.lowered = (current rest).lowered

/-- The readings agree further on in the line. -/
theorem LoweredReading.mono {unread rest : Text} (reading : LoweredReading current other unread)
    (left : rest <:+ unread) : LoweredReading current other rest :=
  fun later behind => reading later (behind.trans left)

/-- A sign that is no letter is dropped from the small form too. -/
theorem dropFront_lowered {d : Char} (caseless : d.isAlpha = false) (text : Text) :
    dropFront d text.lowered = (dropFront d text).lowered := by
  cases text with
  | nil => rfl
  | cons c cs =>
    simp only [Text.lowered_cons, dropFront, toLower_eq_iff caseless]
    split <;> rfl

/-- A name is settled as in small letters. -/
theorem settleName_lowered {rest : Text} (reading : LoweredReading current other rest)
    (stack : Stack) :
    settleName other rest.lowered stack = (settleName current rest stack).lowered := by
  have text := reading rest (List.suffix_refl rest)
  simp only [settleName, text, Text.head?_lowered_eq_iff (d := '=') rfl,
    Text.any_lowered isWordChar_toLower, Vocabulary.lookup_lowered]
  split <;> rfl

/-- A name is read as in small letters. -/
theorem scanName_lowered {unread : Text} (reading : LoweredReading current other unread)
    (stack : Stack) :
    scanName other unread.lowered stack = (scanName current unread stack).lowered := by
  rw [scanName, Text.dropWhile_lowered isNameChar_toLower]
  exact settleName_lowered (reading.mono (List.dropWhile_suffix isNameChar)) stack

/-- Digits are settled as in front of small letters. -/
theorem settleNumber_lowered {rest : Text} (reading : LoweredReading current other rest)
    (stack : Stack) :
    settleNumber other rest.lowered stack = (settleNumber current rest stack).lowered := by
  have word : rest.lowered.head?.any isWordChar = rest.head?.any isWordChar := by
    cases rest with
    | nil => rfl
    | cons c cs => exact isWordChar_toLower c
  rw [settleNumber, settleNumber, word]
  split
  · exact scanName_lowered reading stack
  · rfl

/-- A variable is settled as in small letters. -/
theorem settleReference_lowered {rest : Text} (reading : LoweredReading current other rest)
    (c : Char) (below : Stack) :
    settleReference other c.toLower rest.lowered below =
      (settleReference current c rest below).lowered := by
  have text := reading rest (List.suffix_refl rest)
  simp only [settleReference, text, isWordChar_toLower, Text.head?_lowered_eq_iff (d := '%') rfl,
    dropFront_lowered (d := '%') rfl]
  split <;> rfl

/-- A quote is told apart from other characters whatever their case. -/
theorem toLower_mem_quotes_iff (c : Char) : c.toLower ∈ Text.quotes ↔ c ∈ Text.quotes := by
  simp only [Text.quotes, List.mem_cons, List.not_mem_nil, or_false, toLower_eq_iff (d := '\'') rfl,
    toLower_eq_iff (d := '"') rfl]

/-- A quote has no case. -/
theorem toLower_of_mem_quotes {c : Char} (quote : c ∈ Text.quotes) : c.toLower = c := by
  simp only [Text.quotes, List.mem_cons, List.not_mem_nil, or_false] at quote
  rcases quote with rfl | rfl <;> rfl

/-- Plain text is read as in small letters. -/
theorem scanPlain_lowered {unread : Text} (reading : LoweredReading current other unread)
    (stack : Stack) :
    scanPlain other stack unread.lowered = (scanPlain current stack unread).lowered := by
  cases unread with
  | nil => rfl
  | cons c cs =>
    have behind := reading.mono (List.suffix_cons c cs)
    have digits := behind.mono (List.dropWhile_suffix isDigit)
    simp only [Text.lowered_cons, scanPlain, isBlank_toLower, toLower_mem_quotes_iff,
      toLower_eq_iff (d := ':') rfl, toLower_eq_iff (d := '%') rfl, toLower_eq_iff (d := '+') rfl,
      toLower_eq_iff (d := '=') rfl, toLower_eq_iff (d := '@') rfl, toLower_eq_iff (d := '-') rfl,
      toLower_eq_iff (d := '.') rfl, isDigit_toLower, Text.head?_lowered_eq_iff (d := ':') rfl,
      dropFront_lowered (d := '-') rfl, Text.dropWhile_lowered isBlank_toLower,
      Text.dropWhile_lowered isWordChar_toLower, Text.dropWhile_lowered isDigit_toLower,
      settleNumber_lowered digits, scanName_lowered behind]
    split
    · rfl
    split
    · rename_i quote
      rw [toLower_of_mem_quotes quote]
      rfl
    repeat' split
    all_goals rfl

/-- What stands behind the sign of an expansion is read as in small letters. -/
theorem scanReference_lowered {unread : Text} (reading : LoweredReading current other unread)
    (below : Stack) :
    scanReference other below unread.lowered = (scanReference current below unread).lowered := by
  cases unread with
  | nil => rfl
  | cons c cs =>
    have word := (reading.mono (List.suffix_cons c cs)).mono (List.dropWhile_suffix isWordChar)
    simp only [Text.lowered_cons, scanReference, Mode.expanded?_toLower, isDigit_toLower,
      Text.dropWhile_lowered isWordChar_toLower, settleReference_lowered word]
    split
    · rfl
    · split <;> rfl

/-- An expansion is read as in small letters. -/
theorem scanExpansion_lowered {unread : Text} (reading : LoweredReading current other unread)
    (below : Stack) :
    scanExpansion other below unread.lowered = (scanExpansion current below unread).lowered := by
  unfold scanExpansion
  split
  · exact scanReference_lowered reading below
  · rw [dropFront_lowered rfl]
    exact scanReference_lowered (reading.mono (dropFront_suffix '$' unread)) below

/-- A region that no letter closes is read as in small letters. -/
theorem scanRegion_lowered {closer : Text} (caseless : closer.Caseless) (category : Category)
    (unread : Text) (below : Stack) :
    scanRegion closer category unread.lowered below =
      (scanRegion closer category unread below).lowered := by
  have single (c : Char) (fixed : Text) (plain : fixed.Caseless) :
      [c.toLower] = fixed ↔ [c] = fixed := @Text.lowered_eq_iff [c] fixed plain
  have peek (cs : Text) : cs.lowered.take 1 = closer ↔ cs.take 1 = closer := by
    rw [Text.lowered, ← List.map_take]
    exact Text.lowered_eq_iff caseless
  have opener := Mode.opener_caseless caseless
  -- the conditions at the first character are those at its small form
  have front (c : Char) (cs : Text) (below : Stack) :
      scanRegion closer category (Text.lowered (c :: cs)) below =
        if [c] = closer then ⟨category, cs.lowered, below⟩
        else if c = '$' ∧ closer ≠ ['\''] ∧ cs.take 1 ≠ closer then
          ⟨category, Text.lowered (c :: cs), .expansion :: .region closer category false :: below⟩
        else if [c] = Mode.opener closer then
          scanRegion closer category cs.lowered (.region closer category false :: below)
        else if c ∈ Text.quotes ∧ ¬ Text.occursIn closer Text.quotes then
          ⟨category, Text.lowered (c :: cs),
            .region [c.toLower] .string true :: .region closer category false :: below⟩
        else if c = '\\' then scanRegion closer category (Text.lowered (cs.drop 1)) below
        else scanRegion closer category cs.lowered below := by
    simp only [Text.lowered_cons, scanRegion_cons, single c closer caseless,
      single c (Mode.opener closer) opener, ne_eq, peek, toLower_eq_iff (d := '$') rfl,
      toLower_eq_iff (d := '\\') rfl, toLower_mem_quotes_iff]
    rw [Text.lowered, ← List.map_drop, Text.lowered]
  fun_induction scanRegion closer category unread below with
  | case1 below => rfl
  | case2 c cs below closed => rw [front, if_pos closed]; rfl
  | case3 c cs below closed dollar => rw [front, if_neg closed, if_pos dollar]; rfl
  | case4 c cs below closed dollar opened nested =>
    rw [front, if_neg closed, if_neg dollar, if_pos opened]
    exact nested
  | case5 c cs below closed dollar opened quote =>
    rw [front, if_neg closed, if_neg dollar, if_neg opened, if_pos quote,
      toLower_of_mem_quotes quote.1]
    rfl
  | case6 below closed opened quote dollar =>
    rw [front, if_neg closed, if_neg dollar, if_neg opened, if_neg quote, if_pos rfl]
    rfl
  | case7 below hidden cs closed opened quote dollar read =>
    rw [front, if_neg closed, if_neg dollar, if_neg opened, if_neg quote, if_pos rfl]
    exact read
  | case8 c cs below closed dollar opened quote escape read =>
    rw [front, if_neg closed, if_neg dollar, if_neg opened, if_neg quote, if_neg escape]
    exact read

/-- A scanner whose stack fits does to the small form of a text what it does to the text. -/
theorem scan_lowered {unread : Text} {stack : Stack} (reading : LoweredReading current other unread)
    (fits : Fits unread stack) :
    scan other unread.lowered stack = (scan current unread stack).lowered := by
  match stack with
  | [] => exact scanPlain_lowered reading []
  | .plain :: below => exact scanPlain_lowered reading (.plain :: below)
  | .expansion :: below => exact scanExpansion_lowered reading below
  | .region closer category true :: below =>
    cases unread <;> rfl
  | .region closer category false :: below =>
    rw [scan, scanRegion_lowered fits.closer_caseless]
    rfl

/-- Every scanner does to the small form of a text what it does to the text, wherever the stack
fits. -/
theorem transport_lowered (current other : Text → Text) :
    Transport current other Text.lowered id fun unread stack =>
      LoweredReading current other unread ∧ Fits unread stack where
  length := Text.length_lowered
  step {unread stack} here := by
    rw [id, scan_lowered here.1 here.2]
    cases scan current unread stack <;> rfl
  handed {unread stack _ _} here handed := by
    have left := scan_suffix current unread stack
    have fits := scan_fits current here.2
    rw [handed] at left fits
    exact ⟨here.1.mono left, fits⟩
  stalled here stuck := ⟨here.1, (dispatch_stalled_between current here.2 stuck).1⟩

/-- A token is read as in small letters. -/
theorem scanToken_lowered {c : Char} {cs : Text} {stack : Stack}
    (reading : LoweredReading current other (c :: cs)) (between : FitsBetween (c :: cs) stack) :
    scanToken other c.toLower cs.lowered stack = (scanToken current c cs stack).lowered :=
  (transport_lowered current other).scanToken rfl ⟨reading, between.1⟩

end Scanner

namespace Lexer

/-- What was read of the small form is the small form of what was read. -/
theorem readSoFar_lowered (unread rest : Text) :
    readSoFar unread.lowered rest.lowered = (readSoFar unread rest).lowered := by
  rw [readSoFar, readSoFar, Text.length_lowered, Text.length_lowered, Text.lowered, Text.lowered,
    List.map_take]

/-- The next token is that of the small form. -/
theorem nextScanned_lowered {c : Char} {cs : Text} {stack : Stack}
    (between : FitsBetween (c :: cs) stack) :
    nextScanned c.toLower cs.lowered stack = (nextScanned c cs stack).lowered :=
  Scanner.scanToken_lowered (fun rest _ => readSoFar_lowered (c :: cs) rest) between

/-- The tokens of what is left of a line are those of its small form, in small letters, and the
stack behind them is the same. -/
theorem tokenizeFrom_lowered (column : Nat) {unread : Text} {stack : Stack}
    (between : FitsBetween unread stack) :
    tokenizeFrom column unread.lowered stack =
      ((tokenizeFrom column unread stack).1.map Token.lowered,
        (tokenizeFrom column unread stack).2) := by
  fun_induction tokenizeFrom column unread stack with
  | case1 column stack => exact tokenizeFrom_nil column stack
  | case2 column stack c cs scanned token tokens final later ih =>
    have next : nextScanned c.toLower (Text.lowered cs) stack = scanned.lowered :=
      nextScanned_lowered between
    have text : readSoFar (c.toLower :: Text.lowered cs)
        (nextScanned c.toLower (Text.lowered cs) stack).rest = token.text.lowered := by
      rw [next]
      exact readSoFar_lowered (c :: cs) scanned.rest
    have rest := ih (Scanner.scanToken_between _ between)
    rw [later] at rest
    rw [Text.lowered_cons, tokenizeFrom_cons text, next, Text.length_lowered]
    change (_ :: (tokenizeFrom (column + token.text.length) scanned.rest.lowered scanned.stack).1,
      (tokenizeFrom (column + token.text.length) scanned.rest.lowered scanned.stack).2) = _
    rw [rest]
    rfl

/-- The lines of a script that are taken up with a carried stack have the tokens of their small
forms, in small letters, and leave the same stack. -/
theorem tokenizeLines_lowered (lines : List Text) {stack : Stack} (carried : stack.Carried) :
    tokenizeLines (lines.map Text.lowered) stack =
      ((tokenizeLines lines stack).1.map (·.map Token.lowered), (tokenizeLines lines stack).2) := by
  induction lines generalizing stack with
  | nil => rfl
  | cons line lines ih =>
    have first : tokenizeLine line.lowered stack =
        ((tokenizeLine line stack).1.map Token.lowered, (tokenizeLine line stack).2) :=
      tokenizeFrom_lowered 0 (carried.between line)
    have others := ih (carried_tokenizeFrom 0 (carried.between line))
    rw [List.map_cons, tokenizeLines, first]
    simp only
    rw [tokenizeLine, others]
    rfl

/-- A script has the tokens of its small form but for their letters, and leaves the same stack. -/
theorem tokenize_lowered (source : Text) {stack : Stack} (carried : stack.Carried) :
    (tokenize source.lowered stack).1.map (·.map Token.outline) =
        (tokenize source stack).1.map (·.map Token.outline) ∧
      (tokenize source.lowered stack).2 = (tokenize source stack).2 := by
  have outline : Token.outline ∘ Token.lowered = Token.outline := rfl
  rw [tokenize, Text.lines_lowered, tokenizeLines_lowered source.lines carried]
  refine ⟨?_, rfl⟩
  rw [List.map_map]
  refine List.map_congr_left fun tokens _ => ?_
  rw [Function.comp_apply, List.map_map, outline]

/-- Two scripts that differ only in the case of ASCII letters have as many lines, tokens of the same
categories at the same places in each of them, and the same stack behind them. -/
theorem tokens_ignore_case (source other : Text)
    (same : source.map Char.toLower = other.map Char.toLower) :
    (tokenize source []).1.map (·.map Token.outline) =
        (tokenize other []).1.map (·.map Token.outline) ∧
      (tokenize source []).2 = (tokenize other []).2 := by
  obtain ⟨tokens, stack⟩ := tokenize_lowered source Stack.Carried.nil
  obtain ⟨others, final⟩ := tokenize_lowered other Stack.Carried.nil
  rw [Text.lowered, same, ← Text.lowered] at tokens stack
  exact ⟨tokens.symm.trans others, stack.symm.trans final⟩

/-- A command is the same token in any case, and so is the name that interrupts a string on the next
line. -/
theorem tokens_ignore_case_of_command :
    "MkDir X=\"A\n$Bc".toList.map Char.toLower = "mkdiR x=\"a\n$bC".toList.map Char.toLower ∧
      (tokenize "MkDir X=\"A\n$Bc".toList []).1.map (·.map Token.outline) =
        [[(.builtin, 0, 5), (.plain, 5, 6), (.definition, 6, 7), (.operator, 7, 8),
          (.string, 8, 10)], [(.definition, 0, 3)]] ∧
      (tokenize "MkDir X=\"A\n$Bc".toList []).1.map (·.map Token.outline) =
        (tokenize "mkdiR x=\"a\n$bC".toList []).1.map (·.map Token.outline) ∧
      (tokenize "MkDir X=\"A\n$Bc".toList []).2 = (tokenize "mkdiR x=\"a\n$bC".toList []).2 := by
  have same : "MkDir X=\"A\n$Bc".toList.map Char.toLower =
      "mkdiR x=\"a\n$bC".toList.map Char.toLower := by decide
  exact ⟨same, by decide +kernel, tokens_ignore_case _ _ same⟩

end Lexer

end BatchScript
