import BatchScript.Cursor
import BatchScript.Lexer
import BatchScript.Proofs.Scanner.Transport

/-!
# Reading tokens off a line

A scanner sees its line only through what is left of it, and asks for the text of the token so far.
Two ways to answer that agree on every suffix lead to the same token. So a cursor at a column of its
line reads the very token that the lexer finds there, and reading on to the end never fails.
-/
namespace BatchScript

namespace Scanner

/-- Two readings of the token so far agree wherever a scanner of `unread` can ask. -/
def SameReading (current other : Text → Text) (unread : Text) : Prop :=
  ∀ rest, rest <:+ unread → current rest = other rest

variable {current other : Text → Text}

/-- Agreement holds further on in the line. -/
theorem SameReading.mono {unread rest : Text} (same : SameReading current other unread)
    (left : rest <:+ unread) : SameReading current other rest :=
  fun later behind => same later (behind.trans left)

/-- A name depends on the reading where it ends. -/
theorem scanName_congr {unread : Text} (same : SameReading current other unread) (stack : Stack) :
    scanName current unread stack = scanName other unread stack := by
  have ends := same (unread.dropWhile isNameChar) (List.dropWhile_suffix isNameChar)
  simp only [scanName, settleName, ends]

/-- Digits depend on the reading only where a name follows them. -/
theorem settleNumber_congr {rest : Text} (same : SameReading current other rest) (stack : Stack) :
    settleNumber current rest stack = settleNumber other rest stack := by
  simp only [settleNumber, scanName_congr same stack]

/-- A variable depends on the reading where its name ends. -/
theorem settleReference_congr {rest : Text} (same : SameReading current other rest) (c : Char)
    (below : Stack) :
    settleReference current c rest below = settleReference other c rest below := by
  simp only [settleReference, same rest (List.suffix_refl rest)]

/-- Plain text depends on the reading of suffixes. -/
theorem scanPlain_congr {unread : Text} (same : SameReading current other unread) (stack : Stack) :
    scanPlain current stack unread = scanPlain other stack unread := by
  cases unread with
  | nil => rfl
  | cons c cs =>
    have behind := same.mono (List.suffix_cons c cs)
    have digits := behind.mono (List.dropWhile_suffix isDigit)
    simp only [scanPlain, settleNumber_congr digits stack, scanName_congr behind stack]

/-- What stands behind the sign of an expansion depends on the reading of suffixes. -/
theorem scanReference_congr {unread : Text} (same : SameReading current other unread)
    (below : Stack) : scanReference current below unread = scanReference other below unread := by
  cases unread with
  | nil => rfl
  | cons c cs =>
    have word := (same.mono (List.suffix_cons c cs)).mono (List.dropWhile_suffix isWordChar)
    simp only [scanReference, settleReference_congr word c below]

/-- An expansion depends on the reading of suffixes. -/
theorem scanExpansion_congr {unread : Text} (same : SameReading current other unread)
    (below : Stack) : scanExpansion current below unread = scanExpansion other below unread := by
  unfold scanExpansion
  split
  · exact scanReference_congr same below
  · exact scanReference_congr (same.mono (dropFront_suffix '$' unread)) below

/-- A scanner depends on the reading of suffixes. -/
theorem scan_congr {unread : Text} (same : SameReading current other unread) (stack : Stack) :
    scan current unread stack = scan other unread stack := by
  match stack with
  | [] => exact scanPlain_congr same []
  | .plain :: below => exact scanPlain_congr same (.plain :: below)
  | .expansion :: below => exact scanExpansion_congr same below
  | .region _ _ true :: _ => rfl
  | .region _ _ false :: _ => rfl

/-- Every scanner does the same for two readings, wherever they agree on suffixes. -/
theorem transport_of_sameReading (current other : Text → Text) :
    Transport current other id id fun unread _ => SameReading current other unread where
  length _ := rfl
  step same := by
    rw [Step.map_id]
    exact (scan_congr same _).symm
  handed {unread stack _ _} same handed := by
    have left := scan_suffix current unread stack
    rw [handed] at left
    exact same.mono left
  stalled same _ := same

/-- A token depends on the reading of suffixes. -/
theorem scanToken_congr {c : Char} {cs : Text} (same : SameReading current other (c :: cs))
    (stack : Stack) : scanToken current c cs stack = scanToken other c cs stack :=
  ((transport_of_sameReading current other).scanToken rfl same).symm

end Scanner

namespace Lexer

/-- What was read in front of the rest is the reading at the rest. -/
theorem readSoFar_append (read rest : Text) : readSoFar (read ++ rest) rest = read := by
  simp [readSoFar]

/-- What was read of a text whose first character is followed by `front` and then by what is
left. -/
theorem readSoFar_front {cs front rest : Text} (whole : front ++ rest = cs) (c : Char) :
    readSoFar (c :: cs) rest = c :: front := by
  rw [← whole]
  exact readSoFar_append (c :: front) rest

/-- The next token reads a piece that is not empty, and leaves the text behind it. -/
theorem nextScanned_reads (c : Char) (cs : Text) (stack : Stack) :
    ∃ read, read ≠ [] ∧ c :: cs = read ++ (nextScanned c cs stack).rest ∧
      readSoFar (c :: cs) (nextScanned c cs stack).rest = read := by
  obtain ⟨front, whole⟩ := Scanner.scanToken_advances (readSoFar (c :: cs)) c cs stack
  have split : c :: cs = (c :: front) ++ (nextScanned c cs stack).rest :=
    congrArg (c :: ·) whole.symm
  refine ⟨c :: front, List.cons_ne_nil c front, split, ?_⟩
  rw [split]
  exact readSoFar_append (c :: front) _

/-- Behind the last character there are no tokens. -/
theorem tokenizeFrom_nil (column : Nat) (stack : Stack) :
    tokenizeFrom column [] stack = ([], stack) := by
  rw [tokenizeFrom]

/-- The next token comes before the tokens of the text behind it. -/
theorem tokenizeFrom_cons {c : Char} {cs read : Text} {stack : Stack}
    (text : readSoFar (c :: cs) (nextScanned c cs stack).rest = read) (column : Nat) :
    tokenizeFrom column (c :: cs) stack =
      (⟨(nextScanned c cs stack).category, column, column + read.length, read⟩ ::
        (tokenizeFrom (column + read.length) (nextScanned c cs stack).rest
          (nextScanned c cs stack).stack).1,
      (tokenizeFrom (column + read.length) (nextScanned c cs stack).rest
        (nextScanned c cs stack).stack).2) := by
  rw [tokenizeFrom]
  simp only [tokenBetween, text]

/-- The stack behind a line does not depend on the column where the line is taken up. -/
theorem snd_tokenizeFrom (column : Nat) (unread : Text) (stack : Stack) :
    (tokenizeFrom column unread stack).2 = (tokenizeLine unread stack).2 := by
  unfold tokenizeLine
  generalize 0 = other
  fun_induction tokenizeFrom column unread stack generalizing other with
  | case1 column stack => rw [tokenizeFrom_nil]
  | case2 column stack c cs scanned token tokens final later ih =>
    obtain ⟨read, -, -, text⟩ := nextScanned_reads c cs stack
    rw [later] at ih
    rw [tokenizeFrom_cons text]
    exact ih _

/-- The stack behind a line is the stack behind what its first token leaves. -/
theorem snd_tokenizeLine_cons (c : Char) (cs : Text) (stack : Stack) :
    (tokenizeLine (c :: cs) stack).2 =
      (tokenizeLine (nextScanned c cs stack).rest (nextScanned c cs stack).stack).2 := by
  rw [tokenizeLine, tokenizeFrom_cons rfl, snd_tokenizeFrom]

/-- What holds at the end of every line, and in front of a token whenever it holds behind it, holds
at every place that lexing can start from. -/
@[elab_as_elim]
theorem reading_induction {motive : Text → Text → Stack → Prop}
    (ended : ∀ before stack, motive before [] stack)
    (token : ∀ before c cs stack read, read ≠ [] →
      c :: cs = read ++ (nextScanned c cs stack).rest →
      readSoFar (c :: cs) (nextScanned c cs stack).rest = read →
      motive (before ++ read) (nextScanned c cs stack).rest (nextScanned c cs stack).stack →
      motive before (c :: cs) stack)
    (before unread : Text) (stack : Stack) : motive before unread stack := by
  match unread with
  | [] => exact ended before stack
  | c :: cs =>
    obtain ⟨read, nonempty, whole, text⟩ := nextScanned_reads c cs stack
    exact token before c cs stack read nonempty whole text
      (reading_induction ended token (before ++ read) (nextScanned c cs stack).rest
        (nextScanned c cs stack).stack)
termination_by unread.length
decreasing_by exact length_nextScanned_lt c cs stack

end Lexer

/-- A slice between two columns of a text is the piece between them. -/
theorem Text.slice_append (before read behind : Text) :
    (before ++ (read ++ behind)).slice before.length (before.length + read.length) = read := by
  have start : ¬ (before.length : Int) < 0 := by omega
  have stop : ¬ (before.length + read.length : Int) < 0 := by omega
  have width : ((before.length : Int) + read.length).toNat = before.length + read.length := by omega
  simp [Text.slice, start, stop, width, List.take_append]

namespace Cursor

open Lexer

/-- A cursor behind `before` has the rest of its line to read. -/
theorem unread?_behind (before unread : Text) (start : Int) :
    unread? ⟨before ++ unread, start, before.length⟩ = some unread := by
  simp [unread?]

/-- It has not reached the end of its line if that has a character. -/
theorem atEnd_behind_cons (before : Text) (c : Char) (cs : Text) (start : Int) :
    atEnd ⟨before ++ c :: cs, start, before.length⟩ = false := by
  simp only [atEnd, List.length_append, List.length_cons, decide_eq_false_iff_not]
  omega

/-- A cursor that stands at a column answers for the token so far as the lexer does. -/
theorem sameReading_behind (before unread : Text) :
    Scanner.SameReading
      (fun rest => (leaving ⟨before ++ unread, before.length, before.length⟩ unread rest).current)
      (readSoFar unread) unread := by
  rintro rest ⟨read, rfl⟩
  have pos : (before.length : Int) + (read ++ rest).length - rest.length =
      before.length + read.length := by
    rw [List.length_append]
    omega
  simp only [leaving, current, pos, Text.slice_append, readSoFar_append]

/-- A cursor at a column reads the token that the lexer finds there. -/
theorem nextToken_behind {c : Char} {cs read : Text} {stack : Stack}
    (whole : c :: cs = read ++ (nextScanned c cs stack).rest) (before : Text) (start : Int) :
    nextToken ⟨before ++ c :: cs, start, before.length⟩ stack =
      (some ⟨(nextScanned c cs stack).category, before.length, before.length + read.length, read⟩,
        ⟨before ++ c :: cs, before.length, before.length + read.length⟩,
        (nextScanned c cs stack).stack) := by
  have same : Scanner.scanToken _ c cs stack = nextScanned c cs stack :=
    Scanner.scanToken_congr (sameReading_behind before (c :: cs)) stack
  have pos : (before.length : Int) + (c :: cs).length - (nextScanned c cs stack).rest.length =
      before.length + read.length := by
    rw [whole, List.length_append]
    omega
  have shown : (before ++ c :: cs).slice before.length (before.length + read.length) = read := by
    rw [whole]
    exact Text.slice_append before read _
  simp only [nextToken, mark, unread?_behind, same]
  simp only [leaving, Cursor.token, current, pos, shown]

/-- A cursor at the first column reads the first token of its line. -/
theorem nextToken_ofLine {c : Char} {cs read : Text} {stack : Stack}
    (whole : c :: cs = read ++ (nextScanned c cs stack).rest) :
    (ofLine (c :: cs) 0).nextToken stack =
      (some ⟨(nextScanned c cs stack).category, 0, read.length, read⟩, ⟨c :: cs, 0, read.length⟩,
        (nextScanned c cs stack).stack) := by
  have found := nextToken_behind whole [] 0
  simpa [ofLine] using found

/-- A token that can be read comes before the tokens behind it. -/
theorem readLine?_of_token {cursor behind : Cursor} {stack next : Stack} {token : Token}
    (more : cursor.atEnd = false) (read : cursor.nextToken stack = (some token, behind, next)) :
    cursor.readLine? stack =
      (behind.readLine? next).map fun (tokens, final) => (token :: tokens, final) := by
  rw [readLine?, dif_pos more]
  split <;> simp_all

/-- Reading from a column to the end of the line never fails, and finds the tokens and the stack
that the lexer does. -/
theorem readLine?_behind (before unread : Text) (start : Int) (stack : Stack) :
    readLine? ⟨before ++ unread, start, before.length⟩ stack =
      some (tokenizeFrom before.length unread stack) := by
  induction before, unread, stack using reading_induction generalizing start with
  | ended before stack =>
    rw [readLine?, tokenizeFrom_nil]
    simp [atEnd]
  | token before c cs stack read _ whole text ih =>
    have more := atEnd_behind_cons before c cs start
    have behind := ih before.length
    rw [List.append_assoc, ← whole, List.length_append, Int.natCast_add] at behind
    rw [readLine?_of_token more (nextToken_behind whole before start), behind,
      tokenizeFrom_cons text]
    rfl

end Cursor

end BatchScript
