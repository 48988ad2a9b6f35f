import BatchScript.Proofs.Lexer.Reading

/-!
# Tokens tile their line

From whatever stack a line is lexed, its tokens lie end to end from the first column to the last:
none is empty, none overlaps the next, and each shows the characters between its columns. So the
texts of a script's tokens, put together line by line, are its lines.
-/
namespace BatchScript

/-- The tokens lie end to end over a line from a column to its end. Each begins where the one in
front of it stops, has characters, and shows those between its columns. -/
def Tiles (line : Text) (column : Int) : List Token → Prop
  | [] => column = line.length
  | token :: tokens =>
    token.start = column ∧ token.start < token.stop ∧ token.text ≠ [] ∧
      token.text = line.slice token.start token.stop ∧ Tiles line token.stop tokens

namespace Lexer

/-- The tokens of what is left of a line tile it from there on. -/
theorem tiles_tokenizeFrom (before unread : Text) (stack : Stack) :
    Tiles (before ++ unread) before.length (tokenizeFrom before.length unread stack).1 := by
  induction before, unread, stack using reading_induction with
  | ended before stack =>
    rw [tokenizeFrom_nil]
    simp [Tiles]
  | token before c cs stack read nonempty whole text ih =>
    have shown : (before ++ c :: cs).slice before.length (before.length + read.length) = read := by
      rw [whole]
      exact Text.slice_append before read _
    have wide : 0 < read.length := List.length_pos_iff.2 nonempty
    rw [List.append_assoc, ← whole, List.length_append] at ih
    rw [tokenizeFrom_cons text]
    refine ⟨rfl, ?_, nonempty, shown.symm, ?_⟩
    · change (before.length : Int) < before.length + read.length
      omega
    · exact ih

/-- The tokens of a line tile it. -/
theorem tiles_tokenizeLine (line : Text) (stack : Stack) :
    Tiles line 0 (tokenizeLine line stack).1 := tiles_tokenizeFrom [] line stack

end Lexer

/-- A slice between columns is cut off in front and behind. -/
theorem Text.slice_natCast (text : Text) (start stop : Nat) :
    text.slice start stop = (text.take stop).drop start := by
  have low : ¬ (start : Int) < 0 := by omega
  have high : ¬ (stop : Int) < 0 := by omega
  simp [Text.slice, low, high]

/-- A slice up to a column and the text behind that column make up the text from its start on. -/
theorem Text.slice_append_drop (text : Text) {start stop : Nat} (ordered : start ≤ stop) :
    text.slice start stop ++ text.drop stop = text.drop start := by
  calc
    text.slice start stop ++ text.drop stop
      = (text.take stop).drop start ++ text.drop stop := by rw [Text.slice_natCast]
    _ = (text.take stop).drop start ++ (text.drop start).drop (stop - start) := by
      rw [List.drop_drop, Nat.add_sub_cancel' ordered]
    _ = text.drop start := by
      rw [List.drop_take, List.take_append_drop]

/-- The text in front of a column and a slice from there on make up the text in front of its end. -/
theorem Text.take_append_slice (text : Text) {start stop : Nat} (ordered : start ≤ stop) :
    text.take start ++ text.slice start stop = text.take stop := by
  have front : (text.take stop).take start = text.take start := by
    rw [List.take_take, Nat.min_eq_left ordered]
  rw [Text.slice_natCast, ← front, List.take_append_drop]

/-- A token stands in a line behind a column: it has a width and shows the characters between its
columns. -/
structure Token.Within (line : Text) (column : Int) (token : Token) : Prop where
  /-- It starts at the column or behind it. -/
  behind : column ≤ token.start
  /-- It stops behind its start. -/
  wide : token.start < token.stop
  /-- It stops before the line does. -/
  inside : token.stop ≤ line.length
  /-- It has characters. -/
  nonempty : token.text ≠ []
  /-- They are those between its columns. -/
  shown : token.text = line.slice token.start token.stop

/-- Tokens that tile a line from a column stand in it behind the column. -/
theorem Tiles.within {line : Text} {column : Int} {tokens : List Token}
    (tiled : Tiles line column tokens) :
    column ≤ line.length ∧ ∀ token ∈ tokens, token.Within line column := by
  induction tokens generalizing column with
  | nil => exact ⟨Int.le_of_eq tiled, by simp⟩
  | cons first tokens ih =>
    obtain ⟨start, wide, nonempty, text, behind⟩ := tiled
    obtain ⟨inside, later⟩ := ih behind
    refine ⟨by omega, fun token member => ?_⟩
    rcases List.mem_cons.1 member with rfl | member
    · exact ⟨Int.le_of_eq start.symm, wide, inside, nonempty, text⟩
    · have rest := later token member
      exact { rest with behind := by have after := rest.behind; omega }

/-- Of tokens that tile a line each stops before the next ones start. -/
theorem Tiles.apart {line : Text} {column : Int} {tokens : List Token}
    (tiled : Tiles line column tokens) :
    tokens.Pairwise fun first second => first.stop ≤ second.start := by
  induction tokens generalizing column with
  | nil => exact List.Pairwise.nil
  | cons first tokens ih =>
    obtain ⟨-, -, -, -, behind⟩ := tiled
    exact List.Pairwise.cons (fun token member => (behind.within.2 token member).behind) (ih behind)

/-- The texts of tokens that tile a line from a column make up the line from there on. -/
theorem Tiles.flatMap_text {line : Text} {column : Nat} {tokens : List Token}
    (tiled : Tiles line column tokens) : tokens.flatMap Token.text = line.drop column := by
  induction tokens generalizing column with
  | nil =>
    have ended : (column : Int) = line.length := tiled
    rw [List.drop_eq_nil_of_le (by omega)]
    rfl
  | cons token tokens ih =>
    obtain ⟨start, wide, -, text, behind⟩ := tiled
    obtain ⟨stop, same⟩ := Int.eq_ofNat_of_zero_le (show 0 ≤ token.stop by omega)
    rw [same] at behind wide text
    rw [start] at wide text
    rw [List.flatMap_cons, ih behind, text, Text.slice_append_drop line (by omega)]

namespace Lexer

/-- The tokens of each line put together are the lines. -/
theorem flatMap_text_tokenizeLines (lines : List Text) (stack : Stack) :
    (tokenizeLines lines stack).1.map (·.flatMap Token.text) = lines := by
  induction lines generalizing stack with
  | nil => rfl
  | cons line lines ih =>
    have tiled : Tiles line (0 : Nat) (tokenizeLine line stack).1 := tiles_tokenizeLine line stack
    rw [tokenizeLines, List.map_cons, ih, tiled.flatMap_text, List.drop_zero]

/-- The tokens of each line tile it. -/
theorem tiles_of_mem_zip {lines : List Text} {stack : Stack} {line : Text} {tokens : List Token}
    (inside : (line, tokens) ∈ lines.zip (tokenizeLines lines stack).1) : Tiles line 0 tokens := by
  induction lines generalizing stack with
  | nil => simp at inside
  | cons first lines ih =>
    rw [tokenizeLines, List.zip_cons_cons] at inside
    rcases List.mem_cons.1 inside with same | later
    · cases same
      exact tiles_tokenizeLine line stack
    · exact ih later

/-- A cursor reads every line to its end from every stack, and the tokens it reads are those of the
lexer and tile the line. So the tokens of a script, put together line by line, are its lines. -/
theorem tokens_tile_every_line :
    (∀ (line : Text) (stack : Stack),
      (Cursor.ofLine line 0).readLine? stack = some (tokenizeLine line stack) ∧
        Tiles line 0 (tokenizeLine line stack).1) ∧
    ∀ (source : Text) (stack : Stack),
      (tokenize source stack).1.map (·.flatMap Token.text) = source.lines := by
  refine ⟨fun line stack => ⟨?_, ?_⟩, fun source stack => ?_⟩
  · exact Cursor.readLine?_behind [] line 0 stack
  · exact tiles_tokenizeFrom [] line stack
  · exact flatMap_text_tokenizeLines source.lines stack

end Lexer

end BatchScript
