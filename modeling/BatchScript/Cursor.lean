import BatchScript.Scanner.Progress
import BatchScript.Token

/-!
# Cursors

A cursor stands in a line and marks where the token it reads began. Its position is an integer: in
front of the line it counts from the line's end, so that the last characters come before the first,
and further in front there is nothing to read. Each token takes a cursor further, so it can read a
line to the end, or up to a column.
-/
namespace BatchScript

/-- A position in a line, and the position where the token at hand began. -/
structure Cursor where
  /-- The characters of the line. -/
  line : Text
  /-- Where the token at hand began. -/
  start : Int
  /-- The next position to read. -/
  pos : Int
  deriving DecidableEq, Repr

namespace Cursor

/-- A cursor at a position, where its first token begins. -/
def ofLine (line : Text) (pos : Int) : Cursor := ⟨line, pos, pos⟩

/-- Whether the line has been read to its end. -/
def atEnd (cursor : Cursor) : Bool := cursor.line.length ≤ cursor.pos

/-- What is left to read; nothing can be read more than a line's length in front of it. -/
def unread? (cursor : Cursor) : Option Text :=
  if 0 ≤ cursor.pos then some (cursor.line.drop cursor.pos.toNat)
  else if 0 ≤ cursor.pos + cursor.line.length then
    some (cursor.line.drop (cursor.pos + cursor.line.length).toNat ++ cursor.line)
  else none

/-- The cursor when `rest` is left of what it had to read. -/
def leaving (cursor : Cursor) (unread rest : Text) : Cursor :=
  { cursor with pos := cursor.pos + unread.length - rest.length }

/-- The next character, if one is left, without reading it. -/
def peek? (cursor : Cursor) : Option (Option Char) := cursor.unread?.map List.head?

/-- Reads the next character, if one is left. -/
def next? (cursor : Cursor) : Option (Option Char × Cursor) :=
  cursor.unread?.map fun unread => (unread.head?, cursor.leaving unread unread.tail)

/-- Reads the next character if it alone makes up `expected`, and tells whether it did. -/
def eat? (cursor : Cursor) (expected : Text) : Option (Bool × Cursor) :=
  cursor.unread?.map fun unread =>
    if unread.take 1 = expected ∧ unread ≠ [] then (true, cursor.leaving unread unread.tail)
    else (false, cursor)

/-- Reads characters for as long as they satisfy `p`, and tells whether there was one. -/
def eatWhile? (cursor : Cursor) (p : Char → Bool) : Option (Bool × Cursor) :=
  cursor.unread?.map fun unread =>
    (unread.head?.any p, cursor.leaving unread (unread.dropWhile p))

/-- The cursor at the end of its line. -/
def skipToEnd (cursor : Cursor) : Cursor := { cursor with pos := cursor.line.length }

/-- The cursor some positions in front of where it stood. -/
def backUp (cursor : Cursor) (count : Int) : Cursor := { cursor with pos := cursor.pos - count }

/-- The cursor with a new token begun where it stands. -/
def mark (cursor : Cursor) : Cursor := { cursor with start := cursor.pos }

/-- The text of the token at hand. -/
def current (cursor : Cursor) : Text := cursor.line.slice cursor.start cursor.pos

/-- The token at hand. -/
def token (cursor : Cursor) (category : Category) : Token :=
  ⟨category, cursor.start, cursor.pos, cursor.current⟩

/-- The stack once a pending region on top has been opened. -/
def opened : Stack → Stack
  | .region closer category true :: below => .region closer category false :: below
  | stack => stack

/-- Reads the next token, which is empty at the end of the line. Where nothing can be read there is
no token, but a pending region counts as opened. -/
def nextToken (cursor : Cursor) (stack : Stack) : Option Token × Cursor × Stack :=
  let cursor := cursor.mark
  match cursor.unread? with
  | none => (none, cursor, opened stack)
  | some [] => (some (cursor.token .plain), cursor, stack)
  | some (c :: cs) =>
    let scanned :=
      Scanner.scanToken (fun rest => (cursor.leaving (c :: cs) rest).current) c cs stack
    let behind := cursor.leaving (c :: cs) scanned.rest
    (some (behind.token scanned.category), behind, scanned.stack)

/-- In front of the end of its line a cursor has something to read, if it can read at all. -/
theorem unread?_ne_nil {cursor : Cursor} (inside : cursor.pos < cursor.line.length) :
    cursor.unread? ≠ some [] := by
  unfold unread?
  by_cases column : 0 ≤ cursor.pos
  · simp only [column, ↓reduceIte, ne_eq, Option.some.injEq, List.drop_eq_nil_iff]
    omega
  · simp only [column, ↓reduceIte]
    by_cases near : 0 ≤ cursor.pos + cursor.line.length
    · have long : cursor.line ≠ [] := by
        intro empty
        simp only [empty, List.length_nil] at near
        omega
      simp [near, long]
    · simp [near]

/-- A cursor that has not reached the end of its line gets ahead with every token. -/
theorem nextToken_advances {cursor behind : Cursor} {stack next : Stack} {token : Token}
    (more : cursor.atEnd = false) (read : cursor.nextToken stack = (some token, behind, next)) :
    behind.line = cursor.line ∧ cursor.pos < behind.pos := by
  have inside : cursor.pos < cursor.line.length := by
    simpa [atEnd] using more
  simp only [nextToken] at read
  split at read
  · simp at read
  · rename_i nothing
    exact absurd nothing (@unread?_ne_nil cursor.mark inside)
  · rename_i c cs unread
    simp only [Prod.mk.injEq] at read
    obtain ⟨-, rfl, -⟩ := read
    have shorter := (Scanner.scanToken_advances
      (fun rest => (cursor.mark.leaving (c :: cs) rest).current) c cs stack).length_le
    simp only [leaving, mark, List.length_cons, true_and] at shorter ⊢
    omega

/-- Reads tokens up to the end of the line. There is no answer where a token cannot be read. -/
def readLine? (cursor : Cursor) (stack : Stack) : Option (List Token × Stack) :=
  if _ : cursor.atEnd = false then
    match _ : cursor.nextToken stack with
    | (none, _, _) => none
    | (some token, behind, next) =>
      (readLine? behind next).map fun (tokens, final) => (token :: tokens, final)
  else some ([], stack)
termination_by (cursor.line.length - cursor.pos).toNat
decreasing_by
  rename_i more read
  obtain ⟨line, ahead⟩ := nextToken_advances more read
  rw [line]
  simp only [atEnd, decide_eq_false_iff_not] at more
  omega

/-- Reads tokens for as long as they start in front of a column, and answers with the last one,
which is `last` if there is none, and with the stack behind it. Where a token cannot be read there
is no answer. -/
def readTo (column : Int) (last : Token) (cursor : Cursor) (stack : Stack) : Option Token × Stack :=
  if _ : cursor.pos < column ∧ cursor.atEnd = false then
    match _ : cursor.nextToken stack with
    | (none, _, next) => (none, next)
    | (some token, behind, next) => readTo column token behind next
  else (some last, stack)
termination_by (cursor.line.length - cursor.pos).toNat
decreasing_by
  rename_i more read
  obtain ⟨line, ahead⟩ := nextToken_advances more.2 read
  have inside := more.2
  simp only [atEnd, decide_eq_false_iff_not] at inside
  rw [line]
  omega

/-- Asks for the token under a column of a line. The tokens are read on a copy of the stack at
hand. -/
def tokenUnder (line : Text) (column : Int) : StateM Stack (Option Token) := do
  let copy ← get
  return (readTo column .empty (ofLine line 0) copy).1

end Cursor

end BatchScript
