import BatchScript.Error
import BatchScript.Text.Lines

/-!
# Words of the buffer

Words near the cursor that extend the piece of a word in front of it. The cursor's line and the
lines above it come first, then the lines below it, and each word is offered once, where it occurs
first. The piece itself is not offered from the cursor's line.
-/
namespace BatchScript.Hint

/-- A buffer and the cursor in it, counted from zero. -/
structure Request where
  /-- The text of the buffer. -/
  text : Text
  /-- The cursor's line. -/
  line : Int
  /-- The cursor's column. -/
  column : Int
  deriving DecidableEq, Repr

/-- A character of the words in a buffer: a word character or the dollar sign. -/
def isBufferChar (c : Char) : Bool := isWordChar c || c == '$'

/-- The words of a line: its longest runs of such characters. -/
def wordsOf (line : Text) : List Text :=
  (line.splitWhere fun c => !isBufferChar c).filter fun word => !word.isEmpty

/-- The run of such characters at the end of a text. -/
def trailingWord (text : Text) : Text := (text.reverse.takeWhile isBufferChar).reverse

/-- The piece of a word in front of a column. A negative column counts from the end of the line, and
the run in front of it must not reach the line's first character. -/
def fragment (line : Text) (column : Int) : Except Error Text :=
  if 0 ≤ column then .ok (trailingWord (line.take column.toNat))
  else
    let before := line.take (line.length + column).toNat
    if (trailingWord before).length = before.length then .error .outOfRange
    else .ok (trailingWord before)

/-- The lines from a line upwards, at most `range` away from it. -/
def linesAbove (line last range : Int) : List Int :=
  let stop := min (max (line - range) 0) last - 1
  (List.range (line - stop).toNat).map fun (offset : Nat) => line - offset

/-- The lines from a line downwards, at most `range` away from it. -/
def linesBelow (line last range : Int) : List Int :=
  let stop := min (max (line + range) 0) last + 1
  (List.range (stop - line).toNat).map fun (offset : Nat) => line + offset

/-- The words that a line adds: those that extend the piece, except the piece itself in its own
line. -/
def offered (piece : Text) (own : Bool) (line : Text) : List Text :=
  (wordsOf line).filter fun word => piece.isPrefixOf word && !(own && word == piece)

/-- A list of texts with one more behind them, unless it is among them. -/
def addNew (texts : List Text) (text : Text) : List Text :=
  if text ∈ texts then texts else texts ++ [text]

/-- The words near the cursor that extend the piece of a word in front of it. -/
def bufferWords (range : Int) (request : Request) : Except Error (List Text) :=
  let lines := request.text.lines
  if request.line < 0 ∨ lines.length ≤ request.line then .ok []
  else do
    let current := lines[request.line.toNat]?.getD []
    let piece ← fragment current request.column
    let last := (lines.length : Int) - 1
    let visited := linesAbove request.line last range ++ linesBelow request.line last range
    let words := visited.flatMap fun index =>
      offered piece (index == request.line) (lines[index.toNat]?.getD [])
    return words.foldl addNew []

/-- How far from the cursor words are looked for. -/
def defaultRange : Int := 500

end BatchScript.Hint
