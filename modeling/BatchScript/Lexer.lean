import BatchScript.Scanner.Progress
import BatchScript.Text.Lines
import BatchScript.Token

/-!
# Lexer

Cuts the lines of a script into tokens. The stack of modes is handed from token to token and from
line to line, so a script can be lexed from any line whose stack is known.
-/
namespace BatchScript.Lexer

/-- The text that was read when `rest` is what is left of `unread`. -/
def readSoFar (unread rest : Text) : Text := unread.take (unread.length - rest.length)

/-- The next token of a line, of which at least the character `c` is left. -/
def nextScanned (c : Char) (cs : Text) (stack : Stack) : Scanned :=
  Scanner.scanToken (readSoFar (c :: cs)) c cs stack

/-- The next token leaves less of the line. -/
theorem length_nextScanned_lt (c : Char) (cs : Text) (stack : Stack) :
    (nextScanned c cs stack).rest.length < (c :: cs).length :=
  Nat.lt_succ_of_le (Scanner.scanToken_advances _ c cs stack).length_le

/-- The token at a column, given what is left of the line before it and behind it. -/
def tokenBetween (column : Nat) (category : Category) (unread rest : Text) : Token :=
  let text := readSoFar unread rest
  ⟨category, column, column + text.length, text⟩

/-- The tokens of what is left of a line from a column on, and the stack behind the line. -/
def tokenizeFrom (column : Nat) (unread : Text) (stack : Stack) : List Token × Stack :=
  match unread with
  | [] => ([], stack)
  | c :: cs =>
    let scanned := nextScanned c cs stack
    let token := tokenBetween column scanned.category (c :: cs) scanned.rest
    let (tokens, final) := tokenizeFrom (column + token.text.length) scanned.rest scanned.stack
    (token :: tokens, final)
termination_by unread.length
decreasing_by exact length_nextScanned_lt c cs stack

/-- The tokens of one line and the stack behind it. -/
def tokenizeLine (line : Text) (stack : Stack) : List Token × Stack := tokenizeFrom 0 line stack

/-- The tokens of each line in turn and the stack behind the last one. -/
def tokenizeLines : List Text → Stack → List (List Token) × Stack
  | [], stack => ([], stack)
  | line :: rest, stack =>
    let (tokens, next) := tokenizeLine line stack
    let (others, final) := tokenizeLines rest next
    (tokens :: others, final)

/-- The tokens of a script by lines, and the stack behind it. -/
def tokenize (source : Text) (stack : Stack) : List (List Token) × Stack :=
  tokenizeLines source.lines stack

/-- The stack in front of each line. -/
def lineStacks : List Text → Stack → List Stack
  | [], _ => []
  | line :: rest, stack => stack :: lineStacks rest (tokenizeLine line stack).2

/-- The stack behind all lines. -/
def stackAfter (lines : List Text) (stack : Stack) : Stack :=
  lines.foldl (fun stack line => (tokenizeLine line stack).2) stack

/-- Lexes from a column on for as long as tokens start in front of `target`; `last` is the token in
front of the column. -/
def tokenAtFrom (target : Int) (last : Token) (column : Nat) (unread : Text) (stack : Stack) :
    Token :=
  match unread with
  | [] => last
  | c :: cs =>
    if target ≤ column then last
    else
      let scanned := nextScanned c cs stack
      let token := tokenBetween column scanned.category (c :: cs) scanned.rest
      tokenAtFrom target token (column + token.text.length) scanned.rest scanned.stack
termination_by unread.length
decreasing_by exact length_nextScanned_lt c cs stack

/-- The last token of a line that starts in front of a column; an empty one if there is none. -/
def tokenAt (line : Text) (column : Int) (stack : Stack) : Token :=
  tokenAtFrom column .empty 0 line stack

end BatchScript.Lexer
