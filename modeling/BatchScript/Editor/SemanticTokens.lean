import BatchScript.Editor.Document
import BatchScript.Lexer

/-!
# Semantic tokens

The styled tokens of a document as an editor wants them: five numbers for each, the lines passed
since the token before it, the code units passed in its line, its size in code units, the index of
its style class, and zero for the lack of modifiers.
-/
namespace BatchScript.Editor

/-- A styled token with its place in code units. -/
structure Placed where
  /-- The line. -/
  line : Nat
  /-- The code units in front of it in its line. -/
  start : Nat
  /-- Its size in code units. -/
  size : Nat
  /-- The index of its style class. -/
  style : Nat
  deriving DecidableEq, Repr

/-- The styled tokens of a line, each with its place. -/
def placedIn (units : Text → Nat) (number : Nat) (line : Text) (tokens : List Token) :
    List Placed :=
  tokens.filterMap fun token =>
    token.category.styleIndex?.map fun style =>
      ⟨number, units (line.take token.start.toNat), units token.text, style⟩

/-- The styled tokens of lines, of which the first has a given number. -/
def placedFrom (units : Text → Nat) (number : Nat) : List (Text × List Token) → List Placed
  | [] => []
  | (line, tokens) :: rest =>
    placedIn units number line tokens ++ placedFrom units (number + 1) rest

/-- The styled tokens of a script, each with its place. -/
def placed (units : Text → Nat) (source : Text) : List Placed :=
  placedFrom units 0 (source.lines.zip (Lexer.tokenize source []).1)

/-- Five numbers for each token, relative to a line and a start in it. -/
def relative (line start : Nat) : List Placed → List Int
  | [] => []
  | token :: rest =>
    let passed := if token.line = line then (token.start : Int) - start else token.start
    [(token.line : Int) - line, passed, token.size, token.style, 0] ++
      relative token.line token.start rest

/-- The semantic tokens of a script, given the number of code units of a text. -/
def semanticTokens (units : Text → Nat) (source : Text) : List Int :=
  relative 0 0 (placed units source)

end BatchScript.Editor
