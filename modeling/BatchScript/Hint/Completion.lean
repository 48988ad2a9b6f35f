import BatchScript.Data.Json.Reader
import BatchScript.Hint.BufferWords
import BatchScript.Lexer
import BatchScript.Log
import BatchScript.Store
import BatchScript.Text.Upper

/-!
# Completion

Candidates for the token under a cursor: the words of the vocabulary and the custom commands that
start with it, then the special variables whose names start with it, then what a source of words
adds. Case does not matter. The text is compared with as many characters of a candidate in upper
case as it has itself before it is put in upper case.

A candidate is a text. A custom command whose name holds half of a surrogate pair is no text and is
left out here, so what is said about the names of a store is said of stores without such names.
-/
namespace BatchScript.Hint

/-- The candidates in order, and the columns of the line that they replace. -/
structure Response where
  /-- The candidates. -/
  candidates : List Text
  /-- The line. -/
  line : Int
  /-- The first column to replace. -/
  start : Int
  /-- The column behind the last one to replace. -/
  stop : Int
  deriving DecidableEq, Repr

/-- A source of further words for a request. -/
abbrev WordSource := Request → Except Error (List Text)

/-- The number of characters in front of the name of a special variable. -/
def sigilLength : Nat := 2

/-- A warning that the custom commands of a store are ignored. It gives the cause alone: what the
reader of the notation found wrong, and where, is not kept. -/
def ignoring (cause : String) : Log.Record :=
  ⟨.warning, .hint, "ignoring customCommands: ".toList ++ cause.toList⟩

/-- The custom commands of a store. A text that is no JSON array is ignored with a warning, and
items that are no texts are left out. -/
def customCommands (store : Store) (nesting : Data.Nesting := .usual) :
    Except Error (List Text × List Log.Record) :=
  match store.customCommands.getD [] with
  | [] => .ok ([], [])
  | raw =>
    match Json.read nesting.json raw with
    | .ok (.array items) => .ok (items.filterMap Data.string?, [])
    | .ok _ => .ok ([], [ignoring "expected a JSON array"])
    | .error .malformed => .ok ([], [ignoring "invalid JSON"])
    | .error (.numeralTooLong digits) => .error (.numeralTooLong digits)
    | .error (.tooDeep occasion) => .error (.tooDeep occasion)

/-- The special variables of a store. -/
def specialVariables (store : Store) : List Text :=
  match store.specialVariables.getD [] with
  | [] => []
  | raw => raw.split ','

/-- Whether a candidate in upper case starts with the typed text behind its first `skipped`
characters. -/
def matchesTyped (typed : Text) (skipped : Nat) (candidate : Text) : Bool :=
  (candidate.upper.drop skipped).take typed.length == typed.upper

/-- The candidates with one word after the other added that starts with the typed text and is not
among them yet. -/
def addCommands (typed : Text) (candidates commands : List Text) : List Text :=
  commands.foldl
    (fun candidates word =>
      if matchesTyped typed 0 word then addNew candidates word else candidates)
    candidates

/-- The candidates with one special variable after the other added whose name starts with the typed
text. Special variables have names of their own and are not compared with the candidates. -/
def addVariables (typed : Text) (candidates names : List Text) : List Text :=
  names.foldl
    (fun candidates name =>
      if matchesTyped typed sigilLength name then candidates ++ [name] else candidates)
    candidates

/-- The candidates from the vocabulary and a store. -/
def knownCandidates (typed : Text) (commands specials : List Text) : List Text :=
  addVariables typed
    (addCommands typed []
      (Vocabulary.atoms ++ Vocabulary.keywords ++ Vocabulary.commands ++ commands))
    specials

/-- The candidates with one word after the other added that is not among them yet. -/
def addWords (candidates words : List Text) : List Text := words.foldl addNew candidates

/-- The candidates for a token; there is no answer for an empty one. -/
def complete (store : Store) (source : Option WordSource) (token : Token) (request : Request)
    (nesting : Data.Nesting := .usual) : Except Error (Option Response × List Log.Record) :=
  if token.text.isEmpty then .ok (none, [])
  else do
    let (commands, warnings) ← customCommands store nesting
    let known := knownCandidates token.text commands (specialVariables store)
    let words ← match source with
      | none => pure []
      | some source => source request
    let candidates := addWords known words
    let count : Log.Record :=
      ⟨.debug, .hint,
        Text.ofNat candidates.length ++ " candidates for ".toList ++ token.text.quoted⟩
    return (some ⟨candidates, request.line, token.start, token.stop⟩, warnings ++ [count])

/-- The candidates for the token under the cursor; there is no answer outside the buffer. -/
def hint (store : Store) (source : Option WordSource) (request : Request)
    (nesting : Data.Nesting := .usual) : Except Error (Option Response × List Log.Record) :=
  let lines := request.text.lines
  if request.line < 0 then .ok (none, [])
  else
    match lines[request.line.toNat]? with
    | none => .ok (none, [])
    | some line =>
      let stack := Lexer.stackAfter (lines.take request.line.toNat) []
      complete store source (Lexer.tokenAt line request.column stack) request nesting

end BatchScript.Hint
