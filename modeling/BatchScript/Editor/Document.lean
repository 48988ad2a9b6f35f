import BatchScript.Error

/-!
# Documents of an editor

An editor counts columns in code units of its own choice, and it knows more line ends than the lexer
does. A document maps its positions to characters and back.
-/
namespace BatchScript.Editor

/-- The code units in which an editor counts columns. -/
inductive Encoding where
  /-- Bytes of UTF-8. -/
  | utf8
  /-- Units of UTF-16. -/
  | utf16
  /-- Code points. -/
  | utf32
  deriving DecidableEq, Repr

/-- The number of code units of a character. -/
def Encoding.size (encoding : Encoding) (c : Char) : Nat :=
  match encoding with
  | .utf8 => c.utf8Size
  | .utf16 => if c.toNat < 0x10000 then 1 else 2
  | .utf32 => 1

/-- The number of code units of a text. -/
def Encoding.units (encoding : Encoding) (text : Text) : Nat :=
  text.foldr (fun c units => encoding.size c + units) 0

/-- A position: a line and a column, both counted from zero. -/
structure Position where
  /-- The line. -/
  line : Int
  /-- The column. -/
  column : Int
  deriving DecidableEq, Repr

/-- The greatest line or column that an editor may name. -/
def Position.limit : Nat := 2147483647

/-- Refuses a number of a position that no editor may name. -/
def Position.checkNumber (quantity : String) (value : Int) : Except Error Unit :=
  if 0 ≤ value ∧ value ≤ Position.limit then .ok ()
  else .error (.beyondLimit quantity.toList Position.limit value)

/-- Refuses a position with such a line or, after that, such a column. -/
def Position.check (position : Position) : Except Error Unit := do
  Position.checkNumber "Position.line" position.line
  Position.checkNumber "Position.character" position.column

/-- A character that ends a line. -/
def isLineEnd (c : Char) : Bool :=
  let code := c.toNat
  (0xA ≤ code && code ≤ 0xD) || (0x1C ≤ code && code ≤ 0x1E) || code == 0x85 || code == 0x2028 ||
    code == 0x2029

/-- The lines of a document, each with its line end. There is no empty one at the end. -/
def documentLines : Text → List Text
  | [] => []
  | '\r' :: '\n' :: rest => ['\r', '\n'] :: documentLines rest
  | c :: rest =>
    if isLineEnd c then [c] :: documentLines rest
    else
      match documentLines rest with
      | [] => [[c]]
      | line :: lines => (c :: line) :: lines

/-- A line with its line end as an editor counts it: a carriage return with a line feed is one
character. -/
def countedLine : Text → Text
  | [] => []
  | '\r' :: '\n' :: rest => '\n' :: countedLine rest
  | c :: rest => c :: countedLine rest

/-- The number of characters until at least `target` code units have been passed. -/
def charactersBefore (encoding : Encoding) (target : Int) (passed : Nat) : Text → Nat
  | [] => 0
  | c :: rest =>
    if passed < target then charactersBefore encoding target (passed + encoding.size c) rest + 1
    else 0

/-- The position in characters of an editor's position. Behind the last line it is the end of that
line, and a column behind the end of a line is taken back into it. -/
def fromClient (encoding : Encoding) (source : Text) (position : Position) : Position :=
  let lines := documentLines source
  match lines.getLast? with
  | none => ⟨0, 0⟩
  | some last =>
    if lines.length ≤ position.line then ⟨lines.length - 1, encoding.units last⟩
    else
      let line := countedLine (lines[position.line.toNat]?.getD [])
      let size : Int := encoding.units line
      let target := if size < position.column then size - 1 else position.column
      ⟨position.line, charactersBefore encoding target 0 line⟩

/-- The editor's position of a position in characters. -/
def toClient (encoding : Encoding) (source : Text) (position : Position) : Position :=
  let lines := documentLines source
  match lines[position.line.toNat]? with
  | some line => ⟨position.line, encoding.units (line.take position.column.toNat)⟩
  | none => ⟨lines.length, 0⟩

end BatchScript.Editor
