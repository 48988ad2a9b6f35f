import BatchScript.Data
import BatchScript.Text.Numeral

/-!
# Blanks, strings and keys of TOML

A line end is a line feed by the time these readers see it. Control characters other than the tab
are refused in comments and strings; a string in three quotes may hold line feeds.
-/
namespace BatchScript.Toml

open Data (ReadError)

/-- A space or a tab. -/
def isSpace (c : Char) : Bool := c == ' ' || c == '\t'

/-- A space, a tab or a line feed. -/
def isLayout (c : Char) : Bool := isSpace c || c == '\n'

/-- A control character that no comment and no string in single quotes may hold. -/
def isForbidden (c : Char) : Bool := (c.toNat < 0x20 || c.toNat == 0x7F) && c != '\t'

/-- The text behind spaces and tabs. -/
def skipSpaces (text : Text) : Text := text.dropWhile isSpace

/-- The text behind a comment at its front, from its line feed on. -/
def skipComment (text : Text) : Except ReadError Text :=
  match text with
  | '#' :: rest =>
    if (rest.takeWhile (· != '\n')).any isForbidden then .error .malformed
    else .ok (rest.dropWhile (· != '\n'))
  | _ => .ok text

/-- The text behind blanks, line ends and comments; `inside` tells whether a comment has begun. -/
def skipLayout (inside : Bool) : Text → Except ReadError Text
  | [] => .ok []
  | c :: rest =>
    if inside then
      if c = '\n' then skipLayout false rest
      else if isForbidden c then .error .malformed
      else skipLayout true rest
    else if isLayout c then skipLayout false rest
    else if c = '#' then skipLayout true rest
    else .ok (c :: rest)

/-- Reads a string in single quotes behind the first of them. -/
def readLiteral : Text → Except ReadError (Text × Text)
  | [] => .error .malformed
  | c :: rest =>
    if c = '\'' then .ok ([], rest)
    else if isForbidden c then .error .malformed
    else do
      let (value, rest) ← readLiteral rest
      return (c :: value, rest)

/-- Reads a string in three single quotes behind the first three. -/
def readLongLiteral : Text → Except ReadError (Text × Text)
  | [] => .error .malformed
  | '\'' :: '\'' :: '\'' :: rest => .ok ([], rest)
  | c :: rest =>
    if isForbidden c && c != '\n' then .error .malformed
    else do
      let (value, rest) ← readLongLiteral rest
      return (c :: value, rest)

/-- The character that a one-letter escape stands for. -/
def escaped? : Char → Option Char
  | 'b' => some '\x08'
  | 't' => some '\t'
  | 'n' => some '\n'
  | 'f' => some '\x0c'
  | 'r' => some '\r'
  | '"' => some '"'
  | '\\' => some '\\'
  | _ => none

/-- The character of a code point in hexadecimal digits. -/
def codePoint? (digits : Text) : Option Char := do
  let code := Numeral.ofDigits 16 (← digits.mapM Numeral.hexValue?)
  if code < 0xD800 ∨ (0xDFFF < code ∧ code ≤ 0x10FFFF) then some (Char.ofNat code) else none

/-- Reads a string in double quotes behind its opening quotes: in one line, or over several if it is
`long`. While `trimming`, blanks and line ends are skipped, as behind a backslash at the end of a
line. -/
def readBasic (long : Bool) : Bool → Text → Except ReadError (Text × Text)
  | _, [] => .error .malformed
  | trimming, first :: rest =>
    if trimming && isLayout first then readBasic long true rest
    else
      match first, rest with
      | '"', rest =>
        if long then
          match rest with
          | '"' :: '"' :: behind => .ok ([], behind)
          | _ => do
            let (value, behind) ← readBasic long false rest
            return ('"' :: value, behind)
        else .ok ([], rest)
      | '\\', 'u' :: a :: b :: c :: d :: rest =>
        match codePoint? [a, b, c, d] with
        | none => .error .malformed
        | some point => do
          let (value, rest) ← readBasic long false rest
          return (point :: value, rest)
      | '\\', 'U' :: a :: b :: c :: d :: e :: f :: g :: h :: rest =>
        match codePoint? [a, b, c, d, e, f, g, h] with
        | none => .error .malformed
        | some point => do
          let (value, rest) ← readBasic long false rest
          return (point :: value, rest)
      | '\\', letter :: rest =>
        if long && isLayout letter then
          if letter = '\n' ∨ (skipSpaces rest).head? = some '\n' then readBasic long true rest
          else .error .malformed
        else
          match escaped? letter with
          | none => .error .malformed
          | some c => do
            let (value, rest) ← readBasic long false rest
            return (c :: value, rest)
      | c, rest =>
        if c = '\\' ∨ (isForbidden c && !(long && c == '\n')) then .error .malformed
        else do
          let (value, rest) ← readBasic long false rest
          return (c :: value, rest)

/-- The text without a line feed at its front. -/
def dropLineFeed : Text → Text
  | '\n' :: rest => rest
  | text => text

/-- Up to two more quotes belong to a string whose closing quotes they follow. -/
def takeExtraQuotes (mark : Char) (value : Text) : Text → Text × Text
  | first :: rest =>
    if first = mark then
      match rest with
      | second :: rest' =>
        if second = mark then (value ++ [mark, mark], rest') else (value ++ [mark], rest)
      | [] => (value ++ [mark], [])
    else (value, first :: rest)
  | [] => (value, [])

/-- Reads a string of any kind from its first quote on. -/
def readString (text : Text) : Except ReadError (Text × Text) :=
  match text with
  | '"' :: '"' :: '"' :: rest => do
    let (value, rest) ← readBasic true false (dropLineFeed rest)
    return takeExtraQuotes '"' value rest
  | '\'' :: '\'' :: '\'' :: rest => do
    let (value, rest) ← readLongLiteral (dropLineFeed rest)
    return takeExtraQuotes '\'' value rest
  | '"' :: rest => readBasic false false rest
  | '\'' :: rest => readLiteral rest
  | _ => .error .malformed

/-- A character of a key without quotes. -/
def isBareKeyChar (c : Char) : Bool := isWordChar c || c == '-'

/-- A key: the names from the outermost table inwards. -/
abbrev Key := List Text

/-- Reads one name of a key. -/
def readKeyPart (text : Text) : Except ReadError (Text × Text) :=
  match text with
  | '\'' :: rest => readLiteral rest
  | '"' :: rest => readBasic false false rest
  | _ =>
    if text.head?.any isBareKeyChar then
      .ok (text.takeWhile isBareKeyChar, text.dropWhile isBareKeyChar)
    else .error .malformed

/-- Reads names with dots between them, in at most a number of steps, and the spaces behind them. -/
def readKeyParts : Nat → Text → Except ReadError (Key × Text)
  | 0, _ => .error .malformed
  | steps + 1, text => do
    let (part, rest) ← readKeyPart text
    match skipSpaces rest with
    | '.' :: rest =>
      let (parts, rest) ← readKeyParts steps (skipSpaces rest)
      return (part :: parts, rest)
    | rest => return ([part], rest)

/-- Reads a key and the spaces behind it. Each name but the last has a dot behind it, so there are
fewer names than characters. -/
def readKey (text : Text) : Except ReadError (Key × Text) := readKeyParts (text.length + 1) text

end BatchScript.Toml
