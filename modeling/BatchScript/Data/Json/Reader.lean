import BatchScript.Data
import BatchScript.Text.Numeral
import BatchScript.Text.Utf8

/-!
# Reading JSON

Reads the JSON notation of structured data, with the three numbers `NaN`, `Infinity` and `-Infinity`
besides. Reading goes from left to right, and what is wrong first is reported: a text that does not
follow the notation, an integer with too many digits, or a bracket inside of too many others.

Nested values are read with an allowance for the number of steps. A value that opens a bracket takes
two steps and any other one, so twice the length of the text is always enough.
-/
namespace BatchScript.Json

open Data (ReadError)

/-- The text behind spaces, tabs and line ends. -/
def skipBlanks (text : Text) : Text :=
  text.dropWhile fun c => c == ' ' || c == '\t' || c == '\n' || c == '\r'

/-- The text behind a word at its front. -/
def behind? (word text : Text) : Option Text :=
  if word.isPrefixOf text then some (text.drop word.length) else none

/-- The character that a one-letter escape stands for. -/
def escaped? : Char → Option Char
  | '"' => some '"'
  | '\\' => some '\\'
  | '/' => some '/'
  | 'b' => some '\x08'
  | 'f' => some '\x0c'
  | 'n' => some '\n'
  | 'r' => some '\r'
  | 't' => some '\t'
  | _ => none

/-- The number of four hexadecimal digits. -/
def hex4? (a b c d : Char) : Option Nat := do
  return Numeral.ofDigits 16
    [← Numeral.hexValue? a, ← Numeral.hexValue? b, ← Numeral.hexValue? c, ← Numeral.hexValue? d]

/-- The code units of a string up to its closing quote, and the text behind that. A character stands
for its code point, an escape of four digits for its number. -/
def readUnits : Text → Option (List Nat × Text)
  | [] => none
  | '"' :: rest => some ([], rest)
  | '\\' :: 'u' :: a :: b :: c :: d :: rest => do
    let unit ← hex4? a b c d
    let (units, rest) ← readUnits rest
    return (unit :: units, rest)
  | '\\' :: c :: rest => do
    let c ← escaped? c
    let (units, rest) ← readUnits rest
    return (c.toNat :: units, rest)
  | c :: rest =>
    if c = '\\' ∨ c.toNat < 0x20 then none
    else do
      let (units, rest) ← readUnits rest
      return (c.toNat :: units, rest)

/-- Whether a code unit is the first of a surrogate pair. -/
def isHighSurrogate (unit : Nat) : Bool := 0xD800 ≤ unit && unit < 0xDC00

/-- Whether a code unit is the second of a surrogate pair. -/
def isLowSurrogate (unit : Nat) : Bool := 0xDC00 ≤ unit && unit < 0xE000

/-- Whether a code point is half of a surrogate pair. -/
def isSurrogate (code : Nat) : Bool := isHighSurrogate code || isLowSurrogate code

/-- The code points that code units stand for: a surrogate pair for one, any other unit for
itself. -/
def joinUnits : List Nat → List Nat
  | [] => []
  | [unit] => [unit]
  | first :: second :: rest =>
    if isHighSurrogate first && isLowSurrogate second then
      (0x10000 + (first - 0xD800) * 0x400 + (second - 0xDC00)) :: joinUnits rest
    else first :: joinUnits (second :: rest)

/-- The value of a string, given its code points. -/
def stringValue (codes : List Nat) : Data :=
  if codes.any isSurrogate then .unpaired codes else .string (codes.map Char.ofNat)

/-- The key of an entry, given its code points. Half of a surrogate pair is replaced in it. -/
def keyText (codes : List Nat) : Text :=
  codes.map fun code => if isSurrogate code then Utf8.replacement else Char.ofNat code

/-- Reads the code points of a string behind its opening quote. -/
def readString (text : Text) : Except ReadError (List Nat × Text) :=
  match readUnits text with
  | some (units, rest) => .ok (joinUnits units, rest)
  | none => .error .malformed

/-- A point and the digits behind it, if both are there. -/
def readFraction : Text → Text × Text
  | '.' :: c :: rest =>
    if c.isDigit then (c :: rest.takeWhile Char.isDigit, rest.dropWhile Char.isDigit)
    else ([], '.' :: c :: rest)
  | text => ([], text)

/-- The digits of an exponent and whether it is negative, if there are digits. -/
def readExponent (text : Text) : Option (Bool × Text) × Text :=
  match text with
  | c :: rest =>
    if c = 'e' ∨ c = 'E' then
      let (negative, digits) := match rest with
        | '+' :: digits => (false, digits)
        | '-' :: digits => (true, digits)
        | digits => (false, digits)
      if digits.head?.any Char.isDigit then
        (some (negative, digits.takeWhile Char.isDigit), digits.dropWhile Char.isDigit)
      else (none, text)
    else (none, text)
  | [] => (none, text)

/-- Reads the digits of a number and what may follow them. A number with neither fraction nor
exponent is an integer. -/
def readUnsigned (negative : Bool) (text : Text) : Except ReadError (Data × Text) :=
  let (whole, rest) := match text with
    | '0' :: rest => (['0'], rest)
    | _ => (text.takeWhile Char.isDigit, text.dropWhile Char.isDigit)
  if whole.isEmpty then .error .malformed
  else
    let (fraction, rest) := readFraction rest
    let (exponent, rest) := readExponent rest
    match fraction, exponent with
    | [], none =>
      if Numeral.maxDigits < whole.length then .error (.numeralTooLong whole.length)
      else .ok (.integer (Numeral.signed negative (Numeral.ofChars 10 whole)), rest)
    | fraction, exponent =>
      let (below, power) := exponent.getD (false, [])
      let scale := Numeral.signed below (Numeral.ofChars 10 power) - fraction.length
      .ok (.float (.ofDecimal negative (Numeral.ofChars 10 (whole ++ fraction)) scale), rest)

/-- Reads a number. -/
def readNumber (text : Text) : Except ReadError (Data × Text) :=
  match text with
  | '-' :: rest => readUnsigned true rest
  | _ => readUnsigned false text

/-- The words that stand for values. -/
def constants : List (Text × Data) :=
  [("null".toList, .null), ("true".toList, .boolean true), ("false".toList, .boolean false),
   ("NaN".toList, .float .nan), ("Infinity".toList, .float (.infinite false)),
   ("-Infinity".toList, .float (.infinite true))]

/-- Reads a word that stands for a value, or else a number. -/
def readScalar (text : Text) : Except ReadError (Data × Text) :=
  match constants.findSome? fun (word, value) => (behind? word text).map (value, ·) with
  | some result => .ok result
  | none => readNumber text

/-- The refusal of one more open bracket, given what it opens. -/
def tooDeep (construct : String) : ReadError :=
  .tooDeep (" while decoding a JSON ".toList ++ construct.toList ++ " from a unicode string".toList)

mutual

/-- Reads a value in which `depth` brackets may be open at a time. -/
def readValue : Nat → Nat → Text → Except ReadError (Data × Text)
  | 0, _, _ => .error .malformed
  | steps + 1, depth, text =>
    match text with
    | '"' :: rest => do
      let (codes, rest) ← readString rest
      return (stringValue codes, rest)
    | '[' :: rest =>
      if depth = 0 then .error (tooDeep "array")
      else
        match skipBlanks rest with
        | ']' :: rest => .ok (.array [], rest)
        | rest => do
          let (items, rest) ← readItems steps (depth - 1) rest
          return (.array items, rest)
    | '{' :: rest =>
      if depth = 0 then .error (tooDeep "object")
      else
        match skipBlanks rest with
        | '}' :: rest => .ok (.table [], rest)
        | rest => do
          let (entries, rest) ← readEntries steps (depth - 1) [] rest
          return (.table entries, rest)
    | _ => readScalar text

/-- Reads the items of an array and its closing bracket. -/
def readItems : Nat → Nat → Text → Except ReadError (List Data × Text)
  | 0, _, _ => .error .malformed
  | steps + 1, depth, text => do
    let (item, rest) ← readValue steps depth text
    match skipBlanks rest with
    | ']' :: rest => return ([item], rest)
    | ',' :: rest =>
      let (items, rest) ← readItems steps depth (skipBlanks rest)
      return (item :: items, rest)
    | _ => throw .malformed

/-- Reads the entries of an object and its closing brace; of equal keys the last counts. -/
def readEntries : Nat → Nat → Data.Entries → Text → Except ReadError (Data.Entries × Text)
  | 0, _, _, _ => .error .malformed
  | steps + 1, depth, entries, text =>
    match text with
    | '"' :: rest => do
      let (codes, rest) ← readString rest
      match skipBlanks rest with
      | ':' :: rest =>
        let (value, rest) ← readValue steps depth (skipBlanks rest)
        let entries := entries.set (keyText codes) value
        match skipBlanks rest with
        | '}' :: rest => return (entries, rest)
        | ',' :: rest => readEntries steps depth entries (skipBlanks rest)
        | _ => throw .malformed
      | _ => throw .malformed
    | _ => .error .malformed

end

/-- Reads a text that holds one value and nothing else but blanks, with at most `depth` brackets
open at a time. -/
def read (depth : Nat) (text : Text) : Except ReadError Data := do
  let (value, rest) ← readValue (2 * text.length + 2) depth (skipBlanks text)
  if (skipBlanks rest).isEmpty then return value else throw .malformed

end BatchScript.Json
