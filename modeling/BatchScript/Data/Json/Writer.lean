import BatchScript.Text.Quoted

/-!
# Writing JSON

A list of strings as a JSON array in printable ASCII: every other character, the quote and the
backslash are escaped, and a character beyond four hexadecimal digits becomes a surrogate pair.
-/
namespace BatchScript.Json

/-- The two surrogates of a code point beyond four hexadecimal digits. -/
def surrogates (code : Nat) : Nat × Nat :=
  (0xD800 + (code - 0x10000) / 0x400, 0xDC00 + (code - 0x10000) % 0x400)

/-- An escape of four hexadecimal digits. -/
def unicodeEscape (unit : Nat) : Text := '\\' :: 'u' :: Text.hex 4 unit

/-- A character inside a string. -/
def writeChar (c : Char) : Text :=
  if c = '"' ∨ c = '\\' then ['\\', c]
  else if c = '\n' then ['\\', 'n']
  else if c = '\r' then ['\\', 'r']
  else if c = '\t' then ['\\', 't']
  else if c = '\x0c' then ['\\', 'f']
  else if c = '\x08' then ['\\', 'b']
  else if 0x20 ≤ c.toNat ∧ c.toNat ≤ 0x7E then [c]
  else if c.toNat < 0x10000 then unicodeEscape c.toNat
  else unicodeEscape (surrogates c.toNat).1 ++ unicodeEscape (surrogates c.toNat).2

/-- A string. -/
def writeString (text : Text) : Text := '"' :: text.flatMap writeChar ++ ['"']

/-- An array of strings. -/
def writeStrings (texts : List Text) : Text :=
  '[' :: Text.join [',', ' '] (texts.map writeString) ++ [']']

end BatchScript.Json
