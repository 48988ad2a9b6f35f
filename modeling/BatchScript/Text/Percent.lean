import BatchScript.Text.Numeral
import BatchScript.Text.Utf8

/-!
# Percent escapes

In a name with percent escapes a percent sign and two hexadecimal digits stand for a byte. Two such
names are the same if they stand for the same bytes as text.
-/
namespace BatchScript.Percent

/-- The bytes of a text: an escape is one byte, any other character stands for itself. A percent
sign without two hexadecimal digits behind it is no escape. -/
def bytes : Text → List UInt8
  | [] => []
  | '%' :: high :: low :: rest =>
    match Numeral.hexValue? high, Numeral.hexValue? low with
    | some high, some low => UInt8.ofNat (high * 16 + low) :: bytes rest
    | _, _ => String.utf8EncodeChar '%' ++ bytes (high :: low :: rest)
  | c :: rest => String.utf8EncodeChar c ++ bytes rest

/-- The text without escapes. -/
def decode (text : Text) : Text := Utf8.decode (bytes text)

end BatchScript.Percent
