import BatchScript.Text.Digit

/-!
# Numerals

A numeral is a run of decimal digits of any script. Numerals above a fixed number of digits are
refused wherever an integer is read.
-/
namespace BatchScript.Numeral

/-- The greatest number of digits of a numeral. -/
def maxDigits : Nat := 4300

/-- The number that digits in a base stand for. -/
def ofDigits (base : Nat) (digits : List Nat) : Nat :=
  digits.foldl (fun value digit => value * base + digit) 0

/-- The value of a hexadecimal digit. -/
def hexValue? (c : Char) : Option Nat :=
  if c.isDigit then some (c.toNat - '0'.toNat)
  else if 'a' ≤ c ∧ c ≤ 'f' then some (c.toNat - 'a'.toNat + 10)
  else if 'A' ≤ c ∧ c ≤ 'F' then some (c.toNat - 'A'.toNat + 10)
  else none

/-- The number that characters stand for in a base up to sixteen; characters that are no digits do
not count. -/
def ofChars (base : Nat) (text : Text) : Nat := ofDigits base (text.filterMap hexValue?)

/-- The integer of a sign and a size. -/
def signed (negative : Bool) (n : Nat) : Int := if negative then -n else n

end BatchScript.Numeral
