import BatchScript.Text

/-!
# Binary floating-point numbers

A number of the binary64 format is kept as its exact value, an integer times a power of two.
Decimals are read by rounding to the nearest such number, and a number is written with the fewest
decimal digits that read back as it. Both are done in exact integer arithmetic.
-/
namespace BatchScript

/-- A number of the binary64 format. -/
inductive Binary64 where
  /-- Not a number. -/
  | nan
  /-- An infinity. -/
  | infinite (negative : Bool)
  /-- The number `mantissa * 2 ^ exponent` with its sign, where the mantissa has at most 53 bits and
  the exponent is as small as the format and the mantissa allow. -/
  | finite (negative : Bool) (mantissa : Nat) (exponent : Int)
  deriving DecidableEq, Repr

namespace Binary64

/-- The least exponent of the format. -/
def leastExponent : Int := -1074

/-- The greatest exponent of the format. -/
def greatestExponent : Int := 971

/-- The quotient rounded to the nearest integer, a half to the even one. -/
def roundDiv (num den : Nat) : Nat :=
  let quotient := num / den
  let twice := 2 * (num % den)
  if den < twice ∨ (twice = den ∧ quotient % 2 = 1) then quotient + 1 else quotient

/-- Numerator and denominator of a fraction times an integer power of a base. -/
def scale (base : Nat) (exponent : Int) (fraction : Nat × Nat) : Nat × Nat :=
  if 0 ≤ exponent then (fraction.1 * base.pow exponent.toNat, fraction.2)
  else (fraction.1, fraction.2 * base.pow (-exponent).toNat)

/-- The greatest power of two that is at most a positive fraction. -/
def log2Floor (num den : Nat) : Int :=
  let guess : Int := (num.log2 : Int) - den.log2
  let (num, den) := scale 2 (-guess) (num, den)
  if num < den then guess - 1 else guess

/-- The nearest number to a non-negative fraction, or the infinity beyond the largest one. -/
def ofFraction (negative : Bool) (num den : Nat) : Binary64 :=
  if num = 0 then .finite negative 0 leastExponent
  else
    let exponent := max leastExponent (log2Floor num den - 52)
    let (num, den) := scale 2 (-exponent) (num, den)
    let mantissa := roundDiv num den
    let (mantissa, exponent) :=
      if mantissa = Nat.pow 2 53 then (Nat.pow 2 52, exponent + 1) else (mantissa, exponent)
    if greatestExponent < exponent then .infinite negative
    else .finite negative mantissa exponent

/-- The nearest number to `digits * 10 ^ exponent`. Decimals far outside the format's range are
settled by their size alone. -/
def ofDecimal (negative : Bool) (digits : Nat) (exponent : Int) : Binary64 :=
  let size : Int := (Text.ofNat digits).length + exponent
  if digits = 0 ∨ size < -400 then .finite negative 0 leastExponent
  else if 400 < size then .infinite negative
  else
    let (num, den) := scale 10 exponent (digits, 1)
    ofFraction negative num den

/-- A multiple of a power of ten. -/
structure Decimal where
  /-- The factor. -/
  digits : Nat
  /-- The exponent of ten. -/
  exponent : Int
  deriving DecidableEq, Repr

/-- The numbers that round to a positive number: its own value and the ends of its interval as
numerators over one denominator, and whether the ends belong to it. -/
structure Interval where
  /-- Numerator of the lower end. -/
  low : Nat
  /-- Numerator of the number itself. -/
  value : Nat
  /-- Numerator of the upper end. -/
  high : Nat
  /-- The denominator. -/
  den : Nat
  /-- Whether the ends round to the number. -/
  closed : Bool

/-- The interval of a positive number. Below a power of two the numbers lie twice as close. -/
def interval (mantissa : Nat) (exponent : Int) : Interval :=
  let unit := scale 2 (exponent - 2) (1, 1)
  let below := if mantissa = Nat.pow 2 52 ∧ leastExponent < exponent then 1 else 2
  { low := (4 * mantissa - below) * unit.1
    value := 4 * mantissa * unit.1
    high := (4 * mantissa + 2) * unit.1
    den := unit.2
    closed := mantissa % 2 == 0 }

/-- Whether a multiple of a power of ten lies in an interval. -/
def Interval.holds (range : Interval) (decimal : Decimal) : Bool :=
  let (num, den) := scale 10 decimal.exponent (decimal.digits, 1)
  let least := range.low * den
  let point := num * range.den
  let greatest := range.high * den
  if range.closed then least ≤ point && point ≤ greatest else least < point && point < greatest

/-- The greatest power of ten that is at most a positive fraction. -/
def log10Floor (num den : Nat) : Int :=
  let guess : Int := ((Text.ofNat num).length : Int) - (Text.ofNat den).length
  let (num, den) := scale 10 (-guess) (num, den)
  if num < den then guess - 1 else guess

/-- The multiple of a power of ten nearest to the number that lies in its interval, if one does. -/
def Interval.nearest? (range : Interval) (exponent : Int) : Option Decimal :=
  let (num, den) := scale 10 (-exponent) (range.value, range.den)
  let below : Decimal := ⟨num / den, exponent⟩
  let above : Decimal := ⟨num / den + 1, exponent⟩
  let rounded : Decimal := ⟨roundDiv num den, exponent⟩
  if range.holds rounded then some rounded
  else if range.holds below then some below
  else if range.holds above then some above
  else none

/-- Tries one digit more in each step. -/
def Interval.shortestFrom (range : Interval) : Nat → Int → Decimal
  | 0, exponent => (range.nearest? exponent).getD ⟨0, exponent⟩
  | steps + 1, exponent =>
    (range.nearest? exponent).getD (range.shortestFrom steps (exponent - 1))

/-- The decimal with the fewest digits that reads back as a positive number. Seventeen digits are
always enough. -/
def shortest (mantissa : Nat) (exponent : Int) : Decimal :=
  let range := interval mantissa exponent
  range.shortestFrom 16 (log10Floor range.value range.den)

/-- The digits without zeros at their end. -/
def significant (digits : Text) : Text := (digits.reverse.dropWhile (· == '0')).reverse

/-- A positive decimal with a point in it: positional from one ten-thousandth up to ten to the
sixteenth, and otherwise one digit, the point if more follow, and an exponent of at least two
digits. -/
def layout (decimal : Decimal) : Text :=
  let all := Text.ofNat decimal.digits
  let point : Int := all.length + decimal.exponent
  let digits := significant all
  if -4 < point ∧ point ≤ 16 then
    if point ≤ 0 then '0' :: '.' :: List.replicate (-point).toNat '0' ++ digits
    else
      let whole := digits.take point.toNat
      let fraction := digits.drop point.toNat
      whole ++ List.replicate (point.toNat - whole.length) '0' ++ '.' ::
        (if fraction.isEmpty then ['0'] else fraction)
  else
    let power := point - 1
    let mark := if power < 0 then ['e', '-'] else ['e', '+']
    let fraction := digits.drop 1
    digits.take 1 ++ (if fraction.isEmpty then [] else '.' :: fraction) ++ mark ++
      Text.padZeros 2 (Text.ofNat power.natAbs)

/-- The number as text that reads back as it. -/
def text : Binary64 → Text
  | .nan => "nan".toList
  | .infinite negative => (if negative then ['-'] else []) ++ "inf".toList
  | .finite negative mantissa exponent =>
    (if negative then ['-'] else []) ++
      if mantissa = 0 then "0.0".toList else layout (shortest mantissa exponent)

end Binary64

end BatchScript
