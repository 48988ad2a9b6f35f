import BatchScript.Data.Toml.Lexical

/-!
# Dates, times and numbers of TOML

Each reader takes the longest front of the text that has its form; what follows is for the caller to
judge.
-/
namespace BatchScript.Toml

open Data (ReadError)

/-- The number of two digits. -/
def twoDigits? (a b : Char) : Option Nat :=
  if a.isDigit && b.isDigit then some (Numeral.ofChars 10 [a, b]) else none

/-- The fraction of a second in millionths; further digits are dropped. -/
def readMicros (text : Text) : Nat × Text :=
  match text with
  | '.' :: rest =>
    if rest.head?.any Char.isDigit then
      let digits := (rest.takeWhile Char.isDigit).take 6
      (Numeral.ofChars 10 (digits ++ List.replicate (6 - digits.length) '0'),
        rest.dropWhile Char.isDigit)
    else (0, text)
  | _ => (0, text)

/-- Reads a time of day. -/
def readTime? : Text → Option (TimeOfDay × Text)
  | h1 :: h2 :: ':' :: m1 :: m2 :: ':' :: s1 :: s2 :: rest => do
    let hour ← twoDigits? h1 h2
    let minute ← twoDigits? m1 m2
    let second ← twoDigits? s1 s2
    if hour < 24 ∧ minute < 60 ∧ second < 60 then
      let (micros, rest) := readMicros rest
      some (⟨hour, minute, second, micros⟩, rest)
    else none
  | _ => none

/-- Reads a date with a month and a day that occur in some year. -/
def readDate? : Text → Option (Date × Text)
  | y1 :: y2 :: y3 :: y4 :: '-' :: m1 :: m2 :: '-' :: d1 :: d2 :: rest => do
    let century ← twoDigits? y1 y2
    let year ← twoDigits? y3 y4
    let month ← twoDigits? m1 m2
    let day ← twoDigits? d1 d2
    if 1 ≤ month ∧ month ≤ 12 ∧ 1 ≤ day ∧ day ≤ 31 then
      some (⟨100 * century + year, month, day⟩, rest)
    else none
  | _ => none

/-- Reads an offset from universal time in minutes, if there is one. -/
def readOffset (text : Text) : Option Int × Text :=
  match text with
  | 'Z' :: rest => (some 0, rest)
  | 'z' :: rest => (some 0, rest)
  | sign :: h1 :: h2 :: ':' :: m1 :: m2 :: rest =>
    match twoDigits? h1 h2, twoDigits? m1 m2 with
    | some hours, some minutes =>
      if hours < 24 ∧ minutes < 60 then
        if sign = '+' then (some (60 * hours + minutes), rest)
        else if sign = '-' then (some (-(60 * hours + minutes)), rest)
        else (none, text)
      else (none, text)
    | _, _ => (none, text)
  | _ => (none, text)

/-- Reads the time behind a date, if a letter T or a space joins one to it. -/
def readMomentOf (date : Date) (text : Text) : Moment × Text :=
  match text with
  | joint :: rest =>
    if joint = 'T' ∨ joint = 't' ∨ joint = ' ' then
      match readTime? rest with
      | some (time, rest) =>
        let (offset, rest) := readOffset rest
        (.dateTime date time offset, rest)
      | none => (.date date, text)
    else (.date date, text)
  | [] => (.date date, text)

/-- A run of digits, in which an underscore may stand between two of them. -/
def readDigits (p : Char → Bool) : Text → Text × Text
  | [] => ([], [])
  | [c] => if p c then ([c], []) else ([], [c])
  | c :: d :: rest =>
    if p c then
      if d = '_' then
        if rest.head?.any p then
          let (digits, rest) := readDigits p rest
          (c :: digits, rest)
        else ([c], d :: rest)
      else
        let (digits, rest) := readDigits p (d :: rest)
        (c :: digits, rest)
    else ([], c :: d :: rest)

/-- The base that a letter behind a zero stands for, and its digits. -/
def baseOf? : Char → Option (Nat × (Char → Bool))
  | 'x' => some (16, fun c => (Numeral.hexValue? c).isSome)
  | 'o' => some (8, fun c => '0' ≤ c && c ≤ '7')
  | 'b' => some (2, fun c => c == '0' || c == '1')
  | _ => none

/-- Reads an integer in another base than ten. -/
def readBased? : Text → Option (Data × Text)
  | '0' :: letter :: rest => do
    let (base, p) ← baseOf? letter
    match readDigits p rest with
    | ([], _) => none
    | (digits, rest) => some (.integer (Numeral.ofChars base digits), rest)
  | _ => none

/-- A sign and the text behind it. -/
def readSign (text : Text) : Bool × Text :=
  match text with
  | '+' :: rest => (false, rest)
  | '-' :: rest => (true, rest)
  | _ => (false, text)

/-- The digits of a whole number: a lone zero, or digits of which the first is none. -/
def readWhole (text : Text) : Text × Text :=
  match text with
  | '0' :: rest => (['0'], rest)
  | _ => readDigits Char.isDigit text

/-- The digits behind a mark; if there are none, the mark does not belong to the number. -/
def readPart (isMark : Char → Bool) (withSign : Bool) (text : Text) : Option (Bool × Text) × Text :=
  match text with
  | mark :: rest =>
    if isMark mark then
      let (negative, rest) := if withSign then readSign rest else (false, rest)
      match readDigits Char.isDigit rest with
      | ([], _) => (none, text)
      | (digits, rest) => (some (negative, digits), rest)
    else (none, text)
  | [] => (none, text)

/-- Reads a decimal number: an integer, or a floating-point number if it has a fraction or an
exponent. -/
def readDecimal? (text : Text) : Option (Except ReadError (Data × Text)) :=
  let (negative, rest) := readSign text
  match readWhole rest with
  | ([], _) => none
  | (whole, rest) =>
    let (fraction, rest) := readPart (· == '.') false rest
    let (exponent, rest) := readPart (fun c => c == 'e' || c == 'E') true rest
    match fraction, exponent with
    | none, none =>
      if Numeral.maxDigits < whole.length then some (.error (.numeralTooLong whole.length))
      else some (.ok (.integer (Numeral.signed negative (Numeral.ofChars 10 whole)), rest))
    | fraction, exponent =>
      let fraction := (fraction.map Prod.snd).getD []
      let (below, power) := exponent.getD (false, [])
      let scale := Numeral.signed below (Numeral.ofChars 10 power) - fraction.length
      some (.ok (.float (.ofDecimal negative (Numeral.ofChars 10 (whole ++ fraction)) scale), rest))

/-- Reads an infinity or the number that is none. -/
def readSpecial? (text : Text) : Option (Data × Text) :=
  let (negative, rest) := readSign text
  match rest with
  | 'i' :: 'n' :: 'f' :: rest => some (.float (.infinite negative), rest)
  | 'n' :: 'a' :: 'n' :: rest => some (.float .nan, rest)
  | _ => none

/-- Reads a truth value, a date, a time or a number. A date that the calendar does not have is
refused. -/
def readScalar (text : Text) : Except ReadError (Data × Text) :=
  match text with
  | 't' :: 'r' :: 'u' :: 'e' :: rest => .ok (.boolean true, rest)
  | 'f' :: 'a' :: 'l' :: 's' :: 'e' :: rest => .ok (.boolean false, rest)
  | _ =>
    match readDate? text with
    | some (date, rest) =>
      if date.isValid then
        let (moment, rest) := readMomentOf date rest
        .ok (.moment moment, rest)
      else .error .malformed
    | none =>
      match readTime? text with
      | some (time, rest) => .ok (.moment (.time time), rest)
      | none =>
        match readBased? text with
        | some result => .ok result
        | none =>
          match readDecimal? text with
          | some result => result
          | none =>
            match readSpecial? text with
            | some result => .ok result
            | none => .error .malformed

end BatchScript.Toml
