import BatchScript.Text.Numeral

/-!
# Numeric hosts

The notations of a host by numbers: four decimal numbers with dots between them, eight groups of
hexadecimal digits with colons between them, or a version with an address of its own form.
-/
namespace BatchScript.Host

/-- A hexadecimal digit. -/
def isHexDigit (c : Char) : Bool := (Numeral.hexValue? c).isSome

/-- A decimal number up to 255 without zeros in front. -/
def isOctet (part : Text) : Bool :=
  !part.isEmpty && part.length ≤ 3 && part.all Char.isDigit &&
    (part == ['0'] || part.head? != some '0') && Numeral.ofChars 10 part ≤ 255

/-- Four decimal numbers with dots between them. -/
def isIPv4 (host : Text) : Bool :=
  (host.split '.').length == 4 && (host.split '.').all isOctet

/-- A group of one to four hexadecimal digits. -/
def isGroup (part : Text) : Bool := !part.isEmpty && part.length ≤ 4 && part.all isHexDigit

/-- The groups with four decimal numbers in the last one taken for two groups. -/
def widenLast (groups : List Text) : List Text :=
  if groups.getLast?.any isIPv4 then groups.dropLast ++ [['0'], ['0']] else groups

/-- The groups on one side of a gap: none if nothing stands there but the colon of the gap. -/
def besideGap (groups : List Text) : List Text := if groups = [[]] then [] else groups

/-- Eight groups, or at most seven and one gap for the others. A gap is an empty group that is
neither the first nor the last. -/
def areGroups : List Text → Bool
  | [] => false
  | first :: rest =>
    let inner := rest.dropLast
    match inner.dropWhile (· ≠ []) with
    | [] => (first :: rest).length == 8 && (first :: rest).all isGroup
    | _ :: behind =>
      let groups := besideGap (first :: inner.takeWhile (· ≠ [])) ++
        besideGap (behind ++ rest.getLast?.toList)
      groups.length ≤ 7 && groups.all isGroup

/-- Groups of hexadecimal digits with colons between them, and possibly a zone behind a percent
sign. -/
def isIPv6 (host : Text) : Bool :=
  let (groups, zone) := host.cut '%'
  zone.all (fun zone => !zone.isEmpty && '%' ∉ zone) && areGroups (widenLast (groups.split ':'))

/-- A version, which is the letter `v` with hexadecimal digits, a dot, and anything behind it. -/
def isVersioned : Text → Bool
  | 'v' :: rest =>
    rest.head?.any isHexDigit && (rest.dropWhile isHexDigit).head? == some '.' &&
      !(rest.dropWhile isHexDigit).tail.isEmpty
  | _ => false

end BatchScript.Host
