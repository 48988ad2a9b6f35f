import BatchScript.Text

/-!
# Reading bytes as text

UTF-8 bytes become characters, and bytes that are no UTF-8 become replacement characters: one for
each longest run of bytes that some character starts with, and one for each byte that starts none.
-/
namespace BatchScript.Utf8

/-- The character that stands for unreadable bytes. -/
def replacement : Char := '�'

/-- A character of which bytes are still to come. -/
structure Pending where
  /-- The number of bytes to come. -/
  missing : Nat
  /-- The least next byte. -/
  low : Nat
  /-- The greatest next byte. -/
  high : Nat
  /-- The code point as far as it is known. -/
  code : Nat
  deriving DecidableEq, Repr

/-- The characters that are complete after some bytes, and the one of which bytes are still to
come. -/
abbrev Progress := Text × Option Pending

/-- Reads the first byte of a character. -/
def start (byte : Nat) : Progress :=
  if byte < 0x80 then ([Char.ofNat byte], none)
  else if 0xC2 ≤ byte ∧ byte ≤ 0xDF then ([], some ⟨1, 0x80, 0xBF, byte - 0xC0⟩)
  else if byte = 0xE0 then ([], some ⟨2, 0xA0, 0xBF, 0⟩)
  else if byte = 0xED then ([], some ⟨2, 0x80, 0x9F, 0xD⟩)
  else if 0xE1 ≤ byte ∧ byte ≤ 0xEF then ([], some ⟨2, 0x80, 0xBF, byte - 0xE0⟩)
  else if byte = 0xF0 then ([], some ⟨3, 0x90, 0xBF, 0⟩)
  else if byte = 0xF4 then ([], some ⟨3, 0x80, 0x8F, 4⟩)
  else if 0xF1 ≤ byte ∧ byte ≤ 0xF3 then ([], some ⟨3, 0x80, 0xBF, byte - 0xF0⟩)
  else ([replacement], none)

/-- Adds a byte to a character. -/
def Pending.add (pending : Pending) (byte : Nat) : Progress :=
  let code := pending.code * 0x40 + (byte - 0x80)
  if pending.missing ≤ 1 then ([Char.ofNat code], none)
  else ([], some ⟨pending.missing - 1, 0x80, 0xBF, code⟩)

/-- Reads one byte. A byte that cannot continue a character leaves that one unreadable and starts
another. -/
def step (pending : Option Pending) (byte : Nat) : Progress :=
  match pending with
  | none => start byte
  | some pending =>
    if pending.low ≤ byte ∧ byte ≤ pending.high then pending.add byte
    else (replacement :: (start byte).1, (start byte).2)

/-- The characters of the bytes behind a character of which bytes are still to come. -/
def decodeFrom : Option Pending → List UInt8 → Text
  | none, [] => []
  | some _, [] => [replacement]
  | pending, byte :: bytes =>
    (step pending byte.toNat).1 ++ decodeFrom (step pending byte.toNat).2 bytes

/-- The characters of bytes. -/
def decode (bytes : List UInt8) : Text := decodeFrom none bytes

end BatchScript.Utf8
