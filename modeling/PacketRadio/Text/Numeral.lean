/-!
# Numerals

Hexadecimal spellings of numbers and bytes. All digits are lower case.
-/

namespace PacketRadio.Text

/-- The digits of `n` in base sixteen, without leading zeros. -/
def hexDigits (n : Nat) : String :=
  String.ofList (Nat.toDigits 16 n)

/-- `n` in base sixteen behind the mark `0x`. -/
def hex (n : Nat) : String :=
  "0x" ++ hexDigits n

/-- `n` in base sixteen with at least `width` digits, filled up with zeros. -/
def hexPadded (width n : Nat) : String :=
  let digits := Nat.toDigits 16 n
  String.ofList (List.replicate (width - digits.length) '0' ++ digits)

/-- A 32-bit word as `0x` and eight digits. -/
def hexWord (w : UInt32) : String :=
  "0x" ++ hexPadded 8 w.toNat

/-- Bytes as pairs of digits. -/
def hexBytes (bytes : List UInt8) : String :=
  String.join (bytes.map fun b => hexPadded 2 b.toNat)

/-- The value of a lower-case hexadecimal digit. -/
def hexDigit? (c : Char) : Option Nat :=
  if '0' ≤ c ∧ c ≤ '9' then some (c.toNat - '0'.toNat)
  else if 'a' ≤ c ∧ c ≤ 'f' then some (c.toNat - 'a'.toNat + 10)
  else none

/-- Bytes read back from pairs of digits. -/
def bytesOfHex? : List Char → Option (List UInt8)
  | [] => some []
  | [_] => none
  | high :: low :: rest => do
    let h ← hexDigit? high
    let l ← hexDigit? low
    let bytes ← bytesOfHex? rest
    return UInt8.ofNat (16 * h + l) :: bytes

/-- The visible ASCII characters, from `!` to `~`. -/
def isGraphic (b : UInt8) : Bool :=
  0x21 ≤ b && b ≤ 0x7e

/-- A byte as its own character if that is visible, else as `filler`. -/
def visible (filler : Char) (b : UInt8) : Char :=
  if isGraphic b then Char.ofNat b.toNat else filler

end PacketRadio.Text
