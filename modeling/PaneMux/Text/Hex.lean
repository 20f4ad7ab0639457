import PaneMux.Text.Utf8

/-!
# Base sixteen

Digits of numbers, and bytes as two digits each.

## Main definitions

- `hexDigits` : the digits of a number
- `hexNumber?` : the number of some digits
- `hexOfBytes`, `bytesOfHex?` : bytes as digits
-/

namespace PaneMux.Text

/-- The digits of a number in base sixteen, lower case and without leading zeros. -/
def hexDigits (n : Nat) : List Char :=
  Nat.toDigits 16 n

/-- The value of a digit in base sixteen, of either case. -/
def hexValue? (c : Char) : Option Nat :=
  if '0' ≤ c ∧ c ≤ '9' then some (c.toNat - '0'.toNat)
  else if 'a' ≤ c ∧ c ≤ 'f' then some (c.toNat - 'a'.toNat + 10)
  else if 'A' ≤ c ∧ c ≤ 'F' then some (c.toNat - 'A'.toNat + 10)
  else none

/-- The number that some digits stand for. No digits are no number. -/
def hexNumber? : List Char → Option Nat
  | [] => none
  | cs => cs.foldlM (fun n c => (hexValue? c).map (n * 16 + ·)) 0

/-- A byte as two digits. -/
def hexOfByte (b : UInt8) : List Char :=
  hexDigits (b.toNat / 16) ++ hexDigits (b.toNat % 16)

/-- Bytes as two digits each. -/
def hexOfBytes (b : Bytes) : String :=
  String.ofList (b.flatMap hexOfByte)

/-- The bytes that pairs of digits stand for. -/
def bytesOfHex? : List Char → Option Bytes
  | [] => some []
  | [_] => none
  | a :: b :: rest => do
    let n ← hexNumber? [a, b]
    return UInt8.ofNat n :: (← bytesOfHex? rest)

end PaneMux.Text
