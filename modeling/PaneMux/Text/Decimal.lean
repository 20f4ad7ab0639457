/-!
# Decimal numerals

The whole numbers people and other programs write in settings and scripts: digits with an optional
sign, leading zeros allowed, nothing else.
-/

namespace PaneMux.Text

/-- The value of a decimal digit. -/
def digitValue? (c : Char) : Option Nat :=
  if '0' ≤ c ∧ c ≤ '9' then some (c.toNat - '0'.toNat) else none

/-- The value of a run of digits appended to a number already read. -/
def digitsValue? (acc : Nat) : List Char → Option Nat
  | [] => some acc
  | c :: cs => (digitValue? c).bind fun d => digitsValue? (acc * 10 + d) cs

/-- The number written by one or more digits. -/
def numeral? : List Char → Option Nat
  | [] => none
  | cs => digitsValue? 0 cs

/-- A whole number below `bound` as people may write it: digits after an optional plus sign. -/
def natural? (bound : Nat) (s : String) : Option Nat :=
  let digits := match s.toList with
    | '+' :: cs => cs
    | cs => cs
  (numeral? digits).filter (· < bound)

/-- The digits of a number in base ten. -/
def decimal (n : Nat) : String :=
  String.ofList (Nat.toDigits 10 n)

/-- A number padded with zeros on the left to at least `width` digits. -/
def padded (width n : Nat) : List Char :=
  let digits := Nat.toDigits 10 n
  List.replicate (width - digits.length) '0' ++ digits

end PaneMux.Text
