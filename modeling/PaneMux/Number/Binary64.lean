/-!
# Binary floating-point numbers

Fractional numbers as 64-bit binary floating point holds them, with exact integer arithmetic
underneath: every operation computes the true quotient of two naturals and rounds it once, to the
nearest representable number and to an even mantissa on a tie.

## Main definitions

- `Format.round` : the nearest number of a format to a quotient
- `Binary64.ofScientific?` : the number a decimal literal stands for
- `Binary64.shortest` : the shortest decimal that reads back as the number
- `Binary64.text` : the number as it is written on the wire
-/

namespace PaneMux

/-! ## §1 Rounding -/

/-- A binary floating-point format: the bits of a mantissa and the least and greatest exponent of
    its last bit. -/
structure Format where
  bits : Nat
  least : Int
  greatest : Int

/-- Double precision. -/
def Format.double : Format := ⟨53, -1074, 971⟩

/-- Single precision. -/
def Format.single : Format := ⟨24, -149, 104⟩

/-- The quotient `num / den`, rounded to the nearest integer and to an even one on a tie. -/
def roundHalfEven (num den : Nat) : Nat :=
  let q := num / den
  let r := num % den
  if den < 2 * r ∨ (2 * r = den ∧ q % 2 = 1) then q + 1 else q

/-- The fraction `num / den` divided by `2 ^ e`. -/
def scaleDown (num den : Nat) (e : Int) : Nat × Nat :=
  if 0 ≤ e then (num, den * Nat.pow 2 e.toNat) else (num * Nat.pow 2 (-e).toNat, den)

/-- The exponent of the last mantissa bit for a quotient, before the format's limits. -/
def lastBit (bits num den : Nat) : Int :=
  let guess : Int := Nat.log2 num - Nat.log2 den - bits
  let (n, d) := scaleDown num den guess
  -- the guess is exact, one too small, or two too small
  if n / d < Nat.pow 2 bits then guess
  else if n / d < Nat.pow 2 (bits + 1) then guess + 1
  else guess + 2

/-- The mantissa and exponent nearest to `num / den`, or nothing past the greatest number. -/
def Format.round (f : Format) (num den : Nat) : Option (Nat × Int) :=
  if num = 0 then some (0, f.least)
  else
    let e := max f.least (lastBit f.bits num den)
    let (n, d) := scaleDown num den e
    let m := roundHalfEven n d
    -- rounding up may carry into one more bit
    let (m, e) := if m = Nat.pow 2 f.bits then (Nat.pow 2 (f.bits - 1), e + 1) else (m, e)
    if f.greatest < e then none else some (m, e)

/-! ## §2 Numbers -/

/-- A double precision number. A finite one is `mantissa * 2 ^ exponent`, with the mantissa filling
    all its bits unless the exponent is the least one. -/
inductive Binary64 where
  | finite (negative : Bool) (mantissa : Nat) (exponent : Int)
  | infinite (negative : Bool)
  deriving DecidableEq, Repr

namespace Binary64

/-- A magnitude with a sign. -/
def ofRounded (negative : Bool) : Option (Nat × Int) → Binary64
  | some (m, e) => .finite negative m e
  | none => .infinite negative

/-- Zero. -/
def zero (negative : Bool := false) : Binary64 := .finite negative 0 Format.double.least

/-- A number below zero. A zero is not, whatever its sign. -/
def isNegative : Binary64 → Bool
  | .finite negative mantissa _ => negative && mantissa != 0
  | .infinite negative => negative

/-- The nearest number to a natural. -/
def ofNat (n : Nat) (negative : Bool := false) : Binary64 :=
  ofRounded negative (Format.double.round n 1)

/-- The nearest number to an integer. -/
def ofInt (i : Int) : Binary64 :=
  ofNat i.natAbs (i < 0)

/-- The exact fraction of a finite magnitude. -/
def fraction (m : Nat) (e : Int) : Nat × Nat :=
  scaleDown m 1 (-e)

/-- A number rounded to single precision and read again as a double. -/
def toSingle : Binary64 → Binary64
  | .finite s m e =>
    let (n, d) := fraction m e
    match Format.single.round n d with
    | some (m', e') =>
      let (n', d') := fraction m' e'
      ofRounded s (Format.double.round n' d')
    | none => .infinite s
  | x => x

/-! ## §3 Decimal literals

A literal is read as a significand of at most 64 bits and a power of ten. The significand and the
power are each rounded once, and so is their product or quotient. -/

/-- Ten to a power, rounded. -/
def powerOfTen (n : Nat) : Nat × Int :=
  (Format.double.round (Nat.pow 10 n) 1).getD (0, 0)

/-- A magnitude times or divided by a power of ten between `10 ^ 0` and `10 ^ 308`. -/
def scaleByTen (m : Nat) (e : Int) (power : Int) : Option (Nat × Int) :=
  let (n, d) := fraction m e
  let (pm, pe) := powerOfTen power.natAbs
  let (pn, pd) := fraction pm pe
  if 0 ≤ power then Format.double.round (n * pn) (d * pd)
  else Format.double.round (n * pd) (d * pn)

/-- A magnitude times `10 ^ power`, for any power, or nothing when the product is too large. Very
    negative powers are taken in steps of `10 ^ 308`, of which `steps` are enough to reach zero. -/
def scaleByPower (steps : Nat) (m : Nat) (e : Int) (power : Int) : Option (Nat × Int) :=
  if power.natAbs ≤ 308 then scaleByTen m e power
  else if m = 0 then some (m, e)
  else if 0 ≤ power then none
  else match steps with
    | 0 => some (0, Format.double.least)
    | steps + 1 =>
      (scaleByTen m e (-308)).bind fun r => scaleByPower steps r.1 r.2 (power + 308)

/-- The number `significand * 10 ^ power`, or nothing when it is too large for the format. -/
def ofScientific? (negative : Bool) (significand : Nat) (power : Int) : Option Binary64 :=
  (Format.double.round significand 1).bind fun r =>
    (scaleByPower 4 r.1 r.2 power).map fun r => .finite negative r.1 r.2

/-! ## §4 Shortest decimals -/

/-- The least `j`, counted from `j` on, with `10 ^ j` times the fraction at least one. -/
def leadingZeros (num den : Nat) : Nat → Nat → Nat
  | 0, j => j
  | fuel + 1, j => if den ≤ num * Nat.pow 10 j then j else leadingZeros num den fuel (j + 1)

/-- The exponent of the first decimal digit of a positive fraction. -/
def firstDigit (num den : Nat) : Int :=
  if den ≤ num then ((Nat.toDigits 10 (num / den)).length : Int) - 1
  else -(leadingZeros num den 330 1 : Int)

/-- Removes trailing zeros from a digit string given as a number. -/
def dropZeros : Nat → Nat → Int → Nat × Int
  | 0, n, k => (n, k)
  | fuel + 1, n, k => if n % 10 = 0 ∧ n ≠ 0 then dropZeros fuel (n / 10) (k + 1) else (n, k)

/-- The decimal with at most `digits` digits nearest to `mid`, if it lies between `low` and `high`
    (all three over `den`); the ends count when `closed`. `first` is the exponent of the first
    digit. -/
def withDigits? (low mid high den : Nat) (closed : Bool) (first : Int) (digits : Nat) :
    Option (Nat × Int) :=
  let k : Int := first - (digits : Int) + 1
  -- the grid of step `10 ^ k`, cleared of fractions
  let scale : Nat := if 0 ≤ k then 1 else Nat.pow 10 (-k).toNat
  let step : Nat := if 0 ≤ k then den * Nat.pow 10 k.toNat else den
  let inside (n : Nat) : Bool :=
    if closed then low * scale ≤ n * step && n * step ≤ high * scale
    else low * scale < n * step && n * step < high * scale
  let down := mid * scale / step
  let up := down + 1
  let below := mid * scale - down * step
  let above := up * step - mid * scale
  let nearDown := below < above || (below == above && down % 2 == 0)
  let (best, other) := if nearDown then (down, up) else (up, down)
  if inside best && best != 0 then some (best, k)
  else if inside other && other != 0 then some (other, k)
  else none

/-- The first digit count from `digits` on that has a decimal in the interval. -/
def searchDigits (low mid high den : Nat) (closed : Bool) (first : Int) :
    Nat → Nat → Option (Nat × Int)
  | 0, _ => none
  | fuel + 1, digits =>
    match withDigits? low mid high den closed first digits with
    | some r => some r
    | none => searchDigits low mid high den closed first fuel (digits + 1)

/-- The shortest decimal `digits * 10 ^ power` that reads back as the positive number
    `m * 2 ^ e`, and of those the nearest. -/
def shortest (m : Nat) (e : Int) : Nat × Int :=
  -- the neighbours' midpoints, in quarters of the last bit
  let narrow := m = Nat.pow 2 52 ∧ Format.double.least < e
  let (scale, den) := fraction 1 (e - 2)
  let low := (if narrow then 4 * m - 1 else 4 * m - 2) * scale
  let mid := 4 * m * scale
  let high := (4 * m + 2) * scale
  let first := firstDigit mid den
  match searchDigits low mid high den (m % 2 == 0) first 17 1 with
  | some (n, k) => dropZeros 17 n k
  | none => (0, 0)

/-! ## §5 Text -/

/-- Zeros. -/
private def zeros (n : Int) : List Char := List.replicate n.toNat '0'

/-- A decimal `digits * 10 ^ power`: positional while the point falls inside or next to the first
    sixteen digits, or at most five places before the first one; with an exponent otherwise. -/
def decimalText (digits : Nat) (power : Int) : List Char :=
  let ds := Nat.toDigits 10 digits
  let point : Int := ds.length + power
  if 0 ≤ power ∧ point ≤ 16 then ds ++ zeros power ++ ['.', '0']
  else if 0 < point ∧ point ≤ 16 then ds.take point.toNat ++ '.' :: ds.drop point.toNat
  else if -5 < point ∧ point ≤ 0 then ['0', '.'] ++ zeros (-point) ++ ds
  else
    let mantissa := match ds with
      | d :: r@(_ :: _) => d :: '.' :: r
      | _ => ds
    mantissa ++ 'e' :: (toString (point - 1)).toList

/-- The number as it is written on the wire. Only finite numbers are ever written. -/
def text : Binary64 → List Char
  | .finite s m e =>
    let sign := if s then ['-'] else []
    if m = 0 then sign ++ ['0', '.', '0']
    else
      let (digits, power) := shortest m e
      sign ++ decimalText digits power
  | .infinite _ => ['n', 'u', 'l', 'l']

end Binary64

end PaneMux
