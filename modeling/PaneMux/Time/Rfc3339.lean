import PaneMux.Time.Instant
import PaneMux.Text.Blank
import PaneMux.Text.Decimal

/-!
# Instants as text

Instants are written in the form of RFC 3339, in universal time and with a `Z`. Reading is more
lenient than writing: any offset, a blank instead of the `T`, blanks between the parts, and years of
any length behind a sign.

## Main definitions

- `Instant.text` : as written in messages, with as many fraction digits as are needed
- `Instant.stamp` : as written in the history tables, always to the microsecond
- `Instant.parse` : the reader, with the reason when a text is no time
-/

namespace PaneMux.Time

open PaneMux.Text

/-- Why a text is not a time. -/
inductive TimeFault where
  | invalid
  | tooShort
  | tooLong
  | outOfRange
  | impossible
  deriving DecidableEq, Repr

/-- The fault in words. -/
def TimeFault.message : TimeFault → String
  | .invalid => "input contains invalid characters"
  | .tooShort => "premature end of input"
  | .tooLong => "trailing input"
  | .outOfRange => "input is out of range"
  | .impossible => "no possible date and time matching input"

/-! ## §1 Writing -/

namespace Instant

/-- A year: four digits, or a sign and at least four digits outside of 0 to 9999. -/
def yearText (year : Int) : List Char :=
  if 0 ≤ year ∧ year ≤ 9999 then padded 4 year.toNat
  else (if year < 0 then '-' else '+') :: padded 4 year.natAbs

/-- The date and the time of day to the second. A leap second is written as second sixty. -/
def secondsText (t : Instant) : List Char :=
  let date := t.date
  let s := t.secondOfDay
  let leap := if 1000000000 ≤ t.nano then 1 else 0
  yearText date.year ++ '-' :: padded 2 date.month ++ '-' :: padded 2 date.day ++
    'T' :: padded 2 (s / 3600) ++ ':' :: padded 2 (s / 60 % 60) ++
    ':' :: padded 2 (s % 60 + leap)

/-- The nanoseconds within the second. -/
def subsecond (t : Instant) : Nat := t.nano % 1000000000

/-- The fraction of a second, in the fewest groups of three digits that are exact. -/
def fractionText (t : Instant) : List Char :=
  let n := t.subsecond
  if n = 0 then []
  else if n % 1000000 = 0 then '.' :: padded 3 (n / 1000000)
  else if n % 1000 = 0 then '.' :: padded 6 (n / 1000)
  else '.' :: padded 9 n

/-- The instant as messages show it. -/
def text (t : Instant) : String :=
  String.ofList (t.secondsText ++ t.fractionText ++ ['Z'])

/-- The instant as the history tables store it: always six fraction digits, so that for years of
    four digits the order of the texts is the order in time. -/
def stamp (t : Instant) : String :=
  String.ofList (t.secondsText ++ '.' :: padded 6 (t.subsecond / 1000) ++ ['Z'])

end Instant

/-! ## §2 Reading -/

/-- A reader of the front of a text. -/
abbrev Scan (α : Type) := List Char → Except TimeFault (α × List Char)

/-- Reads up to `width` further digits. -/
def moreDigits : Nat → Nat → List Char → Nat × List Char
  | 0, n, cs => (n, cs)
  | _, n, [] => (n, [])
  | width + 1, n, c :: cs =>
    match digitValue? c with
    | some d => moreDigits width (n * 10 + d) cs
    | none => (n, c :: cs)

/-- Reads a number of one to `width` digits. -/
def scanDigits (width : Nat) : Scan Nat
  | [] => .error .tooShort
  | c :: cs =>
    match digitValue? c with
    | some d => .ok (moreDigits (width - 1) d cs)
    | none => .error .invalid

/-- Reads a number of any length below `2 ^ 63`. -/
def scanLong : Scan Nat := fun cs => do
  let (n, rest) ← scanDigits cs.length cs
  if n < Nat.pow 2 63 then .ok (n, rest) else .error .outOfRange

/-- Reads one given character, after blanks. -/
def scanMark (mark : Char) : Scan Unit := fun cs =>
  match cs.dropWhile isBlank with
  | [] => .error .tooShort
  | c :: rest => if c = mark then .ok ((), rest) else .error .invalid

/-- Reads a number of at most two digits between `low` and `high`, after blanks. -/
def scanField (low high : Nat) : Scan Nat := fun cs => do
  let (n, rest) ← scanDigits 2 (cs.dropWhile isBlank)
  if low ≤ n ∧ n ≤ high then .ok (n, rest) else .error .outOfRange

/-- Reads a year: four digits at most, or any number of digits after a sign. -/
def scanYear : Scan Int := fun cs => do
  let (year, rest) ← match cs.dropWhile isBlank with
    | '-' :: rest => (scanLong rest).map fun r => (-(r.1 : Int), r.2)
    | '+' :: rest => (scanLong rest).map fun r => ((r.1 : Int), r.2)
    | rest => (scanDigits 4 rest).map fun r => ((r.1 : Int), r.2)
  if -(Nat.pow 2 31 : Nat) ≤ year ∧ year < (Nat.pow 2 31 : Nat) then .ok (year, rest) else .error .outOfRange

/-- Reads a fraction of a second as nanoseconds; digits past the ninth are ignored. -/
def scanFraction : Scan Nat
  | '.' :: cs => do
    let (n, rest) ← scanDigits 9 cs
    let used := cs.length - rest.length
    .ok (n * Nat.pow 10 (9 - used), rest.dropWhile Char.isDigit)
  | cs => .ok (0, cs)

/-- Reads two digits; a lone ASCII character is too short, anything else is invalid. -/
def scanPair : Scan (Nat × Nat)
  | [] => .error .tooShort
  | [c] => .error (if c.toNat < 128 then .tooShort else .invalid)
  | a :: b :: rest =>
    match digitValue? a, digitValue? b with
    | some x, some y => .ok ((x, y), rest)
    | _, _ => .error .invalid

/-- Reads an offset from universal time, in seconds. -/
def scanOffset : Scan Int := fun cs =>
  match cs with
  | 'Z' :: rest | 'z' :: rest => .ok (0, rest)
  | c :: rest =>
    if c = '+' then go 1 rest
    else if c = '-' ∨ c = '−' then go (-1) rest
    else .error .invalid
  | [] => .error .tooShort
where
  go (sign : Int) : Scan Int := fun cs => do
    let ((h1, h2), rest) ← scanPair cs
    let ((m1, m2), rest) ← scanPair (rest.dropWhile fun c => c = ':' || isBlank c)
    if 6 ≤ m1 then .error .outOfRange
    else .ok (sign * ((h1 * 10 + h2) * 3600 + (m1 * 10 + m2) * 60 : Nat), rest)

/-- Reads the name of universal time or an offset. -/
def scanZone : Scan Int
  | a :: b :: c :: rest =>
    if a.toUpper = 'U' ∧ b.toUpper = 'T' ∧ c.toUpper = 'C' then .ok (0, rest)
    else scanOffset (a :: b :: c :: rest)
  | cs => scanOffset cs

/-- The years an instant may lie in. -/
def yearInRange (year : Int) : Bool := -262143 ≤ year && year ≤ 262142

/-- Puts a date, a time of day and an offset together. -/
def assemble (date : Date) (hour minute second nano : Nat) (offset : Int) :
    Except TimeFault Instant := do
  unless yearInRange date.year && decide date.IsValid do throw .outOfRange
  unless -86400 < offset ∧ offset < 86400 do throw .outOfRange
  -- second sixty is the second before it, running on
  let (second, nano) := if second = 60 then (59, nano + 1000000000) else (second, nano)
  let wall : Int := date.toDays * 86400 + hour * 3600 + minute * 60 + second
  let t : Instant := { second := wall - offset, nano }
  unless yearInRange t.date.year do throw .impossible
  return t

/-- Reads an instant. -/
def Instant.parse (s : String) : Except TimeFault Instant := do
  let (year, cs) ← scanYear s.toList
  let (_, cs) ← scanMark '-' cs
  let (month, cs) ← scanField 1 12 cs
  let (_, cs) ← scanMark '-' cs
  let (day, cs) ← scanField 1 31 cs
  let cs ← match cs with
    | 'T' :: rest | 't' :: rest | ' ' :: rest => .ok rest
    | [] => .error .tooShort
    | _ => .error .invalid
  let (hour, cs) ← scanField 0 23 cs
  let (_, cs) ← scanMark ':' cs
  let (minute, cs) ← scanField 0 59 cs
  let (_, cs) ← scanMark ':' cs
  let (second, cs) ← scanField 0 60 cs
  let (nano, cs) ← scanFraction cs
  let (offset, cs) ← scanZone (cs.dropWhile isBlank)
  unless (cs.dropWhile isBlank).isEmpty do throw .tooLong
  assemble { year, month, day } hour minute second nano offset

end PaneMux.Time
