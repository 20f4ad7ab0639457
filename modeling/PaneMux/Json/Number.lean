import PaneMux.Json.Value
import PaneMux.Text.Decimal

/-!
# JSON numbers

The grammar of number literals and what they stand for. A literal without fraction and exponent
that fits 64 bits is an integer; everything else is a double precision number: its first digits, as
many as fit 64 bits, times a power of ten. A number too large for the format is refused.
-/

namespace PaneMux.Json

open PaneMux.Text

/-- A number literal taken apart: sign, digits before and after the point, and the exponent. -/
structure NumberLiteral where
  negative : Bool
  whole : List Nat
  fraction : List Nat
  /-- the exponent, when one is written -/
  exponent : Option Int
  /-- a point is written -/
  pointed : Bool

namespace NumberLiteral

/-- The digits at the front of a text, and the rest. -/
def takeDigits : List Char → List Nat × List Char
  | [] => ([], [])
  | c :: cs =>
    match digitValue? c with
    | some d => let (ds, rest) := takeDigits cs; (d :: ds, rest)
    | none => ([], c :: cs)

/-- The number digits stand for. -/
def ofDigits (ds : List Nat) : Nat := ds.foldl (fun n d => n * 10 + d) 0

/-- Digits before the point: a lone zero, or a run that does not begin with one. -/
def whole? (cs : List Char) : Option (List Nat × List Char) :=
  match takeDigits cs with
  | ([], _) => none
  | (0 :: _ :: _, _) => none
  | r => some r

/-- The exponent behind its letter. -/
def exponent? (cs : List Char) : Option (Int × List Char) :=
  let (negative, cs) := match cs with
    | '-' :: r => (true, r)
    | '+' :: r => (false, r)
    | r => (false, r)
  match takeDigits cs with
  | ([], _) => none
  | (ds, rest) => some (if negative then -(ofDigits ds : Int) else ofDigits ds, rest)

/-- Reads a whole literal. -/
def parse? (cs : List Char) : Option NumberLiteral := do
  let (negative, cs) := match cs with
    | '-' :: r => (true, r)
    | r => (false, r)
  let (whole, cs) ← whole? cs
  let (fraction, pointed, cs) ← match cs with
    | '.' :: r =>
      match takeDigits r with
      | ([], _) => none
      | (ds, rest) => some (ds, true, rest)
    | r => some ([], false, r)
  let (exponent, cs) ← match cs with
    | 'e' :: r | 'E' :: r => (exponent? r).map fun e => (some e.1, e.2)
    | r => some (none, r)
  if cs.isEmpty then some { negative, whole, fraction, exponent, pointed } else none

/-- The largest significand. -/
def maxSignificand : Nat := Nat.pow 2 64 - 1

/-- Takes up digits before the point. Once one does not fit any more, it and all later ones only
    raise the power of ten. -/
def takeWhole : Nat → List Nat → Nat × Nat
  | n, [] => (n, 0)
  | n, d :: ds =>
    if n * 10 + d ≤ maxSignificand then takeWhole (n * 10 + d) ds else (n, ds.length + 1)

/-- Takes up digits after the point. Once one does not fit any more, it and all later ones are
    dropped. -/
def takeFraction : Nat → List Nat → Nat × Nat
  | n, [] => (n, 0)
  | n, d :: ds =>
    if n * 10 + d ≤ maxSignificand then
      let (m, used) := takeFraction (n * 10 + d) ds
      (m, used + 1)
    else (n, 0)

/-- The value as a double precision number, unless it is too large. -/
def real? (l : NumberLiteral) : Option Binary64 :=
  let (n, dropped) := takeWhole 0 l.whole
  let (n, used) := if 0 < dropped then (n, 0) else takeFraction n l.fraction
  match l.exponent with
  | none => Binary64.ofScientific? l.negative n (dropped - used)
  | some e =>
    -- an exponent past 31 bits decides alone
    if Nat.pow 2 31 ≤ e.natAbs then
      if n ≠ 0 ∧ 0 < e then none else some (.zero l.negative)
    else Binary64.ofScientific? l.negative n (dropped - used + e)

/-- The value of a literal, unless it is too large. -/
def value? (l : NumberLiteral) : Option Json :=
  let n := ofDigits l.whole
  let plain := !l.pointed && l.exponent.isNone
  if plain && !l.negative && n ≤ maxSignificand then some (.int n)
  else if plain && l.negative && 0 < n && n ≤ Nat.pow 2 63 then some (.int (-(n : Int)))
  else l.real?.map Json.real

end NumberLiteral

/-- The value of a number literal; nothing when the text is none or its value is too large. -/
def ofNumber? (cs : List Char) : Option Json :=
  (NumberLiteral.parse? cs).bind NumberLiteral.value?

end PaneMux.Json
