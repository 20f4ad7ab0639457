import PaneMux.Host.Script.Expansion

/-!
# Patterns

Which words a pattern stands for: a star for any text, a question mark for any byte, a set between
brackets for one of its bytes, and everything else, and whatever is quoted, for itself.
-/

namespace PaneMux.Script

/-- A part of a pattern. -/
inductive Glob where
  | byte (b : UInt8)
  | anyByte
  | anyText
  /-- one of the bytes in some ranges, or one of all others -/
  | oneOf (ranges : List (UInt8 × UInt8)) (others : Bool)
  deriving DecidableEq, Repr

namespace Glob

/-- Bytes of a pattern, each with whether it is quoted. -/
abbrev Source := List (UInt8 × Bool)

/-- The ranges of a set. -/
def ranges : Bytes → List (UInt8 × UInt8)
  | a :: 45 :: b :: rest => (a, b) :: ranges rest
  | a :: rest => (a, a) :: ranges rest
  | [] => []

/-- The set behind an opening bracket, and the rest. -/
def set? (text : Source) : Option (Glob × Source) :=
  let others := text.head? = some (33, false)
  let text := if others then text.drop 1 else text
  -- a bracket right at the start is one of the set
  match (text.drop 1).span (· ≠ (93, false)) with
  | (inside, _ :: rest) => some (.oneOf (ranges ((text.take 1 ++ inside).map (·.1))) others, rest)
  | (_, []) => none

/-- The parts of a pattern, of which `fuel` is the number of bytes. -/
def parts (fuel : Nat) (text : Source) : List Glob :=
  match fuel, text with
  | 0, _ | _, [] => []
  | fuel + 1, (b, quoted) :: rest =>
    if quoted then .byte b :: parts fuel rest
    else if b = 42 then .anyText :: parts fuel rest
    else if b = 63 then .anyByte :: parts fuel rest
    else if b = 91 then
      match set? rest with
      | some (g, rest) => g :: parts fuel rest
      | none => .byte b :: parts fuel rest
    else .byte b :: parts fuel rest

/-- A byte is one of those that a part of a pattern stands for. -/
def admits (g : Glob) (b : UInt8) : Bool :=
  match g with
  | .byte c => b = c
  | .oneOf rs others => (rs.any fun r => r.1 ≤ b && b ≤ r.2) != others
  | .anyByte | .anyText => true

/-- A pattern stands for a text. -/
def covers : List Glob → Bytes → Bool
  | [], text => text.isEmpty
  | .anyText :: gs, [] => covers gs []
  | .anyText :: gs, b :: text => covers gs (b :: text) || covers (.anyText :: gs) text
  | _ :: _, [] => false
  | g :: gs, b :: text => g.admits b && covers gs text
termination_by gs text => gs.length + text.length

end Glob

/-- The pattern that a word makes. -/
def Scope.pattern (s : Scope) (w : Word) : List Glob :=
  let text : Glob.Source := w.flatMap fun p => (s.piece p).1.map fun b => (b, isQuoted p)
  Glob.parts text.length text
where
  /-- The part stands for itself. -/
  isQuoted : Piece → Bool
    | .text _ quoted | .variable _ _ quoted | .sum _ quoted | .output _ quoted | .value _ quoted => quoted
    | .length _ => true

end PaneMux.Script
