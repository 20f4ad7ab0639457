import PaneMux.Text.Blank
import PaneMux.Text.Utf8

/-!
# Patterns

Regular expressions over byte strings, with one group marked as the *word* that a match is about.
A match begins where it is asked for; among the matches there the first one in the order of
preference is taken: the left alternative before the right one, and a greedy repetition goes on for
as long as it can.

The characters of a pattern are characters of UTF-8. A byte that begins none is matched by nothing.

## Main definitions

- `Pattern` : the expressions
- `Pattern.run` : the preferred match that a given continuation accepts
- `Pattern.matchAt?` : the preferred match at a place
-/

namespace PaneMux

/-! ## §1 Expressions -/

/-- A set of characters: ranges of code points, or everything outside of them. -/
structure CharSet where
  negated : Bool := false
  ranges : List (Nat × Nat)
  deriving DecidableEq, Repr

namespace CharSet

/-- The character is in the set. -/
def contains (s : CharSet) (c : Char) : Bool :=
  s.negated != s.ranges.any fun r => r.1 ≤ c.toNat && c.toNat ≤ r.2

end CharSet

/-- A condition on a place between two bytes. -/
inductive Anchor where
  | textStart
  | textEnd
  | lineStart
  | lineEnd
  /-- between a word character and none, counting only ASCII letters, digits and `_` -/
  | wordEdge
  | noWordEdge
  deriving DecidableEq, Repr

/-- A regular expression. -/
inductive Pattern where
  | empty
  /-- one character of a set -/
  | char (set : CharSet)
  | anchor (a : Anchor)
  | concat (p q : Pattern)
  /-- either one, the first preferred -/
  | either (p q : Pattern)
  /-- the group a match is about -/
  | word (p : Pattern)
  /-- at least `low` and at most `high` times -/
  | times (low : Nat) (high : Option Nat) (greedy : Bool) (p : Pattern)
  deriving Repr

/-! ## §2 Places -/

/-- A place in a byte string on the way through a match. -/
structure Cursor where
  pos : Nat
  /-- the byte before the place -/
  previous : Option UInt8
  /-- what follows the place -/
  rest : Bytes
  /-- the word found so far -/
  word : Option Bytes := none
  deriving Repr

namespace Cursor

/-- Goes on by a number of bytes. -/
def advance (c : Cursor) : Nat → Cursor
  | 0 => c
  | n + 1 =>
    match c.rest with
    | [] => c
    | b :: rest => advance { c with pos := c.pos + 1, previous := some b, rest } n

/-- An ASCII letter, a digit or `_`. -/
def isWordByte (b : UInt8) : Bool :=
  (Char.ofNat b.toNat).isAlphanum || b == '_'.toUInt8

end Cursor

/-- The condition holds at a place. -/
def Anchor.holds (a : Anchor) (c : Cursor) : Bool :=
  let edge := c.previous.any Cursor.isWordByte != c.rest.head?.any Cursor.isWordByte
  match a with
  | .textStart => c.previous.isNone
  | .textEnd => c.rest.isEmpty
  | .lineStart => c.previous.isNone || c.previous == some newline
  | .lineEnd => c.rest.isEmpty || c.rest.head? == some newline
  | .wordEdge => edge
  | .noWordEdge => !edge

/-! ## §3 Matching -/

namespace Pattern

/-- What is left to match after a part of a pattern. -/
abbrev Continuation := Cursor → Option Cursor

/-- The first of two matches that there is. -/
def prefer (first second : Unit → Option Cursor) : Option Cursor :=
  match first () with
  | some c => some c
  | none => second ()

/-- A part that comes a fixed number of times. -/
def exactly (part : Continuation → Continuation) : Nat → Continuation → Continuation
  | 0, k => k
  | n + 1, k => part (exactly part n k)

/-- A part that comes up to a number of times. A round that matches nothing is not taken. -/
def upTo (part : Continuation → Continuation) (greedy : Bool) : Nat → Continuation → Continuation
  | 0, k => k
  | n + 1, k => fun c =>
    let again := fun (_ : Unit) =>
      part (fun e => if e.pos = c.pos then none else upTo part greedy n k e) c
    if greedy then prefer again fun _ => k c else prefer (fun _ => k c) again

/-- The preferred match from a place on that the continuation accepts. -/
def run : Pattern → Continuation → Continuation
  | .empty, k => k
  | .char set, k => fun c =>
    match Utf8.front? c.rest with
    | some (ch, n) => if set.contains ch then k (c.advance n) else none
    | none => none
  | .anchor a, k => fun c => if a.holds c then k c else none
  | .concat p q, k => p.run (q.run k)
  | .either p q, k => fun c => prefer (fun _ => p.run k c) fun _ => q.run k c
  | .word p, k => fun c =>
    p.run (fun e => k { e with word := some (c.rest.take (e.pos - c.pos)) }) c
  | .times low high greedy p, k => fun c =>
    -- without an upper end, each round takes at least a byte
    let more := high.elim c.rest.length (· - low)
    exactly (run p) low (upTo (run p) greedy more k) c

/-- The preferred match at a place: the number of its bytes, and its word. -/
def matchAt? (p : Pattern) (previous : Option UInt8) (rest : Bytes) :
    Option (Nat × Option Bytes) :=
  (p.run some { pos := 0, previous, rest }).map fun c => (c.pos, c.word)

end Pattern

end PaneMux
