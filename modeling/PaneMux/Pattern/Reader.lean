import PaneMux.Pattern.Basic
import PaneMux.Text.Decimal
import PaneMux.Text.Hex

/-!
# Reading patterns

The text form of patterns: literals and `.`, classes in brackets, escapes, groups, alternatives,
repetitions with `*`, `+`, `?` and braces, each with a reluctant form, anchors, and the flags `i`,
`m`, `s` and `U`. The first group that captures is the word. Classes by name and the shorthands
`\d` and `\w` mean their ASCII members.

A text outside of this grammar is no pattern.
-/

namespace PaneMux.Pattern

open PaneMux.Text

/-! ## §1 Flags and places -/

/-- How the pattern from here on is meant. -/
structure Flags where
  /-- letters stand for both cases -/
  anyCase : Bool := false
  /-- `^` and `$` mean lines -/
  lines : Bool := false
  /-- `.` includes the line end -/
  dotAll : Bool := false
  /-- plain repetitions are reluctant -/
  reluctant : Bool := false

/-- The reader's place in the text. -/
structure Place where
  rest : List Char
  flags : Flags := {}
  /-- the word has been met -/
  named : Bool := false

/-! ## §2 Sets of characters -/

/-- A set of one character. -/
def single (c : Char) : List (Nat × Nat) := [(c.toNat, c.toNat)]

/-- A range between two characters. -/
def range (a b : Char) : Nat × Nat := (a.toNat, b.toNat)

def digits : List (Nat × Nat) := [range '0' '9']
def lowers : List (Nat × Nat) := [range 'a' 'z']
def uppers : List (Nat × Nat) := [range 'A' 'Z']
def wordChars : List (Nat × Nat) := digits ++ lowers ++ uppers ++ single '_'

/-- The white space characters. -/
def blanks : List (Nat × Nat) :=
  [(0x9, 0xD), (0x20, 0x20), (0x85, 0x85), (0xA0, 0xA0), (0x1680, 0x1680), (0x2000, 0x200A),
    (0x2028, 0x2029), (0x202F, 0x202F), (0x205F, 0x205F), (0x3000, 0x3000)]

/-- The greatest code point. -/
def lastPoint : Nat := 0x10FFFF

/-- The code points outside of some ranges, from a point on. -/
def outside (ranges : List (Nat × Nat)) : List (Nat × Nat) :=
  go 0 (ranges.mergeSort fun a b => a.1 ≤ b.1)
where
  go (low : Nat) : List (Nat × Nat) → List (Nat × Nat)
    | [] => if low ≤ lastPoint then [(low, lastPoint)] else []
    | (a, b) :: rest =>
      if low < a then (low, a - 1) :: go (max low (b + 1)) rest else go (max low (b + 1)) rest

/-- Adds the other case of the ASCII letters in some ranges. -/
def bothCases (ranges : List (Nat × Nat)) : List (Nat × Nat) :=
  ranges ++ ranges.filterMap (shift 97 122 (fun n => n - 32)) ++
    ranges.filterMap (shift 65 90 (· + 32))
where
  shift (first last : Nat) (move : Nat → Nat) (r : Nat × Nat) : Option (Nat × Nat) :=
    let a := max r.1 first
    let b := min r.2 last
    if a ≤ b then some (move a, move b) else none

/-- A class by its name between colons. -/
def namedClass? (name : String) : Option (List (Nat × Nat)) :=
  match name with
  | "alnum" => some (digits ++ lowers ++ uppers)
  | "alpha" => some (lowers ++ uppers)
  | "ascii" => some [(0, 0x7F)]
  | "blank" => some [(9, 9), (0x20, 0x20)]
  | "cntrl" => some [(0, 0x1F), (0x7F, 0x7F)]
  | "digit" => some digits
  | "graph" => some [(0x21, 0x7E)]
  | "lower" => some lowers
  | "print" => some [(0x20, 0x7E)]
  | "punct" => some [(0x21, 0x2F), (0x3A, 0x40), (0x5B, 0x60), (0x7B, 0x7E)]
  | "space" => some [(9, 0xD), (0x20, 0x20)]
  | "upper" => some uppers
  | "word" => some wordChars
  | "xdigit" => some (digits ++ [range 'a' 'f', range 'A' 'F'])
  | _ => none

/-! ## §3 Escapes -/

/-- What an escape stands for. -/
inductive Escape where
  | literal (c : Char)
  | set (ranges : List (Nat × Nat))
  | anchor (a : Anchor)

/-- The character with a code point in hexadecimal digits. -/
def hexChar? (cs : List Char) : Option Char := do
  let n ← Text.hexNumber? cs
  if n.isValidChar then some (Char.ofNat n) else none

/-- Reads a code point of `width` digits, or of any number of digits between braces. -/
def codePoint? (width : Nat) : List Char → Option (Escape × List Char)
  | '\x7b' :: rest =>
    match rest.span (· ≠ '\x7d') with
    | (cs, _ :: rest) => (hexChar? cs).map fun c => (.literal c, rest)
    | (_, []) => none
  | rest =>
    if rest.length < width then none
    else (hexChar? (rest.take width)).map fun c => (.literal c, rest.drop width)

/-- Reads what follows a backslash. -/
def escape? : List Char → Option (Escape × List Char)
  | [] => none
  | c :: rest =>
    match c with
    | 'n' => some (.literal '\n', rest)
    | 't' => some (.literal '\t', rest)
    | 'r' => some (.literal '\r', rest)
    | 'a' => some (.literal '\x07', rest)
    | 'f' => some (.literal '\x0c', rest)
    | 'v' => some (.literal '\x0b', rest)
    | 'x' => codePoint? 2 rest
    | 'u' => codePoint? 4 rest
    | 'U' => codePoint? 8 rest
    | 'd' => some (.set digits, rest)
    | 'D' => some (.set (outside digits), rest)
    | 's' => some (.set blanks, rest)
    | 'S' => some (.set (outside blanks), rest)
    | 'w' => some (.set wordChars, rest)
    | 'W' => some (.set (outside wordChars), rest)
    | 'A' => some (.anchor .textStart, rest)
    | 'z' => some (.anchor .textEnd, rest)
    | 'b' => some (.anchor .wordEdge, rest)
    | 'B' => some (.anchor .noWordEdge, rest)
    | c =>
      if c.toNat < 0x80 ∧ !c.isAlphanum ∧ c ≠ '<' ∧ c ≠ '>' then some (.literal c, rest) else none

/-! ## §4 Classes in brackets -/

/-- Reads one end of a range inside brackets. -/
def classEnd? : List Char → Option (Escape × List Char)
  | '\\' :: rest => escape? rest
  | c :: rest => some (.literal c, rest)
  | [] => none

/-- Reads the members of a class, up to its closing bracket. A bracket that stands first is a
    member. -/
def classMembers? : Nat → Bool → List (Nat × Nat) → List Char →
    Option (List (Nat × Nat) × List Char)
  | 0, _, _, _ => none
  | _, _, _, [] => none
  | n + 1, first, set, c :: rest =>
    if c = ']' ∧ !first then some (set, rest)
    else if c = '[' then
      match rest with
      | ':' :: more =>
        let (negated, more) := match more with
          | '^' :: more => (true, more)
          | _ => (false, more)
        match more.span (· ≠ ':') with
        | (name, ':' :: ']' :: rest) => do
          let ranges ← namedClass? (String.ofList name)
          classMembers? n false (set ++ (if negated then outside ranges else ranges)) rest
        | _ => none
      | '^' :: more => do
        let (inner, rest) ← classMembers? n true [] more
        classMembers? n false (set ++ outside inner) rest
      | more => do
        let (inner, rest) ← classMembers? n true [] more
        classMembers? n false (set ++ inner) rest
    else do
      let (low, rest) ← classEnd? (c :: rest)
      match low with
      | .anchor _ => none
      | .set ranges => classMembers? n false (set ++ ranges) rest
      | .literal a =>
        match rest with
        | '-' :: ']' :: _ => classMembers? n false (set ++ single a) rest
        | '-' :: more => do
          let (high, rest) ← classEnd? more
          match high with
          | .literal b => if a ≤ b then classMembers? n false (set ++ [range a b]) rest else none
          | _ => none
        | _ => classMembers? n false (set ++ single a) rest

/-! ## §5 Repetitions -/

/-- Reads a count between braces: the least and the greatest number of times. -/
def count? (cs : List Char) : Option ((Nat × Option Nat) × List Char) :=
  match cs.span (· ≠ '\x7d') with
  | (inside, _ :: rest) =>
    match inside.span (· ≠ ',') with
    | (low, []) => (numeral? low).map fun n => ((n, some n), rest)
    | (low, [_]) => (numeral? low).map fun n => ((n, none), rest)
    | (low, _ :: high) => do
      let a ← numeral? low
      let b ← numeral? high
      if a ≤ b then some ((a, some b), rest) else none
  | (_, []) => none

/-- Reads a repetition, if one follows. -/
def repetition? : List Char → Option (Option (Nat × Option Nat) × List Char)
  | '*' :: rest => some (some (0, none), rest)
  | '+' :: rest => some (some (1, none), rest)
  | '?' :: rest => some (some (0, some 1), rest)
  | '\x7b' :: rest => (count? rest).map fun r => (some r.1, r.2)
  | rest => some (none, rest)

/-- Reads the repetitions of a part; several may follow each other. -/
def repetitions? : Nat → Pattern → Place → Option (Pattern × Place)
  | 0, _, _ => none
  | n + 1, p, at_ => do
    match ← repetition? at_.rest with
    | (none, _) => some (p, at_)
    | (some (low, high), '?' :: rest) =>
      repetitions? n (.times low high at_.flags.reluctant p) { at_ with rest }
    | (some (low, high), rest) =>
      repetitions? n (.times low high (!at_.flags.reluctant) p) { at_ with rest }

/-! ## §6 Expressions -/

/-- Reads flags up to the colon or parenthesis behind them. -/
def flags? (on : Bool) (f : Flags) : List Char → Option (Flags × List Char)
  | '-' :: rest => if on then flags? false f rest else none
  | 'i' :: rest => flags? on { f with anyCase := on } rest
  | 'm' :: rest => flags? on { f with lines := on } rest
  | 's' :: rest => flags? on { f with dotAll := on } rest
  | 'U' :: rest => flags? on { f with reluctant := on } rest
  | 'u' :: rest => if on then flags? on f rest else none
  | rest => some (f, rest)

/-- A character of some ranges, in both cases where they do not matter. -/
def charOf (f : Flags) (ranges : List (Nat × Nat)) (negated : Bool := false) : Pattern :=
  .char ⟨negated, if f.anyCase then bothCases ranges else ranges⟩

/-- A name for a group. -/
def isGroupName (name : List Char) : Bool :=
  match name with
  | c :: rest =>
    (c.isAlpha || c == '_') && rest.all fun c => c.isAlphanum || c ∈ ['_', '.', '[', ']']
  | [] => false

mutual

/-- Reads alternatives. -/
def choice? : Nat → Place → Option (Pattern × Place)
  | 0, _ => none
  | n + 1, at_ => do
    let (p, at_) ← sequence? n .empty at_
    match at_.rest with
    | '|' :: rest => do
      let (q, at_) ← choice? n { at_ with rest }
      some (.either p q, at_)
    | _ => some (p, at_)

/-- Reads parts one after the other, behind those already read. -/
def sequence? : Nat → Pattern → Place → Option (Pattern × Place)
  | 0, _, _ => none
  | n + 1, done, at_ =>
    match at_.rest with
    | [] | '|' :: _ | ')' :: _ => some (done, at_)
    | _ => do
      let (p, at_, repeatable) ← part? n at_
      let (p, at_) ← if repeatable then repetitions? (n + 1) p at_ else some (p, at_)
      sequence? n (.concat done p) at_

/-- Reads one part, and tells whether it can be repeated. -/
def part? : Nat → Place → Option (Pattern × Place × Bool)
  | 0, _ => none
  | n + 1, at_ =>
    let f := at_.flags
    match at_.rest with
    | '(' :: '?' :: ':' :: rest => (group? n f at_.named rest).map fun r => (r.1, r.2, true)
    | '(' :: '?' :: 'P' :: '<' :: rest | '(' :: '?' :: '<' :: rest =>
      match rest.span (· ≠ '>') with
      | (name, _ :: rest) =>
        if isGroupName name then
          (group? n f true rest).map fun r => (if at_.named then r.1 else .word r.1, r.2, true)
        else none
      | (_, []) => none
    | '(' :: '?' :: rest =>
      match flags? true f rest with
      | some (g, ':' :: rest) =>
        (group? n g at_.named rest).map fun r => (r.1, { r.2 with flags := f }, true)
      | some (g, ')' :: more) =>
        if more.length + 1 = rest.length then none
        else some (.empty, { at_ with rest := more, flags := g }, false)
      | _ => none
    | '(' :: rest =>
      (group? n f true rest).map fun r => (if at_.named then r.1 else .word r.1, r.2, true)
    | '[' :: rest =>
      let (negated, rest) := match rest with
        | '^' :: rest => (true, rest)
        | _ => (false, rest)
      (classMembers? (rest.length + 1) true [] rest).map fun r =>
        (charOf f r.1 negated, { at_ with rest := r.2 }, true)
    | '.' :: rest =>
      let set : CharSet := if f.dotAll then ⟨true, []⟩ else ⟨true, single '\n'⟩
      some (.char set, { at_ with rest }, true)
    | '^' :: rest =>
      some (.anchor (if f.lines then .lineStart else .textStart), { at_ with rest }, true)
    | '$' :: rest =>
      some (.anchor (if f.lines then .lineEnd else .textEnd), { at_ with rest }, true)
    | '\\' :: rest => do
      let (e, rest) ← escape? rest
      let p := match e with
        | .literal c => charOf f (single c)
        | .set ranges => .char ⟨false, ranges⟩
        | .anchor a => .anchor a
      some (p, { at_ with rest }, true)
    | c :: rest =>
      if c ∈ ['*', '+', '?', '\x7b'] then none
      else some (charOf f (single c), { at_ with rest }, true)
    | [] => none

/-- Reads the inside of a group and its closing parenthesis; flags set inside end with it. -/
def group? : Nat → Flags → Bool → List Char → Option (Pattern × Place)
  | 0, _, _, _ => none
  | n + 1, flags, named, rest => do
    let (p, at_) ← choice? n { rest, flags, named }
    match at_.rest with
    | ')' :: rest => some (p, { at_ with rest, flags })
    | _ => none

end

/-- Reads a pattern. Each call for a further character goes through four levels at most. -/
def parse? (s : String) : Option Pattern := do
  let cs := s.toList
  let (p, at_) ← choice? (4 * cs.length + 4) { rest := cs }
  if at_.rest.isEmpty then some p else none

end PaneMux.Pattern
