import PaneMux.Host.Script.Basic
import PaneMux.Text.Blank
import PaneMux.Text.Decimal

/-!
# Expanding words

What is put in for the open parts of a word, and how the result falls into fields. Values are byte
strings, because a program may read what is no text.

## Main definitions

- `Scope` : what the names in a word stand for
- `Scope.sum?` : the value of a sum
- `Scope.fields` : the fields that words give
-/

namespace PaneMux.Script

open PaneMux.Text

/-- What the names in a word stand for. -/
structure Scope where
  /-- the value of a name given last comes first -/
  bindings : List (String × Bytes) := []
  /-- how the last command ended -/
  status : Nat := 0
  /-- the name of the script and its arguments -/
  name : Bytes := []
  args : List Bytes := []
  /-- the number of the process -/
  pid : Nat := 0
  deriving Repr

namespace Scope

/-- The bytes of a number. -/
def bytesOf (n : Nat) : Bytes := Utf8.encode (decimal n)

/-- Gives a variable a value. -/
def assign (s : Scope) (name : String) (value : Bytes) : Scope :=
  { s with bindings := (name, value) :: s.bindings.filter (·.1 ≠ name) }

/-- The value of a name, if it has one. -/
def value? (s : Scope) (name : String) : Option Bytes :=
  match name with
  | "?" => some (bytesOf s.status)
  | "$" => some (bytesOf s.pid)
  | "#" => some (bytesOf s.args.length)
  | "@" | "*" => some ((s.args.intersperse [32]).flatten)
  | "0" => some s.name
  | _ =>
    match name.toNat? with
    | some n => s.args[n - 1]?
    | none => (s.bindings.find? (·.1 = name)).map (·.2)

/-! ## §1 Sums -/

/-- The operators of sums by how tightly they bind, loosest first. -/
def operators : List (List String) :=
  [["||"], ["&&"], ["==", "!="], ["<=", ">=", "<", ">"], ["+", "-"], ["*", "/", "%"]]

/-- The truth of a comparison as a number. -/
def truth (b : Bool) : Int := if b then 1 else 0

/-- Applies an operator; nothing when a divisor is zero. -/
def combine? (op : String) (a b : Int) : Option Int :=
  match op with
  | "||" => some (truth (a ≠ 0 ∨ b ≠ 0))
  | "&&" => some (truth (a ≠ 0 ∧ b ≠ 0))
  | "==" => some (truth (a = b))
  | "!=" => some (truth (a ≠ b))
  | "<=" => some (truth (a ≤ b))
  | ">=" => some (truth (a ≥ b))
  | "<" => some (truth (a < b))
  | ">" => some (truth (a > b))
  | "+" => some (a + b)
  | "-" => some (a - b)
  | "*" => some (a * b)
  | "/" => if b = 0 then none else some (a.tdiv b)
  | _ => if b = 0 then none else some (a.tmod b)

/-- The number that a value spells, or zero. -/
def number (value : Bytes) : Int :=
  let s := trim (Utf8.decodeLossy value)
  if s.startsWith "-" then -((s.drop 1).toString.toNat?.getD 0 : Nat)
  else (s.toNat?.getD 0 : Nat)

/-- Text without the blanks it begins with. -/
def skipBlanks (cs : List Char) : List Char := cs.dropWhile (·.isWhitespace)

mutual

/-- Reads a sum whose operators bind at least as tightly as those of a level. -/
def level (s : Scope) (fuel n : Nat) (cs : List Char) : Option (Int × List Char) :=
  match fuel with
  | 0 => none
  | fuel + 1 =>
    match operators[n]? with
    | none => atom s fuel (skipBlanks cs)
    | some _ => do
      let (a, rest) ← level s fuel (n + 1) cs
      more s fuel n a rest

/-- Goes on with the operators of a level. -/
def more (s : Scope) (fuel n : Nat) (a : Int) (cs : List Char) : Option (Int × List Char) :=
  match fuel with
  | 0 => none
  | fuel + 1 =>
    let cs := skipBlanks cs
    match ((operators[n]?).getD []).find? fun op => op.toList.isPrefixOf cs with
    | none => some (a, cs)
    | some op => do
      let (b, rest) ← level s fuel (n + 1) (cs.drop op.length)
      let c ← combine? op a b
      more s fuel n c rest

/-- Reads a number, a name, a sum in parentheses, or one with a sign in front. -/
def atom (s : Scope) (fuel : Nat) (cs : List Char) : Option (Int × List Char) :=
  match fuel with
  | 0 => none
  | fuel + 1 =>
    match cs with
    | '(' :: rest => do
      let (a, rest) ← level s fuel 0 rest
      match skipBlanks rest with
      | ')' :: rest => some (a, rest)
      | _ => none
    | '-' :: rest => do
      let (a, rest) ← atom s fuel (skipBlanks rest)
      return (-a, rest)
    | '+' :: rest => atom s fuel (skipBlanks rest)
    | '!' :: rest => do
      let (a, rest) ← atom s fuel (skipBlanks rest)
      return (truth (a = 0), rest)
    | '$' :: rest => atom s fuel rest
    | c :: rest =>
      if c.isDigit then
        let (digits, rest) := (c :: rest).span Char.isDigit
        (String.ofList digits).toNat?.map fun n => ((n : Int), rest)
      else if c.isAlpha ∨ c = '_' then
        let (name, rest) := (c :: rest).span fun c => c.isAlphanum || c = '_'
        some (number ((s.value? (String.ofList name)).getD []), rest)
      else none
    | [] => none

end

/-- The value of a sum. -/
def sum? (s : Scope) (text : String) : Option Int := do
  let (a, rest) ← level s (16 * text.length + 16) 0 text.toList
  if (skipBlanks rest).isEmpty then some a else none

/-! ## §2 Fields -/

/-- What a part of a word gives, and whether it may fall into fields. -/
def piece (s : Scope) : Piece → Bytes × Bool
  | .text t _ => (Utf8.encode t, false)
  | .variable name substitute quoted =>
    let value := s.value? name
    let chosen := match substitute with
      | none => value.getD []
      | some u =>
        let isThere := value.any fun v => !(u.emptyIsMissing && v.isEmpty)
        if isThere = u.forPresent then Utf8.encode u.text else value.getD []
    (chosen, !quoted)
  | .length name => (bytesOf ((s.value? name).getD []).length, false)
  | .sum t quoted => (Utf8.encode (toString ((s.sum? t).getD 0)), !quoted)
  | .output _ quoted => ([], !quoted)
  | .value data quoted => (data, !quoted)

/-- The part is there even when it is empty. -/
def isKept : Piece → Bool
  | .text _ quoted => quoted
  | .variable _ _ quoted => quoted
  | .length _ => true
  | .sum _ quoted => quoted
  | .output _ quoted => quoted
  | .value _ quoted => quoted

/-- Fields as far as they are known, newest first, and the one that goes on. -/
abbrev Fields := List Bytes × Option Bytes

/-- Adds bytes that may fall into fields. -/
def split : Fields → Bytes → Fields
  | f, [] => f
  | (done, current), b :: rest =>
    if b = 32 ∨ b = 9 ∨ b = newline then split (current.toList ++ done, none) rest
    else split (done, some (current.getD [] ++ [b])) rest

/-- Adds a part of a word. -/
def add (s : Scope) (f : Fields) (p : Piece) : Fields :=
  if p = .variable "@" none true then
    -- each argument is a field of its own
    match s.args with
    | [] => f
    | a :: rest =>
      rest.foldl (fun f a => (f.2.toList ++ f.1, some a)) (f.1, some (f.2.getD [] ++ a))
  else
  let (value, splits) := s.piece p
  if splits then split f value
  else if value.isEmpty ∧ !isKept p then f
  else (f.1, some (f.2.getD [] ++ value))

/-- The fields that a word gives. -/
def wordFields (s : Scope) (w : Word) : List Bytes :=
  let (done, current) := w.foldl s.add ([], none)
  (current.toList ++ done).reverse

/-- The fields that words give. -/
def fields (s : Scope) (ws : List Word) : List Bytes := ws.flatMap s.wordFields

/-- The value of a word that is not taken apart. -/
def whole (s : Scope) (w : Word) : Bytes := w.flatMap fun p => (s.piece p).1

end Scope

end PaneMux.Script
