import PaneMux.Number.Binary64

/-!
# JSON values

The value type every message is made of. An object keeps its members in the order they were
written, repeated keys included, because a request is judged in that order; `Json.canonical` gives
the form in which values are stored and answered: members sorted by key, the last of a repeated key.

Integers are kept apart from fractional numbers. The reader makes an integer only of a literal
between `-2^63` and `2^64 - 1`; see `PaneMux.Json.Number`.
-/

namespace PaneMux

/-- A JSON value. -/
inductive Json where
  | null
  | bool (b : Bool)
  | int (n : Int)
  | real (x : Binary64)
  | str (s : String)
  | arr (items : List Json)
  | obj (members : List (String × Json))
  deriving Repr, Inhabited

namespace Json

/-! ## §1 Members -/

/-- The value of the last member with a key. -/
def lookup (key : String) : List (String × Json) → Option Json
  | [] => none
  | (k, v) :: rest =>
    match lookup key rest with
    | some w => some w
    | none => if k = key then some v else none

/-- Puts a member in its place in a list sorted by key, replacing one with the same key. -/
def insertMember (key : String) (value : Json) : List (String × Json) → List (String × Json)
  | [] => [(key, value)]
  | (k, v) :: rest =>
    if key = k then (key, value) :: rest
    else if key < k then (key, value) :: (k, v) :: rest
    else (k, v) :: insertMember key value rest

/-- Members sorted by key, the last of a repeated key. -/
def sortMembers (members : List (String × Json)) : List (String × Json) :=
  members.foldl (fun sorted m => insertMember m.1 m.2 sorted) []

/-! ## §2 Canonical form -/

mutual

/-- The value with the members of every object inside it sorted and each key once. -/
def canonical : Json → Json
  | .arr items => .arr (canonicalItems items)
  | .obj members => .obj (sortMembers (canonicalMembers members))
  | j => j

/-- Each item in canonical form. -/
def canonicalItems : List Json → List Json
  | [] => []
  | j :: rest => canonical j :: canonicalItems rest

/-- Each member's value in canonical form. -/
def canonicalMembers : List (String × Json) → List (String × Json)
  | [] => []
  | (k, v) :: rest => (k, canonical v) :: canonicalMembers rest

end

/-- The member of an object with a key; nothing when there is none or the value is no object. -/
def get? (j : Json) (key : String) : Option Json :=
  match j with
  | .obj members => lookup key members
  | _ => none

/-! ## §3 Equality -/

mutual

/-- Structural equality of values. -/
def eqb : Json → Json → Bool
  | .null, .null => true
  | .bool a, .bool b => a == b
  | .int a, .int b => a == b
  | .real a, .real b => a == b
  | .str a, .str b => a == b
  | .arr a, .arr b => eqbItems a b
  | .obj a, .obj b => eqbMembers a b
  | _, _ => false

/-- Structural equality of items. -/
def eqbItems : List Json → List Json → Bool
  | [], [] => true
  | a :: as, b :: bs => eqb a b && eqbItems as bs
  | _, _ => false

/-- Structural equality of members. -/
def eqbMembers : List (String × Json) → List (String × Json) → Bool
  | [], [] => true
  | (k, a) :: as, (l, b) :: bs => k == l && eqb a b && eqbMembers as bs
  | _, _ => false

end

instance : BEq Json := ⟨eqb⟩

/-! ## §4 Encoding helpers -/

/-- A natural number. -/
def nat (n : Nat) : Json := .int n

/-- A value or null. -/
def opt {α : Type} (encode : α → Json) : Option α → Json
  | some a => encode a
  | none => .null

/-- A list, item by item. -/
def list {α : Type} (encode : α → Json) (items : List α) : Json :=
  .arr (items.map encode)

end Json

end PaneMux
