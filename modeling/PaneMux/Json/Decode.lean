import PaneMux.Json.Value
import PaneMux.Time.Rfc3339
import PaneMux.Text.Utf8
import PaneMux.Text.Quoted

/-!
# Decoding JSON into domain types

Decoders say exactly what is wrong with a value they refuse: the first bad member in the order in
which the object holds its members, or else the first missing one in the order of declaration.
Members that no field is named after are ignored.

## Architecture

- **§1** the causes of a refusal, and their wording
- **§2** decoders of plain values
- **§3** `Record` : fields gathered by name from an object or by position from an array
- **§4** variants: named by a tag member, or by a string or a one-member object around them
-/

namespace PaneMux

open PaneMux.Text

/-! ## §1 Causes -/

/-- What a decoder found instead of what it wanted. -/
inductive Found where
  | null
  | boolean (b : Bool)
  | integer (n : Int)
  | real (x : Binary64)
  | string (s : String)
  | sequence
  | map
  /-- a variant's bare name where its content is needed -/
  | unitVariant
  deriving DecidableEq, Repr

/-- What was found, in words. -/
def Found.text : Found → String
  | .null => "null"
  | .boolean b => "boolean `" ++ toString b ++ "`"
  | .integer n => "integer `" ++ toString n ++ "`"
  | .real x => "floating point `" ++ String.ofList x.text ++ "`"
  | .string s => "string " ++ quoted s
  | .sequence => "sequence"
  | .map => "map"
  | .unitVariant => "unit variant"

/-- Why a value was refused. -/
inductive DecodeError where
  | invalidType (found : Found) (expected : String)
  /-- an integer that the wanted type does not hold -/
  | outOfRange (n : Int) (expected : String)
  /-- a variant written as an object of no or several members -/
  | notOneMember
  /-- a list of the wrong length -/
  | invalidLength (length : Nat) (expected : String)
  | missingField (name : String)
  | duplicateField (name : String)
  | unknownVariant (name : String) (known : List String)
  | time (fault : Time.TimeFault)
  /-- the text is no JSON at all -/
  | syntaxError
  deriving DecidableEq, Repr

/-- A name between marks. -/
private def marked (name : String) : String := "`" ++ name ++ "`"

/-- The cause in words. -/
def DecodeError.message : DecodeError → String
  | .invalidType found expected => "invalid type: " ++ found.text ++ ", expected " ++ expected
  | .outOfRange n expected =>
    "invalid value: " ++ (Found.integer n).text ++ ", expected " ++ expected
  | .notOneMember => "invalid value: map, expected map with a single key"
  | .invalidLength n expected => "invalid length " ++ toString n ++ ", expected " ++ expected
  | .missingField name => "missing field " ++ marked name
  | .duplicateField name => "duplicate field " ++ marked name
  | .unknownVariant name [] => "unknown variant " ++ marked name ++ ", there are no variants"
  | .unknownVariant name [a] => "unknown variant " ++ marked name ++ ", expected " ++ marked a
  | .unknownVariant name [a, b] =>
    "unknown variant " ++ marked name ++ ", expected " ++ marked a ++ " or " ++ marked b
  | .unknownVariant name known =>
    "unknown variant " ++ marked name ++ ", expected one of " ++
      ", ".intercalate (known.map marked)
  | .time fault => fault.message
  | .syntaxError => "<syntax>"

/-! ## §2 Plain values -/

/-- Reads a value of a domain type off a JSON value. -/
abbrev Decoder (α : Type) := Json → Except DecodeError α

/-- The kind of a value, as a refusal names it. -/
def Json.found : Json → Found
  | .null => .null
  | .bool b => .boolean b
  | .int n => .integer n
  | .real x => .real x
  | .str s => .string s
  | .arr _ => .sequence
  | .obj _ => .map

namespace Decoder

/-- Refuses a value for its kind. -/
def refuse {α : Type} (j : Json) (expected : String) : Except DecodeError α :=
  .error (.invalidType j.found expected)

/-- An integer from `low` up to but not including `high`. -/
def integer (low high : Int) (expected : String) : Decoder Int
  | .int n => if low ≤ n ∧ n < high then .ok n else .error (.outOfRange n expected)
  | j => refuse j expected

/-- A natural number below `2 ^ bits`. -/
def natural (bits : Nat) (expected : String) : Decoder Nat := fun j =>
  (integer 0 (Nat.pow 2 bits) expected j).map Int.toNat

/-- A 64-bit identifier or count. -/
def u64 : Decoder Nat := natural 64 "u64"

/-- A 64-bit size. -/
def usize : Decoder Nat := natural 64 "usize"

/-- A 32-bit natural number. -/
def u32 : Decoder Nat := natural 32 "u32"

/-- A number of rows or columns. -/
def u16 : Decoder UInt16 := fun j => (natural 16 "u16" j).map UInt16.ofNat

/-- A byte. -/
def u8 : Decoder UInt8 := fun j => (natural 8 "u8" j).map UInt8.ofNat

/-- A 32-bit signed integer. -/
def i32 : Decoder Int32 := fun j =>
  (integer (-(Nat.pow 2 31 : Nat)) (Nat.pow 2 31) "i32" j).map Int32.ofInt

/-- A 64-bit signed integer. -/
def i64 : Decoder Int := integer (-(Nat.pow 2 63 : Nat)) (Nat.pow 2 63) "i64"

/-- A single precision number; any number is rounded to one. -/
def single : Decoder Binary64
  | .int n =>
    match Format.single.round n.natAbs 1 with
    | some (m, e) =>
      let (num, den) := Binary64.fraction m e
      .ok (Binary64.ofRounded (n < 0) (Format.double.round num den))
    | none => .ok (.infinite (n < 0))
  | .real x => .ok x.toSingle
  | j => refuse j "f32"

/-- A truth value. -/
def bool : Decoder Bool
  | .bool b => .ok b
  | j => refuse j "a boolean"

/-- A text. -/
def string : Decoder String
  | .str s => .ok s
  | j => refuse j "a string"

/-- A path. -/
def path : Decoder String
  | .str s => .ok s
  | j => refuse j "path string"

/-- An instant. -/
def instant : Decoder Time.Instant
  | .str s => (Time.Instant.parse s).mapError .time
  | j => refuse j "an RFC 3339 formatted date and time string"

/-- A value that may be null. -/
def nullable {α : Type} (d : Decoder α) : Decoder (Option α)
  | .null => .ok none
  | j => (d j).map some

/-- Each item of a list, in order. -/
def items {α : Type} (d : Decoder α) : List Json → Except DecodeError (List α)
  | [] => .ok []
  | j :: rest => do
    let a ← d j
    let as ← items d rest
    return a :: as

/-- A list. -/
def list {α : Type} (d : Decoder α) : Decoder (List α)
  | .arr js => items d js
  | j => refuse j "a sequence"

/-- Puts an entry in its place in a list sorted by key, replacing one with the same key. -/
def insertEntry (key value : String) : List (String × String) → List (String × String)
  | [] => [(key, value)]
  | (k, v) :: rest =>
    if key = k then (key, value) :: rest
    else if key < k then (key, value) :: (k, v) :: rest
    else (k, v) :: insertEntry key value rest

/-- The entries of a map from text to text. -/
def entries : List (String × Json) → Except DecodeError (List (String × String))
  | [] => .ok []
  | (k, j) :: rest => do
    let v ← string j
    let kvs ← entries rest
    return (k, v) :: kvs

/-- A map from text to text, sorted by key. -/
def stringMap : Decoder (List (String × String))
  | .obj members => do
    let kvs ← entries members
    return kvs.foldl (fun m e => insertEntry e.1 e.2 m) []
  | j => refuse j "a map"

/-- A byte string: a list of bytes, or the bytes of a text. -/
def bytes : Decoder Bytes
  | .arr js => items u8 js
  | .str s => .ok (Utf8.encode s)
  | j => refuse j "byte array"

end Decoder

/-! ## §3 Records -/

/-- The fields of a record.

`check` refuses a bad value of the field with a given name and passes over names that are no field;
`named` reads the fields off the members of an object, `listed` off the front of a list, giving
nothing when the list is too short. -/
structure Record (α : Type) where
  names : List String
  check : String → Json → Except DecodeError Unit
  named : List (String × Json) → Except DecodeError α
  listed : List Json → Except DecodeError (Option (α × List Json))

namespace Record

variable {α β γ : Type}

/-- A field. `absent` stands in for it when an object does not have it, `short` when a list ends
    before it. -/
def field (name : String) (d : Decoder α) (absent short : Option α := none) : Record α where
  names := [name]
  check key j := if key = name then (d j).map fun _ => () else .ok ()
  named members :=
    match Json.lookup name members with
    | some j => d j
    | none =>
      match absent with
      | some a => .ok a
      | none => .error (.missingField name)
  listed
    | j :: rest => (d j).map fun a => some (a, rest)
    | [] => .ok (short.map fun a => (a, []))

/-- A field that may be null or left out. -/
def optional (name : String) (d : Decoder α) : Record (Option α) :=
  field name d.nullable (some none)

/-- A field with a default. -/
def withDefault (name : String) (d : Decoder α) (a : α) : Record α :=
  field name d (some a) (some a)

/-- Nothing but a value. -/
def pure (a : α) : Record α where
  names := []
  check _ _ := .ok ()
  named _ := .ok a
  listed js := .ok (some (a, js))

/-- The fields of two records, the first's before the second's. -/
def both (a : Record α) (b : Record β) : Record (α × β) where
  names := a.names ++ b.names
  check key j := do a.check key j; b.check key j
  named members := do
    let x ← a.named members
    let y ← b.named members
    return (x, y)
  listed js := do
    match ← a.listed js with
    | none => return none
    | some (x, rest) =>
      match ← b.listed rest with
      | none => return none
      | some (y, rest) => return some ((x, y), rest)

/-- A record under another view. -/
def map (f : α → β) (r : Record α) : Record β where
  names := r.names
  check := r.check
  named members := (r.named members).map f
  listed js := (r.listed js).map (·.map fun x => (f x.1, x.2))

/-- One more field for a record under construction. -/
def and (r : Record (α → β)) (a : Record α) : Record β :=
  (r.both a).map fun x => x.1 x.2

/-- Checks the members of an object in their order; a field may come only once. -/
def checkAll (r : Record α) : List String → List (String × Json) → Except DecodeError Unit
  | _, [] => .ok ()
  | seen, (k, j) :: rest =>
    if r.names.contains k then
      if seen.contains k then .error (.duplicateField k)
      else do
        r.check k j
        checkAll r (k :: seen) rest
    else checkAll r seen rest

/-- Reads a record off the members of an object. -/
def ofMembers (r : Record α) (members : List (String × Json)) : Except DecodeError α := do
  r.checkAll [] members
  r.named members

/-- "1 element" or "n elements". -/
def elements (n : Nat) : String :=
  if n = 1 then "1 element" else toString n ++ " elements"

/-- Reads a record off a list, given the words for a list that is too long. -/
def ofItems (r : Record α) (title : String) (tooLong : String) (js : List Json) :
    Except DecodeError α := do
  match ← r.listed js with
  | none => .error (.invalidLength js.length (title ++ " with " ++ elements r.names.length))
  | some (a, []) => return a
  | some (_, _ :: _) => .error (.invalidLength js.length tooLong)

/-- The decoder of a record on its own. -/
def decoder (title : String) (r : Record α) : Decoder α
  | .obj members => r.ofMembers members
  | .arr js => r.ofItems title "fewer elements in array" js
  | j => Decoder.refuse j title

/-- The decoder of a record some of whose members belong to another one, which is read off the
    members that are left. -/
def decoderWith (title : String) (r : Record α)
    (others : List (String × Json) → Except DecodeError β) (make : α → β → γ) : Decoder γ
  | .obj members => do
    let a ← r.ofMembers members
    let b ← others (members.filter fun m => !r.names.contains m.1)
    return make a b
  | j => Decoder.refuse j title

end Record

/-! ## §4 Variants -/

/-- A variant among several: its name and the fields it comes with. -/
structure Variant (α : Type) where
  name : String
  /-- how a list that is too short for it is named -/
  title : String
  fields : Record α

/-- A variant without fields. -/
def Variant.unit {α : Type} (name : String) (a : α) : Variant α := ⟨name, "", .pure a⟩

namespace Variant

variable {α : Type}

/-- The variant with a name. -/
def choose (variants : List (Variant α)) (name : String) : Except DecodeError (Variant α) :=
  match variants.find? (·.name = name) with
  | some v => .ok v
  | none => .error (.unknownVariant name (variants.map (·.name)))

/-- The variant a tag names. Where `byIndex` holds, a number counts the variants from zero. -/
def ofTag (variants : List (Variant α)) (byIndex : Bool) : Decoder (Variant α)
  | .str s => choose variants s
  | .int n =>
    if byIndex ∧ 0 ≤ n then
      match variants[n.toNat]? with
      | some v => .ok v
      | none =>
        .error (.outOfRange n ("variant index 0 <= i < " ++ toString variants.length))
    else Decoder.refuse (.int n) "variant identifier"
  | j => Decoder.refuse j "variant identifier"

/-- Reads a tagged value off the members of an object. The tag is judged before the fields,
    wherever it stands. -/
def ofMembers (tag : String) (variants : List (Variant α)) (byIndex : Bool)
    (members : List (String × Json)) : Except DecodeError α := do
  match members.filter (·.1 = tag) with
  | [] => .error (.missingField tag)
  | [(_, t)] =>
    let v ← ofTag variants byIndex t
    v.fields.ofMembers (members.filter (·.1 ≠ tag))
  | (_, t) :: _ :: _ =>
    let _ ← ofTag variants byIndex t
    .error (.duplicateField tag)

/-- The decoder of a value whose variant is named by a tag member. -/
def tagged (tag title : String) (variants : List (Variant α)) : Decoder α
  | .obj members => ofMembers tag variants false members
  | .arr [] => .error (.missingField tag)
  | .arr (t :: js) => do
    let v ← ofTag variants false t
    match ← v.fields.listed js with
    | none =>
      .error (.invalidLength js.length
        (v.title ++ " with " ++ Record.elements v.fields.names.length))
    | some (a, []) => return a
    | some (_, rest) =>
      .error (.invalidLength js.length
        (Record.elements (js.length - rest.length) ++ " in sequence"))
  | j => Decoder.refuse j ("internally tagged enum " ++ title)

/-- A variant by name alone, or by name with a value. -/
inductive Named (α : Type) where
  | bare (a : α)
  | wrapping (d : Decoder α)

/-- The decoder of a value written as the name of its variant, or as an object with that name as
    its only key. -/
def external (variants : List (String × Named α)) : Decoder α
  | .str s => do
    match ← find s with
    | .bare a => return a
    | .wrapping _ => .error (.invalidType .unitVariant "newtype variant")
  | .obj [(k, j)] => do
    match ← find k with
    | .bare a =>
      match j with
      | .null => return a
      | j => Decoder.refuse j "unit"
    | .wrapping d => d j
  | .obj _ => .error .notOneMember
  | j => Decoder.refuse j "string or map"
where
  find (name : String) : Except DecodeError (Named α) :=
    match variants.find? (·.1 = name) with
    | some v => .ok v.2
    | none => .error (.unknownVariant name (variants.map (·.1)))

end Variant

end PaneMux
