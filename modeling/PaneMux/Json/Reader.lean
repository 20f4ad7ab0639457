import PaneMux.Json.Token

/-!
# Reading JSON

A stack machine over tokens: one frame for each array or object that is open. It refuses what the
grammar does not derive, and values nested 128 levels deep or more.

`Json.parse?` keeps members as they are written; apply `Json.canonical` for the stored form.
-/

namespace PaneMux.Json

/-- An array or object that is open: what it holds so far, newest first, and for an object the key
    whose value comes next. -/
inductive Frame where
  | items (done : List Json)
  | members (done : List (String × Json)) (key : String)

/-- What the machine can take next. -/
inductive Expect where
  /-- a value -/
  | value
  /-- a value, or the end of the array just opened -/
  | firstItem
  /-- a key, or the end of the object just opened, whose members are given -/
  | firstKey
  /-- a key after a comma -/
  | key (done : List (String × Json))
  /-- the colon behind a key -/
  | colon (done : List (String × Json)) (key : String)
  /-- a comma or the end of the innermost frame, after a value in it -/
  | more (value : Json)

/-- The machine between two tokens. -/
structure Reader where
  frames : List Frame := []
  expect : Expect := .value

/-- The deepest nesting that is read. -/
def maxDepth : Nat := 127

namespace Reader

/-- Takes the first token of a value. -/
def start (frames : List Frame) : Token → Option Reader
  | .openArr => if frames.length < maxDepth then some ⟨.items [] :: frames, .firstItem⟩ else none
  | .openObj => if frames.length < maxDepth then some ⟨frames, .firstKey⟩ else none
  | .str s => some ⟨frames, .more (.str (String.ofList s))⟩
  | .number cs => (ofNumber? cs).map fun n => ⟨frames, .more n⟩
  | .word cs =>
    if cs = ['n', 'u', 'l', 'l'] then some ⟨frames, .more .null⟩
    else if cs = ['t', 'r', 'u', 'e'] then some ⟨frames, .more (.bool true)⟩
    else if cs = ['f', 'a', 'l', 's', 'e'] then some ⟨frames, .more (.bool false)⟩
    else none
  | _ => none

/-- Takes a token after a value inside the innermost frame. -/
def next (v : Json) : List Frame → Token → Option Reader
  | .items done :: frames, .comma => some ⟨.items (v :: done) :: frames, .value⟩
  | .items done :: frames, .closeArr => some ⟨frames, .more (.arr (v :: done).reverse)⟩
  | .members done k :: frames, .comma => some ⟨frames, .key ((k, v) :: done)⟩
  | .members done k :: frames, .closeObj =>
    some ⟨frames, .more (.obj ((k, v) :: done).reverse)⟩
  | _, _ => none

/-- Takes one token. -/
def feed (r : Reader) (t : Token) : Option Reader :=
  match r.expect with
  | .value => start r.frames t
  | .firstItem =>
    match r.frames, t with
    | .items _ :: frames, .closeArr => some ⟨frames, .more (.arr [])⟩
    | frames, t => start frames t
  | .firstKey =>
    match t with
    | .closeObj => some ⟨r.frames, .more (.obj [])⟩
    | .str s => some ⟨r.frames, .colon [] (String.ofList s)⟩
    | _ => none
  | .key done =>
    match t with
    | .str s => some ⟨r.frames, .colon done (String.ofList s)⟩
    | _ => none
  | .colon done k =>
    match t with
    | .colon => some ⟨.members done k :: r.frames, .value⟩
    | _ => none
  | .more v => next v r.frames t

/-- Takes a list of tokens. -/
def run : Reader → List Token → Option Reader
  | r, [] => some r
  | r, t :: ts => (r.feed t).bind fun r => r.run ts

/-- The value read, when nothing is open and nothing more is needed. -/
def finish (r : Reader) : Option Json :=
  match r.frames, r.expect with
  | [], .more v => some v
  | _, _ => none

end Reader

/-- Reads a text that is one JSON value, members as written. -/
def parse? (s : String) : Option Json :=
  (tokenize? s.toList).bind fun ts => (Reader.run {} ts).bind Reader.finish

end PaneMux.Json
