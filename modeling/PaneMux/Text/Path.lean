/-!
# Paths

Slash-separated paths. Two spellings mean the same path when they have the same components:
repeated and trailing slashes and inner `.` components do not count, a leading `.` does.
-/

namespace PaneMux

/-- A component of a path. -/
inductive Component where
  | root
  | current
  | parent
  | normal (name : String)
  deriving DecidableEq, Repr

namespace Component

/-- The place of a kind of component in the order. -/
def rank : Component → Nat
  | .root => 0
  | .current => 1
  | .parent => 2
  | .normal _ => 3

/-- Components by kind, then by name. -/
def less : Component → Component → Bool
  | .normal a, .normal b => a < b
  | a, b => a.rank < b.rank

end Component

namespace Path

/-- Splits a text at every slash. -/
def splitSlashes (part : List Char) : List Char → List String
  | [] => [String.ofList part.reverse]
  | c :: rest =>
    if c = '/' then String.ofList part.reverse :: splitSlashes [] rest
    else splitSlashes (c :: part) rest

/-- The components between slashes: empty ones and inner dots do not count. -/
def inner (parts : List String) : List Component :=
  parts.filterMap fun p =>
    if p = "" ∨ p = "." then none
    else if p = ".." then some .parent
    else some (.normal p)

/-- The components of a path. -/
def components (p : String) : List Component :=
  match splitSlashes [] p.toList with
  | "" :: rest@(_ :: _) => .root :: inner rest
  | "." :: rest => .current :: inner rest
  | parts => inner parts

/-- Lists of components in lexicographic order. -/
def lessList : List Component → List Component → Bool
  | _, [] => false
  | [], _ :: _ => true
  | a :: as, b :: bs => a.less b || (a == b && lessList as bs)

/-- The order of paths. -/
def less (p q : String) : Bool := lessList (components p) (components q)

/-- Two spellings of one path. -/
def same (p q : String) : Bool := components p == components q

/-- The name at the end of a path, unless it ends in something else. -/
def fileName? (p : String) : Option String :=
  match (components p).getLast? with
  | some (.normal name) => some name
  | _ => none

/-- The path is relative to nothing. -/
def isAbsolute (p : String) : Bool := p.startsWith "/"

/-- A reversed path without the slashes and dots at its end that do not count. -/
def dropIdle : List Char → List Char
  | '/' :: c :: rest => dropIdle (c :: rest)
  | '.' :: '/' :: rest => dropIdle ('/' :: rest)
  | cs => cs

/-- The path of the directory that a path is in, unless it is the root or nothing. -/
def parent? (p : String) : Option String :=
  match (components p).getLast? with
  | none | some .root => none
  | some _ =>
    let above := (dropIdle p.toList.reverse).dropWhile (· ≠ '/')
    some (String.ofList (dropIdle above).reverse)

/-- A path inside a directory. An absolute one stands for itself. -/
def join (dir p : String) : String :=
  if isAbsolute p ∨ dir = "" then p
  else if dir.endsWith "/" then dir ++ p
  else dir ++ "/" ++ p

end Path

end PaneMux
