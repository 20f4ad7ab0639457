import PaneMux.Text.Utf8

/-!
# Scripts

The commands of a shell script: the words they are made of, with what is put in for a variable or a
sum left open, and how commands are put together.
-/

namespace PaneMux.Script

/-- What stands in for the value of a variable. -/
structure Substitute where
  /-- an empty value counts as a missing one -/
  emptyIsMissing : Bool
  /-- it stands in for a value that is there, and not for one that is missing -/
  forPresent : Bool
  text : String
  deriving DecidableEq, Repr

/-- A part of a word. What a quoted part gives is not taken apart. -/
inductive Piece where
  | text (s : String) (quoted : Bool)
  /-- the value of a variable, or what stands in for it -/
  | variable (name : String) (substitute : Option Substitute) (quoted : Bool)
  /-- the length of the value of a variable -/
  | length (name : String)
  /-- the value of a sum -/
  | sum (text : String) (quoted : Bool)
  /-- what a script writes, which has not been carried out yet -/
  | output (script : String) (quoted : Bool)
  /-- what a script has written -/
  | value (data : Bytes) (quoted : Bool)
  deriving DecidableEq, Repr

/-- A word. -/
abbrev Word := List Piece

/-- Where a descriptor is made to lead. -/
inductive Target where
  /-- where another one leads -/
  | sameAs (descriptor : Nat)
  /-- a file -/
  | file (path : Word)
  deriving DecidableEq, Repr

/-- A change of a descriptor. -/
structure Redirect where
  descriptor : Nat
  target : Target
  deriving DecidableEq, Repr

/-- A command. -/
inductive Command where
  | nothing
  /-- values given to variables, a name and arguments, and changes of descriptors -/
  | simple (given : List (String × Word)) (words : List Word) (redirects : List Redirect)
  | redirected (c : Command) (redirects : List Redirect)
  | sequence (first next : Command)
  | andThen (first next : Command)
  | orElse (first next : Command)
  | negate (c : Command)
  /-- what the first one writes is read by the second -/
  | pipe (first next : Command)
  /-- repeats the body as long as the condition succeeds, or fails -/
  | repeat_ (untilFails : Bool) (condition body : Command)
  | forEach (name : String) (words : List Word) (body : Command)
  | branch (condition yes no : Command)
  /-- whether a word matches one of some patterns -/
  | matching (word : Word) (patterns : List Word) (yes no : Command)
  /-- what happens to variables stays inside -/
  | inner (c : Command)
  deriving Repr

/-! ## Scripts inside words -/

/-- The first script in a word that has not been carried out yet. -/
def Word.script? (w : Word) : Option String :=
  w.findSome? fun
    | .output script _ => some script
    | _ => none

/-- Puts what this script has written in its place. -/
def Word.fill? (data : Bytes) : Word → Option Word
  | [] => none
  | .output _ quoted :: ps => some (.value data quoted :: ps)
  | p :: ps => (Word.fill? data ps).map (p :: ·)

/-- Puts what the first such script of some words has written in its place. -/
def fillFirst (data : Bytes) : List Word → List Word
  | [] => []
  | w :: ws =>
    match w.fill? data with
    | some w => w :: ws
    | none => w :: fillFirst data ws

namespace Command

/-- The words of a command that are expanded before it is carried out. -/
def openWords : Command → List Word
  | .simple given words _ => given.map (·.2) ++ words
  | .forEach _ words _ => words
  | .matching word _ _ _ => [word]
  | _ => []

/-- The next script in the words of a command that has to be carried out before it. -/
def script? (c : Command) : Option String := c.openWords.findSome? Word.script?

/-- Puts what this script has written in its place. -/
def fill (data : Bytes) (c : Command) : Command :=
  let words := fillFirst data c.openWords
  match c with
  | .simple given _ redirects =>
    .simple ((given.map (·.1)).zip words) (words.drop given.length) redirects
  | .forEach name _ body => .forEach name words body
  | .matching _ patterns yes no => .matching words.flatten patterns yes no
  | c => c

end Command

end PaneMux.Script
