/-!
# Arguments of a command line

How the words of a command line are told apart: options by their two dashes, each with a value of its
own or none, a `--` after which every word is taken as it stands, and everything else in order of its
place. An option may be given once.

## Main definitions

- `Grammar` : what a command takes
- `Grammar.parse` : the words sorted into options and places, or what is wrong with them
-/

namespace PaneMux.Cli

/-- Why a command line is not carried out. Being asked for help is one reason. -/
inductive UsageError where
  | unknownArgument
  | invalidSubcommand
  /-- an option without a value, or with one it cannot take -/
  | invalidValue
  /-- a value for an option that takes none -/
  | tooManyValues
  /-- an option given twice -/
  | argumentConflict
  | missingRequiredArgument
  | displayHelp
  | displayVersion
  deriving DecidableEq, Repr

namespace UsageError

/-- The name of the kind of error. -/
def name : UsageError → String
  | .unknownArgument => "UnknownArgument"
  | .invalidSubcommand => "InvalidSubcommand"
  | .invalidValue => "InvalidValue"
  | .tooManyValues => "TooManyValues"
  | .argumentConflict => "ArgumentConflict"
  | .missingRequiredArgument => "MissingRequiredArgument"
  | .displayHelp => "DisplayHelp"
  | .displayVersion => "DisplayVersion"

/-- The status with which the program ends. -/
def exitCode : UsageError → Nat
  | .displayHelp | .displayVersion => 0
  | _ => 2

end UsageError

/-- What follows an option. -/
inductive OptionKind where
  /-- nothing -/
  | flag
  /-- a text -/
  | text
  /-- a path, which is not empty -/
  | path
  deriving DecidableEq, Repr

/-- What a command takes. -/
structure Grammar where
  /-- the options by name -/
  options : List (String × OptionKind)
  /-- the number of places, all of which have to be filled -/
  places : Nat
  deriving Repr

/-- The words of a command line, sorted. -/
structure Sorted where
  /-- each option that was given, with its value -/
  options : List (String × String) := []
  places : List String := []
  deriving Repr

/-- The value of an option that was given. -/
def Sorted.value? (s : Sorted) (name : String) : Option String :=
  (s.options.find? (·.1 = name)).map (·.2)

/-- A word. -/
inductive Word where
  /-- `--` -/
  | escape
  /-- two dashes, a name and possibly a value behind an equals sign -/
  | long (name : String) (value : Option String)
  /-- a dash and letters -/
  | short (letters : List Char)
  | plain (text : String)
  deriving DecidableEq, Repr

namespace Word

/-- A name and what is behind the first equals sign. -/
def splitValue (cs : List Char) : String × Option String :=
  match cs.span (· ≠ '=') with
  | (name, []) => (String.ofList name, none)
  | (name, _ :: value) => (String.ofList name, some (String.ofList value))

/-- What a word is. -/
def ofString (s : String) : Word :=
  match s.toList with
  | ['-', '-'] => .escape
  | '-' :: '-' :: rest => let (name, value) := splitValue rest; .long name value
  | '-' :: c :: rest => .short (c :: rest)
  | _ => .plain s

end Word

namespace Grammar

/-- What follows an option that the command takes. -/
def kind? (g : Grammar) (name : String) : Option OptionKind :=
  (g.options.find? (·.1 = name)).map (·.2)

/-- Adds an option with its value. -/
def give (g : Grammar) (s : Sorted) (name value : String) : Except UsageError Sorted :=
  if g.kind? name = some .path ∧ value.isEmpty then .error .invalidValue
  else if s.options.any (·.1 = name) then .error .argumentConflict
  else .ok { s with options := s.options ++ [(name, value)] }

/-- Sorts words. `waiting` is an option whose value has not come yet, `escaped` tells that a `--` has
    been met. -/
def sort (g : Grammar) (s : Sorted) (waiting : Option String) (escaped : Bool) :
    List String → Except UsageError Sorted
  | [] => if waiting.isSome then .error .invalidValue else .ok s
  | w :: rest =>
    let place (s : Sorted) : Except UsageError Sorted :=
      if g.places ≤ s.places.length then .error .unknownArgument
      else if waiting.isSome then .error .invalidValue
      else .ok { s with places := s.places ++ [w] }
    if escaped then do
      let s ← place s
      sort g s none true rest
    else
      match Word.ofString w with
      | .escape => sort g s waiting true rest
      | .long name value =>
        match g.kind? name, value with
        | none, _ =>
          if name = "help" then
            if value.isSome then .error .tooManyValues
            else if waiting.isSome then .error .invalidValue
            else .error .displayHelp
          else .error .unknownArgument
        | some .flag, some _ => .error .tooManyValues
        | some .flag, none => do
          if waiting.isSome then throw .invalidValue
          let s ← g.give s name "true"
          sort g s none false rest
        | some _, some v => do
          if waiting.isSome then throw .invalidValue
          let s ← g.give s name v
          sort g s none false rest
        | some _, none =>
          if waiting.isSome then .error .invalidValue else sort g s (some name) false rest
      | .short letters =>
        if letters.head? = some 'h' then
          if waiting.isSome then .error .invalidValue else .error .displayHelp
        else .error .unknownArgument
      | .plain _ =>
        match waiting with
        | some name => do
          let s ← g.give s name w
          sort g s none false rest
        | none => do
          let s ← place s
          sort g s none false rest

/-- Sorts the words of a command line. -/
def parse (g : Grammar) (words : List String) : Except UsageError Sorted := do
  let s ← g.sort {} none false words
  if s.places.length < g.places then throw .missingRequiredArgument
  return s

end Grammar

end PaneMux.Cli
