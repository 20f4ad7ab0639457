import PaneMux.Cli.Arguments
import PaneMux.Text.Path

/-!
# Invocations

What the program is asked to do: to serve, which is also what it does when it is told nothing, or to
send one request to a daemon. What is not given is taken from the environment.
-/

namespace PaneMux.Cli

/-! ## §1 Commands -/

/-- How a daemon is to be run. -/
structure ServeOptions where
  socket : Option String := none
  db : Option String := none
  logLevel : String := "info"
  deriving DecidableEq, Repr

/-- A request to be sent. -/
structure CallOptions where
  json : String
  socket : Option String := none
  /-- go on with the events of the subscription that is asked for -/
  follow : Bool := false
  deriving DecidableEq, Repr

/-- What the program is asked to do. -/
inductive Invocation where
  /-- nothing is named: serve with what the environment gives -/
  | default
  | serve (options : ServeOptions)
  | call (options : CallOptions)
  deriving DecidableEq, Repr

/-- What `serve` takes. -/
def serveGrammar : Grammar :=
  { options := [("socket", .path), ("db", .path), ("log-level", .text)], places := 0 }

/-- What `call` takes. -/
def callGrammar : Grammar :=
  { options := [("socket", .path), ("follow", .flag)], places := 1 }

/-- The names that help can be asked for. -/
def commandNames : List String := ["serve", "call", "help"]

/-- Help for a command named by words: there are no commands below the named ones. -/
def helpFor : List String → UsageError
  | [] => .displayHelp
  | [name] => if commandNames.contains name then .displayHelp else .invalidSubcommand
  | _ => .invalidSubcommand

namespace Invocation

/-- Reads `serve` and what follows it. -/
def ofServe (words : List String) : Except UsageError Invocation := do
  let s ← serveGrammar.parse words
  return .serve
    { socket := s.value? "socket", db := s.value? "db"
      logLevel := (s.value? "log-level").getD "info" }

/-- Reads `call` and what follows it. -/
def ofCall (words : List String) : Except UsageError Invocation := do
  let s ← callGrammar.parse words
  return .call
    { json := s.places.headD "", socket := s.value? "socket"
      follow := (s.value? "follow").isSome }

/-- Reads a command line, without the name of the program. -/
def parse : List String → Except UsageError Invocation
  | [] => .ok .default
  | w :: rest =>
    match Word.ofString w with
    | .escape =>
      -- behind a `--` no word names a command
      match rest with
      | [] => .ok .default
      | name :: _ =>
        .error (if commandNames.contains name then .unknownArgument else .invalidSubcommand)
    | .long "help" none => .error .displayHelp
    | .long "version" none => .error .displayVersion
    | .long "help" _ | .long "version" _ => .error .tooManyValues
    | .long .. => .error .unknownArgument
    | .short ('h' :: _) => .error .displayHelp
    | .short ('V' :: _) => .error .displayVersion
    | .short _ => .error .unknownArgument
    | .plain name =>
      if name = "serve" then ofServe rest
      else if name = "call" then ofCall rest
      else if name = "help" then .error (helpFor rest)
      else .error .invalidSubcommand

end Invocation

/-! ## §2 The environment -/

/-- The variables of the environment. -/
abbrev Environment := List (String × String)

namespace Environment

/-- The value of a variable that is set. -/
def get? (env : Environment) (name : String) : Option String :=
  (env.find? (·.1 = name)).map (·.2)

/-- The value of a variable that is set and not empty. -/
def nonEmpty? (env : Environment) (name : String) : Option String :=
  (env.get? name).filter (!·.isEmpty)

/-- The directory for temporary files. -/
def tempDir (env : Environment) : String := (env.get? "TMPDIR").getD "/tmp"

/-- Where the daemon listens when nothing else is said. -/
def socketPath (env : Environment) (user : String) : String :=
  match env.nonEmpty? "XDG_RUNTIME_DIR" with
  | some dir => Path.join dir "panehub.sock"
  | none => "/tmp/panehub-" ++ user ++ ".sock"

/-- Where the daemon keeps its store when nothing else is said. -/
def storePath (env : Environment) : String :=
  let home := match env.nonEmpty? "XDG_DATA_HOME" with
    | some dir => dir
    | none =>
      match env.get? "HOME" with
      | some home => Path.join home ".local/share"
      | none => env.tempDir
  Path.join (Path.join home "panehub") "panehub.db"

/-- The user's shell. -/
def shell (env : Environment) : String := (env.nonEmpty? "SHELL").getD "/bin/sh"

end Environment

end PaneMux.Cli
