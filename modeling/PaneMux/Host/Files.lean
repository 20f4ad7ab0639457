import PaneMux.Error
import PaneMux.Text.Path

/-!
# Files

The files of a host, as far as a daemon asks about them: what a path leads to, once links have been
followed.

## Main definitions

- `Files.walk` : where a path leads
- `Files.isFile`, `Files.isDirectory` : what is there
- `Files.makeWay` : make the directories of a path
- `Files.program` : the program that a name stands for
-/

namespace PaneMux

/-- What can be at a place. -/
inductive FileNode where
  | directory
  | file
  /-- a place at which a program listens -/
  | socket
  /-- another path to go on with -/
  | link (target : String)
  deriving DecidableEq, Repr

/-- A place: the names that lead to it from the root. -/
abbrev Place := List String

/-- The files of a host. -/
structure Files where
  nodes : List (Place × FileNode)
  /-- where relative paths begin -/
  cwd : Place := []
  deriving Repr

namespace Files

/-! ## §1 Following a path -/

/-- What is at a place. The root is a directory. -/
def node? (f : Files) (at_ : Place) : Option FileNode :=
  if at_.isEmpty then some .directory else (f.nodes.find? (·.1 = at_)).map (·.2)

/-- Follows components from a place; of links at most `links` are followed. -/
def walk (f : Files) (links : Nat) (at_ : Place) : List Component → Option Place
  | [] => some at_
  | c :: rest =>
    if f.node? at_ ≠ some .directory then none
    else
      match c with
      | .root => walk f links [] rest
      | .current => walk f links at_ rest
      | .parent => walk f links at_.dropLast rest
      | .normal name =>
        match f.node? (at_ ++ [name]) with
        | none => none
        | some (.link target) =>
          if 0 < links then walk f (links - 1) at_ (Path.components target ++ rest) else none
        | some _ => walk f links (at_ ++ [name]) rest
termination_by cs => (links, cs.length)

/-- The most links that are followed. -/
def maxLinks : Nat := 40

/-- The place a path leads to from a directory. A path that ends in a slash or a dot leads to a
    directory or nowhere, and the empty path leads nowhere. -/
def place? (f : Files) (dir : Place) (path : String) : Option Place :=
  if path.isEmpty then none
  else
    match f.walk maxLinks dir (Path.components path) with
    | none => none
    | some p =>
      let wantsDirectory := path.endsWith "/" || path.endsWith "/."
      if wantsDirectory ∧ f.node? p ≠ some .directory then none else some p

/-- A path leads to a file. -/
def isFile (f : Files) (path : String) : Bool :=
  (f.place? f.cwd path).bind f.node? = some .file

/-- A path leads to a directory. -/
def isDirectory (f : Files) (path : String) : Bool :=
  (f.place? f.cwd path).bind f.node? = some .directory

/-- A path leads somewhere. -/
def isPresent (f : Files) (path : String) : Bool :=
  ((f.place? f.cwd path).bind f.node?).isSome

/-- A place as an absolute path. -/
def absolute (p : Place) : String := "/" ++ "/".intercalate p

/-! ## §2 Making and removing -/

/-- Puts something at a place. -/
def put (f : Files) (at_ : Place) (node : FileNode) : Files :=
  { f with nodes := f.nodes.filter (·.1 ≠ at_) ++ [(at_, node)] }

/-- Takes away what is at a place. -/
def erase (f : Files) (at_ : Place) : Files :=
  { f with nodes := f.nodes.filter (·.1 ≠ at_) }

/-- Nothing can be made at a place where the system shows what it knows of itself. -/
def isSealed (at_ : Place) : Bool := at_.head? = some "proc" || at_.head? = some "sys"

/-- Goes along a way from a place and makes the directories that are missing. -/
def makeWay (f : Files) (at_ : Place) : List Component → Option (Place × Files)
  | [] => some (at_, f)
  | c :: rest =>
    match f.walk maxLinks at_ [c], c with
    | some p, _ => if f.node? p = some .directory then makeWay f p rest else none
    | none, .normal name =>
      let here := at_ ++ [name]
      if isSealed at_ ∨ name.contains '\x00' ∨ (f.node? here).isSome then none
      else makeWay (f.put here .directory) here rest
    | none, _ => none

/-! ## §3 Programs -/

/-- The directories of a search path. -/
def searchPath (path : String) : List String := path.splitOn ":"

/-- The program that a name stands for: a name with a slash is a path, any other is looked for in the
    directories of the search path. -/
def program (f : Files) (path name : String) : Except TerminalError String :=
  if name.isEmpty then .error (.spawnFailed "empty program name")
  else if name.contains '/' then
    if f.isFile name then .ok name else .error (.spawnFailed ("program not found: " ++ name))
  else
    match ((searchPath path).map fun dir => Path.join dir name).find? f.isFile with
    | some p => .ok p
    | none => .error (.spawnFailed ("program not found on PATH: " ++ name))

/-! ## §4 A usual host -/

/-- The names of the programs of a usual host. -/
def usualPrograms : List String := ["sh", "dash", "bash", "cat", "stty", "sleep", "head", "wc",
  "echo", "printf", "pwd", "true", "false", "kill", "env", "test"]

/-- The directories of a usual host. -/
def usualDirectories : List Place :=
  [["boot"], ["dev"], ["etc"], ["home"], ["opt"], ["proc"], ["root"], ["run"], ["sbin"],
    ["srv"], ["sys"], ["tmp"], ["usr"], ["usr", "bin"], ["usr", "lib"], ["usr", "local"],
    ["usr", "local", "bin"], ["usr", "sbin"], ["usr", "share"], ["var"], ["var", "log"],
    ["var", "tmp"]]

/-- The files of a usual host: programs are in `/usr/bin`, and `/bin` is a link to it. -/
def usual : Files where
  nodes :=
    usualDirectories.map (·, .directory) ++
      [(["bin"], .link "usr/bin"), (["dev", "null"], .file), (["dev", "tty"], .file),
        (["etc", "passwd"], .file)] ++
      usualPrograms.map fun name => (["usr", "bin", name], .file)
  cwd := ["srv"]

end Files

end PaneMux
