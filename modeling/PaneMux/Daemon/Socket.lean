import PaneMux.Host.Files
import PaneMux.Text.Utf8

/-!
# The socket

The place in the file system at which a daemon listens. Whatever a daemon that was killed has left
there is cleared away, and the directory is made if it is missing.

## Main definitions

- `Files.bind` : make the socket
- `Files.unbind` : take it away again
-/

namespace PaneMux

/-- The most bytes the path of a socket can have. -/
def maxSocketPath : Nat := 103

/-- Why there is no socket. -/
inductive BindError where
  | tooLong (path : Bytes)
  /-- something is there that cannot be taken away -/
  | notCleared (path : String)
  /-- the directory is missing and cannot be made -/
  | noDirectory (directory : String)
  | notBound (path : String)
  deriving DecidableEq, Repr

/-- The cause in words. -/
def BindError.message : BindError → String
  | .tooLong p =>
    "socket path too long (" ++ toString p.length ++ " bytes, max " ++ toString maxSocketPath ++
      "): " ++ Utf8.decodeLossy p
  | .notCleared p => "failed to remove stale socket: " ++ p
  | .noDirectory d => "failed to create socket directory: " ++ d
  | .notBound p => "failed to bind socket: " ++ p

namespace Files

/-- Clears away what is at a path, unless that is a directory. -/
def clear (f : Files) (path : String) : Except BindError Files :=
  match f.place? f.cwd path with
  | none => .ok f
  | some at_ =>
    match f.node? at_ with
    | none => .ok f
    | some .directory => .error (.notCleared path)
    | some _ => .ok (f.erase at_)

/-- Makes the directory that a path is in, and tells where it is. -/
def makeParent (f : Files) (path : String) : Except BindError (Place × Files) :=
  match Path.parent? path with
  | none => .ok (f.cwd, f)
  | some dir =>
    match f.makeWay f.cwd (Path.components dir) with
    | some made => .ok made
    | none => .error (.noDirectory dir)

/-- Makes the socket at a path. -/
def bind (f : Files) (path : Bytes) : Except BindError Files := do
  if maxSocketPath < path.length then throw (.tooLong path)
  let text := Utf8.decodeLossy path
  let f ← f.clear text
  let (dir, f) ← f.makeParent text
  match (Path.components text).getLast? with
  | some (.normal name) =>
    if isSealed dir ∨ name.contains '\x00' ∨ text.endsWith "/" ∨ text.endsWith "/." then
      throw (.notBound text)
    return f.put (dir ++ [name]) .socket
  | _ => throw (.notBound text)

/-- Takes the socket at a path away. -/
def unbind (f : Files) (path : String) : Files :=
  match f.place? f.cwd path with
  | some at_ => if f.node? at_ = some .socket then f.erase at_ else f
  | none => f

end Files

end PaneMux
