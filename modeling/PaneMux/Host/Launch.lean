import PaneMux.Cli.Invocation
import PaneMux.Host.Files
import PaneMux.Terminal.Process

/-!
# Launching a process

What is settled before a process starts: the size of its terminal, its program and its directory, in
this order. Whoever is refused has started nothing.
-/

namespace PaneMux

/-- What a host starts processes with. -/
structure Surroundings where
  files : Files := .usual
  /-- the daemon's own variables -/
  env : Cli.Environment := [("PATH", "/usr/local/sbin:/usr/local/bin:/usr/sbin:/usr/bin:/sbin:/bin")]
  deriving Repr

namespace Surroundings

/-- The search path. -/
def path (s : Surroundings) : String := (s.env.get? "PATH").getD ""

/-- The program that a name stands for. -/
def program (s : Surroundings) (name : String) : Except TerminalError String :=
  s.files.program s.path name

/-- The directory that a process starts in. -/
def directory (s : Surroundings) : Option String → Except TerminalError String
  | none => .ok (Files.absolute s.files.cwd)
  | some dir =>
    if s.files.isDirectory dir then .ok dir
    else .error (.spawnFailed ("working directory does not exist: " ++ dir))

/-- Grants a process, which gets a number and the time of its start. -/
def grant (s : Surroundings) (pid : Nat) (now : Time.Instant) : Spawner := fun r => do
  if !r.size.IsValid then throw (.invalidGeometry r.size)
  let shell ← s.program (r.shell.getD s.env.shell)
  let cwd ← s.directory r.cwd
  return { pid := some pid, shell, args := r.args, cwd, env := r.env, spawnedAt := now }

/-- The variables of a process: the daemon's own, those that tell of its terminal, and those that it
    was asked to have; of one name the last. -/
def environment (s : Surroundings) (asked : List (String × String)) : List (String × String) :=
  let given := s.env ++ [("TERM", "xterm-256color"), ("COLORTERM", "truecolor")] ++ asked
  given.foldl (fun vs v => Decoder.insertEntry v.1 v.2 vs) []

end Surroundings

end PaneMux
