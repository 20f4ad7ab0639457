import PaneMux.Error
import PaneMux.Terminal.Stream

/-!
# Processes in terminals

A terminal is a process together with the stream of what it writes. The process itself belongs to
the machine; here is what the daemon knows of it and asks of it.

## Main definitions

- `SpawnRequest` : what is asked of the machine for a new process
- `HostRequest` : what is asked of it afterwards
- `Terminal` : a process, its stream, and how far it has come to its end
-/

namespace PaneMux

/-- A process to be started in a terminal of its own. -/
structure SpawnRequest where
  /-- the program; the user's shell when absent -/
  shell : Option String := none
  args : List String := []
  /-- the directory; the daemon's own when absent -/
  cwd : Option String := none
  /-- variables put over the daemon's own, sorted by name -/
  env : List (String × String) := []
  size : Geometry := {}
  deriving DecidableEq, Repr

/-- What stays true of a process from its start on. -/
structure ProcessInfo where
  pid : Option Nat
  shell : String
  args : List String
  cwd : String
  env : List (String × String)
  spawnedAt : Time.Instant
  deriving DecidableEq, Repr

/-- How a process ended. -/
structure ProcessExit where
  /-- none when a signal ended it -/
  code : Option Int32
  /-- it ended after it had been asked to -/
  killed : Bool
  deriving DecidableEq, Repr

/-- How the machine answers a request for a process. -/
abbrev Spawner := SpawnRequest → Except TerminalError ProcessInfo

/-- What is asked of the machine. -/
inductive HostRequest where
  /-- let the process granted for a pane begin -/
  | start (pane : Nat) (request : SpawnRequest)
  | write (pane : Nat) (data : Bytes)
  | resize (pane : Nat) (size : Geometry)
  /-- tell the processes of a pane that their terminal goes away -/
  | hangUp (pane : Nat)
  | kill (pane : Nat)
  deriving DecidableEq, Repr

/-- A terminal. -/
structure Terminal where
  info : ProcessInfo
  stream : Stream
  exit : Option ProcessExit := none
  /-- the process has been asked to end -/
  terminating : Bool := false
  /-- when a process that does not follow is killed, in milliseconds of uptime -/
  killAt : Option Nat := none
  deriving DecidableEq, Repr

namespace Terminal

/-- The terminal of a process that has just started. -/
def new (pane : Nat) (info : ProcessInfo) (limits : Limits) (capacity : Nat) : Terminal :=
  { info, stream := .new pane limits capacity }

/-- The pane of a terminal. -/
def pane (t : Terminal) : Nat := t.stream.pane

/-- The process has not ended. -/
def isRunning (t : Terminal) : Bool := t.exit.isNone

/-- The process has written something. -/
def output (t : Terminal) (now : Time.Instant) (data : Bytes) : Terminal :=
  { t with stream := (t.stream.publishOutput now data).2 }

/-- The process has ended, with a code or by a signal. Only the first end counts. -/
def ended (t : Terminal) (code : Option Int32) : Terminal :=
  if t.exit.isSome then t
  else
    { t with
      exit := some ⟨code, t.terminating⟩
      stream := (t.stream.finish code t.terminating).2
      killAt := none }

/-- What it takes to write to the process. -/
def send (t : Terminal) (data : Bytes) : Except TerminalError HostRequest :=
  if t.isRunning then .ok (.write t.pane data) else .error .processExited

/-- What it takes to resize the terminal. -/
def resize (t : Terminal) (size : Geometry) : Except TerminalError HostRequest :=
  if !t.isRunning then .error .processExited
  else if size.IsValid then .ok (.resize t.pane size)
  else .error (.invalidGeometry size)

/-- Asks the process to end, with a time after which it is killed. -/
def terminate (t : Terminal) (uptime grace : Nat) : Terminal × List HostRequest :=
  if t.isRunning then
    ({ t with terminating := true, killAt := some (t.killAt.elim (uptime + grace) (min (uptime + grace))) },
      [.hangUp t.pane])
  else (t, [])

/-- Ends the process at once. -/
def abandon (t : Terminal) : Terminal × List HostRequest :=
  if t.isRunning then ({ t with terminating := true, killAt := none }, [.kill t.pane]) else (t, [])

/-- The time given to a process has passed. -/
def expire (t : Terminal) (uptime : Nat) : Terminal × List HostRequest :=
  match t.killAt with
  | some due =>
    if t.isRunning ∧ due ≤ uptime then ({ t with killAt := none }, [.kill t.pane]) else (t, [])
  | none => (t, [])

end Terminal

/-! ## JSON forms -/

/-- A map from text to text as JSON. -/
def stringMapJson (entries : List (String × String)) : Json :=
  .obj (entries.map fun e => (e.1, .str e.2))

/-- The facts as JSON. -/
def ProcessInfo.toJson (p : ProcessInfo) : Json :=
  .obj [("pid", .opt .nat p.pid), ("shell", .str p.shell), ("args", .list .str p.args),
    ("cwd", .str p.cwd), ("env", stringMapJson p.env), ("spawned_at", .str p.spawnedAt.text)]

/-- Reads the facts. -/
def ProcessInfo.decode : Decoder ProcessInfo :=
  ((Record.pure ProcessInfo.mk).and (.optional "pid" Decoder.u32)
    |>.and (.field "shell" Decoder.string) |>.and (.field "args" (Decoder.list Decoder.string))
    |>.and (.field "cwd" Decoder.path) |>.and (.field "env" Decoder.stringMap)
    |>.and (.field "spawned_at" Decoder.instant)).decoder "struct ProcessInfo"

/-- The end as JSON. -/
def ProcessExit.toJson (e : ProcessExit) : Json :=
  .obj [("exit_code", exitCodeJson e.code), ("killed", .bool e.killed)]

/-- Reads an end. -/
def ProcessExit.decode : Decoder ProcessExit :=
  ((Record.pure ProcessExit.mk).and (.optional "exit_code" Decoder.i32)
    |>.and (.field "killed" Decoder.bool)).decoder "struct ProcessExit"

end PaneMux
