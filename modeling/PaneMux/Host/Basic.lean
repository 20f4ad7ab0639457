import PaneMux.Host.Launch
import PaneMux.Host.Machine
import PaneMux.Host.Process.Run

/-!
# The host

A host runs the processes of panes, each in a terminal of its own. It takes up requests one after the
other, and afterwards tells what has happened: what processes have written, and which have ended.

## Main definitions

- `Host.handle` : take up a request
- `Host.wake` : let time come to a moment
- `Host.report` : what has happened since the last report
- `Host.machine` : what the host answers when it is asked about itself
-/

namespace PaneMux

/-- What happens on a host. -/
inductive Happening where
  /-- the process of a pane has written something -/
  | output (pane : Nat) (data : Bytes)
  /-- it has ended, with a code or by a signal -/
  | ended (pane : Nat) (code : Option Int32)
  deriving DecidableEq, Repr

/-- A host. -/
structure Host where
  surroundings : Surroundings := {}
  /-- the processes that run, by pane -/
  processes : List (Nat × Process) := []
  /-- the number of the daemon itself -/
  daemonPid : Nat := 2
  /-- no process has a number from here on -/
  nextPid : Nat := 3

namespace Host

/-! ## §1 Requests -/

/-- The place that a process starts in. -/
def startPlace (h : Host) (cwd : Option String) : Place :=
  let files := h.surroundings.files
  (cwd.bind (files.place? files.cwd)).getD files.cwd

/-- A process before its first step. -/
def newProcess (h : Host) (now : Nat) (r : SpawnRequest) : Process :=
  let s := h.surroundings
  let named := r.shell.getD s.env.shell
  let bindings := (s.environment r.env).map fun v => (v.1, Utf8.encode v.2)
  let program := (s.program named).toOption.getD named
  let p : Process :=
    { scope := { bindings, name := Utf8.encode program, pid := h.nextPid }
      files := s.files
      place := h.startPlace r.cwd
      tty := { size := r.size } }
  p.start now program r.args

/-- Changes the process of a pane. -/
def modify (h : Host) (pane : Nat) (f : Process → Process) : Host :=
  { h with processes := h.processes.map fun p => if p.1 = pane then (pane, f p.2) else p }

/-- Takes up a request. -/
def handle (now : Nat) (h : Host) : HostRequest → Host
  | .start pane r =>
    { h with
      processes := h.processes ++ [(pane, (h.newProcess now r).resume now)]
      nextPid := h.nextPid + 1 }
  | .write pane data => h.modify pane (·.type now data)
  | .resize pane size => h.modify pane (·.resize now size)
  | .hangUp pane => h.modify pane (·.send now .hangUp)
  | .kill pane => h.modify pane (·.send now .kill)

/-! ## §2 Time -/

/-- Time has come to `now`. -/
def wake (now : Nat) (h : Host) : Host :=
  { h with processes := h.processes.map fun p => (p.1, p.2.wake now) }

/-! ## §3 Reports -/

/-- What has happened to one process, and the process if it goes on. -/
def reportOne : Nat × Process → List Happening × Option (Nat × Process)
  | (pane, p) =>
    let (shown, p) := p.takeShown
    let written := if shown.isEmpty then [] else [Happening.output pane shown]
    match p.ending? with
    | some code => (written ++ [.ended pane code], none)
    | none => (written, some (pane, p))

/-- What has happened since the last report. Processes that have ended are reported once. -/
def report (h : Host) : List Happening × Host :=
  let reports := h.processes.map reportOne
  (reports.flatMap (·.1), { h with processes := reports.filterMap (·.2) })

/-! ## §4 Questions -/

/-- The memory of a host, and how much of it a process takes. -/
def memory : Usage := ⟨Nat.pow 2 33, Nat.pow 2 30⟩

/-- The disk of a host. -/
def disk : Usage := ⟨Nat.pow 2 38, Nat.pow 2 37⟩

/-- The memory that a process takes. -/
def processMemory : Nat := Nat.pow 2 20

/-- There is a process with a number. -/
def runs (h : Host) (pid : Nat) : Bool :=
  pid = h.daemonPid || h.processes.any (·.2.scope.pid = pid)

/-- What a process uses. -/
def probe (h : Host) : Probe := fun pid =>
  if h.runs pid then .ok ⟨.zero, processMemory⟩ else .error (.gone pid)

/-- What the host uses. -/
def metrics (now : Time.Instant) : HostMetrics := ⟨.zero, memory, disk, now⟩

/-- What the host answers. -/
def machine (h : Host) (now : Time.Instant) : Machine where
  spawn := h.surroundings.grant h.nextPid now
  probe := h.probe
  host := metrics

end Host

end PaneMux
