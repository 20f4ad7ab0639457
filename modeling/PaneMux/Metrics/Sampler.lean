import PaneMux.Metrics.Sample
import PaneMux.Error

/-!
# Sampling

The measurements of every pane that has a process. Each pane is measured on its own: a process that
is gone stops the sampling of its pane, and one that cannot be measured is left out of that round.

## Main definitions

- `Sampler.round` : one round of measurements
- `Sampler.history`, `Sampler.latest` : what is remembered of a pane
- `Schedule` : when rounds take place
- `Meter.elapse` : let time pass and take the rounds that are due
-/

namespace PaneMux

/-- How a process is measured: what it uses, or why that is not known. -/
abbrev Probe := Nat → Except ProbeError ProcessUsage

/-- What the time is when a pane is measured. -/
abbrev Clock := Nat → Time.Instant

/-- A time is a clock that stands still. -/
instance : Coe Time.Instant Clock := ⟨fun now _ => now⟩

/-- A pane that is measured. -/
structure Tracked where
  pane : Nat
  pid : Nat
  /-- further rounds measure it -/
  active : Bool := true
  /-- oldest first -/
  history : List Sample := []
  deriving DecidableEq, Repr

namespace Tracked

/-- Adds a sample, in place of the oldest one when `capacity` are there. -/
def record (capacity : Nat) (s : Sample) (t : Tracked) : Tracked :=
  let kept := if capacity ≤ t.history.length then t.history.drop 1 else t.history
  { t with history := kept ++ [s] }

/-- One measurement. Tells whether there is a new sample. -/
def measure (probe : Probe) (capacity : Nat) (now : Time.Instant) (t : Tracked) : Bool × Tracked :=
  if !t.active then (false, t)
  else
    match probe t.pid with
    | .ok u => (true, t.record capacity ⟨t.pane, t.pid, u.cpu, u.memory, now⟩)
    | .error (.gone _) => (false, { t with active := false })
    | .error (.failed _) => (false, t)

end Tracked

/-- The panes that are measured. -/
structure Sampler where
  /-- samples kept of each pane -/
  capacity : Nat
  tracked : List Tracked := []
  deriving DecidableEq, Repr

namespace Sampler

/-- A sampler that keeps at least one sample. -/
def new (capacity : Nat) : Sampler := { capacity := max capacity 1 }

/-- Forgets a pane. -/
def untrack (s : Sampler) (pane : Nat) : Sampler :=
  { s with tracked := s.tracked.filter (·.pane ≠ pane) }

/-- Begins to measure a pane, with an empty history. -/
def track (s : Sampler) (pane pid : Nat) : Sampler :=
  let s := s.untrack pane
  { s with tracked := s.tracked ++ [{ pane, pid }] }

/-- Stops measuring a pane and keeps its history. -/
def deactivate (s : Sampler) (pane : Nat) : Sampler :=
  { s with tracked := s.tracked.map fun t => if t.pane = pane then { t with active := false } else t }

/-- What is kept of a pane. -/
def find? (s : Sampler) (pane : Nat) : Option Tracked := s.tracked.find? (·.pane = pane)

/-- Measures every active pane once, each at a time of its own. The number of new samples is given
    back. -/
def round (s : Sampler) (probe : Probe) (clock : Clock) : Nat × Sampler :=
  let measured := s.tracked.map fun t => t.measure probe s.capacity (clock t.pane)
  ((measured.filter (·.1)).length, { s with tracked := measured.map (·.2) })

/-- The processes that the next round measures. -/
def targets (s : Sampler) : List Nat := (s.tracked.filter (·.active)).map (·.pid)

/-- The samples kept of a pane, oldest first; none of a pane that is not known. -/
def history (s : Sampler) (pane : Nat) : List Sample := ((s.find? pane).map (·.history)).getD []

/-- The newest sample of a pane. -/
def latest (s : Sampler) (pane : Nat) : Option Sample := (s.history pane).getLast?

/-- The number of panes known. -/
def length (s : Sampler) : Nat := s.tracked.length

end Sampler

/-! ## Rounds in the background -/

/-- When rounds take place, in milliseconds of uptime. -/
structure Schedule where
  interval : Nat
  next : Nat
  /-- it has been told to stop -/
  stopped : Bool := false
  deriving DecidableEq, Repr

namespace Schedule

/-- Rounds from now on. -/
def start (now interval : Nat) : Schedule := { interval, next := now }

/-- The next round no later than a time. -/
def due? (s : Schedule) (until_ : Nat) : Option Nat :=
  if !s.stopped ∧ s.next ≤ until_ then some s.next else none

/-- A round has taken place. -/
def advance (s : Schedule) : Schedule := { s with next := s.next + max s.interval 1 }

/-- A stop signal. -/
def stop (s : Schedule) : Schedule := { s with stopped := true }

end Schedule

/-- Background tasks that measure the same panes. -/
structure Meter where
  sampler : Sampler
  tasks : List Schedule := []
  deriving DecidableEq, Repr

namespace Meter

/-- The earlier of two tasks; the first one of two that are due at the same time. -/
def earlier (best : Option (Schedule × Nat)) (t : Schedule × Nat) : Option (Schedule × Nat) :=
  match best with
  | some b => if t.1.next < b.1.next then some t else some b
  | none => some t

/-- The task, and its place, that is due first, no later than a time. -/
def due? (m : Meter) (until_ : Nat) : Option (Schedule × Nat) :=
  (m.tasks.zipIdx.filter fun t => (t.1.due? until_).isSome).foldl earlier none

/-- A round of the task that is due first: the processes that it measures, and what is left behind. -/
def roundDue? (m : Meter) (probe : Probe) (wall : Nat → Time.Instant) (until_ : Nat) :
    Option (List Nat × Meter) :=
  (m.due? until_).map fun (t, i) =>
    (m.sampler.targets,
      { sampler := (m.sampler.round probe (wall t.next)).2, tasks := m.tasks.set i t.advance })

/-- Lets time pass, round by round. A task has at most one round in a millisecond. -/
def elapse (m : Meter) (probe : Probe) (wall : Nat → Time.Instant) (until_ : Nat) :
    List Nat × Meter :=
  go ((m.tasks.map fun t => until_ + 1 - t.next).foldr (· + ·) 0) m
where
  go : Nat → Meter → List Nat × Meter
  | 0, m => ([], m)
  | n + 1, m =>
    match m.roundDue? probe wall until_ with
    | none => ([], m)
    | some (measured, m) =>
      let (more, m) := go n m
      (measured ++ more, m)

end Meter

end PaneMux
