import PaneMux.Agent.Marker
import PaneMux.Text.Decimal

/-!
# Tracking agent status

The last status written for each key wins. A status of `running` may be believed for a limited time
only; once it has passed the key shows as idle, though nobody wrote that.

## Main definitions

- `Tracker.set` : write a status; observers are told if what they see changes
- `Tracker.get`, `Tracker.list` : what observers see
- `Tracker.scan`, `Tracker.recordExit` : statuses read off the output and the end of a process
- `Tracker.changes` : everything observers have been told, in order
-/

namespace PaneMux

/-- What is kept for a key. -/
structure TrackedStatus where
  /-- as spelled when it was first written -/
  key : StatusKey
  status : AgentStatus
  updatedAt : Time.Instant
  /-- when it was written, in milliseconds of uptime -/
  touched : Nat
  deriving DecidableEq, Repr

/-- The statuses of all keys. -/
structure Tracker where
  /-- how long a running status is believed, in milliseconds -/
  expiry : Option Nat := none
  markers : List Marker := Marker.builtIn
  /-- one for each key written, in the order of keys -/
  entries : List TrackedStatus := []
  /-- what observers have been told, oldest first -/
  changes : List StatusChange := []
  deriving Repr

namespace TrackedStatus

/-- What observers see of an entry. -/
def visible (expiry : Option Nat) (uptime : Nat) (e : TrackedStatus) : AgentStatus :=
  match e.status, expiry with
  | .running, some ttl => if ttl ≤ uptime - e.touched then .idle else .running
  | s, _ => s

/-- Puts a status in its place among entries in the order of keys. An entry that is there keeps the
    spelling of its key. -/
def insert (e : TrackedStatus) : List TrackedStatus → List TrackedStatus
  | [] => [e]
  | old :: rest =>
    if e.key.same old.key then { e with key := old.key } :: rest
    else if e.key.less old.key then e :: old :: rest
    else old :: insert e rest

end TrackedStatus

namespace Tracker

/-- A new tracker. Without markers no status is read off the output. -/
def new (expiry : Option Nat) (markers : Bool) : Tracker :=
  { expiry, markers := if markers then Marker.builtIn else [] }

/-- The entry of a key. -/
def find? (t : Tracker) (key : StatusKey) : Option TrackedStatus :=
  t.entries.find? fun e => key.same e.key

/-- What observers see of a key that has a status. -/
def visible? (t : Tracker) (uptime : Nat) (key : StatusKey) : Option AgentStatus :=
  (t.find? key).map (·.visible t.expiry uptime)

/-- Writes a status. Tells whether what observers see has changed. -/
def set (t : Tracker) (now : Time.Moment) (key : StatusKey) (status : AgentStatus) :
    Bool × Tracker :=
  let previous := t.visible? now.uptime key
  let entry : TrackedStatus := { key, status, updatedAt := now.wall, touched := now.uptime }
  let t := { t with entries := entry.insert t.entries }
  if previous = some status then (false, t)
  else (true, { t with changes := t.changes ++ [⟨key, status, previous⟩] })

/-- The status of a key as observers see it; idle when there is none. -/
def get (t : Tracker) (uptime : Nat) (key : StatusKey) : AgentStatus :=
  (t.visible? uptime key).getD .idle

/-- Every status as observers see it, in the order of keys. -/
def list (t : Tracker) (uptime : Nat) : List StatusEntry :=
  t.entries.map fun e => ⟨e.key, e.visible t.expiry uptime, e.updatedAt⟩

/-- Forgets a key. The status written for it is given back. -/
def remove (t : Tracker) (key : StatusKey) : Option AgentStatus × Tracker :=
  ((t.find? key).map (·.status),
    { t with entries := t.entries.filter fun e => !key.same e.key })

/-- Reads a pane's output. The status found, if any, is written. -/
def scan (t : Tracker) (now : Time.Moment) (pane : Nat) (data : Bytes) :
    Option AgentStatus × Tracker :=
  match Marker.report? t.markers data with
  | some s => (some s, (t.set now (.pane pane) s).2)
  | none => (none, t)

/-- Takes note that a pane's process ended on its own: well, or with an error. -/
def recordExit (t : Tracker) (now : Time.Moment) (pane : Nat) (code : Option Int32) : Tracker :=
  (t.set now (.pane pane) (if code = some 0 then .idle else .error)).2

/-! ## Diagnostics -/

/-- A time in the largest unit of which it has one. -/
def durationText (ms : Nat) : String :=
  if ms = 0 then "0ns"
  else if ms < 1000 then Text.decimal ms ++ "ms"
  else
    let fraction := ((Text.padded 3 (ms % 1000)).reverse.dropWhile (· = '0')).reverse
    Text.decimal (ms / 1000) ++ (if fraction.isEmpty then "" else "." ++ String.ofList fraction) ++ "s"

/-- The tracker's settings, for diagnostics. -/
def describe (t : Tracker) : String :=
  let expiry := match t.expiry with
    | none => "Never"
    | some ms => "After(" ++ durationText ms ++ ")"
  "AgentStatusTracker \x7b expiry: " ++ expiry ++ ", markers: " ++
    Text.decimal t.markers.length ++ " \x7d"

end Tracker

end PaneMux
