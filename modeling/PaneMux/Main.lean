import PaneMux.Daemon.Site
import Std.Time.DateTime.Timestamp

/-!
# The program

The command line of the daemon. A daemon that serves here listens to its standard input in place of a
socket and writes to its standard output; it runs at a site that begins and ends with it.
-/

namespace PaneMux.Program

open Cli (Environment)

/-- The variables that the program looks at. -/
def variableNames : List String :=
  ["PATH", "HOME", "SHELL", "TMPDIR", "XDG_RUNTIME_DIR", "XDG_DATA_HOME"]

/-- The variables that are set. -/
def environment : IO Environment := do
  let values ← variableNames.mapM fun name => do return (name, ← IO.getEnv name)
  return values.filterMap fun v => v.2.map fun value => (v.1, value)

/-- The time of day. -/
def wallClock : IO Time.Instant := do
  let now ← Std.Time.Timestamp.now
  return ⟨now.val.second.val, now.val.nano.val.toNat⟩

/-- A site whose clocks begin now. -/
def freshSite : IO Site := do
  let env ← environment
  return { surroundings := { env }, epoch := ← wallClock }

/-- The client at the standard streams. -/
def client : Nat := 1

/-- Lets the clock of a site catch up. -/
def catchUp (started : Nat) (s : Site) : IO Site := do
  let now ← IO.monoMsNow
  return sleepFor Site.tick (now - started - s.uptime) s

/-- Writes the messages that wait. -/
def showEvents (s : Site) : IO Site := do
  let (events, s) := s.receive client
  for (subscription, event) in events do
    IO.println (Outbound.event subscription event).line
  return s

/-- Answers lines until there are no more. -/
partial def answerLines (started : Nat) (s : Site) : IO Site := do
  let line ← (← IO.getStdin).getLine
  let s ← catchUp started s
  if line.isEmpty then return s
  let (response, s) := s.request client (line.trimAsciiEnd.toString)
  if let some r := response then IO.println (Outbound.response r).line
  let s ← showEvents s
  (← IO.getStdout).flush
  answerLines started s

/-- Runs a daemon until its input ends. -/
def serve (started : Nat) (s : Site) : IO UInt32 := do
  let s ← answerLines started s
  let (code, _) := s.stop .terminate
  return (code.getD 0).toUInt32

/-- Tells why the program fails. -/
def complain (cause : String) : IO Unit := IO.eprintln ("error: " ++ cause)

/-- Tells what has come of a command line that has not started a daemon. -/
def tell : Site.Run → IO Unit
  | .serving => return
  | .notStarted e => complain e.message
  | .called outcome => do
    IO.print outcome.text
    if let .error e := outcome.ending then complain e.message
  | .refused e => if 0 < e.exitCode then complain e.name else return

end PaneMux.Program

open PaneMux in
/-- Does what the command line asks for. -/
def main (args : List String) : IO UInt32 := do
  let started ← IO.monoMsNow
  let (r, s) := (← Program.freshSite).run args
  match r.exitCode? with
  | none => Program.serve started s
  | some code =>
    Program.tell r
    return code.toUInt32
