import PaneMux.Host.Files
import PaneMux.Host.Script.Expansion
import PaneMux.Host.Script.Reader
import PaneMux.Host.Tty

/-!
# Processes

A process in a terminal: a shell that carries out a script, with the few programs it may call, or one
of these programs alone. What is still to be done is a stack of frames, so a process can stop at any
place to wait for input or for time to pass, and go on from there.

## Main definitions

- `Frame` : a piece of what is still to be done
- `Process` : a process
- `Process.signal` : what becomes of a process that gets a signal

## Architecture

- **§1** descriptors
- **§2** frames and the process
- **§3** leaving, and signals
-/

namespace PaneMux

open Script (Scope Command)

/-! ## §1 Descriptors -/

/-- Where input comes from. -/
inductive Source where
  | terminal
  | bytes (rest : Bytes)
  deriving DecidableEq, Repr

/-- Where output goes. -/
inductive Sink where
  | terminal
  /-- it is gathered for the next command of a pipe; pipes inside pipes have numbers -/
  | gathered (pipe : Nat)
  | nowhere
  deriving DecidableEq, Repr

/-- The first three descriptors. -/
structure Descriptors where
  input : Source := .terminal
  output : Sink := .terminal
  errors : Sink := .terminal
  deriving DecidableEq, Repr

namespace Descriptors

/-- Where output to a descriptor goes. -/
def sink (d : Descriptors) (n : Nat) : Sink := if n = 2 then d.errors else d.output

/-- Lets a descriptor lead somewhere else. -/
def redirect (d : Descriptors) (n : Nat) (s : Sink) : Descriptors :=
  if n = 2 then { d with errors := s } else { d with output := s }

end Descriptors

/-! ## §2 Frames -/

/-- Work that may have to wait. -/
inductive Work where
  | copy
  /-- the first lines, or the first bytes -/
  | head (lines : Bool) (left : Nat)
  /-- counts lines, words and bytes, and tells those asked for -/
  | count (asked : List Char) (lines words bytes : Nat) (inWord : Bool)
  | sleep (until_ : Nat)
  /-- reads a line into variables; what has been read comes newest first, with the bytes that a
      backslash protects marked -/
  | read (raw : Bool) (names : List String) (blanks : Bytes) (got : List (UInt8 × Bool))
      (escaped : Bool)
  deriving DecidableEq, Repr

/-- What a shell does about a signal, or about its end. -/
structure Trap where
  /-- none for the end -/
  on : Option Signal
  /-- a script; nothing at all is done when it is empty -/
  action : String
  deriving DecidableEq, Repr

/-- What a part of a script cannot change for the rest. -/
structure Surrounding where
  scope : Scope
  traps : List Trap
  place : Place
  descriptors : Descriptors

/-- What is still to be done. -/
inductive Frame where
  | run (c : Command)
  | work (w : Work)
  | andThen (c : Command)
  | orElse (c : Command)
  | negate
  /-- the condition of a loop has been carried out; `last` is how the body ended before that -/
  | tested (untilFails : Bool) (condition body : Command) (last : Nat)
  /-- the body of a loop has been carried out -/
  | again (untilFails : Bool) (condition body : Command)
  | branched (yes no : Command)
  | next (name : String) (values : List Bytes) (body : Command)
  /-- the end of a part whose changes stay inside -/
  | inside (s : Surrounding)
  | descriptors (d : Descriptors)
  /-- what has been gathered is read by a command -/
  | handOn (c : Command) (d : Descriptors)
  /-- what has been gathered belongs into the words of a command -/
  | fill (c : Command) (d : Descriptors)
  /-- the end of what is done about a signal -/
  | trapped (status : Nat)
  /-- the next line of the input is carried out -/
  | prompt
  | line (got : Bytes)

/-- What a process waits for. -/
inductive Waiting where
  | nothing
  | input
  | time (until_ : Nat)
  /-- it has ended, with a code or by a signal -/
  | ended (code : Option Nat)
  deriving DecidableEq, Repr

/-- A process. -/
structure Process where
  scope : Scope := {}
  traps : List Trap := []
  files : Files
  place : Place := []
  descriptors : Descriptors := {}
  /-- what pipes have gathered: the innermost pipe first, and of each the newest first -/
  gathered : List (List Bytes) := []
  frames : List Frame := []
  tty : Tty := {}
  /-- what has been shown since the last time it was taken, newest first -/
  shown : List Bytes := []
  waiting : Waiting := .nothing

namespace Process

/-- Shows bytes. -/
def show_ (p : Process) (shown : Bytes) : Process :=
  if shown.isEmpty then p else { p with shown := shown :: p.shown }

/-- Puts output where it goes. -/
def put (p : Process) (s : Sink) (data : Bytes) : Process :=
  match s with
  | .nowhere => p
  | .terminal =>
    let (shown, tty) := p.tty.write data
    { p with tty }.show_ shown
  | .gathered n =>
    { p with gathered := p.gathered.mapIdx fun i g =>
        if i + n + 1 = p.gathered.length then data :: g else g }

/-- Writes to the output. -/
def say (p : Process) (data : Bytes) : Process := p.put p.descriptors.output data

/-- Writes a line of a text to the errors. -/
def complain (p : Process) (text : String) : Process :=
  p.put p.descriptors.errors (Utf8.encode text ++ [newline])

/-- Writes to the errors what the shell itself has to say. -/
def complainInLine (p : Process) (text : String) : Process :=
  p.complain (Utf8.decodeLossy p.scope.name ++ ": 1: " ++ text)

/-- A command has ended. -/
def done (p : Process) (status : Nat) : Process :=
  { p with scope := { p.scope with status } }

/-- Adds frames on top. -/
def push (p : Process) (fs : List Frame) : Process := { p with frames := fs ++ p.frames }

/-! ## §3 Leaving, and signals -/

/-- What a part of a script may not change. -/
def surrounding (p : Process) : Surrounding := ⟨p.scope, p.traps, p.place, p.descriptors⟩

/-- Puts back what a part of a script may not change. -/
def restore (p : Process) (s : Surrounding) : Process :=
  { p with
    scope := { s.scope with status := p.scope.status }
    traps := s.traps
    place := s.place
    descriptors := s.descriptors }

/-- The frames from the end of the innermost inner part on. -/
def innerEnd : List Frame → List Frame
  | [] => []
  | .inside s :: rest => .inside s :: rest
  | _ :: rest => innerEnd rest

/-- Ends the innermost inner part, or the process. -/
def leave (p : Process) (status : Nat) : Process :=
  { p.done (status % 256) with frames := innerEnd p.frames }

/-- What is done about something. -/
def trapOn (p : Process) (on : Option Signal) : Option Trap := p.traps.find? (·.on = on)

/-- What stays of the traps for a process that is started by this one: signals of which no notice is
    taken. -/
def ignoring (ts : List Trap) : List Trap := ts.filter (·.action.isEmpty)

/-- The outermost inner part, and the frames behind it. -/
def outermost : List Frame → Option (Surrounding × List Frame)
  | [] => none
  | .inside s :: rest => (outermost rest).or (some (s, rest))
  | _ :: rest => outermost rest

/-- Carries out a text. -/
def evaluate (p : Process) (text : String) (after : List Frame) : Process :=
  match Script.parse? text with
  | some c => p.push (.run c :: after)
  | none => (p.complainInLine "Syntax error").leave 2

/-- Stops what a signal has ended apart from the shell itself. -/
def stopChildren (p : Process) (status : Nat) : Process :=
  match outermost p.frames with
  | some (s, rest) =>
    let p := p.restore s
    { p.done status with
      frames := rest
      gathered := p.gathered.drop (p.gathered.length - (rest.filter gathers).length) }
  | none =>
    match p.frames with
    | .work _ :: rest => { p.done status with frames := rest }
    | _ => p
where
  gathers : Frame → Bool
    | .handOn .. | .fill .. => true
    | _ => false

/-- The action that the shell at the bottom has for something. -/
def bottomTrap (p : Process) (on : Option Signal) : Option Trap :=
  match outermost p.frames with
  | some (s, _) => s.traps.find? (·.on = on)
  | none => p.trapOn on

/-- A signal reaches the processes of the terminal. -/
def signal (p : Process) (s : Signal) : Process :=
  match p.waiting with
  | .ended _ => p
  | _ =>
    if s = .kill then { p with waiting := .ended none }
    else
      match p.bottomTrap (some s) with
      | none => if s.isHarmless then p else { p with waiting := .ended none }
      | some t =>
        if t.action.isEmpty then p
        else
          let p := { p.stopChildren (128 + s.number) with waiting := .nothing }
          p.evaluate t.action [.trapped p.scope.status]

end Process

end PaneMux
