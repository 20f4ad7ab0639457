import PaneMux.Host.Process.Programs
import PaneMux.Host.Script.Matching
import PaneMux.Host.Script.Printing

/-!
# The commands of the shell

What a shell does itself, and how a simple command is carried out: its words are expanded, its
descriptors changed, and its name looked up among the shell's own commands first.

## Main definitions

- `Process.builtin?` : begin a command of the shell by its name
- `Process.call` : begin a command by its name
- `Process.simple` : carry out a simple command
-/

namespace PaneMux

open Script (Scope Redirect)

namespace Process

/-! ## §1 Tests, traps and signals -/

/-- A test of one or two or three words. -/
def test (p : Process) : List Bytes → Bool
  | [] => false
  | [a] => !a.isEmpty
  | [op, a] =>
    let path := Utf8.decodeLossy a
    match Utf8.decodeLossy op with
    | "!" => a.isEmpty
    | "-n" => !a.isEmpty
    | "-z" => a.isEmpty
    | "-t" => path = "0" && p.descriptors.input = .terminal || path = "1" && p.descriptors.output = .terminal
    | "-e" => { p.files with cwd := p.place }.isPresent path
    | "-f" => { p.files with cwd := p.place }.isFile path
    | "-d" => { p.files with cwd := p.place }.isDirectory path
    | _ => false
  | [a, op, b] =>
    let m := Scope.number a
    let n := Scope.number b
    match Utf8.decodeLossy op with
    | "=" => a = b
    | "!=" => a ≠ b
    | "-eq" => m = n
    | "-ne" => m ≠ n
    | "-lt" => m < n
    | "-le" => m ≤ n
    | "-gt" => m > n
    | "-ge" => m ≥ n
    | _ => Utf8.decodeLossy a = "!" && !test p [op, b]
  | a :: rest => Utf8.decodeLossy a = "!" && !rest.isEmpty && false

/-- A signal by its name or its number. -/
def signalNamed? (s : String) : Option Signal :=
  match s.toNat? with
  | some n => some (.ofNumber n)
  | none => Signal.ofName? s

/-- Sets traps. -/
def trap (p : Process) : List String → Process
  | action :: names =>
    let ons : List (Option Signal) := names.filterMap fun n =>
      if n = "EXIT" ∨ n = "0" then some none else (signalNamed? n).map some
    let others := p.traps.filter fun t => !ons.contains t.on
    let traps := if action = "-" then others else ons.map (⟨·, action⟩) ++ others
    { p with traps }.done 0
  | [] => p.done 0

/-- Sends a signal to the process itself; there are no others. -/
def kill (p : Process) (args : List String) : Process :=
  let (s, targets) := match args with
    | "-s" :: name :: rest => (signalNamed? name, rest)
    | first :: rest =>
      if first.startsWith "-" then (signalNamed? (first.drop 1).toString, rest)
      else (some .terminate, first :: rest)
    | [] => (none, [])
  match s with
  | none => (p.complainInLine "kill: Illegal option").done 2
  | some s =>
    if targets.contains (Text.decimal p.scope.pid) ∨ targets.contains "0" then
      if s = .other 0 then p.done 0 else (p.done 0).signal s
    else (p.complainInLine "kill: No such process").done 1

/-- Goes to another directory. -/
def changeDirectory (p : Process) (path : String) : Process :=
  match { p.files with cwd := p.place }.place? p.place path with
  | some place =>
    if p.files.node? place = some .directory then { p with place }.done 0
    else (p.complainInLine ("cd: can't cd to " ++ path)).done 2
  | none => (p.complainInLine ("cd: can't cd to " ++ path)).done 2

/-- The frames from the innermost loop on; `out` leaves the loop as well. -/
def loopEnd (out : Bool) : List Frame → List Frame
  | [] => []
  | .again u c b :: rest => if out then rest else .again u c b :: rest
  | .tested _ _ _ _ :: rest => if out then rest else rest
  | .next n vs b :: rest => if out then rest else .next n vs b :: rest
  | .inside s :: rest => .inside s :: rest
  | _ :: rest => loopEnd out rest

/-- Starts a shell that carries out a text in an inner part. -/
def innerShell (p : Process) (args : List Bytes) : Option Process :=
  match args with
  | option :: text :: rest =>
    if option.head? = some 45 ∧ option.contains 99 then
      let p' : Process := p.push [.inside p.surrounding]
      let scope := { p.scope with name := rest.headD p.scope.name, args := rest.drop 1 }
      some ({ p' with scope, traps := ignoring p.traps }.evaluate (Utf8.decodeLossy text) [])
    else none
  | _ => none

/-! ## §2 Commands by name -/

/-- Gives a variable the value that is written behind its name, if one is. -/
def assignGiven (s : Scope) (given : String) : Scope :=
  match given.toList.span (· ≠ '=') with
  | (n, _ :: v) => s.assign (String.ofList n) (Utf8.encode (String.ofList v))
  | _ => s

/-- Carries out a command of the shell by its name, if there is such a command. -/
def builtin? (p : Process) (blanks : Bytes) (name : String) (args : List Bytes) : Option Process :=
  let texts := args.map Utf8.decodeLossy
  match name with
  | ":" | "true" | "wait" | "umask" => some (p.done 0)
  | "set" =>
    let args := if texts.head? = some "--" then args.drop 1 else p.scope.args
    some ({ p with scope := { p.scope with args } }.done 0)
  | "false" => some (p.done 1)
  | "echo" => some ((p.say (Script.echo args)).done 0)
  | "printf" => some ((p.say (Script.printf args)).done 0)
  | "pwd" => some ((p.say (Utf8.encode (Files.absolute p.place) ++ [newline])).done 0)
  | "cd" => some (p.changeDirectory (texts.headD "/"))
  | "read" =>
    let (options, names) := (texts.filter (· ≠ "")).span (·.startsWith "-")
    some (p.push [.work (.read (options.any (·.contains 'r')) names blanks [] false)])
  | "exit" =>
    match texts with
    | [] => some (p.leave p.scope.status)
    | code :: _ =>
      match code.toNat? with
      | some n => some (p.leave n)
      | none => some ((p.complainInLine ("exit: Illegal number: " ++ code)).leave 2)
  | "trap" => some (p.trap texts)
  | "kill" => some (p.kill texts)
  | "test" => some (p.done (if p.test args then 0 else 1))
  | "[" => some (p.done (if p.test args.dropLast then 0 else 1))
  | "eval" => some (p.evaluate (Utf8.decodeLossy (args.intersperse [32]).flatten) [])
  | "break" => some { p.done 0 with frames := loopEnd true p.frames }
  | "continue" => some { p.done 0 with frames := loopEnd false p.frames }
  | "shift" =>
    let n := (texts.head?.bind String.toNat?).getD 1
    some ({ p with scope := { p.scope with args := p.scope.args.drop n } }.done 0)
  | "export" | "readonly" | "local" =>
    some ({ p with scope := texts.foldl assignGiven p.scope }.done 0)
  | "unset" =>
    let bindings := p.scope.bindings.filter fun v => !texts.contains v.1
    some ({ p with scope := { p.scope with bindings } }.done 0)
  | _ => none

/-- The name a program is known by, whatever the directory it is in. -/
def knownName (name : String) : String :=
  match Path.fileName? name with
  | some n => if name.contains '/' then n else name
  | none => name

/-- The commands of the shell that are programs as well. -/
def standAlone : List String := ["echo", "printf", "pwd", "true", "false", "test", "[", "kill"]

/-- The variables, one a line. -/
def listing (s : Scope) : Bytes :=
  s.bindings.flatMap fun v => Utf8.encode (v.1 ++ "=") ++ v.2 ++ [newline]

/-- Carries out a command by its name. -/
def call (now : Nat) (p : Process) (blanks : Bytes) (name : String) (args : List Bytes) : Process :=
  let known := knownName name
  let answer :=
    (if name = known ∨ standAlone.contains known then p.builtin? blanks known args else none).or
      ((p.program? now known (args.map Utf8.decodeLossy)).or
        (if known = "sh" ∨ known = "dash" then p.innerShell args else none))
  match answer with
  | some p => p
  | none => (p.complainInLine (name ++ ": not found")).done 127

/-- Carries out a command by its name, with variables that are given to it alone. -/
def callWith (now : Nat) (p : Process) (blanks : Bytes) (name : String) (args : List Bytes) : Process :=
  if knownName name ≠ "env" then p.call now blanks name args
  else
    let (given, rest) := args.span (·.contains 61)
    let scope := given.foldl (fun s g => assignGiven s (Utf8.decodeLossy g)) p.scope
    match rest with
    | [] => (p.say (listing scope)).done 0
    | name :: args =>
      { p.push [.inside p.surrounding] with scope }.call now blanks (Utf8.decodeLossy name) args

/-! ## §3 Simple commands -/

/-- Changes descriptors as a command says. -/
def redirect (p : Process) (r : Redirect) : Process :=
  let d := p.descriptors
  match r.target with
  | .sameAs n =>
    if r.descriptor = 0 then p else { p with descriptors := d.redirect r.descriptor (d.sink n) }
  | .file w =>
    let onTerminal := Utf8.decodeLossy (p.scope.whole w) = "/dev/tty"
    if r.descriptor = 0 then
      { p with descriptors := { d with input := if onTerminal then .terminal else .bytes [] } }
    else
      { p with descriptors := d.redirect r.descriptor (if onTerminal then .terminal else .nowhere) }

/-- Carries out a simple command. -/
def simple (now : Nat) (p : Process) (given : List (String × Script.Word)) (words : List Script.Word)
    (redirects : List Redirect) : Process :=
  let assigned := given.foldl (fun s g => s.assign g.1 (s.whole g.2)) p.scope
  let fields := p.scope.fields words
  match fields with
  | [] =>
    -- the status of a script whose output is a value stays
    let status := if given.any (·.2.any isValue) then p.scope.status else 0
    { p with scope := assigned }.done status
  | name :: args =>
    let name := Utf8.decodeLossy name
    let blanks := match assigned.value? "IFS" with
      | some chosen => usualBlanks.filter chosen.contains
      | none => usualBlanks
    if name = "exec" then
      let p := redirects.foldl redirect p
      match args with
      | [] => p.done 0
      | program :: rest =>
        -- the rest of the script is not carried out any more
        let p : Process := { p with frames := innerEnd p.frames, traps := ignoring p.traps }
        p.callWith now blanks (Utf8.decodeLossy program) rest
    else if redirects.isEmpty then p.callWith now blanks name args
    else
      let saved := p.descriptors
      (redirects.foldl redirect (p.push [.descriptors saved])).callWith now blanks name args
where
  isValue : Script.Piece → Bool
    | .value .. => true
    | _ => false

end Process

end PaneMux
