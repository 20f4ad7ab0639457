import PaneMux.Host.Process.Builtins

/-!
# Running

A process runs by steps, each of which does what the top frame says, until it has to wait.

## Main definitions

- `Process.step` : what the top frame does
- `Process.run` : steps up to the next wait
- `Process.wake`, `Process.type`, `Process.send`, `Process.resize` : what reaches it from outside
- `Process.start` : a new process
-/

namespace PaneMux

open Script (Command)

namespace Process

/-! ## §1 Steps -/

/-- Carries out a script whose output belongs into the words of a command. -/
def gather (p : Process) (script : String) (c : Command) : Process :=
  let outer := p.descriptors
  let p : Process := { p with
    gathered := [] :: p.gathered
    frames := [.inside p.surrounding, .fill c outer] ++ p.frames }
  { p with
    descriptors := { outer with output := .gathered (p.gathered.length - 1) }
    traps := ignoring p.traps }.evaluate script []

/-- Carries out a command, whose frame has been taken off. -/
def command (now : Nat) (p : Process) : Command → Process
  | .nothing => p
  | .simple given words redirects => p.simple now given words redirects
  | .redirected c rs => rs.foldl redirect (p.push [.run c, .descriptors p.descriptors])
  | .sequence a b => p.push [.run a, .run b]
  | .andThen a b => p.push [.run a, .andThen b]
  | .orElse a b => p.push [.run a, .orElse b]
  | .negate c => p.push [.run c, .negate]
  | .pipe a b =>
    let outer := p.descriptors
    let p : Process := { p with
      gathered := [] :: p.gathered
      frames := [.run a, .inside p.surrounding, .handOn b outer] ++ p.frames }
    { p with
      descriptors := { outer with output := .gathered (p.gathered.length - 1) }
      traps := ignoring p.traps }
  | .repeat_ u c b => p.push [.run c, .tested u c b 0]
  | .forEach name words body => (p.done 0).push [.next name (p.scope.fields words) body]
  | .branch c yes no => p.push [.run c, .branched yes no]
  | .matching word patterns yes no =>
    let text := p.scope.whole word
    (p.done 0).push [.run (if patterns.any fun w => Script.Glob.covers (p.scope.pattern w) text then yes else no)]
  | .inner c =>
    { p.push [.run c, .inside p.surrounding] with traps := ignoring p.traps }

/-- The end of the script: what is to be done about it is done once. -/
def end_ (p : Process) : Process :=
  match p.trapOn none with
  | some t =>
    { p with traps := p.traps.filter (·.on ≠ none) }.evaluate t.action [.trapped p.scope.status]
  | none => { p with waiting := .ended (some p.scope.status) }

/-- What the top frame does. -/
def step (now : Nat) (p : Process) : Process :=
  match p.frames with
  | [] => p.end_
  | f :: rest =>
    let popped := { p with frames := rest }
    let status := p.scope.status
    match f with
    | .run c =>
      match c.script? with
      | some script => popped.gather script c
      | none => popped.command now c
    | .work w => p.work now w
    | .andThen c => if status = 0 then popped.push [.run c] else popped
    | .orElse c => if status = 0 then popped else popped.push [.run c]
    | .negate => popped.done (if status = 0 then 1 else 0)
    | .tested u c b last =>
      if (status = 0) ≠ u then popped.push [.run b, .again u c b] else popped.done last
    | .again u c b => popped.push [.run c, .tested u c b status]
    | .branched yes no => (popped.done 0).push [.run (if status = 0 then yes else no)]
    | .next _ [] _ => popped
    | .next name (v :: vs) body =>
      { popped with scope := popped.scope.assign name v }.push [.run body, .next name vs body]
    | .inside s => popped.restore s
    | .descriptors d => { popped with descriptors := d }
    | .handOn c d =>
      let data := ((p.gathered.headD []).reverse).flatten
      let p : Process := { popped with gathered := p.gathered.drop 1 }
      let p := p.push [.run c, .inside p.surrounding]
      { p with descriptors := { d with input := .bytes data }, traps := ignoring p.traps }
    | .fill c d =>
      let data := (p.gathered.headD []).reverse.flatten
      -- the ends of lines that it ends with do not belong to it
      let data := (data.reverse.dropWhile (· = newline)).reverse
      { popped with gathered := p.gathered.drop 1, descriptors := d }.push [.run (c.fill data)]
    | .trapped status => popped.done status
    | .prompt => (popped.say [35, 32]).push [.line []]
    | .line got =>
      match p.take? 1 with
      | none => { p with waiting := .input }
      | some ([], p) => p.leave p.scope.status
      | some (b :: _, p) =>
        let p : Process := { p with frames := rest }
        if b = newline then p.evaluate (Utf8.decodeLossy got.reverse) [.prompt]
        else p.push [.line (b :: got)]

/-- The most steps that a process makes in a millisecond. -/
def stepsInOne : Nat := 5000

/-- Makes steps up to the next wait, or as many as are made in a millisecond. -/
def run (now : Nat) (p : Process) : Process := go stepsInOne p
where
  go : Nat → Process → Process
    | 0, p => if p.waiting = .nothing then { p with waiting := .time (now + 1) } else p
    | n + 1, p => if p.waiting = .nothing then go n (p.step now) else p

/-! ## §2 What comes from outside -/

/-- A process that has not ended goes on. -/
def resume (now : Nat) (p : Process) : Process :=
  match p.waiting with
  | .ended _ => p
  | _ => { p with waiting := .nothing }.run now

/-- Time has come to `now`. -/
def wake (now : Nat) (p : Process) : Process :=
  match p.waiting with
  | .time t => if t ≤ now then p.resume now else p
  | _ => p

/-- Something is typed. -/
def type (now : Nat) (p : Process) (data : Bytes) : Process :=
  let (shown, signals, tty) := p.tty.type data
  (signals.foldl signal ({ p with tty }.show_ shown)).resume now

/-- A signal is sent. -/
def send (now : Nat) (p : Process) (s : Signal) : Process := (p.signal s).resume now

/-- The terminal is resized. -/
def resize (now : Nat) (p : Process) (size : Geometry) : Process :=
  if p.tty.size = size then p
  else { p with tty := { p.tty with size } }.send now .resized

/-- A process of a program, before its first step. -/
def start (now : Nat) (p : Process) (program : String) (args : List String) : Process :=
  let name := knownName program
  let bytes := args.map Utf8.encode
  if name = "sh" ∨ name = "dash" ∨ name = "bash" then
    let (options, rest) := bytes.span (·.head? = some 45)
    let fail (text : String) : Process := (p.complain (program ++ ": 0: " ++ text)).leave 2
    match options.any (·.contains 99), rest with
    | true, text :: rest =>
      let scope := { p.scope with name := rest.headD (Utf8.encode program), args := rest.drop 1 }
      { p with scope }.evaluate (Utf8.decodeLossy text) []
    | true, [] => fail "-c requires an argument"
    | false, [] => p.push [.prompt]
    | false, script :: _ =>
      if options.any (·.contains 115) then p.push [.prompt]
      else fail ("cannot open " ++ Utf8.decodeLossy script ++ ": No such file")
  else p.callWith now usualBlanks program bytes

/-- How it has ended, once it has. -/
def ending? (p : Process) : Option (Option Int32) :=
  match p.waiting with
  | .ended code => some (code.map Int32.ofNat)
  | _ => none

/-- Takes what has been shown. -/
def takeShown (p : Process) : Bytes × Process := (p.shown.reverse.flatten, { p with shown := [] })

end Process

end PaneMux
