import PaneMux.Agent.Tracker
import PaneMux.Config.Basic
import PaneMux.Metrics.Sampler
import PaneMux.Session.Basic
import PaneMux.Terminal.Resize

/-!
# The table of panes

Every pane there is, with what hangs on it: its terminal, its slot for resizes, its measurements and
its status. Closing a pane takes its record away at once; its process is asked to end and may go on
to write for a while, so terminals are kept apart from the records.

## Architecture

- **§1** the record of a pane
- **§2** identifiers: reserved before a pane is made, handed back when it cannot be
- **§3** making panes
- **§4** closing panes
- **§5** changing panes
- **§6** terminals: input, output, and the end of a process
- **§7** the passing of time
-/

namespace PaneMux

/-! ## §1 Records -/

/-- The record of a pane. -/
structure Pane where
  id : Nat
  session : Nat
  kind : PaneKind
  title : String
  workingDir : Option String
  size : Geometry
  createdAt : Time.Instant
  lastActivity : Time.Instant
  metadata : List (String × String) := []
  deriving DecidableEq, Repr

/-- All panes. -/
structure Panes where
  config : Config
  /-- in order of creation -/
  records : List Pane := []
  /-- no identifier from here on has been given out -/
  nextId : Nat := 1
  /-- identifiers given out for panes that were never made -/
  abandoned : List Nat := []
  /-- the terminals of all panes, closed ones included -/
  terminals : List Terminal := []
  /-- no subscription has an identifier from here on -/
  nextSubscription : Nat := 1
  resizes : Debouncer Nat
  metrics : Sampler
  status : Tracker
  /-- every change made known so far, oldest first -/
  events : List LifecycleEvent := []
  /-- what is asked of the machine and has not been taken up -/
  requests : List HostRequest := []
  deriving Repr

/-- Why a terminal pane cannot be made like other panes. -/
def Panes.terminalNeedsProcess : String := "terminal panes are created with create_terminal"

/-- The title of a terminal that is given none: the name of its program. -/
def programName (shell : String) : String := (Path.fileName? shell).getD shell

/-- The later of two instants. -/
def Time.Instant.later (a b : Time.Instant) : Time.Instant := if a.before b then b else a

/-- Whether and how a process has ended, as the state of its pane. -/
def Terminal.state (t : Terminal) : PaneState :=
  match t.exit with
  | none => .running
  | some ⟨code, true⟩ => .killed code
  | some ⟨code, false⟩ => .exited code

/-- A pane with the terminal it has, if any, as callers see it. Output counts as activity. -/
def Pane.describe (p : Pane) (terminal : Option Terminal) : PaneDescriptor where
  id := p.id
  session := p.session
  kind := p.kind
  title := p.title
  workingDir := p.workingDir
  size := p.size
  state := terminal.elim .opened Terminal.state
  createdAt := p.createdAt
  lastActivity :=
    match terminal.bind (·.stream.lastOutput) with
    | some t => p.lastActivity.later t
    | none => p.lastActivity
  metadata := p.metadata
  process := terminal.map fun t => .ofInfo t.info

namespace Panes

/-- No panes yet. -/
def new (config : Config) : Panes where
  config
  resizes := { pause := config.resizeDebounceMs }
  metrics := .new config.metricsHistory
  status := .new (config.statusExpiryMs.filter (0 < ·)) config.statusMarkers

/-- Makes a change known. -/
def emit (p : Panes) (e : LifecycleEvent) : Panes := { p with events := p.events ++ [e] }

/-- Asks the machine for something. -/
def ask (p : Panes) (rs : List HostRequest) : Panes := { p with requests := p.requests ++ rs }

/-- The record of a pane. -/
def find? (p : Panes) (id : Nat) : Option Pane := p.records.find? (·.id = id)

/-- The record of a pane, or the complaint that there is none. -/
def find (p : Panes) (id : Nat) : Except RequestError Pane :=
  match p.find? id with
  | some r => .ok r
  | none => .error (.paneNotFound id)

/-- There is such a pane. -/
def contains (p : Panes) (id : Nat) : Bool := (p.find? id).isSome

/-- The number of panes. -/
def length (p : Panes) : Nat := p.records.length

/-- Changes the record of a pane. -/
def modify (p : Panes) (id : Nat) (f : Pane → Pane) : Panes :=
  { p with records := p.records.map fun r => if r.id = id then f r else r }

/-- The terminal of a pane, which may be closed. -/
def terminal? (p : Panes) (id : Nat) : Option Terminal := p.terminals.find? (·.pane = id)

/-- Changes the terminal of a pane. -/
def modifyTerminal (p : Panes) (id : Nat) (f : Terminal → Terminal) : Panes :=
  { p with terminals := p.terminals.map fun t => if t.pane = id then f t else t }

/-- A record as callers see it. -/
def describe (p : Panes) (r : Pane) : PaneDescriptor := r.describe (p.terminal? r.id)

/-- A pane as callers see it. -/
def get (p : Panes) (id : Nat) : Except RequestError PaneDescriptor := (p.find id).map p.describe

/-- Several panes as callers see them, those that are gone left out. -/
def describeAll (p : Panes) (ids : List Nat) : List PaneDescriptor :=
  ids.filterMap fun id => (p.get id).toOption

/-- The session of a pane. -/
def sessionOf (p : Panes) (id : Nat) : Except RequestError Nat := (p.find id).map (·.session)

/-! ## §2 Identifiers -/

/-- Gives out an identifier. -/
def reserve (p : Panes) : Nat × Panes := (p.nextId, { p with nextId := p.nextId + 1 })

/-- Takes back an identifier whose pane was never made. When others have been given out since, it
    is lost. -/
def release (p : Panes) (id : Nat) : Panes :=
  if p.nextId = id + 1 then { p with nextId := id }
  else { p with abandoned := id :: p.abandoned }

/-- A pane had this identifier once. -/
def wasIssued (p : Panes) (id : Nat) : Bool :=
  0 < id && id < p.nextId && !p.abandoned.contains id

/-! ## §3 Making panes -/

/-- Only sizes a terminal can have are taken. -/
def checkSize (size : Geometry) : Except RequestError Unit :=
  if size.IsValid then .ok () else .error (.invalidGeometry size)

/-- Puts a record into the table. -/
def insert (p : Panes) (r : Pane) : Panes := { p with records := p.records ++ [r] }

/-- What is asked of the machine for a terminal. -/
def spawnRequest (p : Panes) (o : TerminalOptions) : SpawnRequest where
  shell := o.shell.or p.config.defaultShell
  args := o.args
  cwd := o.cwd
  env := o.env
  size := o.size

/-- Puts a terminal whose process has been granted into the table. -/
def insertTerminal (p : Panes) (now : Time.Instant) (session id : Nat) (o : TerminalOptions)
    (info : ProcessInfo) : PaneDescriptor × Panes :=
  let record : Pane :=
    { id, session, kind := .terminal
      title := o.title.getD (programName info.shell)
      workingDir := some info.cwd
      size := o.size
      createdAt := now
      lastActivity := now }
  let metrics := match info.pid with
    | some pid => p.metrics.track id pid
    | none => p.metrics
  let terminal := Terminal.new id info p.config.limits p.config.subscriberQueue
  let p := { p.insert record with metrics, terminals := p.terminals ++ [terminal] }
  (p.describe record, p.ask [.start id (p.spawnRequest o)])

/-- Makes a terminal pane. When the machine refuses the process, nothing remains. -/
def createTerminal (p : Panes) (spawn : Spawner) (now : Time.Instant) (session : Nat)
    (o : TerminalOptions) : Except RequestError PaneDescriptor × Panes :=
  match checkSize o.size with
  | .error e => (.error e, p)
  | .ok () =>
    let (id, p) := p.reserve
    match spawn (p.spawnRequest o) with
    | .error e => (.error (.ofTerminal id e), p.release id)
    | .ok info =>
      let (d, p) := p.insertTerminal now session id o info
      (.ok d, p)

/-- Makes a pane without a process. -/
def createPane (p : Panes) (now : Time.Instant) (session : Nat) (kind : PaneKind)
    (o : PaneOptions) : Except RequestError PaneDescriptor × Panes :=
  if kind = .terminal then (.error (.unsupported terminalNeedsProcess), p)
  else match checkSize o.size with
    | .error e => (.error e, p)
    | .ok () =>
      let (id, p) := p.reserve
      let record : Pane :=
        { id, session, kind
          title := o.title.getD kind.defaultTitle
          workingDir := o.workingDir
          size := o.size
          createdAt := now
          lastActivity := now
          metadata := o.metadata }
      (.ok (record.describe none), p.insert record)

/-! ## §4 Closing panes -/

/-- How a process whose pane is closed is brought to its end. -/
inductive Teardown where
  /-- it is asked to, and killed after the configured time -/
  | graceful
  /-- it is killed -/
  | immediate
  deriving DecidableEq, Repr

/-- Forgets the output of a closed pane and brings its process to its end. -/
def retire (p : Panes) (uptime : Nat) (how : Teardown) (id : Nat) : Panes :=
  match p.terminal? id with
  | none => p
  | some t =>
    let t := { t with stream := t.stream.release }
    let (t, asked) := match how with
      | .graceful => t.terminate uptime p.config.closeGraceMs
      | .immediate => t.abandon
    (p.modifyTerminal id fun _ => t).ask asked

/-- Takes away the record of a pane and everything kept under its identifier. -/
def erase (p : Panes) (id : Nat) : Panes :=
  { p with
    records := p.records.filter (·.id ≠ id)
    resizes := p.resizes.forget id
    metrics := p.metrics.untrack id
    status := (p.status.remove (.pane id)).2 }

/-- Closes a pane and tells which session it belonged to. Closing it again does nothing; an
    identifier that no pane ever had is refused. -/
def close (p : Panes) (uptime : Nat) (how : Teardown) (id : Nat) :
    Except RequestError (Option Nat) × Panes :=
  match p.find? id with
  | none => (if p.wasIssued id then .ok none else .error (.paneNotFound id), p)
  | some r =>
    let p := (p.erase id).retire uptime how id
    (.ok (some r.session), p.emit (.paneClosed id r.session))

/-! ## §5 Changing panes -/

/-- Something happens in a pane. -/
def touchRecord (p : Panes) (now : Time.Instant) (id : Nat) : Panes :=
  p.modify id fun r => { r with lastActivity := now }

/-- Something happens in a pane, which there has to be. -/
def touch (p : Panes) (now : Time.Instant) (id : Nat) : Except RequestError Unit × Panes :=
  match p.find id with
  | .error e => (.error e, p)
  | .ok _ => (.ok (), p.touchRecord now id)

/-- Gives a pane a title. -/
def rename (p : Panes) (now : Time.Instant) (id : Nat) (title : String) :
    Except RequestError PaneDescriptor × Panes :=
  match p.find id with
  | .error e => (.error e, p)
  | .ok r =>
    let r := { r with title, lastActivity := now }
    (.ok (p.describe r), p.modify id fun _ => r)

/-- Brings a terminal to a size, and makes known what came of it. -/
def resizeTerminal : Resizer Nat Panes := fun id size p =>
  match p.terminal? id with
  | none => (false, p)
  | some t =>
    match t.resize size with
    | .ok request =>
      let p := p.modify id fun r => { r with size }
      (true, (p.modifyTerminal id fun t =>
        { t with stream := t.stream.publishResize size }).ask [request])
    | .error e =>
      (false, p.modifyTerminal id fun t =>
        { t with stream := t.stream.publishFault (.resizeFailed size.rows size.cols e.message) })

/-- Asks for a size. A running terminal gets it once requests have been quiet, or at once when
    there is nobody to wait; any other pane has it at once. -/
def resize (p : Panes) (now : Time.Moment) (how : Teardown) (id : Nat) (size : Geometry) :
    Except RequestError Unit × Panes :=
  match checkSize size with
  | .error e => (.error e, p)
  | .ok () =>
    match p.find id with
    | .error e => (.error e, p)
    | .ok r =>
      let p := p.touchRecord now.wall id
      if (p.terminal? id).any (·.isRunning) then
        match how with
        | .graceful =>
          (.ok (), { p with resizes := p.resizes.request now.uptime id id r.size size })
        | .immediate => (.ok (), (applySize resizeTerminal id r.size size p).2)
      else (.ok (), p.modify id fun r => { r with size })

/-! ## §6 Terminals -/

/-- The terminal of a pane that has one. -/
def terminal (p : Panes) (id : Nat) : Except RequestError Terminal :=
  match p.find id with
  | .error e => .error e
  | .ok _ =>
    match p.terminal? id with
    | some t => .ok t
    | none => .error (.unsupported ("pane " ++ toString id ++ " is not a terminal"))

/-- Types something into a terminal. -/
def sendInput (p : Panes) (now : Time.Instant) (id : Nat) (data : Bytes) :
    Except RequestError Unit × Panes :=
  match p.terminal id with
  | .error e => (.error e, p)
  | .ok t =>
    let p := p.touchRecord now id
    match t.send data with
    | .ok request => (.ok (), p.ask [request])
    | .error e => (.error (.ofTerminal id e), p)

/-- A new subscription to a terminal. -/
def subscribe (p : Panes) (id : Nat) : Except RequestError Nat × Panes :=
  match p.terminal id with
  | .error e => (.error e, p)
  | .ok _ =>
    let subscription := p.nextSubscription
    let p := { p with nextSubscription := subscription + 1 }
    (.ok subscription,
      p.modifyTerminal id fun t => { t with stream := t.stream.subscribe subscription })

/-- Everything that the owner of a subscription can receive now, oldest first. -/
def receive (p : Panes) (subscription : Nat) : List Event × Panes :=
  match p.terminals.find? fun t => (t.stream.subscriber? subscription).isSome with
  | none => ([], p)
  | some t =>
    let (events, stream) := t.stream.drain subscription
    (events, p.modifyTerminal t.pane fun t => { t with stream })

/-- The owner of a subscription gives it up. -/
def dropSubscription (p : Panes) (subscription : Nat) : Panes :=
  let give (t : Terminal) : Terminal :=
    { t with stream := t.stream.dropSubscription subscription }
  { p with terminals := p.terminals.map give }

/-- The last lines a terminal remembers. -/
def tail (p : Panes) (id lines : Nat) : Except RequestError Bytes :=
  (p.terminal id).map (·.stream.tailLines lines)

/-- The lines a terminal remembers that contain a text. -/
def search (p : Panes) (id : Nat) (needle : String) : Except RequestError (List LineMatch) :=
  (p.terminal id).map (·.stream.search needle)

/-- The process of a pane has written something. -/
def onOutput (p : Panes) (now : Time.Moment) (id : Nat) (data : Bytes) : Panes :=
  let p := { p with status := (p.status.scan now id data).2 }
  p.modifyTerminal id (·.output now.wall data)

/-- The process of a pane has ended, with a code or by a signal. The end is known everywhere before
    subscribers are told. -/
def onExit (p : Panes) (now : Time.Moment) (id : Nat) (code : Option Int32) : Panes :=
  match p.terminal? id with
  | none => p
  | some t =>
    if t.exit.isSome then p
    else
      let killed := t.terminating
      let status := if killed then p.status else p.status.recordExit now id code
      let p := { p with metrics := p.metrics.deactivate id, status }
      (p.emit (.paneExited id code killed)).modifyTerminal id (·.ended code)

/-! ## §7 Time -/

/-- Applies the resizes that fall due up to a time. -/
def applyResizes (p : Panes) (uptime : Nat) : Panes :=
  let (resizes, p) := p.resizes.elapse resizeTerminal uptime p
  { p with resizes }

/-- Kills the processes whose time has run out. -/
def killOverdue (p : Panes) (uptime : Nat) : Panes :=
  let expired := p.terminals.map fun t => t.expire uptime
  let rest : Panes := { p with terminals := expired.map (·.1) }
  rest.ask (expired.flatMap (·.2))

end Panes

end PaneMux
