import PaneMux.Pane.Table

/-!
# The registry

Sessions and their panes: the service behind every request. Each operation is put together from
steps that are atomic on their own, so that operations running at the same time can be told apart by
the order of their steps.

## Architecture

- **§1** sessions
- **§2** panes: made and then attached, closed and then detached
- **§3** measurements and statuses
- **§4** shutdown and the passing of time
-/

namespace PaneMux

/-- The registry. -/
structure Registry where
  /-- in the order of identifiers -/
  sessions : List Session := []
  /-- no session has an identifier from here on -/
  nextSession : Nat := 1
  panes : Panes
  /-- when panes are measured in the background -/
  sampling : Option Schedule := none
  deriving Repr

namespace Registry

/-- An empty registry. -/
def new (config : Config) : Registry := { panes := .new config }

/-- The configuration the registry runs under. -/
def config (r : Registry) : Config := r.panes.config

/-- Everything made known so far, oldest first. -/
def events (r : Registry) : List LifecycleEvent := r.panes.events

/-- Makes a change known. -/
def emit (r : Registry) (e : LifecycleEvent) : Registry := { r with panes := r.panes.emit e }

/-! ## §1 Sessions -/

/-- A session by its identifier. -/
def session? (r : Registry) (id : Nat) : Option Session := r.sessions.find? (·.id = id)

/-- A session, or the complaint that there is none. -/
def session (r : Registry) (id : Nat) : Except RequestError Session :=
  match r.session? id with
  | some s => .ok s
  | none => .error (.sessionNotFound id)

/-- Changes a session. -/
def modifySession (r : Registry) (id : Nat) (f : Session → Session) : Registry :=
  { r with sessions := r.sessions.map fun s => if s.id = id then f s else s }

/-- Opens a session. -/
def createSession (r : Registry) (now : Time.Instant) (name : Option String) :
    Session × Registry :=
  let id := r.nextSession
  let s : Session :=
    { id, name := name.getD ("session-" ++ toString id), createdAt := now, panes := [], active := none }
  (s, { r with sessions := r.sessions ++ [s], nextSession := id + 1 }.emit (.sessionCreated s))

/-- Gives a session a name, without making it known. -/
def setName (r : Registry) (id : Nat) (name : String) : Except RequestError Session × Registry :=
  match r.session id with
  | .error e => (.error e, r)
  | .ok s =>
    let s := { s with name }
    (.ok s, r.modifySession id fun _ => s)

/-- Renames a session. -/
def renameSession (r : Registry) (id : Nat) (name : String) :
    Except RequestError Session × Registry :=
  match r.setName id name with
  | (.error e, r) => (.error e, r)
  | (.ok s, r) => (.ok s, r.emit (.sessionRenamed id name))

/-- Closes the panes of a session, one after the other, and adds what came of it to a report. -/
def closePanes (uptime : Nat) : List Nat → CloseReport → Panes → CloseReport × Panes
  | [], report, p => (report, p)
  | id :: rest, report, p =>
    match p.close uptime .graceful id with
    | (.ok _, p) => closePanes uptime rest { report with closed := report.closed ++ [id] } p
    | (.error e, p) =>
      closePanes uptime rest
        { report with failed := report.failed ++ [⟨id, e.code, e.message⟩] } p

/-- Closes a session and every pane it owns. -/
def closeSession (r : Registry) (uptime id : Nat) : Except RequestError CloseReport × Registry :=
  match r.session id with
  | .error e => (.error e, r)
  | .ok s =>
    let (report, panes) := closePanes uptime s.panes { session := id } r.panes
    let r := { r with sessions := r.sessions.filter (·.id ≠ id), panes }
    (.ok report, r.emit (.sessionClosed id))

/-- The panes of a session as callers see them. -/
def listPanes (r : Registry) (id : Nat) : Except RequestError (List PaneDescriptor) :=
  (r.session id).map fun s => r.panes.describeAll s.panes

/-! ## §2 Panes -/

/-- Puts a new pane into its session; if the session is gone by now, the pane is closed again. -/
def attach (r : Registry) (uptime : Nat) (d : PaneDescriptor) :
    Except RequestError PaneDescriptor × Registry :=
  match r.session d.session with
  | .error e => (.error e, { r with panes := (r.panes.close uptime .graceful d.id).2 })
  | .ok _ =>
    (.ok d, (r.modifySession d.session (·.attach d.id)).emit (.paneCreated d))

/-- Makes a pane by some means and puts it into its session. -/
def create (r : Registry) (uptime session : Nat)
    (make : Panes → Except RequestError PaneDescriptor × Panes) :
    Except RequestError PaneDescriptor × Registry :=
  match r.session session with
  | .error e => (.error e, r)
  | .ok _ =>
    match make r.panes with
    | (.error e, panes) => (.error e, { r with panes })
    | (.ok d, panes) => { r with panes }.attach uptime d

/-- Makes a terminal pane in a session. -/
def createTerminal (r : Registry) (spawn : Spawner) (now : Time.Moment) (session : Nat)
    (o : TerminalOptions) : Except RequestError PaneDescriptor × Registry :=
  r.create now.uptime session fun p => p.createTerminal spawn now.wall session o

/-- Makes a pane without a process in a session. -/
def createPane (r : Registry) (now : Time.Moment) (session : Nat) (kind : PaneKind)
    (o : PaneOptions) : Except RequestError PaneDescriptor × Registry :=
  r.create now.uptime session fun p => p.createPane now.wall session kind o

/-- Takes a closed pane out of its session. -/
def detach (r : Registry) (session pane : Nat) : Registry :=
  r.modifySession session (·.detach pane)

/-- Closes a pane. Closing it again does nothing. -/
def closePane (r : Registry) (uptime : Nat) (how : Panes.Teardown) (id : Nat) :
    Except RequestError Unit × Registry :=
  match r.panes.close uptime how id with
  | (.error e, panes) => (.error e, { r with panes })
  | (.ok none, panes) => (.ok (), { r with panes })
  | (.ok (some session), panes) => (.ok (), { r with panes }.detach session id)

/-- Points a session at one of its panes. -/
def activate (r : Registry) (session pane : Nat) : Except RequestError Unit × Registry :=
  match r.session session with
  | .error e => (.error e, r)
  | .ok _ => (.ok (), r.modifySession session fun s => { s with active := some pane })

/-- Makes a pane the active one of its session. -/
def focusPane (r : Registry) (now : Time.Instant) (id : Nat) : Except RequestError Unit × Registry :=
  match r.panes.sessionOf id with
  | .error e => (.error e, r)
  | .ok session =>
    match r.panes.touch now id with
    | (.error e, panes) => (.error e, { r with panes })
    | (.ok (), panes) => { r with panes }.activate session id

/-- Applies an operation on panes. -/
def onPanes {α : Type} (r : Registry) (f : Panes → α × Panes) : α × Registry :=
  let (a, panes) := f r.panes
  (a, { r with panes })

/-- Gives a pane a title. -/
def renamePane (r : Registry) (now : Time.Instant) (id : Nat) (title : String) :
    Except RequestError PaneDescriptor × Registry :=
  r.onPanes fun p => p.rename now id title

/-- Asks for a size of a pane. -/
def resizePane (r : Registry) (now : Time.Moment) (how : Panes.Teardown) (id : Nat)
    (size : Geometry) : Except RequestError Unit × Registry :=
  r.onPanes fun p => p.resize now how id size

/-- Types something into a pane. -/
def sendInput (r : Registry) (now : Time.Instant) (id : Nat) (data : Bytes) :
    Except RequestError Unit × Registry :=
  r.onPanes fun p => p.sendInput now id data

/-- A new subscription to a pane. -/
def subscribe (r : Registry) (id : Nat) : Except RequestError Nat × Registry :=
  r.onPanes fun p => p.subscribe id

/-! ## §3 Measurements and statuses -/

/-- The samples of a pane. -/
def paneMetrics (r : Registry) (id : Nat) : Except RequestError (List Sample) :=
  (r.panes.find id).map fun _ => r.panes.metrics.history id

/-- The newest sample of a pane. -/
def latestMetrics (r : Registry) (id : Nat) : Except RequestError (Option Sample) :=
  (r.panes.find id).map fun _ => r.panes.metrics.latest id

/-- Statuses of panes are kept only for panes that there are. -/
def checkStatusKey (r : Registry) : StatusKey → Except RequestError Unit
  | .pane id => (r.panes.find id).map fun _ => ()
  | .path _ => .ok ()

/-- The status of a key. -/
def agentStatus (r : Registry) (uptime : Nat) (key : StatusKey) :
    Except RequestError AgentStatus :=
  (r.checkStatusKey key).map fun _ => r.panes.status.get uptime key

/-- Writes the status of a key. -/
def setAgentStatus (r : Registry) (now : Time.Moment) (key : StatusKey) (status : AgentStatus) :
    Except RequestError Unit × Registry :=
  match r.checkStatusKey key with
  | .error e => (.error e, r)
  | .ok () =>
    (.ok (), { r with panes := { r.panes with status := (r.panes.status.set now key status).2 } })

/-- Every status. -/
def agentStatuses (r : Registry) (uptime : Nat) : List StatusEntry := r.panes.status.list uptime

/-- Everything made known of statuses, oldest first. -/
def statusChanges (r : Registry) : List StatusChange := r.panes.status.changes

/-- Begins to measure panes in the background, unless that is going on already. -/
def startMetrics (r : Registry) (uptime : Nat) : Registry :=
  match r.sampling with
  | some _ => r
  | none => { r with sampling := some (.start uptime r.config.metricsInterval) }

/-- One round of measurements, of each pane at a time of its own. -/
def sample (r : Registry) (probe : Probe) (clock : Clock) : Nat × Registry :=
  r.onPanes fun p =>
    let (n, metrics) := p.metrics.round probe clock
    (n, { p with metrics })

/-- Rounds of measurements that are due. -/
def sampleDue (r : Registry) (probe : Probe) (clock : Clock) (uptime : Nat) : Registry :=
  match r.sampling with
  | none => r
  | some schedule =>
    if (schedule.due? uptime).isSome then
      { (r.sample probe clock).2 with sampling := some schedule.advance }
    else r

/-- Does what is due by now: sizes that have waited long enough, the end of processes whose time has
    run out, and a round of measurements. -/
def elapse (r : Registry) (probe : Probe) (clock : Clock) (uptime : Nat) : Registry :=
  let panes := (r.panes.applyResizes uptime).killOverdue uptime
  { r with panes }.sampleDue probe clock uptime

/-! ## §4 Shutdown -/

/-- Closes the sessions with some identifiers and gathers the reports. -/
def closeAll (uptime : Nat) : List Nat → Registry → List CloseReport × Registry
  | [], r => ([], r)
  | id :: rest, r =>
    match r.closeSession uptime id with
    | (.ok report, r) =>
      let (reports, r) := closeAll uptime rest r
      (report :: reports, r)
    | (.error _, r) => closeAll uptime rest r

/-- Stops measuring, closes every session and asks every process to end. -/
def shutdown (r : Registry) (uptime : Nat) : List CloseReport × Registry :=
  closeAll uptime (r.sessions.map (·.id)) { r with sampling := none }

/-- No process of any pane runs. -/
def isQuiet (r : Registry) : Bool := r.panes.terminals.all (!·.isRunning)

end Registry

end PaneMux
