import PaneMux.Cli.Client
import PaneMux.Cli.Invocation
import PaneMux.Daemon.Server
import PaneMux.Daemon.Socket

/-!
# Where a daemon runs

A site has the files and the variables that a daemon finds when it starts, and the stores that it leaves
behind. At most one daemon runs at a site.

## Main definitions

- `Site.start` : start a daemon
- `Site.stop` : end it with a signal
- `Site.call` : send a request to it
- `Site.run` : do what a command line asks for

## Architecture

- **§1** starting: files, the store, the socket
- **§2** ending
- **§3** calling
- **§4** command lines
-/

namespace PaneMux

open Cli (ServeOptions CallOptions Invocation UsageError Call CallError CallOutcome)

/-! ## §1 Starting -/

/-- A daemon that runs at a site. -/
structure RunningDaemon where
  server : Server
  socket : String
  /-- where its store is -/
  store : Place

/-- A site. -/
structure Site where
  surroundings : Surroundings := {}
  /-- the name of the user in paths -/
  user : String := "0"
  /-- stores, by the places of their files -/
  stores : List (Place × Store) := []
  running : Option RunningDaemon := none
  /-- the time of day at which the clock of the site was started -/
  epoch : Time.Instant
  /-- milliseconds since then -/
  uptime : Nat := 0

/-- Why a daemon does not start. -/
inductive StartError where
  | noDirectory (directory : String)
  | noStore (path : String)
  | badStore (e : StoreError)
  | notBound (e : BindError)

/-- The cause in words. -/
def StartError.message : StartError → String
  | .noDirectory d => "failed to create data directory: " ++ d
  | .noStore p => "failed to open database: " ++ p
  | .badStore _ => "failed to load settings"
  | .notBound e => e.message

namespace Site

/-- Both clocks. -/
def now (s : Site) : Time.Moment := ⟨s.epoch.plusMillis s.uptime, s.uptime⟩

/-- Changes the files. -/
def withFiles (s : Site) (files : Files) : Site :=
  { s with surroundings := { s.surroundings with files } }

/-- Keeps a store. -/
def keep (s : Site) (at_ : Place) (store : Store) : Site :=
  { s with stores := (at_, store) :: s.stores.filter (·.1 ≠ at_) }

/-- Where a daemon listens. -/
def socketPath (s : Site) (given : Option String) : String :=
  given.getD (s.surroundings.env.socketPath s.user)

/-- Where a daemon keeps its store. -/
def storePath (s : Site) (given : Option String) : String :=
  given.getD s.surroundings.env.storePath

/-- Opens the store at a path, which is made if there is none. -/
def openStore (s : Site) (path : String) : Except StartError (Place × Store × Site) :=
  match s.surroundings.files.makeParent path with
  | .error _ => .error (.noDirectory ((Path.parent? path).getD ""))
  | .ok (dir, files) =>
    match Path.fileName? path with
    | none => .error (.noStore path)
    | some name =>
      let at_ := dir ++ [name]
      match files.node? at_, s.stores.find? (·.1 = at_) with
      | none, _ => .ok (at_, {}, s.withFiles (files.put at_ .file))
      | some .file, some (_, store) => .ok (at_, store, s.withFiles files)
      | some _, _ => .error (.noStore path)

/-- Starts a daemon. What it has made before it fails stays. -/
def start (s : Site) (o : ServeOptions) : Except StartError Unit × Site :=
  match s.openStore (s.storePath o.db) with
  | .error e => (.error e, s)
  | .ok (at_, store, s) =>
    match Daemon.start store s.now with
    | .error e => (.error (.badStore e), s)
    | .ok daemon =>
      let s := s.keep at_ daemon.store
      let socket := s.socketPath o.socket
      match s.surroundings.files.bind (Utf8.encode socket) with
      | .error e => (.error (.notBound e), s)
      | .ok files =>
        let s := s.withFiles files
        let hosted : Hosted Daemon :=
          { subject := daemon
            host := { surroundings := s.surroundings }
            epoch := s.epoch
            uptime := s.uptime }
        (.ok (), { s with running := some { server := { hosted }, socket, store := at_ } })

/-- A millisecond passes, and what has happened is recorded. -/
def tick (s : Site) : Site :=
  let running := s.running.map fun r =>
    let hosted := r.server.hosted.tick
    let subject := hosted.subject.record hosted.now.wall
    { r with server := { r.server with hosted := { hosted with subject } } }
  { s with running, uptime := s.uptime + 1 }

/-! ## §2 Ending -/

/-- How long a daemon that ends waits for its processes, beyond the time that they are given. -/
def patience : Nat := 2000

/-- Closes every session and waits until the processes have ended. -/
def shutDown (s : Site) (r : RunningDaemon) : Site :=
  let (_, hosted) := r.server.hosted.act fun now d =>
    let (reports, registry) := d.registry.shutdown now.uptime
    (reports, d.withRegistry registry)
  let s : Site := { s with running := some { r with server := { hosted } } }
  let quiet (s : Site) : Option Unit × Site :=
    (if s.running.all (·.server.hosted.registry.isQuiet) then some () else none, s)
  (waitFor tick quiet (hosted.registry.config.closeGraceMs + patience) s).2.tick

/-- A daemon is gone; its store stays. -/
def leave (s : Site) : Site :=
  match s.running with
  | none => s
  | some r => { s.keep r.store r.server.hosted.subject.store with running := none }

/-- Ends a daemon with a signal: one that is killed cleans nothing up. The code it ends with is given
    back, if it has one. -/
def stop (s : Site) (signal : Signal) : Option Nat × Site :=
  match s.running with
  | none => (none, s)
  | some r =>
    if signal = .kill then (none, s.leave)
    else
      let s := (s.shutDown r).leave
      (some 0, s.withFiles (s.surroundings.files.unbind r.socket))

/-! ## §3 Calling -/

/-- A client of its own for each call. -/
def caller : Nat := 0

/-- The daemon that listens at a socket. -/
def listening? (s : Site) (socket : String) : Option RunningDaemon :=
  let files := s.surroundings.files
  let place (path : String) : Option Place := files.place? files.cwd path
  s.running.filter fun r =>
    (place socket).isSome && place socket = place r.socket &&
      (place socket).bind files.node? = some .socket

/-- Changes the server. -/
def withServer (s : Site) (server : Server) : Site :=
  { s with running := s.running.map fun r => { r with server } }

/-- Sends a line to the daemon. -/
def request (s : Site) (client : Nat) (line : String) : Option Response × Site :=
  match s.running with
  | none => (none, s)
  | some r =>
    let (response, server) := r.server.request client line
    (response, (s.withServer server).tick)

/-- Takes the events that wait for a client. -/
def receive (s : Site) (client : Nat) : List Carried × Site :=
  match s.running with
  | none => ([], s)
  | some r =>
    let (events, server) := r.server.receive client
    (events, s.withServer server)

/-- How long a call follows a subscription. -/
def followLimit : Nat := 600000

/-- Follows the events of a subscription until the end of the process. -/
def follow (s : Site) : List Carried × Site :=
  let ask : List Carried × Site → Option (List Carried) × List Carried × Site := fun (before, s) =>
    let (events, s) := s.receive caller
    let events := before ++ events
    (if events.any (·.2.isExit) then some events else none, events, s)
  let (_, events, s) := waitFor (fun t => (t.1, t.2.tick)) ask followLimit ([], s)
  (events, s)

/-- Sends a request to the daemon at a socket and shows what it says. -/
def call (s : Site) (o : CallOptions) : CallOutcome × Site :=
  match Call.ofText? o.json with
  | .error e => (.failed e, s)
  | .ok c =>
    let socket := s.socketPath o.socket
    match s.listening? socket with
    | none => (.failed (.unreachable socket), s)
    | some _ =>
      match s.request caller c.line with
      | (none, s) => (.failed .unanswered, s)
      | (some response, s) =>
        let ending := if response.ok then .ok () else .error .refused
        let (events, s) := if response.ok ∧ o.follow then s.follow else ([], s)
        let shown := .response response :: events.map fun e => .event e.1 e.2
        ({ shown, ending }, match s.running with
          | some r => s.withServer (r.server.hangUp caller)
          | none => s)

/-! ## §4 Command lines -/

/-- What has come of a command line. -/
inductive Run where
  /-- a daemon serves -/
  | serving
  | notStarted (e : StartError)
  | called (outcome : CallOutcome)
  /-- it asks for help, or is wrong -/
  | refused (e : UsageError)

/-- The status with which the program ends, if it has ended. -/
def Run.exitCode? : Run → Option Nat
  | .serving => none
  | .notStarted _ => some 1
  | .called o => some o.exitCode
  | .refused e => some e.exitCode

/-- Serves, if it can. -/
def serve (s : Site) (o : ServeOptions) : Run × Site :=
  let (r, s) := s.start o
  (match r with
    | .ok () => .serving
    | .error e => .notStarted e, s)

/-- Does what a command line asks for. -/
def run (s : Site) (words : List String) : Run × Site :=
  match Invocation.parse words with
  | .error e => (.refused e, s)
  | .ok .default => s.serve {}
  | .ok (.serve o) => s.serve o
  | .ok (.call o) =>
    let (outcome, s) := s.call o
    (.called outcome, s)

end Site

end PaneMux
