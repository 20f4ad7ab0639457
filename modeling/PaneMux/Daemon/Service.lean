import PaneMux.Daemon.Command
import PaneMux.Host.Machine
import PaneMux.Session.Registry
import PaneMux.Store.Recorder
import PaneMux.Store.Settings
import PaneMux.Wire.Pump

/-!
# The service

The daemon as clients see it: a registry and a store, and for each connection the subscriptions it
holds. `Daemon.answer` takes a line and gives the response.

## Architecture

- **§1** the daemon, from its start on
- **§2** commands
- **§3** lines
-/

namespace PaneMux

/-! ## §1 The daemon -/

/-- A daemon. -/
structure Daemon where
  registry : Registry
  store : Store
  /-- how many of the registry's events have been recorded -/
  recorded : Nat := 0

namespace Daemon

/-- A daemon on a store, with a configuration of its own. -/
def ofConfig (config : Config) (store : Store) : Daemon := { registry := .new config, store }

/-- A daemon that takes over a store: it is brought up to date, settings are read and completed, and
    what an earlier run left open is closed. -/
def start (store : Store) (now : Time.Moment) : Store.Result Daemon := do
  let (config, store) ← store.setUp.loadConfig
  let (_, store) ← store.closeDangling now.wall.stamp
  return { registry := (Registry.new config).startMetrics now.uptime, store }

/-- Records what has happened since the last time. -/
def record (d : Daemon) (now : Time.Instant) : Daemon :=
  { d with
    store := d.store.recordAll now (d.registry.events.drop d.recorded)
    recorded := d.registry.events.length }

/-- Changes the registry. -/
def withRegistry (d : Daemon) (registry : Registry) : Daemon := { d with registry }

end Daemon

instance : Streams Registry where
  stream? r pane := (r.panes.terminal? pane).map (·.stream)
  withStream r pane stream :=
    { r with panes := r.panes.modifyTerminal pane fun t => { t with stream } }

instance : Streams Daemon where
  stream? d pane := Streams.stream? d.registry pane
  withStream d pane stream := d.withRegistry (Streams.withStream d.registry pane stream)

namespace Daemon

/-! ## §2 Commands -/

/-- A daemon together with the subscriptions of the connection that is served. -/
structure Served where
  daemon : Daemon
  pumps : Pumps

/-- The outcome of a command: a result or a refusal, and what is left behind. -/
abbrev Outcome := Except WireError Json × Served

namespace Served

/-- An answer that changes nothing. -/
def reply {α : Type} (s : Served) (encode : α → Json) (a : Except RequestError α) : Outcome :=
  (a.mapError .ofRequest |>.map encode, s)

/-- Applies an operation of the registry. -/
def onRegistry {α : Type} (s : Served) (encode : α → Json)
    (f : Registry → Except RequestError α × Registry) : Outcome :=
  let (a, registry) := f s.daemon.registry
  ({ s with daemon := { s.daemon with registry } }).reply encode a

/-- The absence of a result. -/
def nothing (_ : Unit) : Json := .null

/-- An answer from the store. -/
def fromStore {α : Type} (s : Served) (encode : α → Json) (a : Store.Result α) : Outcome :=
  (a.mapError (fun e => ⟨.internal, "database: " ++ e.message⟩) |>.map encode, s)

/-- Stores a setting if the daemon's configuration could take it. It is used from the next start
    on. -/
def setSetting (s : Served) (key value : String) : Outcome :=
  match s.daemon.registry.config.set key value with
  | .error e => (.error (.invalidRequest e.message), s)
  | .ok _ =>
    match s.daemon.store.setSetting key (Text.trim value) with
    | .error e => s.fromStore nothing (.error e)
    | .ok store =>
      (.ok (.obj [("key", .str key), ("restart_required", .bool true)]),
        { s with daemon := { s.daemon with store } })

/-- Opens a subscription for the connection. -/
def subscribe (s : Served) (pane : Nat) : Outcome :=
  match s.daemon.registry.subscribe pane with
  | (.error e, registry) => (.error (.ofRequest e), { s with daemon := { s.daemon with registry } })
  | (.ok subscription, registry) =>
    (.ok (.obj [("subscription", .nat subscription), ("pane_id", .nat pane)]),
      { daemon := { s.daemon with registry }, pumps := s.pumps.queue pane subscription })

/-- Ends a subscription of the connection. -/
def unsubscribe (s : Served) (subscription : Nat) : Outcome :=
  match s.pumps.stop subscription s.daemon with
  | (true, pumps, daemon) => (.ok .null, { daemon, pumps })
  | (false, _, _) =>
    (.error ⟨.notFound, "subscription " ++ toString subscription ++ " not found"⟩, s)

/-- The output of a pane, as bytes and as text. -/
def outputJson (pane : Nat) (data : Bytes) : Json :=
  .obj [("pane_id", .nat pane), ("data", bytesJson data), ("text", .str (Utf8.decodeLossy data))]

/-- Carries out a command. -/
def run (s : Served) (m : Machine) (now : Time.Moment) (c : Command) : Outcome :=
  let r := s.daemon.registry
  let store := s.daemon.store
  match c with
  | .createSession name =>
    s.onRegistry Session.toJson fun r => let (a, r) := r.createSession now.wall name; (.ok a, r)
  | .listSessions => s.reply (Json.list Session.toJson) (.ok r.sessions)
  | .getSession id => s.reply Session.toJson (r.session id)
  | .renameSession id name => s.onRegistry Session.toJson (·.renameSession id name)
  | .closeSession id => s.onRegistry CloseReport.toJson (·.closeSession now.uptime id)
  | .listPanes id => s.reply (Json.list PaneDescriptor.toJson) (r.listPanes id)
  | .createPane session kind o => s.onRegistry PaneDescriptor.toJson (·.createPane now session kind o)
  | .getPane id => s.reply PaneDescriptor.toJson (r.panes.get id)
  | .closePane id => s.onRegistry nothing (·.closePane now.uptime .graceful id)
  | .focusPane id => s.onRegistry nothing (·.focusPane now.wall id)
  | .renamePane id title => s.onRegistry PaneDescriptor.toJson (·.renamePane now.wall id title)
  | .resizePane id size => s.onRegistry nothing (·.resizePane now .graceful id size)
  | .createTerminal session o =>
    s.onRegistry PaneDescriptor.toJson (·.createTerminal m.spawn now session o)
  | .sendInput id data => s.onRegistry nothing (·.sendInput now.wall id data)
  | .getOutput id lines => s.reply (outputJson id) (r.panes.tail id lines)
  | .searchOutput id needle => s.reply (Json.list LineMatch.toJson) (r.panes.search id needle)
  | .subscribe id => s.subscribe id
  | .unsubscribe id => s.unsubscribe id
  | .paneMetrics id => s.reply (Json.list Sample.toJson) (r.paneMetrics id)
  | .latestMetrics id => s.reply (Json.opt Sample.toJson) (r.latestMetrics id)
  | .systemMetrics => s.reply HostMetrics.toJson (.ok (m.host now.wall))
  | .getStatus key => s.reply AgentStatus.toJson (r.agentStatus now.uptime key)
  | .setStatus key status => s.onRegistry nothing (·.setAgentStatus now key status)
  | .listStatuses => s.reply (Json.list StatusEntry.toJson) (.ok (r.agentStatuses now.uptime))
  | .getSettings => s.fromStore stringMapJson store.allSettings
  | .setSetting key value => s.setSetting key value
  | .sessionHistory limit => s.fromStore (Json.list SessionRow.toJson) (store.listSessions limit)
  | .paneHistory id => s.fromStore (Json.list PaneEntry.toJson) (store.listPanes id)

end Served

/-! ## §3 Lines -/

/-- A line that is skipped without a response. -/
def isBlankLine (line : String) : Bool := line.toList.all Text.isBlank

/-- Answers a line. What has happened is recorded. -/
def answer (d : Daemon) (m : Machine) (now : Time.Moment) (pumps : Pumps) (line : String) :
    Response × Served :=
  match Request.parse line with
  | .error (id, e) => (.failure id e, ⟨d, pumps⟩)
  | .ok request =>
    match Command.decode request.op request.args with
    | .error e => (.failure request.id e, ⟨d, pumps⟩)
    | .ok c =>
      let (outcome, s) := (Served.mk d pumps).run m now c
      (.ofOutcome request.id outcome, { s with daemon := s.daemon.record now.wall })

end Daemon

end PaneMux
