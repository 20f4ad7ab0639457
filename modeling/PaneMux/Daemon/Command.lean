import PaneMux.Agent.Status
import PaneMux.Session.Basic
import PaneMux.Wire.Message

/-!
# Commands

What a client can ask for. `Command.decode` reads a command off the name and the arguments of a
request; everything that can be refused without a look at the daemon's state is refused there.
-/

namespace PaneMux

/-- What a client asks for. -/
inductive Command where
  | createSession (name : Option String)
  | listSessions
  | getSession (session : Nat)
  | renameSession (session : Nat) (name : String)
  | closeSession (session : Nat)
  | listPanes (session : Nat)
  | createPane (session : Nat) (kind : PaneKind) (options : PaneOptions)
  | getPane (pane : Nat)
  | closePane (pane : Nat)
  | focusPane (pane : Nat)
  | renamePane (pane : Nat) (title : String)
  | resizePane (pane : Nat) (size : Geometry)
  | createTerminal (session : Nat) (options : TerminalOptions)
  | sendInput (pane : Nat) (data : Bytes)
  | getOutput (pane lines : Nat)
  | searchOutput (pane : Nat) (needle : String)
  | subscribe (pane : Nat)
  | unsubscribe (subscription : Nat)
  | paneMetrics (pane : Nat)
  | latestMetrics (pane : Nat)
  | systemMetrics
  | getStatus (key : StatusKey)
  | setStatus (key : StatusKey) (status : AgentStatus)
  | listStatuses
  | getSettings
  | setSetting (key value : String)
  | sessionHistory (limit : Nat)
  | paneHistory (session : Int)
  deriving DecidableEq, Repr

namespace Command

/-- The arguments of a request. -/
abbrev Args := List (String × Json)

/-- Reads fields off the arguments. -/
def read {α : Type} (r : Record α) (args : Args) : Except WireError α :=
  (r.ofMembers args).mapError .ofDecode

/-- Reads fields off the arguments, and others off those that are left. -/
def readWith {α β : Type} (r : Record α) (others : Record β) (args : Args) :
    Except WireError (α × β) :=
  (r.decoderWith "" others.ofMembers Prod.mk (.obj args)).mapError .ofDecode

/-- The field that names a session. -/
def sessionId : Record Nat := .field "session_id" Decoder.u64

/-- The field that names a pane. -/
def paneId : Record Nat := .field "pane_id" Decoder.u64

/-- Rows and columns. -/
def size : Record Geometry :=
  (Record.pure Geometry.mk).and (.field "rows" Decoder.u16) |>.and (.field "cols" Decoder.u16)

/-- The fields that name the key of a status. -/
def keyFields : Record (Option Nat × Option String) :=
  (Record.optional "pane_id" Decoder.u64).both (.optional "path" Decoder.path)

/-- The key of a status: a pane or a path. -/
def statusKey : Option Nat × Option String → Except WireError StatusKey
  | (some pane, none) => .ok (.pane pane)
  | (none, some path) => .ok (.path path)
  | _ => .error (.invalidRequest "give exactly one of pane_id or path")

/-- The bytes to be typed: given as numbers or as text. -/
def input : Option Bytes × Option String → Except WireError Bytes
  | (some data, none) => .ok data
  | (none, some text) => .ok (Utf8.encode text)
  | (some _, some _) => .error (.invalidRequest "give either data or text, not both")
  | (none, none) => .error (.invalidRequest "missing data or text")

/-- The lines of output that are given when none are named. -/
def defaultLines : Nat := 1000

/-- The rows of history that are given when none are named. -/
def defaultLimit : Nat := 50

/-- Reads a command that only names a pane. -/
def ofPane (make : Nat → Command) (args : Args) : Except WireError Command :=
  (read paneId args).map make

/-- Reads a command that only names a session. -/
def ofSession (make : Nat → Command) (args : Args) : Except WireError Command :=
  (read sessionId args).map make

/-- Reads a command off the name and the arguments of a request. -/
def decode (op : String) (args : Args) : Except WireError Command :=
  match op with
  | "create_session" => (read (.optional "name" Decoder.string) args).map .createSession
  | "list_sessions" => .ok .listSessions
  | "get_session" => ofSession .getSession args
  | "rename_session" =>
    (read (sessionId.both (.field "name" Decoder.string)) args).map fun a => .renameSession a.1 a.2
  | "close_session" => ofSession .closeSession args
  | "list_panes" => ofSession .listPanes args
  | "create_pane" =>
    (readWith (sessionId.both (.field "pane_type" PaneKind.decode)) PaneOptions.fields args).map
      fun a => .createPane a.1.1 a.1.2 a.2
  | "get_pane" => ofPane .getPane args
  | "close_pane" => ofPane .closePane args
  | "focus_pane" => ofPane .focusPane args
  | "rename_pane" =>
    (read (paneId.both (.field "title" Decoder.string)) args).map fun a => .renamePane a.1 a.2
  | "resize_pane" => (read (paneId.both size) args).map fun a => .resizePane a.1 a.2
  | "create_terminal" =>
    (readWith sessionId TerminalOptions.fields args).map fun a => .createTerminal a.1 a.2
  | "send_terminal_input" => do
    let (pane, given) ← read (paneId.both ((Record.optional "data" (Decoder.list Decoder.u8)).both
      (.optional "text" Decoder.string))) args
    return .sendInput pane (← input given)
  | "get_pane_output" =>
    (read (paneId.both (.withDefault "max_lines" Decoder.usize defaultLines)) args).map
      fun a => .getOutput a.1 a.2
  | "search_pane_output" => do
    let (pane, needle) ← read (paneId.both (.field "needle" Decoder.string)) args
    if needle.isEmpty then throw (.invalidRequest "needle must not be empty")
    return .searchOutput pane needle
  | "subscribe" => ofPane .subscribe args
  | "unsubscribe" => (read (.field "subscription" Decoder.u64) args).map .unsubscribe
  | "get_pane_metrics" => ofPane .paneMetrics args
  | "get_latest_metrics" => ofPane .latestMetrics args
  | "get_system_metrics" => .ok .systemMetrics
  | "get_agent_status" => do return .getStatus (← statusKey (← read keyFields args))
  | "set_agent_status" => do
    let (status, given) ← readWith (.field "status" AgentStatus.decode) keyFields args
    return .setStatus (← statusKey given) status
  | "list_agent_statuses" => .ok .listStatuses
  | "get_settings" => .ok .getSettings
  | "set_setting" =>
    (read ((Record.field "key" Decoder.string).both (.field "value" Decoder.string)) args).map
      fun a => .setSetting a.1 a.2
  | "list_session_history" =>
    (read (.withDefault "limit" Decoder.usize defaultLimit) args).map .sessionHistory
  | "list_pane_history" => (read (.field "history_id" Decoder.i64) args).map .paneHistory
  | _ => .error (.invalidRequest ("unknown op: " ++ op))

end Command

end PaneMux
