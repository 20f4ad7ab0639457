import PaneMux.Terminal.Process
import PaneMux.Text.Path

/-!
# Panes

What a pane is, as callers see it: its kind, its state, and everything shown of it.
-/

namespace PaneMux

/-- The kind of a pane. -/
inductive PaneKind where
  | terminal
  | editor
  | fileTree
  | dashboard
  | custom (name : String)
  deriving DecidableEq, Repr

namespace PaneKind

/-- The title of a pane that is given none. -/
def defaultTitle : PaneKind → String
  | .terminal => "terminal"
  | .editor => "editor"
  | .fileTree => "files"
  | .dashboard => "dashboard"
  | .custom name => name

/-- The kind as the history stores it. -/
def label : PaneKind → String
  | .terminal => "terminal"
  | .editor => "editor"
  | .fileTree => "file_tree"
  | .dashboard => "dashboard"
  | .custom name => "custom:" ++ name

/-- The kind as JSON. -/
def toJson : PaneKind → Json
  | .custom name => .obj [("custom", .str name)]
  | kind => .str kind.label

/-- Reads a kind. -/
def decode : Decoder PaneKind :=
  Variant.external
    [("terminal", .bare .terminal), ("editor", .bare .editor), ("file_tree", .bare .fileTree),
      ("dashboard", .bare .dashboard),
      ("custom", .wrapping fun j => (Decoder.string j).map .custom)]

end PaneKind

/-- The state of a pane. -/
inductive PaneState where
  /-- a terminal whose process runs -/
  | running
  /-- a pane without a process -/
  | opened
  /-- the process ended on its own -/
  | exited (code : Option Int32)
  /-- the process ended because the pane was closed -/
  | killed (code : Option Int32)
  deriving DecidableEq, Repr

namespace PaneState

/-- The members that tell the state. -/
def members : PaneState → List (String × Json)
  | .running => [("state", .str "running")]
  | .opened => [("state", .str "open")]
  | .exited code => [("state", .str "exited"), ("exit_code", exitCodeJson code)]
  | .killed code => [("state", .str "killed"), ("exit_code", exitCodeJson code)]

/-- The state as JSON. -/
def toJson (s : PaneState) : Json := .obj s.members

/-- The states by name. -/
def variants : List (Variant PaneState) :=
  [ .unit "running" .running,
    .unit "open" .opened,
    ⟨"exited", "struct variant PaneState::Exited",
      (Record.optional "exit_code" Decoder.i32).map .exited⟩,
    ⟨"killed", "struct variant PaneState::Killed",
      (Record.optional "exit_code" Decoder.i32).map .killed⟩ ]

/-- Reads a state. -/
def decode : Decoder PaneState := Variant.tagged "state" "PaneState" variants

end PaneState

/-- What callers see of a terminal's process. -/
structure ProcessSummary where
  pid : Option Nat
  shell : String
  args : List String
  cwd : String
  spawnedAt : Time.Instant
  deriving DecidableEq, Repr

namespace ProcessSummary

/-- The part of the facts that callers see. -/
def ofInfo (p : ProcessInfo) : ProcessSummary := ⟨p.pid, p.shell, p.args, p.cwd, p.spawnedAt⟩

/-- The summary as JSON. -/
def toJson (p : ProcessSummary) : Json :=
  .obj [("pid", .opt .nat p.pid), ("shell", .str p.shell), ("args", .list .str p.args),
    ("cwd", .str p.cwd), ("spawned_at", .str p.spawnedAt.text)]

/-- Reads a summary. -/
def decode : Decoder ProcessSummary :=
  ((Record.pure ProcessSummary.mk).and (.optional "pid" Decoder.u32)
    |>.and (.field "shell" Decoder.string) |>.and (.field "args" (Decoder.list Decoder.string))
    |>.and (.field "cwd" Decoder.path)
    |>.and (.field "spawned_at" Decoder.instant)).decoder "struct ProcessSummary"

end ProcessSummary

/-- A pane as callers see it. -/
structure PaneDescriptor where
  id : Nat
  session : Nat
  kind : PaneKind
  title : String
  workingDir : Option String
  size : Geometry
  state : PaneState
  createdAt : Time.Instant
  lastActivity : Time.Instant
  /-- sorted by key -/
  metadata : List (String × String)
  process : Option ProcessSummary
  deriving DecidableEq, Repr

namespace PaneDescriptor

/-- The pane as JSON. -/
def toJson (d : PaneDescriptor) : Json :=
  .obj <|
    [("id", .nat d.id), ("session_id", .nat d.session), ("pane_type", d.kind.toJson),
      ("title", .str d.title), ("working_dir", .opt .str d.workingDir),
      ("rows", .nat d.size.rows.toNat), ("cols", .nat d.size.cols.toNat)] ++
    d.state.members ++
    [("created_at", .str d.createdAt.text), ("last_activity", .str d.lastActivity.text),
      ("metadata", stringMapJson d.metadata), ("process", .opt ProcessSummary.toJson d.process)]

/-- The fields of a pane other than those that tell its state. -/
def fields : Record (PaneState → PaneDescriptor) :=
  (Record.pure fun id session kind title dir rows cols created active metadata process state =>
      PaneDescriptor.mk id session kind title dir ⟨rows, cols⟩ state created active metadata process)
    |>.and (.field "id" Decoder.u64) |>.and (.field "session_id" Decoder.u64)
    |>.and (.field "pane_type" PaneKind.decode) |>.and (.field "title" Decoder.string)
    |>.and (.optional "working_dir" Decoder.path) |>.and (.field "rows" Decoder.u16)
    |>.and (.field "cols" Decoder.u16) |>.and (.field "created_at" Decoder.instant)
    |>.and (.field "last_activity" Decoder.instant)
    |>.and (.field "metadata" Decoder.stringMap)
    |>.and (.optional "process" ProcessSummary.decode)

/-- Reads a pane. -/
def decode : Decoder PaneDescriptor :=
  fields.decoderWith "struct PaneDescriptor" (Variant.ofMembers "state" PaneState.variants true)
    fun make state => make state

end PaneDescriptor

/-! ## Options -/

/-- What a new terminal pane may be given. -/
structure TerminalOptions where
  /-- the configured shell when absent -/
  shell : Option String := none
  args : List String := []
  cwd : Option String := none
  env : List (String × String) := []
  size : Geometry := {}
  title : Option String := none
  deriving DecidableEq, Repr

namespace TerminalOptions

/-- The options as JSON. -/
def toJson (o : TerminalOptions) : Json :=
  .obj [("shell", .opt .str o.shell), ("args", .list .str o.args), ("cwd", .opt .str o.cwd),
    ("env", stringMapJson o.env), ("rows", .nat o.size.rows.toNat),
    ("cols", .nat o.size.cols.toNat), ("title", .opt .str o.title)]

/-- The fields of the options; each may be left out. -/
def fields : Record TerminalOptions :=
  let d : TerminalOptions := {}
  (Record.pure fun shell args cwd env rows cols title =>
      TerminalOptions.mk shell args cwd env ⟨rows, cols⟩ title)
    |>.and (.withDefault "shell" Decoder.string.nullable d.shell)
    |>.and (.withDefault "args" (Decoder.list Decoder.string) d.args)
    |>.and (.withDefault "cwd" Decoder.path.nullable d.cwd)
    |>.and (.withDefault "env" Decoder.stringMap d.env)
    |>.and (.withDefault "rows" Decoder.u16 d.size.rows)
    |>.and (.withDefault "cols" Decoder.u16 d.size.cols)
    |>.and (.withDefault "title" Decoder.string.nullable d.title)

/-- Reads the options. -/
def decode : Decoder TerminalOptions := fields.decoder "struct TerminalOptions"

end TerminalOptions

/-- What a new pane without a process may be given. -/
structure PaneOptions where
  title : Option String := none
  workingDir : Option String := none
  size : Geometry := {}
  metadata : List (String × String) := []
  deriving DecidableEq, Repr

namespace PaneOptions

/-- The options as JSON. -/
def toJson (o : PaneOptions) : Json :=
  .obj [("title", .opt .str o.title), ("working_dir", .opt .str o.workingDir),
    ("rows", .nat o.size.rows.toNat), ("cols", .nat o.size.cols.toNat),
    ("metadata", stringMapJson o.metadata)]

/-- The fields of the options; each may be left out. -/
def fields : Record PaneOptions :=
  let d : PaneOptions := {}
  (Record.pure fun title dir rows cols metadata => PaneOptions.mk title dir ⟨rows, cols⟩ metadata)
    |>.and (.withDefault "title" Decoder.string.nullable d.title)
    |>.and (.withDefault "working_dir" Decoder.path.nullable d.workingDir)
    |>.and (.withDefault "rows" Decoder.u16 d.size.rows)
    |>.and (.withDefault "cols" Decoder.u16 d.size.cols)
    |>.and (.withDefault "metadata" Decoder.stringMap d.metadata)

/-- Reads the options. -/
def decode : Decoder PaneOptions := fields.decoder "struct PaneOptions"

end PaneOptions

end PaneMux
