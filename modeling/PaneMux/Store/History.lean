import PaneMux.Store.Basic

/-!
# History

The rows of the history and the operations on them. Identifiers of sessions and panes begin again at
one with every start of the daemon, so each row has a number of its own, and a change goes to the
newest row of an identifier: the newest that is still open, except that an exit is noted on the
newest row of all.
-/

namespace PaneMux

/-! ## §1 What is shown -/

/-- The row as JSON. -/
def SessionRow.toJson (r : SessionRow) : Json :=
  .obj [("id", .int r.id), ("session_id", .int r.session), ("name", .str r.name),
    ("created_at", .str r.createdAt), ("closed_at", .opt .str r.closedAt)]

/-- Reads a row. -/
def SessionRow.decode : Decoder SessionRow :=
  ((Record.pure SessionRow.mk).and (.field "id" Decoder.i64)
    |>.and (.field "session_id" Decoder.i64) |>.and (.field "name" Decoder.string)
    |>.and (.field "created_at" Decoder.string)
    |>.and (.optional "closed_at" Decoder.string)).decoder "struct SessionHistory"

/-- A pane in the history, as it is shown. -/
structure PaneEntry where
  id : Int
  pane : Int
  session : Int
  kind : String
  title : String
  shell : Option String
  args : List String
  cwd : Option String
  createdAt : String
  closedAt : Option String
  code : Option Int32
  killed : Bool
  deriving DecidableEq, Repr

/-- The pane as JSON. -/
def PaneEntry.toJson (p : PaneEntry) : Json :=
  .obj [("id", .int p.id), ("pane_id", .int p.pane), ("session_id", .int p.session),
    ("pane_type", .str p.kind), ("title", .str p.title), ("shell", .opt .str p.shell),
    ("args", .list .str p.args), ("cwd", .opt .str p.cwd), ("created_at", .str p.createdAt),
    ("closed_at", .opt .str p.closedAt), ("exit_code", .opt (fun c => .int c.toInt) p.code),
    ("killed", .bool p.killed)]

/-- Reads a pane. -/
def PaneEntry.decode : Decoder PaneEntry :=
  ((Record.pure PaneEntry.mk).and (.field "id" Decoder.i64)
    |>.and (.field "pane_id" Decoder.i64) |>.and (.field "session_id" Decoder.i64)
    |>.and (.field "pane_type" Decoder.string) |>.and (.field "title" Decoder.string)
    |>.and (.optional "shell" Decoder.string)
    |>.and (.field "args" (Decoder.list Decoder.string))
    |>.and (.optional "cwd" Decoder.string) |>.and (.field "created_at" Decoder.string)
    |>.and (.optional "closed_at" Decoder.string) |>.and (.optional "exit_code" Decoder.i32)
    |>.and (.field "killed" Decoder.bool)).decoder "struct PaneHistory"

namespace Store

/-! ## §2 Writing -/

/-- The greatest number among the rows that satisfy a condition. -/
def newest {α : Type} (number : α → Int) (p : α → Bool) (rows : List α) : Option Int :=
  (rows.filter p).foldl (fun best r => some (best.elim (number r) (max (number r)))) none

/-- A new session. -/
def sessionCreated (s : Store) (session : Int) (name at_ : String) : Result (Int × Store) := do
  let t ← s.sessionTable
  let (id, t) := t.insert fun id => { id, session, name, createdAt := at_ }
  return (id, { s with sessions := some t })

/-- Changes the newest open row of a session, and tells whether there was one. -/
def updateSession (s : Store) (session : Int) (f : SessionRow → SessionRow) :
    Result (Bool × Store) := do
  let t ← s.sessionTable
  match newest (·.id) (fun r => r.session = session ∧ r.closedAt.isNone) t.rows with
  | none => return (false, s)
  | some id =>
    let (n, t) := t.update (·.id = id) f
    return (0 < n, { s with sessions := some t })

/-- A session has a new name. -/
def sessionRenamed (s : Store) (session : Int) (name : String) : Result (Bool × Store) :=
  s.updateSession session fun r => { r with name }

/-- A session has been closed. -/
def sessionClosed (s : Store) (session : Int) (at_ : String) : Result (Bool × Store) :=
  s.updateSession session fun r => { r with closedAt := some at_ }

/-- What is known of a new pane. -/
structure NewPane where
  pane : Int
  session : Int
  kind : String
  title : String
  shell : Option String
  args : List String
  cwd : Option String
  createdAt : String
  deriving DecidableEq, Repr

/-- Arguments as they are stored. -/
def argsText (args : List String) : String := (Json.list .str args).compact

/-- A new pane. -/
def paneCreated (s : Store) (p : NewPane) : Result (Int × Store) := do
  let t ← s.paneTable
  let (id, rows) := t.table.insert fun id =>
    { id
      pane := p.pane
      session := p.session
      kind := p.kind
      title := p.title
      shell := p.shell
      args := argsText p.args
      cwd := p.cwd
      createdAt := p.createdAt
      killed := t.newKilled.getD false }
  return (id, { s with panes := some { t with table := rows } })

/-- Changes the newest row of a pane that satisfies a condition, and tells whether there was one. -/
def updatePane (s : Store) (t : PaneTable) (pane : Int) (p : PaneRow → Bool)
    (f : PaneRow → PaneRow) : Bool × Store :=
  match newest (·.id) (fun r => r.pane = pane ∧ p r) t.table.rows with
  | none => (false, s)
  | some id =>
    let (n, rows) := t.table.update (·.id = id) f
    (0 < n, { s with panes := some { t with table := rows } })

/-- The process of a pane has ended. The row stays open until the pane is closed. -/
def paneExited (s : Store) (pane : Int) (code : Option Int32) (killed : Bool) :
    Result (Bool × Store) := do
  let t ← s.currentPaneTable
  return s.updatePane t pane (fun _ => true) fun r => { r with code, killed }

/-- A pane has been closed. -/
def paneClosed (s : Store) (pane : Int) (at_ : String) : Result (Bool × Store) := do
  let t ← s.paneTable
  return s.updatePane t pane (·.closedAt.isNone) fun r => { r with closedAt := some at_ }

/-- Closes every row left open by an earlier run, and tells how many they were. -/
def closeDangling (s : Store) (at_ : String) : Result (Nat × Store) := do
  let sessions ← s.sessionTable
  let panes ← s.paneTable
  let (n, sessions) := sessions.update (·.closedAt.isNone) fun r => { r with closedAt := some at_ }
  let (m, rows) := panes.table.update (·.closedAt.isNone) fun r => { r with closedAt := some at_ }
  return (n + m, { s with sessions := some sessions, panes := some { panes with table := rows } })

/-- Puts a text into the arguments of a row, and tells how many rows there were. -/
def setArgs (s : Store) (row : Int) (text : String) : Result (Nat × Store) := do
  let t ← s.paneTable
  let (n, rows) := t.table.update (·.id = row) fun r => { r with args := text }
  return (n, { s with panes := some { t with table := rows } })

/-! ## §3 Reading -/

/-- The newest sessions, newest first. -/
def listSessions (s : Store) (limit : Nat) : Result (List SessionRow) := do
  let t ← s.sessionTable
  return t.rows.reverse.take limit

/-- The arguments of a row. -/
def readArgs (text : String) : Except DecodeError (List String) :=
  match Json.parse? text with
  | some j => Decoder.list Decoder.string j
  | none => .error .syntaxError

/-- A row with its arguments read. -/
def entry (r : PaneRow) : Result PaneEntry :=
  match readArgs r.args with
  | .error e => .error (.badArguments e)
  | .ok args =>
    .ok
      { id := r.id
        pane := r.pane
        session := r.session
        kind := r.kind
        title := r.title
        shell := r.shell
        args
        cwd := r.cwd
        createdAt := r.createdAt
        closedAt := r.closedAt
        code := r.code
        killed := r.killed }

/-- The pane was created while the session of a row was open. Times compare as text. -/
def belongsTo (session : SessionRow) (r : PaneRow) : Bool :=
  r.session = session.session && session.createdAt ≤ r.createdAt &&
    session.closedAt.all (r.createdAt ≤ ·)

/-- The panes of one run of a session, named by the number of its row. -/
def listPanes (s : Store) (history : Int) : Result (List PaneEntry) := do
  let panes ← s.currentPaneTable
  let sessions ← s.sessionTable
  match sessions.rows.find? (·.id = history) with
  | none => return []
  | some session => (panes.table.rows.filter (belongsTo session)).mapM entry

end Store

end PaneMux
