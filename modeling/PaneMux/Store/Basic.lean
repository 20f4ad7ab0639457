import PaneMux.Json.Reader
import PaneMux.Json.Printer
import PaneMux.Json.Decode

/-!
# The store

What outlives the daemon: settings, and the history of sessions and panes. Identifiers and text are
kept as a table keeps them: signed 64-bit numbers and text compared by its bytes.

A table may be missing, and so may the newest column, because a store can have been written by an
older daemon; what needs them fails until the store has been brought up to date.

## Main definitions

- `Store` : the tables
- `Store.changes` : what is missing for the current version, in order
- `Store.setUp` : bring a store up to date
-/

namespace PaneMux

/-- Why the store refused. -/
inductive StoreError where
  /-- a table or a column is missing -/
  | missing (what : String)
  /-- the arguments in a row are no list of texts -/
  | badArguments (cause : DecodeError)
  deriving DecidableEq, Repr

/-- The cause in words. -/
def StoreError.message : StoreError → String
  | .missing what => "no such " ++ what
  | .badArguments cause => "Conversion error from type Text at index: 6, " ++ cause.message

/-- A session in the history. -/
structure SessionRow where
  id : Int
  session : Int
  name : String
  createdAt : String
  closedAt : Option String := none
  deriving DecidableEq, Repr

/-- A pane in the history. -/
structure PaneRow where
  id : Int
  pane : Int
  session : Int
  kind : String
  title : String
  shell : Option String
  /-- a list of texts, as JSON -/
  args : String
  cwd : Option String
  createdAt : String
  closedAt : Option String := none
  code : Option Int32 := none
  /-- read only where the table has the column -/
  killed : Bool := false
  deriving DecidableEq, Repr

/-- A table whose rows are numbered as they come. -/
structure Table (α : Type) where
  rows : List α := []
  next : Int := 1
  deriving Repr

namespace Table

/-- Adds a row, which is given its number. -/
def insert {α : Type} (t : Table α) (row : Int → α) : Int × Table α :=
  (t.next, { rows := t.rows ++ [row t.next], next := t.next + 1 })

/-- The number of rows that satisfy a condition, and the table with those rows changed. -/
def update {α : Type} (t : Table α) (p : α → Bool) (f : α → α) : Nat × Table α :=
  ((t.rows.filter p).length, { t with rows := t.rows.map fun r => if p r then f r else r })

end Table

/-- The panes in the history. -/
structure PaneTable where
  table : Table PaneRow := {}
  /-- what a new row says of whether its process was killed; absent when the table has no column that
      tells it -/
  newKilled : Option Bool := none
  deriving Repr

/-- The table has the column that tells whether a process was killed. -/
def PaneTable.hasKilled (t : PaneTable) : Bool := t.newKilled.isSome

/-- The store. -/
structure Store where
  /-- the versions it has been brought to -/
  versions : Option (List Int) := none
  /-- sorted by key -/
  settings : Option (List (String × String)) := none
  sessions : Option (Table SessionRow) := none
  panes : Option PaneTable := none
  deriving Repr

namespace Store

/-- A result of work on the store. -/
abbrev Result (α : Type) := Except StoreError α

/-! ## §1 Tables -/

/-- The settings, which have to be there. -/
def settingsTable (s : Store) : Result (List (String × String)) :=
  match s.settings with
  | some t => .ok t
  | none => .error (.missing "table: settings")

/-- The sessions, which have to be there. -/
def sessionTable (s : Store) : Result (Table SessionRow) :=
  match s.sessions with
  | some t => .ok t
  | none => .error (.missing "table: session_history")

/-- The panes, which have to be there. -/
def paneTable (s : Store) : Result PaneTable :=
  match s.panes with
  | some t => .ok t
  | none => .error (.missing "table: pane_history")

/-- The panes with the newest column. -/
def currentPaneTable (s : Store) : Result PaneTable := do
  let t ← s.paneTable
  if t.hasKilled then return t else throw (.missing "column: killed")

/-! ## §2 Bringing a store up to date -/

/-- The version the daemon works with. -/
def currentVersion : Int := 2

/-- The greatest version a store has been brought to. -/
def version (s : Store) : Result Int :=
  match s.versions with
  | some vs => .ok (vs.foldl max 0)
  | none => .error (.missing "table: schema_version")

/-- A single change to the tables. Each is done whole or not at all. -/
inductive Change where
  | createVersions
  | createSettings
  | createSessions
  | createPanes
  | addKilled
  | setVersion (version : Int)
  deriving DecidableEq, Repr

/-- Makes a change. A table that is there stays as it is. -/
def apply (s : Store) : Change → Store
  | .createVersions => { s with versions := some (s.versions.getD []) }
  | .createSettings => { s with settings := some (s.settings.getD []) }
  | .createSessions => { s with sessions := some (s.sessions.getD {}) }
  | .createPanes => { s with panes := some (s.panes.getD {}) }
  | .addKilled =>
    { s with panes := s.panes.map fun p =>
        { table := { p.table with rows := p.table.rows.map fun r => { r with killed := false } }
          newKilled := some false } }
  | .setVersion v =>
    { s with versions := s.versions.map fun vs => if vs.contains v then vs else vs ++ [v] }

/-- The tables of the first version. -/
def creation : List Change := [.createVersions, .createSettings, .createSessions, .createPanes]

/-- What leads from a version to the current one. -/
def migration (version : Int) (hasKilled : Bool) : List Change :=
  (if version < 1 then [.setVersion 1] else []) ++
    (if version < 2 then (if hasKilled then [] else [.addKilled]) ++ [.setVersion currentVersion]
      else [])

/-- What a store lacks, in the order in which it is made good. -/
def changes (s : Store) : List Change :=
  let version := (s.versions.getD []).foldl max 0
  let hasKilled := s.panes.any (·.hasKilled)
  creation ++ migration version hasKilled

/-- Brings a store up to date. What it holds stays. -/
def setUp (s : Store) : Store := s.changes.foldl apply s

/-- A new store. -/
def fresh : Store := ({} : Store).setUp

end Store

end PaneMux
