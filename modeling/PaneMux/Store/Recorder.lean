import PaneMux.Session.Basic
import PaneMux.Store.History

/-!
# The recorder

Writes what happens to sessions and panes into the history, in the order in which it happened. An
observer that falls too far behind loses the oldest events; those are not recorded.
-/

namespace PaneMux

/-- A 64-bit identifier as the store keeps it: numbers from `2^63` on wrap to negative ones. -/
def rowId (id : Nat) : Int := Int.bmod id (Nat.pow 2 64)

/-- The newest `capacity` events: what an observer with so much room still gets when nobody reads in
    between. -/
def newestEvents {α : Type} (capacity : Nat) (events : List α) : List α :=
  events.drop (events.length - capacity)

namespace Store

/-- What the history keeps of a new pane. A terminal has a program, arguments and a directory;
    another pane has at most a directory. -/
def newPane (d : PaneDescriptor) : NewPane where
  pane := rowId d.id
  session := rowId d.session
  kind := d.kind.label
  title := d.title
  shell := d.process.map (·.shell)
  args := (d.process.map (·.args)).getD []
  cwd := d.process.elim d.workingDir fun p => some p.cwd
  createdAt := d.createdAt.stamp

/-- Records an event. A close is stamped when it is recorded. -/
def record (s : Store) (now : Time.Instant) (e : LifecycleEvent) : Result Store :=
  match e with
  | .sessionCreated session =>
    (s.sessionCreated (rowId session.id) session.name session.createdAt.stamp).map (·.2)
  | .sessionRenamed session name => (s.sessionRenamed (rowId session) name).map (·.2)
  | .sessionClosed session => (s.sessionClosed (rowId session) now.stamp).map (·.2)
  | .paneCreated d => (s.paneCreated (newPane d)).map (·.2)
  | .paneClosed pane _ => (s.paneClosed (rowId pane) now.stamp).map (·.2)
  | .paneExited pane code killed => (s.paneExited (rowId pane) code killed).map (·.2)

/-- Records events in order, passing over those that cannot be recorded. -/
def recordAll (s : Store) (now : Time.Instant) (events : List LifecycleEvent) : Store :=
  events.foldl (fun s e => (s.record now e).toOption.getD s) s

end Store

end PaneMux
