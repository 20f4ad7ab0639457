import PaneMux.Pane.Basic

/-!
# Sessions

A session owns panes, in the order in which they were created, and has one of them active.
-/

namespace PaneMux

/-- A session. -/
structure Session where
  id : Nat
  name : String
  createdAt : Time.Instant
  /-- in order of creation -/
  panes : List Nat
  active : Option Nat
  deriving DecidableEq, Repr

namespace Session

/-- Takes in a new pane. The first one becomes active. -/
def attach (s : Session) (pane : Nat) : Session :=
  { s with panes := s.panes ++ [pane], active := some (s.active.getD pane) }

/-- Lets go of a pane. If it was active, the newest pane left becomes so. -/
def detach (s : Session) (pane : Nat) : Session :=
  let panes := s.panes.filter (· ≠ pane)
  { s with panes, active := if s.active = some pane then panes.getLast? else s.active }

/-- The session as JSON. -/
def toJson (s : Session) : Json :=
  .obj [("id", .nat s.id), ("name", .str s.name), ("created_at", .str s.createdAt.text),
    ("panes", .list .nat s.panes), ("active_pane", .opt .nat s.active)]

/-- Reads a session. -/
def decode : Decoder Session :=
  ((Record.pure Session.mk).and (.field "id" Decoder.u64) |>.and (.field "name" Decoder.string)
    |>.and (.field "created_at" Decoder.instant)
    |>.and (.field "panes" (Decoder.list Decoder.u64))
    |>.and (.optional "active_pane" Decoder.u64)).decoder "struct SessionDescriptor"

end Session

/-- A pane that could not be closed with its session. -/
structure CloseFailure where
  pane : Nat
  code : ErrorCode
  message : String
  deriving DecidableEq, Repr

namespace CloseFailure

/-- The failure as JSON. -/
def toJson (f : CloseFailure) : Json :=
  .obj [("pane_id", .nat f.pane), ("code", f.code.toJson), ("message", .str f.message)]

/-- Reads a failure. -/
def decode : Decoder CloseFailure :=
  ((Record.pure CloseFailure.mk).and (.field "pane_id" Decoder.u64)
    |>.and (.field "code" ErrorCode.decode)
    |>.and (.field "message" Decoder.string)).decoder "struct CloseFailure"

end CloseFailure

/-- What came of closing a session; every pane is tried. -/
structure CloseReport where
  session : Nat
  closed : List Nat := []
  failed : List CloseFailure := []
  deriving DecidableEq, Repr

namespace CloseReport

/-- Nothing failed. -/
def isClean (r : CloseReport) : Bool := r.failed.isEmpty

/-- The report as JSON. -/
def toJson (r : CloseReport) : Json :=
  .obj [("session_id", .nat r.session), ("closed", .list .nat r.closed),
    ("failed", .list CloseFailure.toJson r.failed)]

/-- Reads a report. -/
def decode : Decoder CloseReport :=
  ((Record.pure CloseReport.mk).and (.field "session_id" Decoder.u64)
    |>.and (.field "closed" (Decoder.list Decoder.u64))
    |>.and (.field "failed" (Decoder.list CloseFailure.decode))).decoder "struct CloseReport"

end CloseReport

/-- A change in the life of sessions and panes. -/
inductive LifecycleEvent where
  | sessionCreated (session : Session)
  | sessionRenamed (session : Nat) (name : String)
  | sessionClosed (session : Nat)
  | paneCreated (pane : PaneDescriptor)
  | paneClosed (pane session : Nat)
  /-- the process of a pane has ended -/
  | paneExited (pane : Nat) (code : Option Int32) (killed : Bool)
  deriving DecidableEq, Repr

namespace LifecycleEvent

/-- The event as JSON. -/
def toJson : LifecycleEvent → Json
  | .sessionCreated s => .obj [("type", .str "session_created"), ("session", s.toJson)]
  | .sessionRenamed s name =>
    .obj [("type", .str "session_renamed"), ("session_id", .nat s), ("name", .str name)]
  | .sessionClosed s => .obj [("type", .str "session_closed"), ("session_id", .nat s)]
  | .paneCreated p => .obj [("type", .str "pane_created"), ("pane", p.toJson)]
  | .paneClosed p s =>
    .obj [("type", .str "pane_closed"), ("pane_id", .nat p), ("session_id", .nat s)]
  | .paneExited p code killed =>
    .obj [("type", .str "pane_exited"), ("pane_id", .nat p), ("exit_code", exitCodeJson code),
      ("killed", .bool killed)]

/-- Reads an event. -/
def decode : Decoder LifecycleEvent :=
  Variant.tagged "type" "RegistryEvent"
    [ ⟨"session_created", "struct variant RegistryEvent::SessionCreated",
        (Record.field "session" Session.decode).map .sessionCreated⟩,
      ⟨"session_renamed", "struct variant RegistryEvent::SessionRenamed",
        (Record.pure LifecycleEvent.sessionRenamed).and (.field "session_id" Decoder.u64)
          |>.and (.field "name" Decoder.string)⟩,
      ⟨"session_closed", "struct variant RegistryEvent::SessionClosed",
        (Record.field "session_id" Decoder.u64).map .sessionClosed⟩,
      ⟨"pane_created", "struct variant RegistryEvent::PaneCreated",
        (Record.field "pane" PaneDescriptor.decode).map .paneCreated⟩,
      ⟨"pane_closed", "struct variant RegistryEvent::PaneClosed",
        (Record.pure LifecycleEvent.paneClosed).and (.field "pane_id" Decoder.u64)
          |>.and (.field "session_id" Decoder.u64)⟩,
      ⟨"pane_exited", "struct variant RegistryEvent::PaneExited",
        (Record.pure LifecycleEvent.paneExited).and (.field "pane_id" Decoder.u64)
          |>.and (.optional "exit_code" Decoder.i32) |>.and (.field "killed" Decoder.bool)⟩ ]

end LifecycleEvent

end PaneMux
