import PaneMux.Terminal.Geometry
import PaneMux.Terminal.Scrollback

/-!
# Events

What a subscriber of a pane can be told: output, faults, resizes, and at last the end of the
process. Output and the end carry the pane's sequence number.
-/

namespace PaneMux

/-- A fault reported in the stream of events. -/
inductive StreamFault where
  /-- events were lost before they could be delivered -/
  | truncated (dropped : Nat)
  | readFailed (message : String)
  | resizeFailed (rows cols : UInt16) (message : String)
  deriving DecidableEq, Repr

/-- The fault in words. -/
def StreamFault.message : StreamFault → String
  | .truncated n => toString n ++ " events were dropped before delivery"
  | .readFailed m => "read failed: " ++ m
  | .resizeFailed r c m => "resize to " ++ (Geometry.mk r c).text ++ " failed: " ++ m

/-- One event of a pane. -/
inductive Event where
  | output (chunk : Chunk)
  /-- always the last event -/
  | exit (pane seq : Nat) (code : Option Int32) (killed : Bool)
  | fault (pane : Nat) (fault : StreamFault)
  /-- a resize that has taken effect -/
  | resized (pane : Nat) (size : Geometry)
  deriving DecidableEq, Repr

/-- An event on its way to the owner of a subscription. -/
abbrev Carried := Nat × Event

namespace Event

/-- The pane an event is about. -/
def pane : Event → Nat
  | .output c => c.pane
  | .exit p _ _ _ => p
  | .fault p _ => p
  | .resized p _ => p

/-- The sequence number of an event that has one. -/
def seq? : Event → Option Nat
  | .output c => some c.seq
  | .exit _ n _ _ => some n
  | _ => none

/-- The event ends the stream. -/
def isExit : Event → Bool
  | .exit .. => true
  | _ => false

end Event

/-! ## JSON forms -/

/-- Bytes as a list of numbers. -/
def bytesJson (data : Bytes) : Json := .arr (data.map fun b => .nat b.toNat)

/-- An exit code, or null after a signal. -/
def exitCodeJson (code : Option Int32) : Json := .opt (fun c => .int c.toInt) code

/-- The members of a chunk. -/
def Chunk.members (c : Chunk) : List (String × Json) :=
  [("pane_id", .nat c.pane), ("seq", .nat c.seq), ("data", bytesJson c.data)]

/-- A chunk as JSON. -/
def Chunk.toJson (c : Chunk) : Json := .obj c.members

/-- The fields of a chunk. -/
def Chunk.fields : Record Chunk :=
  (Record.pure Chunk.mk).and (.field "pane_id" Decoder.u64)
    |>.and (.field "seq" Decoder.u64) |>.and (.field "data" Decoder.bytes)

/-- Reads a chunk. -/
def Chunk.decode : Decoder Chunk := Chunk.fields.decoder "struct OutputChunk"

/-- A fault as JSON. -/
def StreamFault.toJson : StreamFault → Json
  | .truncated n => .obj [("kind", .str "truncated"), ("dropped_chunks", .nat n)]
  | .readFailed m => .obj [("kind", .str "read_failed"), ("message", .str m)]
  | .resizeFailed r c m =>
    .obj [("kind", .str "resize_failed"), ("rows", .nat r.toNat), ("cols", .nat c.toNat),
      ("message", .str m)]

/-- Reads a fault. -/
def StreamFault.decode : Decoder StreamFault :=
  Variant.tagged "kind" "StreamError"
    [ ⟨"truncated", "struct variant StreamError::Truncated",
        (Record.field "dropped_chunks" Decoder.u64).map .truncated⟩,
      ⟨"read_failed", "struct variant StreamError::ReadFailed",
        (Record.field "message" Decoder.string).map .readFailed⟩,
      ⟨"resize_failed", "struct variant StreamError::ResizeFailed",
        (Record.pure StreamFault.resizeFailed).and (.field "rows" Decoder.u16)
          |>.and (.field "cols" Decoder.u16) |>.and (.field "message" Decoder.string)⟩ ]

/-- An event as JSON. -/
def Event.toJson : Event → Json
  | .output c => .obj (("type", .str "output") :: c.members)
  | .exit p n code killed =>
    .obj [("type", .str "exit"), ("pane_id", .nat p), ("seq", .nat n),
      ("exit_code", exitCodeJson code), ("killed", .bool killed)]
  | .fault p f => .obj [("type", .str "error"), ("pane_id", .nat p), ("error", f.toJson)]
  | .resized p g =>
    .obj [("type", .str "state"), ("pane_id", .nat p), ("rows", .nat g.rows.toNat),
      ("cols", .nat g.cols.toNat)]

/-- Reads an event. -/
def Event.decode : Decoder Event :=
  Variant.tagged "type" "PaneEvent"
    [ ⟨"output", "struct OutputChunk", Chunk.fields.map .output⟩,
      ⟨"exit", "struct variant PaneEvent::Exit",
        (Record.pure Event.exit).and (.field "pane_id" Decoder.u64)
          |>.and (.field "seq" Decoder.u64) |>.and (.optional "exit_code" Decoder.i32)
          |>.and (.field "killed" Decoder.bool)⟩,
      ⟨"error", "struct variant PaneEvent::Error",
        (Record.pure Event.fault).and (.field "pane_id" Decoder.u64)
          |>.and (.field "error" StreamFault.decode)⟩,
      ⟨"state", "struct variant PaneEvent::State",
        (Record.pure fun p r c => Event.resized p ⟨r, c⟩).and (.field "pane_id" Decoder.u64)
          |>.and (.field "rows" Decoder.u16) |>.and (.field "cols" Decoder.u16)⟩ ]

/-- Limits as JSON. -/
def Limits.toJson (l : Limits) : Json :=
  .obj [("max_lines", .nat l.maxLines), ("max_bytes", .nat l.maxBytes)]

/-- Reads limits. -/
def Limits.decode : Decoder Limits :=
  ((Record.pure Limits.mk).and (.field "max_lines" Decoder.usize)
    |>.and (.field "max_bytes" Decoder.usize)).decoder "struct ScrollbackLimits"

/-- Losses as JSON. -/
def Truncation.toJson (t : Truncation) : Json :=
  .obj [("evicted_chunks", .nat t.chunks), ("evicted_bytes", .nat t.bytes),
    ("evicted_lines", .nat t.lines)]

/-- Reads losses. -/
def Truncation.decode : Decoder Truncation :=
  ((Record.pure Truncation.mk).and (.field "evicted_chunks" Decoder.u64)
    |>.and (.field "evicted_bytes" Decoder.u64)
    |>.and (.field "evicted_lines" Decoder.u64)).decoder "struct Truncation"

/-- A found line as JSON. -/
def LineMatch.toJson (m : LineMatch) : Json :=
  .obj [("line", .nat m.line), ("text", .str m.text)]

/-- Reads a found line. -/
def LineMatch.decode : Decoder LineMatch :=
  ((Record.pure LineMatch.mk).and (.field "line" Decoder.u64)
    |>.and (.field "text" Decoder.string)).decoder "struct ScrollbackMatch"

end PaneMux
