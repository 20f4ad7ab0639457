import PaneMux.Json.Decode
import PaneMux.Text.Path

/-!
# Agent status

What an agent at work in a pane or a directory is doing. The status is shown to people and decides
nothing.
-/

namespace PaneMux

/-- What an agent is doing. -/
inductive AgentStatus where
  | idle
  | running
  | warning
  | error
  deriving DecidableEq, Repr

namespace AgentStatus

/-- Every status. -/
def all : List AgentStatus := [.idle, .running, .warning, .error]

/-- The word for a status. -/
def text : AgentStatus → String
  | .idle => "idle"
  | .running => "running"
  | .warning => "warning"
  | .error => "error"

/-- The status a word stands for. -/
def ofText? (word : String) : Option AgentStatus := all.find? (·.text = word)

/-- The status a word in a byte string stands for. -/
def ofBytes? (word : Bytes) : Option AgentStatus :=
  all.find? fun s => Utf8.encode s.text = word

/-- A word stands for no status. -/
structure Unknown where
  word : String
  deriving DecidableEq, Repr

/-- The cause in words. -/
def Unknown.message (u : Unknown) : String := "unknown agent status: " ++ u.word

/-- Reads a word. -/
def parse (word : String) : Except Unknown AgentStatus :=
  match ofText? word with
  | some s => .ok s
  | none => .error ⟨word⟩

/-- The status as JSON. -/
def toJson (s : AgentStatus) : Json := .str s.text

/-- Reads a status. -/
def decode : Decoder AgentStatus := Variant.external (all.map fun s => (s.text, .bare s))

end AgentStatus

/-- What a status belongs to. -/
inductive StatusKey where
  | pane (id : Nat)
  | path (path : String)
  deriving DecidableEq, Repr

namespace StatusKey

/-- Two spellings of one key. -/
def same : StatusKey → StatusKey → Bool
  | .pane a, .pane b => a == b
  | .path p, .path q => Path.same p q
  | _, _ => false

/-- The order of keys: panes by number, then paths. -/
def less : StatusKey → StatusKey → Bool
  | .pane a, .pane b => a < b
  | .pane _, .path _ => true
  | .path _, .pane _ => false
  | .path p, .path q => Path.less p q

/-- The key as JSON. -/
def toJson : StatusKey → Json
  | .pane id => .obj [("pane", .nat id)]
  | .path p => .obj [("path", .str p)]

/-- Reads a key. -/
def decode : Decoder StatusKey :=
  Variant.external
    [("pane", .wrapping fun j => (Decoder.u64 j).map .pane),
      ("path", .wrapping fun j => (Decoder.path j).map .path)]

end StatusKey

/-- The status of one key, as it is listed. -/
structure StatusEntry where
  key : StatusKey
  status : AgentStatus
  updatedAt : Time.Instant
  deriving DecidableEq, Repr

namespace StatusEntry

/-- The entry as JSON. -/
def toJson (e : StatusEntry) : Json :=
  .obj [("key", e.key.toJson), ("status", e.status.toJson), ("updated_at", .str e.updatedAt.text)]

/-- Reads an entry. -/
def decode : Decoder StatusEntry :=
  ((Record.pure StatusEntry.mk).and (.field "key" StatusKey.decode)
    |>.and (.field "status" AgentStatus.decode)
    |>.and (.field "updated_at" Decoder.instant)).decoder "struct StatusEntry"

end StatusEntry

/-- A change of the status that observers see. -/
structure StatusChange where
  key : StatusKey
  status : AgentStatus
  /-- the status shown before; none for a key that had none -/
  previous : Option AgentStatus
  deriving DecidableEq, Repr

namespace StatusChange

/-- The change as JSON. -/
def toJson (c : StatusChange) : Json :=
  .obj [("key", c.key.toJson), ("status", c.status.toJson),
    ("previous", .opt AgentStatus.toJson c.previous)]

/-- Reads a change. -/
def decode : Decoder StatusChange :=
  ((Record.pure StatusChange.mk).and (.field "key" StatusKey.decode)
    |>.and (.field "status" AgentStatus.decode)
    |>.and (.optional "previous" AgentStatus.decode)).decoder "struct StatusChange"

end StatusChange

end PaneMux
