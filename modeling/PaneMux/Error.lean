import PaneMux.Terminal.Event

/-!
# Errors

What can go wrong with a terminal and with a request on sessions and panes, the wording of each
cause, and the stable code under which a client sees it.
-/

namespace PaneMux

/-- Why an operation on a terminal failed. -/
inductive TerminalError where
  | spawnFailed (message : String)
  | inputOutput (message : String)
  | resizeFailed (message : String)
  | invalidGeometry (size : Geometry)
  | processExited
  deriving DecidableEq, Repr

/-- The cause in words. -/
def TerminalError.message : TerminalError → String
  | .spawnFailed m => "PTY spawn failed: " ++ m
  | .inputOutput m => "PTY I/O error: " ++ m
  | .resizeFailed m => "PTY resize failed: " ++ m
  | .invalidGeometry g => "invalid terminal dimensions: " ++ g.text
  | .processExited => "process has exited"

/-- Why a process could not be measured. -/
inductive ProbeError where
  | gone (pid : Nat)
  | failed (message : String)
  deriving DecidableEq, Repr

/-- The cause in words. -/
def ProbeError.message : ProbeError → String
  | .gone pid => "process " ++ toString pid ++ " is not running"
  | .failed m => "metrics probe failed: " ++ m

/-- The code under which a client sees a cause. -/
inductive ErrorCode where
  | notFound
  | spawnFailed
  | processExited
  | invalidGeometry
  | truncated
  | timeout
  | invalidRequest
  | internal
  deriving DecidableEq, Repr

namespace ErrorCode

/-- The code as it is written. -/
def text : ErrorCode → String
  | .notFound => "not_found"
  | .spawnFailed => "spawn_failed"
  | .processExited => "process_exited"
  | .invalidGeometry => "invalid_geometry"
  | .truncated => "truncated"
  | .timeout => "timeout"
  | .invalidRequest => "invalid_request"
  | .internal => "internal"

/-- Every code. -/
def all : List ErrorCode :=
  [.notFound, .spawnFailed, .processExited, .invalidGeometry, .truncated, .timeout,
    .invalidRequest, .internal]

/-- The code as JSON. -/
def toJson (c : ErrorCode) : Json := .str c.text

/-- Reads a code. -/
def decode : Decoder ErrorCode := Variant.external (all.map fun c => (c.text, .bare c))

end ErrorCode

/-- The code of a fault in a stream. -/
def StreamFault.code : StreamFault → ErrorCode
  | .truncated _ => .truncated
  | .readFailed _ | .resizeFailed .. => .internal

/-- Why a request on sessions and panes was refused. -/
inductive RequestError where
  | sessionNotFound (session : Nat)
  | paneNotFound (pane : Nat)
  | spawnFailed (message : String)
  | processExited (pane : Nat)
  | invalidGeometry (size : Geometry)
  | unsupported (message : String)
  | terminal (cause : TerminalError)
  | metrics (cause : ProbeError)
  deriving DecidableEq, Repr

namespace RequestError

/-- A terminal's failure as the failure of a request on its pane. -/
def ofTerminal (pane : Nat) : TerminalError → RequestError
  | .spawnFailed m => .spawnFailed m
  | .invalidGeometry g => .invalidGeometry g
  | .processExited => .processExited pane
  | e => .terminal e

/-- The cause in words. -/
def message : RequestError → String
  | .sessionNotFound id => "session " ++ toString id ++ " not found"
  | .paneNotFound id => "pane " ++ toString id ++ " not found"
  | .spawnFailed m => "spawn failed: " ++ m
  | .processExited id => "pane " ++ toString id ++ ": process has exited"
  | .invalidGeometry g =>
    "invalid geometry " ++ g.text ++ ": rows and cols must be between 1 and 1000"
  | .unsupported m => "unsupported: " ++ m
  | .terminal e => e.message
  | .metrics e => e.message

/-- The code of the cause. -/
def code : RequestError → ErrorCode
  | .sessionNotFound _ | .paneNotFound _ => .notFound
  | .spawnFailed _ => .spawnFailed
  | .processExited _ => .processExited
  | .invalidGeometry _ => .invalidGeometry
  | .unsupported _ => .invalidRequest
  | .terminal _ | .metrics _ => .internal

end RequestError

end PaneMux
