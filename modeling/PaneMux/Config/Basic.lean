import PaneMux.Json.Decode
import PaneMux.Terminal.Scrollback

/-!
# Configuration

The tuning of a daemon. Every field has a default.
-/

namespace PaneMux

/-- The tuning of a daemon. -/
structure Config where
  scrollbackLines : Nat := 10000
  scrollbackBytes : Nat := 8388608
  /-- events a subscriber may have waiting -/
  subscriberQueue : Nat := 1024
  /-- writes that may wait for a process to read them -/
  inputQueue : Nat := 256
  /-- the time a process gets between the hang-up and the kill -/
  closeGraceMs : Nat := 2000
  /-- how long resizes of a pane must be quiet before the last one is applied -/
  resizeDebounceMs : Nat := 100
  metricsIntervalMs : Nat := 2000
  metricsHistory : Nat := 60
  /-- how long a running status is believed; without a limit when absent or zero -/
  statusExpiryMs : Option Nat := none
  /-- statuses are read off the output -/
  statusMarkers : Bool := true
  /-- the program of a terminal that names none -/
  defaultShell : Option String := none
  deriving DecidableEq, Repr, Inhabited

namespace Config

/-- The limits of a pane's scrollback. -/
def limits (c : Config) : Limits := ⟨c.scrollbackLines, c.scrollbackBytes⟩

/-- The interval between measurements, at least a millisecond. -/
def metricsInterval (c : Config) : Nat := max c.metricsIntervalMs 1

/-- The configuration as JSON. -/
def toJson (c : Config) : Json :=
  .obj
    [ ("scrollback_lines", .nat c.scrollbackLines),
      ("scrollback_bytes", .nat c.scrollbackBytes),
      ("subscriber_queue", .nat c.subscriberQueue),
      ("input_queue", .nat c.inputQueue),
      ("close_grace_ms", .nat c.closeGraceMs),
      ("resize_debounce_ms", .nat c.resizeDebounceMs),
      ("metrics_interval_ms", .nat c.metricsIntervalMs),
      ("metrics_history", .nat c.metricsHistory),
      ("status_expiry_ms", .opt .nat c.statusExpiryMs),
      ("status_markers", .bool c.statusMarkers),
      ("default_shell", .opt .str c.defaultShell) ]

/-- The fields of a configuration; each may be left out. -/
def fields : Record Config :=
  let d : Config := {}
  (Record.pure Config.mk).and (.withDefault "scrollback_lines" Decoder.usize d.scrollbackLines)
    |>.and (.withDefault "scrollback_bytes" Decoder.usize d.scrollbackBytes)
    |>.and (.withDefault "subscriber_queue" Decoder.usize d.subscriberQueue)
    |>.and (.withDefault "input_queue" Decoder.usize d.inputQueue)
    |>.and (.withDefault "close_grace_ms" Decoder.u64 d.closeGraceMs)
    |>.and (.withDefault "resize_debounce_ms" Decoder.u64 d.resizeDebounceMs)
    |>.and (.withDefault "metrics_interval_ms" Decoder.u64 d.metricsIntervalMs)
    |>.and (.withDefault "metrics_history" Decoder.usize d.metricsHistory)
    |>.and (.withDefault "status_expiry_ms" Decoder.u64.nullable d.statusExpiryMs)
    |>.and (.withDefault "status_markers" Decoder.bool d.statusMarkers)
    |>.and (.withDefault "default_shell" Decoder.string.nullable d.defaultShell)

/-- Reads a configuration. -/
def decode : Decoder Config := fields.decoder "struct OrchestratorConfig"

end Config

end PaneMux
