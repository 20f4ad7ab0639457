import PaneMux.Json.Decode

/-!
# Measurements

What is measured of a pane's process and of the machine. Shares of processor time are single
precision numbers, in percent.
-/

namespace PaneMux

/-- What a process uses at a moment. -/
structure ProcessUsage where
  cpu : Binary64
  memory : Nat
  deriving DecidableEq, Repr

/-- A measurement of a pane's process. -/
structure Sample where
  pane : Nat
  pid : Nat
  cpu : Binary64
  memory : Nat
  timestamp : Time.Instant
  deriving DecidableEq, Repr

/-- How much of a store there is and how much of it is in use, in bytes. -/
structure Usage where
  total : Nat := 0
  used : Nat := 0
  deriving DecidableEq, Repr

/-- A measurement of the machine. -/
structure HostMetrics where
  cpu : Binary64
  memory : Usage
  disk : Usage
  timestamp : Time.Instant
  deriving DecidableEq, Repr

/-! ## JSON forms -/

/-- The usage as JSON. -/
def ProcessUsage.toJson (u : ProcessUsage) : Json :=
  .obj [("cpu_percent", .real u.cpu), ("memory_bytes", .nat u.memory)]

/-- Reads a usage. -/
def ProcessUsage.decode : Decoder ProcessUsage :=
  ((Record.pure ProcessUsage.mk).and (.field "cpu_percent" Decoder.single)
    |>.and (.field "memory_bytes" Decoder.u64)).decoder "struct ProcessUsage"

/-- The sample as JSON. -/
def Sample.toJson (s : Sample) : Json :=
  .obj [("pane_id", .nat s.pane), ("pid", .nat s.pid), ("cpu_percent", .real s.cpu),
    ("memory_bytes", .nat s.memory), ("timestamp", .str s.timestamp.text)]

/-- Reads a sample. -/
def Sample.decode : Decoder Sample :=
  ((Record.pure Sample.mk).and (.field "pane_id" Decoder.u64)
    |>.and (.field "pid" Decoder.u32) |>.and (.field "cpu_percent" Decoder.single)
    |>.and (.field "memory_bytes" Decoder.u64)
    |>.and (.field "timestamp" Decoder.instant)).decoder "struct MetricsSample"

/-- The usage as JSON. -/
def Usage.toJson (u : Usage) : Json := .obj [("total", .nat u.total), ("used", .nat u.used)]

/-- Reads a usage. -/
def Usage.decode : Decoder Usage :=
  ((Record.pure Usage.mk).and (.field "total" Decoder.u64)
    |>.and (.field "used" Decoder.u64)).decoder "struct Usage"

/-- The measurement as JSON. -/
def HostMetrics.toJson (h : HostMetrics) : Json :=
  .obj [("cpu_percent", .real h.cpu), ("memory", h.memory.toJson), ("disk", h.disk.toJson),
    ("timestamp", .str h.timestamp.text)]

/-- Reads a measurement. -/
def HostMetrics.decode : Decoder HostMetrics :=
  ((Record.pure HostMetrics.mk).and (.field "cpu_percent" Decoder.single)
    |>.and (.field "memory" Usage.decode) |>.and (.field "disk" Usage.decode)
    |>.and (.field "timestamp" Decoder.instant)).decoder "struct HostMetrics"

end PaneMux
