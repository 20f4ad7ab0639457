import PaneMux.Metrics.Sampler
import PaneMux.Terminal.Process

/-!
# The machine

What a daemon can ask of the machine it runs on and is answered at once: whether a process is granted,
and what processes and the machine itself use.
-/

namespace PaneMux

/-- The machine a daemon runs on, as far as it gives answers. -/
structure Machine where
  /-- whether a process is granted -/
  spawn : Spawner
  /-- what a process uses -/
  probe : Probe
  /-- what the machine uses -/
  host : Time.Instant → HostMetrics

end PaneMux
