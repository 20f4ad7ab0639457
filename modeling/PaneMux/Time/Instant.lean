import PaneMux.Time.Calendar

/-!
# Instants

A moment in universal time, to the nanosecond, and the two clocks of a running daemon.
-/

namespace PaneMux.Time

/-- A moment in universal time. `nano` counts from the start of the second; it reaches past one
    full second only inside a leap second, which is kept on the second before it. -/
structure Instant where
  /-- seconds since 1970-01-01T00:00:00 -/
  second : Int
  nano : Nat
  deriving DecidableEq, Repr

namespace Instant

/-- The day of an instant, counted from 1970-01-01. -/
def days (t : Instant) : Int := t.second / 86400

/-- The second of the day of an instant. -/
def secondOfDay (t : Instant) : Nat := (t.second % 86400).toNat

/-- The calendar date of an instant. -/
def date (t : Instant) : Date := Date.ofDays t.days

/-- Strict order in time. -/
def before (a b : Instant) : Prop :=
  a.second < b.second ∨ (a.second = b.second ∧ a.nano < b.nano)

instance (a b : Instant) : Decidable (a.before b) := by unfold before; infer_instance

/-- The instant some milliseconds later. -/
def plusMillis (t : Instant) (ms : Nat) : Instant :=
  let nano := t.nano + ms % 1000 * 1000000
  ⟨t.second + ms / 1000 + nano / 1000000000, nano % 1000000000⟩

end Instant

/-- A reading of both clocks: the time of day, which stamps records, and the milliseconds the daemon
    has been up, which measure how long something took. -/
structure Moment where
  wall : Instant
  uptime : Nat
  deriving DecidableEq, Repr

end PaneMux.Time
