import PaneMux.Host.Basic
import PaneMux.Session.Registry
import PaneMux.Time.Wait

/-!
# Running on a host

A registry, or something that holds one, together with the host that runs its processes. Requests are
taken up as soon as they have been made, and what happens on the host is known to the registry at once.
Time passes by the millisecond.

## Main definitions

- `Hosted.act` : carry out an operation, and everything that follows from it at once
- `Hosted.tick` : a millisecond passes
-/

namespace PaneMux

/-- What holds a registry. -/
class HoldsRegistry (σ : Type) where
  registry : σ → Registry
  withRegistry : σ → Registry → σ

instance : HoldsRegistry Registry where
  registry r := r
  withRegistry _ r := r

/-- Something that runs on a host. -/
structure Hosted (σ : Type) where
  subject : σ
  host : Host := {}
  /-- what the host answers; what is true of it unless something else is said -/
  answers : Host → Time.Instant → Machine := Host.machine
  /-- the time of day at which the daemon was started -/
  epoch : Time.Instant
  /-- milliseconds since then -/
  uptime : Nat := 0

namespace Hosted

variable {σ α : Type}

/-- Both clocks. -/
def now (h : Hosted σ) : Time.Moment := ⟨h.epoch.plusMillis h.uptime, h.uptime⟩

/-- What the host answers now. -/
def machine (h : Hosted σ) : Machine := h.answers h.host h.now.wall

/-- Something that happens becomes known to a registry. -/
def learn (now : Time.Moment) (r : Registry) : Happening → Registry
  | .output pane data => { r with panes := r.panes.onOutput now pane data }
  | .ended pane code => { r with panes := r.panes.onExit now pane code }

variable [HoldsRegistry σ]

/-- The registry. -/
def registry (h : Hosted σ) : Registry := HoldsRegistry.registry h.subject

/-- Changes the registry. -/
def onRegistry (h : Hosted σ) (f : Registry → Registry) : Hosted σ :=
  { h with subject := HoldsRegistry.withRegistry h.subject (f h.registry) }

/-- The host takes up what it has been asked for. -/
def handOver (h : Hosted σ) : Hosted σ :=
  let requests := h.registry.panes.requests
  { h.onRegistry fun r => { r with panes := { r.panes with requests := [] } } with
    host := requests.foldl (Host.handle h.uptime) h.host }

/-- What has happened on the host becomes known. -/
def hear (h : Hosted σ) : Hosted σ :=
  let (happenings, host) := h.host.report
  { h.onRegistry fun r => happenings.foldl (learn h.now) r with host }

/-- Requests are taken up, and what comes of them becomes known. -/
def settle (h : Hosted σ) : Hosted σ := h.handOver.hear

/-- Carries out an operation, with everything that follows from it at once. -/
def act (h : Hosted σ) (f : Time.Moment → σ → α × σ) : α × Hosted σ :=
  let (a, subject) := f h.now h.subject
  (a, { h with subject }.settle)

/-- A millisecond passes. -/
def tick (h : Hosted σ) : Hosted σ :=
  let h : Hosted σ := { h with uptime := h.uptime + 1, host := h.host.wake (h.uptime + 1) }
  let h := h.hear
  (h.onRegistry fun r => r.elapse h.machine.probe h.now.wall h.uptime).settle

/-- The longest that anything is waited for, in milliseconds. -/
def patience : Nat := 20000

/-- Lets time pass until something is true of the registry. -/
def waitUntil (h : Hosted σ) (p : Registry → Bool) : Hosted σ :=
  (waitFor tick (fun h => (if p h.registry then some () else none, h)) patience h).2

end Hosted

/-- The owner of a subscription receives what it can. -/
def Hosted.receive (h : Hosted Registry) (subscription : Nat) : List Carried × Hosted Registry :=
  let (events, panes) := h.subject.panes.receive subscription
  (events.map fun e => (subscription, e), { h with subject := { h.subject with panes } })

/-- Something is done about panes, with everything that follows from it at once. -/
def Hosted.onPanes (h : Hosted Registry) (f : Panes → Panes) : Hosted Registry :=
  (h.act fun _ r => ((), { r with panes := f r.panes })).2

/-- Lets time pass until the process of a pane has ended. -/
def Hosted.untilExit (h : Hosted Registry) (pane : Nat) : Option ProcessExit × Hosted Registry :=
  let exit? (r : Registry) : Option ProcessExit := (r.panes.terminal? pane).bind (·.exit)
  let h := h.waitUntil fun r => (exit? r).isSome
  (exit? h.subject, h)

/-- A terminal of its own, outside any session, whose events the subscription `1` receives. -/
def Hosted.ofTerminal (epoch : Time.Instant) (pane : Nat) (limits : Limits) (r : SpawnRequest) :
    Except TerminalError (Hosted Registry) := do
  let h : Hosted Registry := { subject := .new {}, epoch }
  let info ← h.machine.spawn r
  let t := Terminal.new pane info limits h.registry.config.subscriberQueue
  let t : Terminal := { t with stream := t.stream.subscribe 1 }
  return h.onPanes fun p => { p with terminals := [t], requests := [.start pane r] }

end PaneMux
