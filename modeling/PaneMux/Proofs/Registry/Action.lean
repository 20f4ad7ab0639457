import PaneMux.Session.Registry

/-!
# Actions on a Registry

Everything that can be done to a registry, and everything that it learns of its processes and of the
passing of time, one at a time and in any order. Times and answers of the machine come with each
action and need not fit together.
-/

namespace PaneMux

/-- What can happen to a registry. -/
inductive Registry.Act where
  | createSession (now : Time.Instant) (name : Option String)
  | renameSession (id : Nat) (name : String)
  | closeSession (uptime id : Nat)
  | createTerminal (spawn : Spawner) (now : Time.Moment) (session : Nat) (o : TerminalOptions)
  | createPane (now : Time.Moment) (session : Nat) (kind : PaneKind) (o : PaneOptions)
  | closePane (uptime : Nat) (how : Panes.Teardown) (id : Nat)
  | focusPane (now : Time.Instant) (id : Nat)
  | renamePane (now : Time.Instant) (id : Nat) (title : String)
  | resizePane (now : Time.Moment) (how : Panes.Teardown) (id : Nat) (size : Geometry)
  | sendInput (now : Time.Instant) (id : Nat) (data : Bytes)
  | subscribe (id : Nat)
  | receive (subscription : Nat)
  | dropSubscription (subscription : Nat)
  | setAgentStatus (now : Time.Moment) (key : StatusKey) (status : AgentStatus)
  | startMetrics (uptime : Nat)
  | shutdown (uptime : Nat)
  /-- the process of a pane has written something -/
  | output (now : Time.Moment) (pane : Nat) (data : Bytes)
  /-- the process of a pane has ended -/
  | ended (now : Time.Moment) (pane : Nat) (code : Option Int32)
  /-- what has been asked of the machine is taken up -/
  | handOver
  /-- time passes; each pane is measured when the clock says -/
  | elapse (probe : Probe) (clock : Clock) (uptime : Nat)

namespace Registry

/-- The registry after an action, whether it succeeds or fails. -/
def perform (r : Registry) : Act → Registry
  | .createSession now name => (r.createSession now name).2
  | .renameSession id name => (r.renameSession id name).2
  | .closeSession uptime id => (r.closeSession uptime id).2
  | .createTerminal spawn now session o => (r.createTerminal spawn now session o).2
  | .createPane now session kind o => (r.createPane now session kind o).2
  | .closePane uptime how id => (r.closePane uptime how id).2
  | .focusPane now id => (r.focusPane now id).2
  | .renamePane now id title => (r.renamePane now id title).2
  | .resizePane now how id size => (r.resizePane now how id size).2
  | .sendInput now id data => (r.sendInput now id data).2
  | .subscribe id => (r.subscribe id).2
  | .receive subscription => { r with panes := (r.panes.receive subscription).2 }
  | .dropSubscription subscription =>
    { r with panes := r.panes.dropSubscription subscription }
  | .setAgentStatus now key status => (r.setAgentStatus now key status).2
  | .startMetrics uptime => r.startMetrics uptime
  | .shutdown uptime => (r.shutdown uptime).2
  | .output now pane data => { r with panes := r.panes.onOutput now pane data }
  | .ended now pane code => { r with panes := r.panes.onExit now pane code }
  | .handOver => { r with panes := { r.panes with requests := [] } }
  | .elapse probe clock uptime => r.elapse probe clock uptime

/-- Actions one after the other. -/
def run (r : Registry) (acts : List Act) : Registry := acts.foldl perform r

@[simp] theorem run_nil (r : Registry) : r.run [] = r := rfl

@[simp] theorem run_cons (r : Registry) (act : Act) (acts : List Act) :
    r.run (act :: acts) = (r.perform act).run acts := rfl

/-- **What every action keeps, every run keeps.** -/
theorem run_induction {P : Registry → Prop} (hstep : ∀ r act, P r → P (r.perform act))
    {r : Registry} (h : P r) (acts : List Act) : P (r.run acts) := by
  induction acts generalizing r with
  | nil => exact h
  | cons act acts ih => exact ih (hstep r act h)

end Registry

end PaneMux
