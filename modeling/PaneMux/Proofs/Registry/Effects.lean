import PaneMux.Proofs.Pane.Lifecycle
import PaneMux.Proofs.Registry.Action

/-!
# Effects of Actions on Panes

Much of what an action does is about sessions and about the log. To the panes it does one thing of its
own, and otherwise it closes some of them. So what is to hold between the panes before and after has to
be looked at once for the closing of a pane, and then for the operation that is the action's own; and
most of these operations leave the statuses and the numbers of subscriptions aside.

## Architecture

- **§1** operations on panes that leave statuses and the numbers of subscriptions aside
- **§2** relations that go through closings (`Panes.Through`)
- **§3** the operation of an action (`Registry.Act.operate`), and every action (`Through.perform`)
-/

namespace PaneMux

namespace Panes

/-! ## §1 What is left aside -/

/-- What has no part in most operations on panes: the statuses, and the number of the next
    subscription. -/
def aside (p : Panes) : Tracker × Nat := (p.status, p.nextSubscription)

@[simp] theorem aside_emit (p : Panes) (e : LifecycleEvent) : (p.emit e).aside = p.aside := rfl

@[simp] theorem aside_retire (p : Panes) (uptime : Nat) (how : Teardown) (id : Nat) :
    (p.retire uptime how id).aside = p.aside := by
  unfold retire
  split <;> rfl

@[simp] theorem aside_resizeTerminal (p : Panes) (id : Nat) (size : Geometry) :
    (resizeTerminal id size p).2.aside = p.aside := by
  unfold resizeTerminal
  split
  · rfl
  · split <;> rfl

@[simp] theorem aside_applySize (p : Panes) (id : Nat) (current wanted : Geometry) :
    (applySize resizeTerminal id current wanted p).2.aside = p.aside := by
  unfold applySize
  split <;> simp

theorem aside_elapse_go (until_ n : Nat) (d : Debouncer Nat) (p : Panes) :
    (Debouncer.elapse.go resizeTerminal until_ n d p).2.aside = p.aside := by
  induction n generalizing d p with
  | zero => rfl
  | succ n ih =>
    unfold Debouncer.elapse.go
    split
    · rfl
    · exact (ih _ _).trans (aside_applySize p _ _ _)

@[simp] theorem aside_applyResizes (p : Panes) (uptime : Nat) :
    (p.applyResizes uptime).aside = p.aside :=
  aside_elapse_go uptime _ p.resizes p

@[simp] theorem aside_killOverdue (p : Panes) (uptime : Nat) :
    (p.killOverdue uptime).aside = p.aside := rfl

@[simp] theorem aside_resize (p : Panes) (now : Time.Moment) (how : Teardown) (id : Nat)
    (size : Geometry) : (p.resize now how id size).2.aside = p.aside := by
  unfold resize
  split
  · rfl
  · split
    · rfl
    · dsimp only
      split
      · split
        · rfl
        · exact aside_applySize _ id _ size
      · rfl

@[simp] theorem aside_touch (p : Panes) (now : Time.Instant) (id : Nat) :
    (p.touch now id).2.aside = p.aside := by
  unfold touch
  split <;> rfl

@[simp] theorem aside_rename (p : Panes) (now : Time.Instant) (id : Nat) (title : String) :
    (p.rename now id title).2.aside = p.aside := by
  unfold rename
  split <;> rfl

@[simp] theorem aside_sendInput (p : Panes) (now : Time.Instant) (id : Nat) (data : Bytes) :
    (p.sendInput now id data).2.aside = p.aside := by
  unfold sendInput
  split
  · rfl
  · dsimp only
    split <;> rfl

@[simp] theorem aside_receive (p : Panes) (subscription : Nat) :
    (p.receive subscription).2.aside = p.aside := by
  unfold receive
  split <;> rfl

@[simp] theorem aside_createTerminal (p : Panes) (spawn : Spawner) (now : Time.Instant)
    (session : Nat) (o : TerminalOptions) :
    (p.createTerminal spawn now session o).2.aside = p.aside := by
  unfold createTerminal
  split
  · rfl
  · dsimp only
    split
    · unfold release
      split <;> rfl
    · rfl

@[simp] theorem aside_createPane (p : Panes) (now : Time.Instant) (session : Nat) (kind : PaneKind)
    (o : PaneOptions) : (p.createPane now session kind o).2.aside = p.aside := by
  unfold createPane
  split
  · rfl
  · split <;> rfl

theorem status_eq_of_aside {p p' : Panes} (h : p'.aside = p.aside) : p'.status = p.status :=
  congrArg Prod.fst h

theorem nextSubscription_eq_of_aside {p p' : Panes} (h : p'.aside = p.aside) :
    p'.nextSubscription = p.nextSubscription :=
  congrArg Prod.snd h

/-- **Closing a pane** takes away its status, and leaves the rest aside. -/
theorem aside_close {p : Panes} {id : Nat} {r : Pane} (hfind : p.find? id = some r) (uptime : Nat)
    (how : Teardown) :
    (p.close uptime how id).2.aside = ((p.status.remove (.pane id)).2, p.nextSubscription) := by
  simp only [close, hfind, aside_emit, aside_retire]
  rfl

/-! ## §2 Through closings -/

/-- **A relation that goes through**: it holds from the panes before to those after entries in the log
    and closings, however many. -/
structure Through (R : Panes → Panes → Prop) : Prop where
  refl : ∀ p, R p p
  trans : ∀ {p p' p''}, R p p' → R p' p'' → R p p''
  emit : ∀ p e, R p (p.emit e)
  close : ∀ p uptime how id, R p (p.close uptime how id).2

end Panes

/-! ## §3 Actions -/

namespace Registry

/-- **The operation on panes that is an action's own**, apart from the log and from closings. -/
def Act.operate (r : Registry) : Act → Panes
  | .createTerminal spawn now session o => (r.panes.createTerminal spawn now.wall session o).2
  | .createPane now session kind o => (r.panes.createPane now.wall session kind o).2
  | .focusPane now id => (r.panes.touch now id).2
  | .renamePane now id title => (r.panes.rename now id title).2
  | .resizePane now how id size => (r.panes.resize now how id size).2
  | .sendInput now id data => (r.panes.sendInput now id data).2
  | .subscribe id => (r.panes.subscribe id).2
  | .receive subscription => (r.panes.receive subscription).2
  | .dropSubscription subscription => r.panes.dropSubscription subscription
  | .setAgentStatus now key status => (r.setAgentStatus now key status).2.panes
  | .output now pane data => r.panes.onOutput now pane data
  | .ended now pane code => r.panes.onExit now pane code
  | .handOver => { r.panes with requests := [] }
  | .elapse probe clock uptime => (r.elapse probe clock uptime).panes
  | .createSession .. | .renameSession .. | .closeSession .. | .closePane .. | .startMetrics ..
  | .shutdown .. => r.panes

/-- Sizes, processes and measurements are looked after while time passes. -/
theorem aside_elapse (r : Registry) (probe : Probe) (clock : Clock) (uptime : Nat) :
    (r.elapse probe clock uptime).panes.aside = r.panes.aside := by
  unfold elapse sampleDue
  dsimp only
  split
  · exact r.panes.aside_applyResizes uptime
  · split <;> exact r.panes.aside_applyResizes uptime

/-- An action that subscribes to a pane or writes a status, or that may. -/
def Act.tellsAside : Act → Bool
  | .subscribe .. | .setAgentStatus .. | .output .. | .ended .. => true
  | _ => false

/-- **All other actions** have operations that leave statuses and the numbers of subscriptions aside. -/
theorem aside_operate (r : Registry) {act : Act} (hact : act.tellsAside = false) :
    (act.operate r).aside = r.panes.aside := by
  cases act with
  | subscribe _ | setAgentStatus _ _ _ | output _ _ _ | ended _ _ _ => cases hact
  | elapse probe clock uptime => exact r.aside_elapse probe clock uptime
  | _ => first | rfl | simp [Act.operate]

end Registry

namespace Panes.Through

variable {R : Panes → Panes → Prop} (hR : Through R)

include hR

theorem closePanes (uptime : Nat) (ids : List Nat) (report : CloseReport) (p : Panes) :
    R p (Registry.closePanes uptime ids report p).2 := by
  induction ids generalizing report p with
  | nil => exact hR.refl p
  | cons id ids ih =>
    have hclose := hR.close p uptime .graceful id
    unfold Registry.closePanes
    split <;> rename_i hout <;> rw [hout] at hclose <;> exact hR.trans hclose (ih _ _)

theorem closeSession (r : Registry) (uptime id : Nat) :
    R r.panes (r.closeSession uptime id).2.panes := by
  unfold Registry.closeSession
  split
  · exact hR.refl _
  · exact hR.trans (hR.closePanes uptime _ _ r.panes) (hR.emit _ _)

theorem closeAll (uptime : Nat) (ids : List Nat) (r : Registry) :
    R r.panes (Registry.closeAll uptime ids r).2.panes := by
  induction ids generalizing r with
  | nil => exact hR.refl _
  | cons id ids ih =>
    have hclose := hR.closeSession r uptime id
    unfold Registry.closeAll
    split <;> rename_i hout <;> rw [hout] at hclose <;> exact hR.trans hclose (ih _)

theorem closePane (r : Registry) (uptime : Nat) (how : Teardown) (id : Nat) :
    R r.panes (r.closePane uptime how id).2.panes := by
  have hclose := hR.close r.panes uptime how id
  unfold Registry.closePane
  split <;> rename_i hout <;> rw [hout] at hclose <;> exact hclose

/-- A pane that cannot be put into its session is closed again. -/
theorem create {r : Registry} {uptime session : Nat}
    {make : Panes → Except RequestError PaneDescriptor × Panes}
    (hmake : R r.panes (make r.panes).2) :
    R r.panes (r.create uptime session make).2.panes := by
  unfold Registry.create
  split
  · exact hR.refl _
  · split <;> rename_i hout <;> rw [hout] at hmake
    · exact hmake
    · refine hR.trans hmake ?_
      unfold Registry.attach
      split
      · exact hR.close _ uptime .graceful _
      · exact hR.emit _ _

theorem focusPane {r : Registry} {now : Time.Instant} {id : Nat}
    (htouch : R r.panes (r.panes.touch now id).2) : R r.panes (r.focusPane now id).2.panes := by
  unfold Registry.focusPane
  split
  · exact hR.refl _
  · split <;> rename_i hout <;> rw [hout] at htouch
    · exact htouch
    · unfold Registry.activate
      split <;> exact htouch

/-- **What goes through and holds for the operation of an action** holds for the action. -/
theorem perform {r : Registry} {act : Registry.Act} (hown : R r.panes (act.operate r)) :
    R r.panes (r.perform act).panes := by
  cases act with
  | createSession now name => exact hR.emit _ _
  | renameSession id name =>
    simp only [Registry.perform, Registry.renameSession, Registry.setName]
    cases r.session id with
    | error e => exact hR.refl _
    | ok s => exact hR.emit _ _
  | closeSession uptime id => exact hR.closeSession r uptime id
  | createTerminal spawn now session o => exact hR.create hown
  | createPane now session kind o => exact hR.create hown
  | closePane uptime how id => exact hR.closePane r uptime how id
  | focusPane now id => exact hR.focusPane hown
  | startMetrics uptime =>
    simp only [Registry.perform, Registry.startMetrics]
    split <;> exact hR.refl _
  | shutdown uptime => exact hR.closeAll uptime _ { r with sampling := none }
  | _ => exact hown

end Panes.Through

end PaneMux
