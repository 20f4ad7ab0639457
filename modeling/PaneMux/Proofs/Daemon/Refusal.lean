import PaneMux.Daemon.Service
import PaneMux.Proofs.Pane.Lifecycle
import PaneMux.Proofs.Registry.Action

/-!
# Refusals

A request that is refused has changed nothing. Some operations write before they know whether they
succeed, and none can be taken back as a whole: an identifier is reserved before the process it is
for is granted, and a pane is marked as active before its terminal takes the input. What is written
by then is either taken back or the time of the last activity in a pane, and this alone may be
different afterwards.

## Architecture

- **§1** `Panes.Still`, and every operation on panes that can refuse
- **§2** the same for registries, where a pane is made in one place and listed in another
- **§3** every command
- **§4** lines, and what is recorded after them
-/

namespace PaneMux

/-! ## §1 Panes -/

/-- The record of the same pane, with everything in it the same but the time of the last activity. -/
def Pane.Like (r r' : Pane) : Prop := r' = { r with lastActivity := r'.lastActivity }

namespace Panes

/-- **Nothing is different** but when something last happened in a pane: the records are those of the
    same panes in the same order, and everything else is equal. -/
def Still (p p' : Panes) : Prop :=
  ∃ records, List.Forall₂ Pane.Like p.records records ∧ p' = { p with records }

/-- An outcome leaves the panes still if it is a refusal. -/
def Spares {α : Type} (p : Panes) (outcome : Except RequestError α × Panes) : Prop :=
  ∀ e, outcome.1 = .error e → p.Still outcome.2

variable (p : Panes)

theorem still_refl : p.Still p :=
  ⟨p.records, List.forall₂_same.mpr fun _ _ => rfl, rfl⟩

theorem spares_refusal {α : Type} (e : RequestError) :
    p.Spares ((.error e, p) : Except RequestError α × Panes) := fun _ _ => p.still_refl

theorem spares_success {α : Type} (a : α) (p' : Panes) :
    p.Spares ((.ok a, p') : Except RequestError α × Panes) := fun _ he => nomatch he

theorem still_touchRecord (now : Time.Instant) (id : Nat) : p.Still (p.touchRecord now id) := by
  refine ⟨(p.touchRecord now id).records, ?_, rfl⟩
  refine List.forall₂_map_right_iff.mpr (List.forall₂_same.mpr fun r _ => ?_)
  split <;> rfl

/-- The identifier of a terminal that is not made is free again. -/
theorem spares_createTerminal (spawn : Spawner) (now : Time.Instant) (session : Nat)
    (o : TerminalOptions) : p.Spares (p.createTerminal spawn now session o) := by
  unfold createTerminal
  split
  · exact p.spares_refusal _
  · dsimp only
    split
    · rw [release_reserve]
      exact p.spares_refusal _
    · exact p.spares_success _ _

/-- Everything about a pane without a process is checked before its identifier is reserved. -/
theorem spares_createPane (now : Time.Instant) (session : Nat) (kind : PaneKind)
    (o : PaneOptions) : p.Spares (p.createPane now session kind o) := by
  unfold createPane
  split
  · exact p.spares_refusal _
  · split
    · exact p.spares_refusal _
    · exact p.spares_success _ _

theorem spares_close (uptime : Nat) (how : Teardown) (id : Nat) :
    p.Spares (p.close uptime how id) := by
  unfold close
  split
  · exact fun _ _ => p.still_refl
  · exact p.spares_success _ _

theorem spares_touch (now : Time.Instant) (id : Nat) : p.Spares (p.touch now id) := by
  unfold touch
  split
  · exact p.spares_refusal _
  · exact p.spares_success _ _

theorem spares_rename (now : Time.Instant) (id : Nat) (title : String) :
    p.Spares (p.rename now id title) := by
  unfold rename
  split
  · exact p.spares_refusal _
  · exact p.spares_success _ _

/-- A size that is taken is never refused later on, whatever becomes of it. -/
theorem spares_resize (now : Time.Moment) (how : Teardown) (id : Nat) (size : Geometry) :
    p.Spares (p.resize now how id size) := by
  unfold resize
  split
  · exact p.spares_refusal _
  · split
    · exact p.spares_refusal _
    · dsimp only
      split
      · cases how <;> exact p.spares_success _ _
      · exact p.spares_success _ _

/-- Input counts as activity, also where the process has ended and takes none. -/
theorem spares_sendInput (now : Time.Instant) (id : Nat) (data : Bytes) :
    p.Spares (p.sendInput now id data) := by
  unfold sendInput
  split
  · exact p.spares_refusal _
  · dsimp only
    split
    · exact p.spares_success _ _
    · exact fun _ _ => p.still_touchRecord now id

theorem spares_subscribe (id : Nat) : p.Spares (p.subscribe id) := by
  unfold subscribe
  split
  · exact p.spares_refusal _
  · exact p.spares_success _ _

end Panes

/-! ## §2 Registries -/

namespace Registry

/-- **Nothing is different** in a registry but when something last happened in a pane. Sessions,
    identifiers, terminals, sizes that wait, measurements, statuses and everything made known are
    equal. -/
def Still (r r' : Registry) : Prop :=
  ∃ panes, r.panes.Still panes ∧ r' = { r with panes }

/-- An outcome leaves the registry still if it is a refusal. -/
def Spares {α : Type} (r : Registry) (outcome : Except RequestError α × Registry) : Prop :=
  ∀ e, outcome.1 = .error e → r.Still outcome.2

variable {r r' : Registry}

theorem still_refl (r : Registry) : r.Still r := ⟨r.panes, r.panes.still_refl, rfl⟩

theorem spares_refusal {α : Type} (r : Registry) (e : RequestError) :
    r.Spares ((.error e, r) : Except RequestError α × Registry) := fun _ _ => r.still_refl

theorem spares_success {α : Type} (r : Registry) (a : α) (r' : Registry) :
    r.Spares ((.ok a, r') : Except RequestError α × Registry) := fun _ he => nomatch he

/-- What has been made known is equal. -/
theorem Still.events_eq (h : r.Still r') : r'.events = r.events := by
  obtain ⟨panes, ⟨records, -, rfl⟩, rfl⟩ := h
  rfl

/-- An operation on panes alone. -/
theorem spares_onPanes {α : Type} (r : Registry) {f : Panes → Except RequestError α × Panes}
    (hf : r.panes.Spares (f r.panes)) : r.Spares (r.onPanes f) :=
  fun e he => ⟨_, hf e he, rfl⟩

theorem spares_renameSession (r : Registry) (id : Nat) (name : String) :
    r.Spares (r.renameSession id name) := by
  unfold renameSession setName
  cases r.session id with
  | error e => exact r.spares_refusal e
  | ok s => exact r.spares_success _ _

theorem spares_closeSession (r : Registry) (uptime id : Nat) :
    r.Spares (r.closeSession uptime id) := by
  unfold closeSession
  split
  · exact r.spares_refusal _
  · exact r.spares_success _ _

/-- A pane whose session is there when it is made can be put into it afterwards: making it takes no
    session away. -/
theorem spares_create (r : Registry) {uptime session : Nat}
    {make : Panes → Except RequestError PaneDescriptor × Panes}
    (hspares : r.panes.Spares (make r.panes)) (hmake : r.panes.Attempts session (make r.panes)) :
    r.Spares (r.create uptime session make) := by
  unfold create
  cases hfind : r.session session with
  | error e => exact r.spares_refusal e
  | ok s =>
    cases hout : make r.panes with
    | mk outcome panes =>
      rw [hout] at hspares hmake
      cases outcome with
      | error e => exact fun _ _ => ⟨panes, hspares e rfl, rfl⟩
      | ok d =>
        have hthere : ({ r with panes } : Registry).session d.session = .ok s := by
          rw [Panes.Makes.session_eq hmake]
          exact hfind
        simp only [attach, hthere]
        exact r.spares_success _ _

theorem spares_closePane (r : Registry) (uptime : Nat) (how : Panes.Teardown) (id : Nat) :
    r.Spares (r.closePane uptime how id) := by
  have hclose := r.panes.spares_close uptime how id
  unfold closePane
  split <;> rename_i hout <;> rw [hout] at hclose
  · exact fun _ _ => ⟨_, hclose _ rfl, rfl⟩
  · exact r.spares_success _ _
  · exact r.spares_success _ _

/-- The pane is marked as active before its session is looked up. -/
theorem spares_focusPane (r : Registry) (now : Time.Instant) (id : Nat) :
    r.Spares (r.focusPane now id) := by
  unfold focusPane
  split
  · exact r.spares_refusal _
  · have htouch := r.panes.spares_touch now id
    cases hfind : r.panes.find id with
    | error e =>
      have hout : r.panes.touch now id = (.error e, r.panes) := by simp [Panes.touch, hfind]
      simp only [hout]
      exact r.spares_refusal e
    | ok record =>
      have hout : r.panes.touch now id = (.ok (), r.panes.touchRecord now id) := by
        simp [Panes.touch, hfind]
      simp only [hout, activate]
      split
      · exact fun _ _ => ⟨_, r.panes.still_touchRecord now id, rfl⟩
      · exact r.spares_success _ _

theorem spares_setAgentStatus (r : Registry) (now : Time.Moment) (key : StatusKey)
    (status : AgentStatus) : r.Spares (r.setAgentStatus now key status) := by
  unfold setAgentStatus
  split
  · exact r.spares_refusal _
  · exact r.spares_success _ _

end Registry

/-! ## §3 Commands -/

namespace Daemon

namespace Served

/-- The registry is still, and nothing else is different: neither what is stored nor the subscriptions
    of the connection. -/
def Still (s s' : Served) : Prop :=
  ∃ registry, s.daemon.registry.Still registry ∧ s' = { s with daemon := { s.daemon with registry } }

variable (s : Served)

theorem still_refl : s.Still s := ⟨s.daemon.registry, s.daemon.registry.still_refl, rfl⟩

/-- An operation of the registry is refused as a command if the registry refuses it. -/
theorem still_onRegistry {α : Type} {encode : α → Json}
    {f : Registry → Except RequestError α × Registry}
    (hf : s.daemon.registry.Spares (f s.daemon.registry)) {e : WireError}
    (he : (s.onRegistry encode f).1 = .error e) : s.Still (s.onRegistry encode f).2 := by
  refine ⟨(f s.daemon.registry).2, ?_, rfl⟩
  cases hout : (f s.daemon.registry).1 with
  | error e' => exact hf e' hout
  | ok a => simp [onRegistry, reply, hout, Except.mapError, Except.map] at he

theorem still_setSetting (key value : String) {e : WireError}
    (he : (s.setSetting key value).1 = .error e) : s.Still (s.setSetting key value).2 := by
  unfold setSetting at he ⊢
  split
  · exact s.still_refl
  · split
    · exact s.still_refl
    · simp_all

theorem still_subscribe (pane : Nat) {e : WireError} (he : (s.subscribe pane).1 = .error e) :
    s.Still (s.subscribe pane).2 := by
  have hspares : s.daemon.registry.Spares (s.daemon.registry.subscribe pane) :=
    Registry.spares_onPanes _ (Panes.spares_subscribe _ pane)
  unfold subscribe at he ⊢
  split <;> rename_i hout
  · rw [hout] at hspares
    exact ⟨_, hspares _ rfl, rfl⟩
  · simp [hout] at he

theorem still_unsubscribe (subscription : Nat) {e : WireError}
    (he : (s.unsubscribe subscription).1 = .error e) :
    s.Still (s.unsubscribe subscription).2 := by
  unfold unsubscribe at he ⊢
  split
  · simp_all
  · exact s.still_refl

/-- **A command that is refused has changed nothing.** -/
theorem still_run (m : Machine) (now : Time.Moment) (c : Command) {e : WireError}
    (he : (s.run m now c).1 = .error e) : s.Still (s.run m now c).2 := by
  cases c with
  -- reading changes nothing, whether it succeeds or not
  | listSessions | getSession | listPanes | getPane | getOutput | searchOutput | paneMetrics
  | latestMetrics | systemMetrics | getStatus | listStatuses | getSettings | sessionHistory
  | paneHistory => exact s.still_refl
  | createSession name => exact s.still_onRegistry (fun _ h => nomatch h) he
  | renameSession id name => exact s.still_onRegistry (Registry.spares_renameSession _ id name) he
  | closeSession id => exact s.still_onRegistry (Registry.spares_closeSession _ now.uptime id) he
  | createPane session kind o =>
    exact s.still_onRegistry (Registry.spares_create _ (Panes.spares_createPane _ _ _ _ _)
      (Panes.attempts_createPane _ _ _ _ _)) he
  | createTerminal session o =>
    exact s.still_onRegistry (Registry.spares_create _ (Panes.spares_createTerminal _ _ _ _ _)
      (Panes.attempts_createTerminal _ _ _ _ _)) he
  | closePane id => exact s.still_onRegistry (Registry.spares_closePane _ now.uptime .graceful id) he
  | focusPane id => exact s.still_onRegistry (Registry.spares_focusPane _ now.wall id) he
  | renamePane id title =>
    exact s.still_onRegistry (Registry.spares_onPanes _ (Panes.spares_rename _ now.wall id title)) he
  | resizePane id size =>
    exact s.still_onRegistry
      (Registry.spares_onPanes _ (Panes.spares_resize _ now .graceful id size)) he
  | sendInput id data =>
    exact s.still_onRegistry (Registry.spares_onPanes _ (Panes.spares_sendInput _ now.wall id data)) he
  | setStatus key status =>
    exact s.still_onRegistry (Registry.spares_setAgentStatus _ now key status) he
  | setSetting key value => exact s.still_setSetting key value he
  | subscribe id => exact s.still_subscribe id he
  | unsubscribe subscription => exact s.still_unsubscribe subscription he

end Served

end Daemon

/-! ## §4 Lines -/

namespace Store

/-- A write that leaves the settings as they are, if it is done. -/
def SparesSettings {α : Type} (s : Store) (r : Result (α × Store)) : Prop :=
  ∀ x, r = .ok x → x.2.settings = s.settings

variable (s : Store)

theorem SparesSettings.bind {α β : Type} {s : Store} {r : Result β} {f : β → Result (α × Store)}
    (h : ∀ b, s.SparesSettings (f b)) : s.SparesSettings (r >>= f) := by
  cases r with
  | error _ => exact fun _ hx => nomatch hx
  | ok b => exact h b

theorem SparesSettings.pure {α : Type} {s : Store} {x : α × Store}
    (h : x.2.settings = s.settings) : s.SparesSettings (pure x) :=
  fun _ hx => Except.ok.inj hx ▸ h

theorem sparesSettings_updateSession (session : Int) (f : SessionRow → SessionRow) :
    s.SparesSettings (s.updateSession session f) := by
  refine .bind fun t => ?_
  split
  · exact .pure rfl
  · exact .pure rfl

theorem settings_updatePane (t : PaneTable) (pane : Int) (p : PaneRow → Bool)
    (f : PaneRow → PaneRow) : (s.updatePane t pane p f).2.settings = s.settings := by
  unfold updatePane
  split <;> rfl

/-- A write whose result is not looked at. -/
theorem SparesSettings.getD {α : Type} {s : Store} {r : Result (α × Store)}
    (h : s.SparesSettings r) : ((r.map (·.2)).toOption.getD s).settings = s.settings := by
  cases hr : r with
  | error _ => rfl
  | ok x => exact h x hr

/-- **The recorder writes no settings.** -/
theorem settings_record (now : Time.Instant) (e : LifecycleEvent) :
    ((s.record now e).toOption.getD s).settings = s.settings := by
  cases e with
  | sessionCreated => exact SparesSettings.getD (.bind fun _ => .pure rfl)
  | sessionRenamed => exact (s.sparesSettings_updateSession _ _).getD
  | sessionClosed => exact (s.sparesSettings_updateSession _ _).getD
  | paneCreated => exact SparesSettings.getD (.bind fun _ => .pure rfl)
  | paneClosed => exact SparesSettings.getD (.bind fun t => .pure (s.settings_updatePane t _ _ _))
  | paneExited => exact SparesSettings.getD (.bind fun t => .pure (s.settings_updatePane t _ _ _))

theorem settings_recordAll (now : Time.Instant) (events : List LifecycleEvent) :
    (s.recordAll now events).settings = s.settings := by
  induction events generalizing s with
  | nil => rfl
  | cons e events ih => exact (ih _).trans (s.settings_record now e)

end Store

namespace Daemon

variable (d : Daemon)

/-- What has been recorded is not recorded again. -/
theorem store_record_of_recorded (now : Time.Instant) (h : d.recorded = d.registry.events.length) :
    (d.record now).store = d.store := by
  simp [record, h, Store.recordAll]

/-- **A refused line leaves no trace.** Whatever the daemon, the connection, the machine and the line:
    where the response is a refusal, the registry is the same but for the last activity of panes, with
    nothing made known; the subscriptions of the connection are the same; and so is the store, where
    at most what had been made known before is recorded. -/
theorem refused_without_trace (m : Machine) (now : Time.Moment) (pumps : Pumps) (line : String)
    (hrefused : (d.answer m now pumps line).1.ok = false) :
    let s := (d.answer m now pumps line).2
    d.registry.Still s.daemon.registry ∧ s.pumps = pumps ∧
      s.daemon.store.settings = d.store.settings ∧
      (s.daemon.store = d.store ∨ s.daemon.store = (d.record now.wall).store) ∧
      (d.recorded = d.registry.events.length → s.daemon.store = d.store) := by
  have hsame : d.registry.Still d.registry := d.registry.still_refl
  unfold answer at hrefused ⊢
  cases hparse : Request.parse line with
  | error refusal => exact ⟨hsame, rfl, rfl, .inl rfl, fun _ => rfl⟩
  | ok request =>
    simp only [hparse] at hrefused ⊢
    cases hdecode : Command.decode request.op request.args with
    | error e => exact ⟨hsame, rfl, rfl, .inl rfl, fun _ => rfl⟩
    | ok c =>
      simp only [hdecode] at hrefused ⊢
      cases hout : ((⟨d, pumps⟩ : Served).run m now c).1 with
      | ok result => simp [hout, Response.ofOutcome, Response.success] at hrefused
      | error e =>
        obtain ⟨registry, hstill, hrun⟩ := Served.still_run ⟨d, pumps⟩ m now c hout
        -- the same entries are in the log as before, and the same of them are recorded
        have hrecorded : (({ d with registry } : Daemon).record now.wall).store =
            (d.record now.wall).store := by
          simp [record, hstill.events_eq]
        rw [hrun]
        exact ⟨hstill, rfl, Store.settings_recordAll _ _ _, .inr hrecorded,
          fun hall => hrecorded.trans (d.store_record_of_recorded now.wall hall)⟩

/-- A terminal whose process has ended takes no input, and all that tells of the attempt is the time
    of the last activity in its pane. -/
theorem refused_without_trace_exited :
    let m : Machine :=
      { spawn := fun _ => .ok ⟨some 9, "sh", [], "/", [], ⟨0, 0⟩⟩
        probe := fun pid => .error (.gone pid)
        host := fun now => ⟨.zero, ⟨0, 0⟩, ⟨0, 0⟩, now⟩ }
    let r := (Registry.new {}).run [.createSession ⟨0, 0⟩ none,
      .createTerminal m.spawn ⟨⟨0, 0⟩, 0⟩ 1 {}, .ended ⟨⟨1, 0⟩, 1⟩ 1 (some 0)]
    let d := ({ registry := r, store := .fresh } : Daemon).record ⟨1, 0⟩
    let line := "\x7b\"id\":4,\"op\":\"send_terminal_input\",\"pane_id\":1,\"text\":\"x\"\x7d"
    let (response, s) := d.answer m ⟨⟨2, 0⟩, 2⟩ {} line
    response.error = some ⟨.processExited, "pane 1: process has exited"⟩ ∧
      r.panes.records.map (·.lastActivity) = [⟨0, 0⟩] ∧
      s.daemon.registry.panes.records.map (·.lastActivity) = [⟨2, 0⟩] ∧
      r.Still s.daemon.registry ∧ s.daemon.store = d.store := by
  intro m r d line
  have hrefused : (d.answer m ⟨⟨2, 0⟩, 2⟩ {} line).1.ok = false := by decide +kernel
  obtain ⟨hstill, -, -, -, hstore⟩ := d.refused_without_trace m ⟨⟨2, 0⟩, 2⟩ {} line hrefused
  exact ⟨by decide +kernel, by decide +kernel, by decide +kernel, hstill, hstore (by decide +kernel)⟩

end Daemon

end PaneMux
