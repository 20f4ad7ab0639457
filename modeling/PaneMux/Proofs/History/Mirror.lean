import PaneMux.Daemon.Service
import PaneMux.Proofs.History.Rows

/-!
# The History Mirrors the Registry

The daemon starts again and again over one store. Every run begins by closing what was left open,
and with a registry of its own that gives out the same identifiers once more. Once the recorder has
caught up, the open rows are the sessions and panes that there are, and what has been closed in this
run has one row of this run, which is closed.

## Architecture

- **§1** one life for every identifier
- **§2** stores that can be written to (`Store.Sound`), and what is left of earlier runs
- **§3** runs of the daemon (`Daemon.afterRun_of_start`), and the lives that they tell
  (`DaemonRun.CaughtUp.tells`)
- **§4** rows and lives
- **§5** the mirror (`Store.history_mirrors_registry`)
-/

namespace PaneMux

/-! ## §1 One life for every identifier -/

namespace Life

variable {α : Type} {key : α → Nat} {xs : List (Life α)}

/-- What is open is known by its identifier. -/
theorem closed_eq_false_iff (hkeys : (xs.map (key ·.subject)).Nodup) {x : Life α} (hx : x ∈ xs) :
    x.closed = false ↔ key x.subject ∈ (openOnes xs).map key := by
  rw [openOnes, List.map_map]
  constructor
  · intro hopen
    have hmem : x ∈ xs.filter (!·.closed) := by simp [hx, hopen]
    exact List.mem_map_of_mem (f := key ∘ (·.subject)) hmem
  · intro hmem
    obtain ⟨y, hy, hkey⟩ := List.mem_map.mp hmem
    obtain ⟨hy, hopen⟩ := List.mem_filter.mp hy
    rw [← List.inj_on_of_nodup_map hkeys hy hx hkey]
    simpa using hopen

/-- What is open are those with the identifiers of what is open. -/
theorem openOnes_eq_filter (key : α → Nat) (hkeys : (xs.map (key ·.subject)).Nodup) :
    openOnes xs = (xs.map (·.subject)).filter (key · ∈ (openOnes xs).map key) := by
  rw [List.filter_map]
  conv_lhs => rw [openOnes]
  refine congrArg _ (List.filter_congr fun x hx => ?_)
  have hiff := closed_eq_false_iff hkeys hx
  rw [Function.comp_apply]
  cases hclosed : x.closed <;> simp_all

/-- **What is no longer open has one life, and that is over.** -/
theorem exists_filter_eq_singleton (hkeys : (xs.map (key ·.subject)).Nodup) {id : Nat}
    (hid : id ∈ xs.map (key ·.subject)) (hgone : id ∉ (openOnes xs).map key) :
    ∃ a, xs.filter (key ·.subject = id) = [⟨a, true⟩] := by
  obtain ⟨x, hx, rfl⟩ := List.mem_map.mp hid
  have hclosed : x.closed = true := by
    by_contra hopen
    exact hgone ((closed_eq_false_iff hkeys hx).mp (Bool.eq_false_iff.mpr hopen))
  refine ⟨x.subject, ?_⟩
  rw [Keyed.filter_eq_singleton hkeys hx, ← hclosed]

end Life

/-! ## §2 Stores -/

namespace Store

/-- The tables of the history are there, and their rows are numbered in order. -/
structure Sound (s : Store) : Prop where
  sessions : ∃ t, s.sessions = some t ∧ t.Numbered (·.id)
  panes : ∃ t, s.panes = some t ∧ t.table.Numbered (·.id)

theorem sound_fresh : fresh.Sound where
  sessions := ⟨{}, rfl, List.Pairwise.nil, fun _ hr => nomatch hr⟩
  panes := ⟨_, rfl, List.Pairwise.nil, fun _ hr => nomatch hr⟩

/-- The rows of sessions, in order of creation. -/
def sessionRows (s : Store) : List SessionRow := (s.sessions.map (·.rows)).getD []

/-- The rows of panes, in order of creation. -/
def paneRows (s : Store) : List PaneRow := (s.panes.map (·.table.rows)).getD []

variable {s : Store} {sessions : List (Life SessionFacts)} {panes : List (Life PaneFacts)}

theorem Holds.sound (h : s.Holds sessions panes) : s.Sound where
  sessions := let ⟨t, ht, hshows⟩ := h.sessions; ⟨t, ht, hshows.toNumbered⟩
  panes := let ⟨t, ht, hshows⟩ := h.panes; ⟨t, ht, hshows.toNumbered⟩

theorem Holds.map_sessionRows (h : s.Holds sessions panes) :
    s.sessionRows.map (·.life) = sessions := by
  obtain ⟨t, ht, hshows⟩ := h.sessions
  rw [sessionRows, ht]
  exact hshows.eq

theorem Holds.map_paneRows (h : s.Holds sessions panes) : s.paneRows.map (·.life) = panes := by
  obtain ⟨t, ht, hshows⟩ := h.panes
  rw [paneRows, ht]
  exact hshows.eq

/-- What is left when everything is closed. -/
def past (s : Store) : Past where
  sessions := s.sessionRows.map fun r => ⟨r.facts, true⟩
  panes := s.paneRows.map fun r => ⟨r.facts, true⟩
  sessions_closed := by simp
  panes_closed := by simp

/-- **A start closes what was left open**, and leaves the rest as it is. -/
theorem Sound.closeDangling (h : s.Sound) (at_ : String) :
    ∃ n s', s.closeDangling at_ = .ok (n, s') ∧ s'.Tells s.past {} := by
  obtain ⟨t, ht, hsessions⟩ := h.sessions
  obtain ⟨u, hu, hpanes⟩ := h.panes
  unfold Store.closeDangling sessionTable paneTable
  rw [ht, hu]
  -- rows keep their numbers and facts, and each of them ends up closed
  refine ⟨_, _, rfl, ⟨_, rfl, ?_⟩, ⟨_, rfl, ?_⟩⟩
  · refine ⟨hsessions.update _ fun _ => rfl, ?_⟩
    have hrows : s.sessionRows = t.rows := by rw [sessionRows, ht]; rfl
    show (t.rows.map _).map _ = s.sessionRows.map _ ++ []
    rw [hrows, List.append_nil, List.map_map]
    refine List.map_congr_left fun r _ => ?_
    cases hclosed : r.closedAt <;> simp [SessionRow.life, SessionRow.facts, hclosed]
  · refine ⟨hpanes.update _ fun _ => rfl, ?_⟩
    have hrows : s.paneRows = u.table.rows := by rw [paneRows, hu]; rfl
    show (u.table.rows.map _).map _ = s.paneRows.map _ ++ []
    rw [hrows, List.append_nil, List.map_map]
    refine List.map_congr_left fun r _ => ?_
    cases hclosed : r.closedAt <;> simp [PaneRow.life, PaneRow.facts, hclosed]

theorem Sound.exists_holds (h : s.Sound) : ∃ sessions panes, s.Holds sessions panes :=
  let ⟨t, ht, hsessions⟩ := h.sessions
  let ⟨u, hu, hpanes⟩ := h.panes
  ⟨_, _, ⟨t, ht, hsessions, rfl⟩, ⟨u, hu, hpanes, rfl⟩⟩

theorem Sound.updateSession (h : s.Sound) (session : Int) {f : SessionRow → SessionRow}
    (hid : ∀ r, (f r).id = r.id) :
    ∃ found s', s.updateSession session f = .ok (found, s') ∧ s'.Sound := by
  obtain ⟨t, ht, hsessions⟩ := h.sessions
  obtain ⟨found, heq⟩ := updateSession_eq ht session f
  exact ⟨found, _, heq, ⟨_, rfl, hsessions.changeNewest _ hid⟩, h.panes⟩

/-- **Whatever is recorded**, a store can be written to afterwards. -/
theorem Sound.record (h : s.Sound) (now : Time.Instant) (e : LifecycleEvent) :
    ((s.record now e).toOption.getD s).Sound := by
  -- a row is added, or one row changes in place
  obtain ⟨sessions, panes, hholds⟩ := h.exists_holds
  cases e with
  | sessionCreated session =>
    obtain ⟨n, s', hs', hholds⟩ :=
      hholds.sessionCreated (rowId session.id) session.name session.createdAt.stamp
    rw [Store.record, hs']
    exact hholds.sound
  | sessionRenamed id name =>
    obtain ⟨found, s', hs', hsound⟩ :=
      h.updateSession (rowId id) (f := fun r => { r with name }) fun _ => rfl
    rw [Store.record, Store.sessionRenamed, hs']
    exact hsound
  | sessionClosed id =>
    obtain ⟨found, s', hs', hsound⟩ :=
      h.updateSession (rowId id) (f := fun r => { r with closedAt := some now.stamp }) fun _ => rfl
    rw [Store.record, Store.sessionClosed, hs']
    exact hsound
  | paneCreated d =>
    obtain ⟨n, s', hs', hholds⟩ := hholds.paneCreated (newPane d)
    rw [Store.record, hs']
    exact hholds.sound
  | paneClosed id session =>
    obtain ⟨t, ht, hpanes⟩ := h.panes
    obtain ⟨found, heq⟩ := paneClosed_eq ht (rowId id) now.stamp
    rw [Store.record, heq]
    exact ⟨h.sessions, _, rfl, hpanes.changeNewest _ fun _ => rfl⟩
  | paneExited id code killed =>
    rw [Store.record]
    cases hexited : s.paneExited (rowId id) code killed with
    | error _ => exact h
    | ok result => exact (hholds.paneExited hexited).sound

theorem Sound.recordLog (h : s.Sound) (log : List (Time.Instant × LifecycleEvent)) :
    (s.recordLog log).Sound := by
  induction log generalizing s with
  | nil => exact h
  | cons x log ih => exact ih (h.record x.1 x.2)

end Store

/-! ## §3 Runs -/

/-- A run of the daemon over a store. -/
structure DaemonRun where
  config : Config
  /-- when it began, and what earlier runs had left open was closed -/
  startedAt : Time.Instant
  acts : List Registry.Act
  /-- what the recorder got to hear of, and when it recorded it -/
  log : List (Time.Instant × LifecycleEvent)

namespace DaemonRun

variable (d : DaemonRun)

/-- The registry after some actions of a run. -/
def registryAfter (acts : List Registry.Act) : Registry := (Registry.new d.config).run acts

/-- The registry in the end. -/
def registry : Registry := d.registryAfter d.acts

/-- The panes that were made, as they were shown to those who asked for them. -/
def births : List PaneDescriptor := (Registry.new d.config).births d.acts

/-- The session has been there at some time. -/
def HadSession (id : Nat) : Prop :=
  ∃ acts, acts <+: d.acts ∧ ((d.registryAfter acts).session? id).isSome

/-- The pane has been there at some time. -/
def HadPane (id : Nat) : Prop :=
  ∃ acts, acts <+: d.acts ∧ ((d.registryAfter acts).panes.find? id).isSome

/-- The recorder has caught up: it got every entry of the registry's log in order. Of the ends of
    processes it may hear at any time. The identifiers given out are still numbers of 64 bits. -/
structure CaughtUp : Prop where
  heard : lifeEvents (d.log.map (·.2)) = lifeEvents d.registry.events
  sessions_fit : d.registry.nextSession ≤ 2 ^ 64
  panes_fit : d.registry.panes.nextId ≤ 2 ^ 64

/-- A run whose recorder gets every entry at once. -/
def prompt (config : Config) (startedAt : Time.Instant) (acts : List Registry.Act) : DaemonRun where
  config
  startedAt
  acts
  log := ((Registry.new config).run acts).events.map (startedAt, ·)

theorem caughtUp_prompt {config : Config} {startedAt : Time.Instant} {acts : List Registry.Act}
    (hsessions : ((Registry.new config).run acts).nextSession ≤ 2 ^ 64)
    (hpanes : ((Registry.new config).run acts).panes.nextId ≤ 2 ^ 64) :
    (prompt config startedAt acts).CaughtUp where
  heard := by
    rw [prompt, List.map_map]
    exact congrArg lifeEvents (List.map_id _)
  sessions_fit := hsessions
  panes_fit := hpanes

end DaemonRun

/-- The store after a run: what was left open is closed, and then what happens is recorded. -/
def Store.afterRun (s : Store) (d : DaemonRun) : Store.Result Store := do
  let (_, s) ← s.closeDangling d.startedAt.stamp
  return s.recordLog d.log

/-- A daemon that is started, and records later what has been done with it, makes such a run. -/
theorem Daemon.afterRun_of_start {s : Store} {now : Time.Moment} {d : Daemon}
    (h : start s now = .ok d) (acts : List Registry.Act) (later : Time.Instant) :
    ∃ config before, s.setUp.loadConfig = .ok (config, before) ∧
      before.afterRun
          { config
            startedAt := now.wall
            acts := .startMetrics now.uptime :: acts
            log := (d.registry.run acts).events.map (later, ·) } =
        .ok ((d.withRegistry (d.registry.run acts)).record later).store := by
  cases hload : s.setUp.loadConfig with
  | error e =>
    rw [start, hload] at h
    cases h
  | ok loaded =>
    obtain ⟨config, before⟩ := loaded
    cases hclose : before.closeDangling now.wall.stamp with
    | error e =>
      simp only [start, hload, bind, Except.bind, hclose] at h
      cases h
    | ok closed =>
      simp only [start, hload, bind, Except.bind, hclose] at h
      cases h
      refine ⟨config, before, rfl, ?_⟩
      -- nothing had been recorded when it was started
      rw [Store.afterRun, hclose, Daemon.record, Store.recordAll_eq_recordLog]
      rfl

/-- The store after several runs. -/
def Store.afterRuns (s : Store) (ds : List DaemonRun) : Store.Result Store := ds.foldlM afterRun s

namespace Store

variable {s : Store}

theorem Sound.afterRun (h : s.Sound) (d : DaemonRun) :
    ∃ s', s.afterRun d = .ok s' ∧ s'.Sound := by
  obtain ⟨n, s', hs', htells⟩ := h.closeDangling d.startedAt.stamp
  refine ⟨s'.recordLog d.log, ?_, Sound.recordLog (Holds.sound htells) d.log⟩
  rw [Store.afterRun, hs']
  rfl

/-- **The daemon can always run again.** -/
theorem Sound.afterRuns (h : s.Sound) (ds : List DaemonRun) :
    ∃ s', s.afterRuns ds = .ok s' ∧ s'.Sound := by
  induction ds generalizing s with
  | nil => exact ⟨s, rfl, h⟩
  | cons d ds ih =>
    obtain ⟨s', hs', hsound⟩ := h.afterRun d
    obtain ⟨s'', hs'', hsound'⟩ := ih hsound
    refine ⟨s'', ?_, hsound'⟩
    rw [Store.afterRuns, List.foldlM_cons, hs']
    exact hs''

end Store

namespace DaemonRun

variable {d : DaemonRun}

theorem recounted (d : DaemonRun) : d.registry.roll.Recounted d.births :=
  Registry.recounted_run d.config d.acts

/-- The lives that a run tells. -/
def lives (d : DaemonRun) : Lives := .of d.registry.roll.panes.told

theorem CaughtUp.lives_fit (h : d.CaughtUp) : d.lives.Fit := by
  have hsessions : d.lives.sessionIds = List.range' 1 (d.registry.nextSession - 1) :=
    d.recounted.sessions.ids
  have hpanes : d.lives.paneIds = d.births.map (·.id) := by
    rw [← d.recounted.panes.made, List.map_map]
    rfl
  constructor
  case sessions =>
    rw [hsessions]
    exact List.nodup_range'
  case panes =>
    rw [hpanes]
    exact d.recounted.panes.ascending.imp fun hlt => Nat.ne_of_lt hlt
  case sessions_lt =>
    intro id hid
    rw [hsessions, List.mem_range'_1] at hid
    have := h.sessions_fit
    omega
  case panes_lt =>
    intro id hid
    rw [hpanes] at hid
    obtain ⟨p, hp, rfl⟩ := List.mem_map.mp hid
    exact Nat.lt_of_lt_of_le (d.recounted.panes.fresh p hp) h.panes_fit

theorem CaughtUp.within (h : d.CaughtUp) : ∀ x ∈ d.log, x.2.Within (2 ^ 64) (2 ^ 64) := by
  intro x hx
  -- only the ends of processes may come from elsewhere, and they are not bounded
  cases hexit : x.2.isExit with
  | true => exact .of_isExit hexit
  | false =>
    have hmem : x.2 ∈ lifeEvents (d.log.map (·.2)) :=
      List.mem_filter.mpr ⟨List.mem_map_of_mem hx, by rw [hexit]; rfl⟩
    rw [h.heard] at hmem
    exact (d.recounted.within x.2 hmem).mono h.sessions_fit h.panes_fit

/-- **Once the recorder has caught up, the rows tell the lives of the run.** -/
theorem CaughtUp.tells (h : d.CaughtUp) {s : Store} (hs : s.Sound) :
    ∃ s', s.afterRun d = .ok s' ∧ s'.Tells s.past d.lives := by
  obtain ⟨n, s', hs', htells⟩ := hs.closeDangling d.startedAt.stamp
  have hlives : Lives.of (d.log.map (·.2)) = d.lives := by
    rw [← Lives.of_lifeEvents, h.heard]
    rfl
  refine ⟨s'.recordLog d.log, ?_, ?_⟩
  · rw [Store.afterRun, hs']
    rfl
  · rw [← hlives]
    exact htells.recordLog (hlives ▸ h.lives_fit) h.within

/-- What has been told at some time is told in the end. -/
theorem told_grows (d : DaemonRun) {acts : List Registry.Act} (h : acts <+: d.acts) :
    (d.registryAfter acts).roll.panes.told <+: d.registry.roll.panes.told := by
  obtain ⟨more, hmore⟩ := h
  have hrun : d.registry = (d.registryAfter acts).run more := by
    rw [registry, ← hmore]
    exact List.foldl_append
  rw [hrun]
  exact (Registry.steps_run (Registry.consistent_run d.config acts) more).told_grows

theorem HadSession.mem_sessionIds {id : Nat} (h : d.HadSession id) : id ∈ d.lives.sessionIds := by
  obtain ⟨acts, hacts, hthere⟩ := h
  -- it has a life from then on
  refine (Lives.ids_of_prefix (d.told_grows hacts)).1.subset ?_
  apply (Registry.recounted_run d.config acts).sessions.mem_ids
  show id ∈ ((d.registryAfter acts).sessions.map (·.card)).map (·.id)
  rw [List.map_map]
  exact Keyed.isSome_find?_iff.mp hthere

theorem HadPane.mem_paneIds {id : Nat} (h : d.HadPane id) : id ∈ d.lives.paneIds := by
  obtain ⟨acts, hacts, hthere⟩ := h
  refine (Lives.ids_of_prefix (d.told_grows hacts)).2.subset ?_
  apply (Registry.recounted_run d.config acts).panes.mem_ids
  show id ∈ ((d.registryAfter acts).panes.records.map (·.card)).map (·.id)
  rw [List.map_map]
  exact Keyed.isSome_find?_iff.mp hthere

end DaemonRun

/-! ## §4 Rows and lives -/

section Rows

variable {α ρ φ : Type} {facts : ρ → φ} {closedAt : ρ → Option String} {rows : List ρ}
  {told : α → φ} {past : List (Life φ)} {xs : List (Life α)}

/-- The open rows are those of lives that are not over. -/
theorem map_facts_open (hpast : ∀ x ∈ past, x.closed = true)
    (hrows : rows.map (fun r => ⟨facts r, (closedAt r).isSome⟩) = past ++ xs.map (.map told)) :
    (rows.filter (closedAt · |>.isNone)).map facts = (Life.openOnes xs).map told := by
  rw [← Life.openOnes_rows, hrows, Life.openOnes_append, Life.openOnes_eq_nil hpast, List.nil_append,
    Life.openOnes_map]

/-- The rows of a run come after those that were there before. -/
theorem map_drop_past {β : Type} {view : ρ → β} {old new : List β}
    (hrows : rows.map view = old ++ new) {n : Nat} (hn : old.length = n) :
    (rows.drop n).map view = new := by
  rw [List.map_drop, hrows, ← hn, List.drop_left]

/-- **What is no longer open has one row, and that is closed.** -/
theorem exists_row (facts : ρ → φ) (closedAt : ρ → Option String) {key : α → Nat} {rowKey : φ → Int}
    (hkey : ∀ a, rowKey (told a) = rowId (key a)) (hkeys : (xs.map (key ·.subject)).Nodup)
    (hfit : ∀ id ∈ xs.map (key ·.subject), id < 2 ^ 64)
    (hrows : rows.map (fun r => (⟨facts r, (closedAt r).isSome⟩ : Life φ)) = xs.map (.map told))
    {id : Nat} (hid : id ∈ xs.map (key ·.subject)) (hgone : id ∉ (Life.openOnes xs).map key) :
    ∃ r, (rows.filter fun r => rowKey (facts r) = rowId id) = [r] ∧ (closedAt r).isSome := by
  obtain ⟨a, ha⟩ := Life.exists_filter_eq_singleton hkeys hid hgone
  -- whether a row is found is decided by the life that it tells
  have hfilter : (rows.filter fun r => rowKey (facts r) = rowId id).map
      (fun r => (⟨facts r, (closedAt r).isSome⟩ : Life φ)) = [⟨told a, true⟩] :=
    calc
      _ = (rows.map fun r => (⟨facts r, (closedAt r).isSome⟩ : Life φ)).filter
            (rowKey ·.subject = rowId id) := by
        rw [List.filter_map]
        rfl
      _ = (xs.filter (key ·.subject = id)).map (.map told) := by
        rw [hrows, List.filter_map]
        refine congrArg _ (List.filter_congr fun x hx => ?_)
        have hlt := hfit _ (List.mem_map_of_mem hx)
        have hiff : rowKey (told x.subject) = rowId id ↔ key x.subject = id := by
          rw [hkey, rowId_eq_iff hlt (hfit id hid)]
        simp [Life.map, hiff]
      _ = [⟨told a, true⟩] := by
        rw [ha]
        rfl
  obtain ⟨r, hr, hview⟩ := List.map_eq_singleton_iff.mp hfilter
  exact ⟨r, hr, congrArg Life.closed hview⟩

end Rows

/-! ## §5 The mirror -/

/-- **The history mirrors a run** whose rows come after those that a store had before. -/
structure DaemonRun.Mirrored (d : DaemonRun) (before after : Store) : Prop where
  /-- open rows are the sessions that there are, under their names -/
  open_sessions : (after.sessionRows.filter (·.closedAt.isNone)).map (·.facts) =
    d.registry.sessions.map (·.card.facts)
  /-- open rows are the panes that were made and that there still are, as they were made -/
  open_panes : (after.paneRows.filter (·.closedAt.isNone)).map (·.facts) =
    (d.births.filter (d.registry.panes.contains ·.id)).map (·.facts)
  /-- which are all the panes that there are -/
  live_panes : (d.births.filter (d.registry.panes.contains ·.id)).map (·.card) =
    d.registry.panes.records.map (·.card)
  /-- what is read from the text of arguments in a row are the arguments of the pane's process -/
  open_args : (after.paneRows.filter (·.closedAt.isNone)).map (fun r => Store.readArgs r.args) =
    (d.births.filter (d.registry.panes.contains ·.id)).map fun p =>
      .ok ((p.process.map (·.args)).getD [])
  /-- a session that is gone has one row, which is closed -/
  closed_sessions : ∀ id, d.HadSession id → d.registry.session? id = none →
    ∃ r, (after.sessionRows.drop before.sessionRows.length).filter (·.session = rowId id) = [r] ∧
      r.closedAt.isSome
  /-- a pane that is gone has one row, which is closed -/
  closed_panes : ∀ id, d.HadPane id → d.registry.panes.find? id = none →
    ∃ r, (after.paneRows.drop before.paneRows.length).filter (·.pane = rowId id) = [r] ∧
      r.closedAt.isSome

namespace DaemonRun

variable {d : DaemonRun} {before after : Store}

theorem ids_openOnes_sessions (d : DaemonRun) :
    (Life.openOnes d.lives.sessions).map (·.id) = d.registry.sessions.map (·.id) := by
  rw [show Life.openOnes d.lives.sessions = _ from d.recounted.sessions.opens]
  exact List.map_map

theorem ids_openOnes_panes (d : DaemonRun) :
    (Life.openOnes d.lives.panes).map (·.id) = d.registry.panes.records.map (·.id) := by
  have hcards : (Life.openOnes d.lives.panes).map (·.card) = d.registry.panes.records.map (·.card) :=
    d.recounted.panes.opens
  have hids := congrArg (List.map PaneCard.id) hcards
  rw [List.map_map, List.map_map] at hids
  exact hids

theorem CaughtUp.openOnes_panes (h : d.CaughtUp) :
    Life.openOnes d.lives.panes = d.births.filter (d.registry.panes.contains ·.id) := by
  rw [Life.openOnes_eq_filter PaneDescriptor.id h.lives_fit.panes, d.ids_openOnes_panes,
    show d.lives.panes.map (·.subject) = d.births from d.recounted.panes.made]
  refine List.filter_congr fun p _ => ?_
  rw [Bool.eq_iff_iff, decide_eq_true_iff]
  exact Keyed.isSome_find?_iff.symm

theorem CaughtUp.mirrored (h : d.CaughtUp) (htells : after.Tells before.past d.lives) :
    d.Mirrored before after := by
  have hsessions := Store.Holds.map_sessionRows htells
  have hpanes := Store.Holds.map_paneRows htells
  have hopen := map_facts_open before.past.panes_closed hpanes
  rw [h.openOnes_panes] at hopen
  -- rows of earlier runs are closed, and stand before those of this one
  constructor
  case open_sessions =>
    refine (map_facts_open before.past.sessions_closed hsessions).trans ?_
    rw [show Life.openOnes d.lives.sessions = _ from d.recounted.sessions.opens]
    exact List.map_map
  case open_panes => exact hopen
  case open_args =>
    have hargs := congrArg (List.map fun f => Store.readArgs f.args) hopen
    rw [List.map_map, List.map_map] at hargs
    exact hargs.trans (List.map_congr_left fun p _ => Store.readArgs_argsText _)
  case live_panes =>
    rw [← h.openOnes_panes]
    exact d.recounted.panes.opens
  case closed_sessions =>
    intro id hhad hgone
    apply exists_row SessionRow.facts SessionRow.closedAt SessionCard.session_facts
      h.lives_fit.sessions h.lives_fit.sessions_lt
    case hrows => exact map_drop_past hsessions (List.length_map ..)
    case hid => exact hhad.mem_sessionIds
    case hgone =>
      show id ∉ (Life.openOnes d.lives.sessions).map (·.id)
      rw [d.ids_openOnes_sessions, ← Keyed.isSome_find?_iff]
      simpa [Registry.session?] using hgone
  case closed_panes =>
    intro id hhad hgone
    apply exists_row PaneRow.facts PaneRow.closedAt PaneDescriptor.pane_facts
      h.lives_fit.panes h.lives_fit.panes_lt
    case hrows => exact map_drop_past hpanes (List.length_map ..)
    case hid => exact hhad.mem_paneIds
    case hgone =>
      show id ∉ (Life.openOnes d.lives.panes).map (·.id)
      rw [d.ids_openOnes_panes, ← Keyed.isSome_find?_iff]
      simpa [Panes.find?] using hgone

end DaemonRun

/-- **The history mirrors the registry**: after any number of runs over one store, of which the
    recorder may have missed what it will, the rows mirror a run once the recorder has caught up. -/
theorem Store.history_mirrors_registry {s : Store} (hs : s.Sound) (earlier : List DaemonRun)
    {d : DaemonRun} (hd : d.CaughtUp) :
    ∃ before after, s.afterRuns earlier = .ok before ∧ before.afterRun d = .ok after ∧
      d.Mirrored before after := by
  obtain ⟨before, hbefore, hsound⟩ := hs.afterRuns earlier
  obtain ⟨after, hafter, htells⟩ := hd.tells hsound
  exact ⟨before, after, hbefore, hafter, hd.mirrored htells⟩

/-- A new store after two runs of the same kind, each with a session that is renamed and one that is
    closed. A process with arguments runs in the first. -/
theorem Store.history_mirrors_registry_restarted :
    let process : ProcessInfo := ⟨some 9, "/bin/sh", ["-c", "echo \"a b\""], "/", [], ⟨0, 0⟩⟩
    let acts : List Registry.Act := [.createSession ⟨0, 0⟩ (some "one"), .createSession ⟨0, 0⟩ none,
      .createTerminal (fun _ => .ok process) ⟨⟨0, 0⟩, 0⟩ 1 {},
      .createPane ⟨⟨0, 0⟩, 0⟩ 2 .editor {},
      .renameSession 1 "first", .closeSession 0 2]
    let d := DaemonRun.prompt {} ⟨0, 0⟩ acts
    fresh.Sound ∧ d.CaughtUp ∧
      ∃ before after, fresh.afterRuns [d] = .ok before ∧ before.afterRun d = .ok after ∧
        (after.sessionRows.filter (·.closedAt.isNone)).map (·.facts.name) = ["first"] ∧
        (after.paneRows.filter (·.closedAt.isNone)).map (·.facts.shell) = [some "/bin/sh"] ∧
        (after.paneRows.filter (·.closedAt.isNone)).map (fun r => readArgs r.args) =
          [.ok ["-c", "echo \"a b\""]] ∧
        (∃ r, (after.sessionRows.drop before.sessionRows.length).filter (·.session = rowId 2) = [r] ∧
          r.closedAt.isSome) ∧
        ∃ r, (after.paneRows.drop before.paneRows.length).filter (·.pane = rowId 2) = [r] ∧
          r.closedAt.isSome := by
  intro process acts d
  have hd : d.CaughtUp := DaemonRun.caughtUp_prompt (by decide) (by decide)
  obtain ⟨before, after, hbefore, hafter, hmirrored⟩ := history_mirrors_registry sound_fresh [d] hd
  have hleft : (d.births.filter (d.registry.panes.contains ·.id)).map (·.process) =
      [some (.ofInfo process)] := by decide +kernel
  -- the pane that is left is the terminal
  obtain ⟨p, hp, hprocess⟩ := List.map_eq_singleton_iff.mp hleft
  have hshells := congrArg (List.map PaneFacts.shell) hmirrored.open_panes
  have hargs := hmirrored.open_args
  rw [hp] at hshells hargs
  refine ⟨sound_fresh, hd, before, after, hbefore, hafter, ?_, ?_, ?_, ?_, ?_⟩
  · have hnames := congrArg (List.map SessionFacts.name) hmirrored.open_sessions
    rw [List.map_map] at hnames
    exact hnames.trans rfl
  · rw [List.map_map] at hshells
    exact hshells.trans (by simp [PaneDescriptor.facts, hprocess, ProcessSummary.ofInfo, process])
  · exact hargs.trans (by simp [hprocess, ProcessSummary.ofInfo, process])
  · exact hmirrored.closed_sessions 2 ⟨acts.take 2, List.take_prefix 2 acts, by decide⟩ (by decide)
  · exact hmirrored.closed_panes 2 ⟨acts.take 4, List.take_prefix 4 acts, by decide⟩ (by decide)

end PaneMux
