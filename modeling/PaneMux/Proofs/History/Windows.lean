import PaneMux.Proofs.History.Exits

/-!
# What Runs Leave Behind

A row of a pane never says again, once it has been written, where and when the pane was made, and rows
are never taken away. A row of a session is closed by its own run, or else by the start of the next one,
and is not touched after that. So the history is what the runs have left behind, one after the other:
windows of time that are opened and closed, and panes that were made at some time.

## Architecture

- **§1** what a log tells of the making of sessions and panes, and what a row keeps of it
- **§2** stores of the current version (`Store.Current`), and changes that keep what is known of panes
- **§3** `Store.Continues`: what a log has added to a store, kept by every entry that is recorded
- **§4** what several runs leave behind (`Store.Current.afterRuns`), and the run that a row is of
  (`Store.exists_run`)
-/

namespace PaneMux

/-! ## §1 What a log tells of -/

/-- The session that an entry of the log tells the making of. -/
def LifecycleEvent.opened? : LifecycleEvent → Option SessionCard
  | .sessionCreated s => some s.card
  | _ => none

/-- The pane that an entry of the log tells the making of. -/
def LifecycleEvent.made? : LifecycleEvent → Option PaneDescriptor
  | .paneCreated d => some d
  | _ => none

def openedSessions (log : List (Time.Instant × LifecycleEvent)) : List SessionCard :=
  log.filterMap (·.2.opened?)

def madePanes (log : List (Time.Instant × LifecycleEvent)) : List PaneDescriptor :=
  log.filterMap (·.2.made?)

/-- **A row of a session** that a log tells of: its window opens when the session was made, and if it
    has been closed by the log, then when the closing was recorded. -/
structure SessionRow.IsOf (r : SessionRow) (c : SessionCard)
    (log : List (Time.Instant × LifecycleEvent)) : Prop where
  session : r.session = rowId c.id
  createdAt : r.createdAt = c.createdAt.stamp
  closedAt : ∀ text ∈ r.closedAt, ∃ now id, (now, .sessionClosed id) ∈ log ∧
    rowId id = rowId c.id ∧ text = now.stamp

/-- What a row of a pane keeps: its number, and the facts in it. -/
def PaneRow.known (r : PaneRow) : Int × PaneFacts := (r.id, r.facts)

/-- Whatever is open is closed. -/
def SessionRow.closeBy (text : String) (r : SessionRow) : SessionRow :=
  if r.closedAt.isNone then { r with closedAt := some text } else r

section Rows

variable {log : List (Time.Instant × LifecycleEvent)} {x : Time.Instant × LifecycleEvent}
  {r : SessionRow} {c : SessionCard}

theorem mem_openedSessions_append (h : c ∈ openedSessions log) : c ∈ openedSessions (log ++ [x]) := by
  rw [openedSessions, List.filterMap_append]
  exact List.mem_append_left _ h

theorem SessionRow.IsOf.mono (h : r.IsOf c log) : r.IsOf c (log ++ [x]) where
  session := h.session
  createdAt := h.createdAt
  closedAt text htext :=
    let ⟨now, id, hmem, hid, heq⟩ := h.closedAt text htext
    ⟨now, id, List.mem_append_left _ hmem, hid, heq⟩

theorem SessionRow.closeBy_of_closed (h : r.closedAt.isSome) (text : String) :
    r.closeBy text = r := by
  rw [closeBy, if_neg]
  simpa [Option.isSome_iff_ne_none] using h

theorem SessionRow.isSome_closeBy (r : SessionRow) (text : String) :
    (r.closeBy text).closedAt.isSome := by
  unfold closeBy
  split
  case isTrue => rfl
  case isFalse hclosed => simpa [Option.isSome_iff_ne_none] using hclosed

end Rows

/-! ## §2 Stores of the current version -/

namespace Store

/-- The tables are there, as the current version has them. -/
structure Current (s : Store) : Prop extends s.Sound where
  column : ∀ t, s.panes = some t → t.hasKilled = true

theorem current_fresh : fresh.Current where
  toSound := sound_fresh
  column := by
    rintro t ⟨⟩
    rfl

variable {s before : Store} {log : List (Time.Instant × LifecycleEvent)}

theorem sessionRows_eq {t : Table SessionRow} (ht : s.sessions = some t) : s.sessionRows = t.rows := by
  rw [sessionRows, ht]
  rfl

theorem paneRows_eq {t : PaneTable} (ht : s.panes = some t) : s.paneRows = t.table.rows := by
  rw [paneRows, ht]
  rfl

theorem Current.sessionCreated (h : s.Current) (session : Int) (name at_ : String) :
    ∃ n s' r, s.sessionCreated session name at_ = .ok (n, s') ∧ s'.Current ∧
      s'.paneRows = s.paneRows ∧ s'.sessionRows = s.sessionRows ++ [r] ∧
      r.session = session ∧ r.createdAt = at_ ∧ r.closedAt = none := by
  obtain ⟨t, ht, hnumbered⟩ := h.sessions
  let row (id : Int) : SessionRow := { id, session, name, createdAt := at_ }
  have hinsert : (t.insert row).2.Numbered (·.id) := hnumbered.insert fun _ => rfl
  rw [sessionRows_eq ht]
  unfold Store.sessionCreated sessionTable
  rw [ht]
  exact ⟨_, _, row t.next, rfl, ⟨⟨⟨_, rfl, hinsert⟩, h.panes⟩, h.column⟩, rfl, rfl, rfl, rfl, rfl⟩

theorem Current.paneCreated (h : s.Current) (p : NewPane) :
    ∃ n s', s.paneCreated p = .ok (n, s') ∧ s'.Current ∧ s'.sessionRows = s.sessionRows ∧
      s'.paneRows.map (·.known) = s.paneRows.map (·.known) ++ [(n, p.facts)] := by
  obtain ⟨t, ht, hnumbered⟩ := h.panes
  let row (id : Int) : PaneRow :=
    { id, pane := p.pane, session := p.session, kind := p.kind, title := p.title, shell := p.shell
      args := argsText p.args, cwd := p.cwd, createdAt := p.createdAt
      killed := t.newKilled.getD false }
  have hinsert : (t.table.insert row).2.Numbered (·.id) := hnumbered.insert fun _ => rfl
  have hkilled := h.column t ht
  rw [paneRows_eq ht]
  unfold Store.paneCreated paneTable
  rw [ht]
  refine ⟨_, _, rfl, ⟨⟨h.sessions, _, rfl, hinsert⟩, ?_⟩, rfl, ?_⟩
  · rintro t' ⟨⟩
    exact hkilled
  · show (t.table.rows ++ [row t.table.next]).map _ = _
    rw [List.map_append]
    rfl

/-- Only an open row of the session changes, and at most one. -/
theorem Current.updateSession (h : s.Current) (session : Int) {f : SessionRow → SessionRow}
    (hid : ∀ r, (f r).id = r.id) :
    ∃ found s' g, s.updateSession session f = .ok (found, s') ∧ s'.Current ∧
      s'.paneRows = s.paneRows ∧ s'.sessionRows = s.sessionRows.map g ∧
      ∀ r ∈ s.sessionRows, (r.session = session ∧ r.closedAt = none ∧ g r = f r) ∨ g r = r := by
  obtain ⟨t, ht, hnumbered⟩ := h.sessions
  obtain ⟨found, heq⟩ := updateSession_eq ht session f
  obtain ⟨g, hrows, hg⟩ := hnumbered.exists_changeNewest
    (fun r => decide (r.session = session ∧ r.closedAt.isNone)) f
  refine ⟨found, _, g, heq, ⟨⟨⟨_, rfl, hnumbered.changeNewest _ hid⟩, h.panes⟩, h.column⟩, rfl, ?_, ?_⟩
  · rw [sessionRows_eq ht, ← hrows]
    rfl
  · intro r hr
    rw [sessionRows_eq ht] at hr
    rcases hg r hr with ⟨hp, -, heq⟩ | ⟨-, heq⟩
    · obtain ⟨hsession, hopen⟩ := of_decide_eq_true hp
      exact .inl ⟨hsession, Option.isNone_iff_eq_none.mp hopen, heq⟩
    · exact .inr heq

/-- What becomes of a row of a pane later on leaves what is known of it. -/
theorem Current.changePane (h : s.Current) {t : PaneTable} (ht : s.panes = some t) (p : PaneRow → Bool)
    {f : PaneRow → PaneRow} (hf : ∀ r, (f r).known = r.known) :
    let s' : Store := { s with panes := some { t with table := t.table.changeNewest (·.id) p f } }
    s'.Current ∧ s'.paneRows.map (·.known) = s.paneRows.map (·.known) := by
  obtain ⟨t', ht', hnumbered⟩ := h.panes
  rw [ht] at ht'
  cases ht'
  have hid : ∀ r, (f r).id = r.id := fun r => congrArg Prod.fst (hf r)
  refine ⟨⟨⟨h.sessions, _, rfl, hnumbered.changeNewest p hid⟩, ?_⟩, ?_⟩
  · rintro t' ⟨⟩
    have hkilled := h.column t ht
    exact hkilled
  · obtain ⟨g, hrows, hg⟩ := hnumbered.exists_changeNewest p f
    rw [paneRows_eq ht]
    show (t.table.changeNewest (·.id) p f).rows.map _ = _
    rw [hrows, List.map_map]
    refine List.map_congr_left fun r hr => ?_
    rcases hg r hr with ⟨-, -, heq⟩ | ⟨-, heq⟩
    · rw [Function.comp_apply, heq, hf]
    · rw [Function.comp_apply, heq]

/-- **A start** closes every row that is open, and keeps what is known of panes. -/
theorem Current.closeDangling (h : s.Current) (text : String) :
    ∃ n s', s.closeDangling text = .ok (n, s') ∧ s'.Current ∧
      s'.sessionRows = s.sessionRows.map (·.closeBy text) ∧
      s'.paneRows.map (·.known) = s.paneRows.map (·.known) := by
  obtain ⟨t, ht, hsessions⟩ := h.sessions
  obtain ⟨u, hu, hpanes⟩ := h.panes
  have hsessions' := hsessions.update (·.closedAt.isNone)
    (f := fun r => { r with closedAt := some text }) fun _ => rfl
  have hpanes' := hpanes.update (·.closedAt.isNone)
    (f := fun r => { r with closedAt := some text }) fun _ => rfl
  rw [sessionRows_eq ht, paneRows_eq hu]
  have hkilled := h.column u hu
  unfold Store.closeDangling sessionTable paneTable
  rw [ht, hu]
  refine ⟨_, _, rfl, ⟨⟨⟨_, rfl, hsessions'⟩, _, rfl, hpanes'⟩, ?_⟩, rfl, ?_⟩
  · rintro t' ⟨⟩
    exact hkilled
  · show (u.table.rows.map _).map _ = _
    rw [List.map_map]
    refine List.map_congr_left fun r _ => ?_
    rw [Function.comp_apply]
    split <;> rfl

/-! ## §3 Recording -/

/-- **A store continues another one** when a log has been recorded: behind the rows that there were
    stand rows of sessions that the log tells of, and a row for each of the panes, in order. -/
structure Continues (s before : Store) (log : List (Time.Instant × LifecycleEvent)) : Prop
    extends s.Current where
  sessions_added : ∃ new, s.sessionRows = before.sessionRows ++ new ∧
    ∀ r ∈ new, ∃ c ∈ openedSessions log, r.IsOf c log
  panes_added : ∃ new, s.paneRows.map (·.known) = before.paneRows.map (·.known) ++ new ∧
    new.map (·.2) = (madePanes log).map (·.facts)

section Recording

variable {x : Time.Instant × LifecycleEvent}

theorem Continues.sessions_kept (h : s.Continues before log) :
    ∃ new, s.sessionRows = before.sessionRows ++ new ∧
      ∀ r ∈ new, ∃ c ∈ openedSessions (log ++ [x]), r.IsOf c (log ++ [x]) := by
  obtain ⟨new, hall, hnew⟩ := h.sessions_added
  refine ⟨new, hall, fun r hr => ?_⟩
  obtain ⟨c, hc, hof⟩ := hnew r hr
  exact ⟨c, mem_openedSessions_append hc, hof.mono⟩

theorem Continues.panes_kept (h : s.Continues before log) (hmade : x.2.made? = none) :
    ∃ new, s.paneRows.map (·.known) = before.paneRows.map (·.known) ++ new ∧
      new.map (·.2) = (madePanes (log ++ [x])).map (·.facts) := by
  obtain ⟨new, hall, hnew⟩ := h.panes_added
  refine ⟨new, hall, ?_⟩
  rw [hnew, madePanes, madePanes, List.filterMap_append, List.filterMap_cons, hmade,
    List.filterMap_nil, List.append_nil]

theorem Continues.updateSession (h : s.Continues before log)
    (hbefore : ∀ r ∈ before.sessionRows, r.closedAt.isSome) (hmade : x.2.made? = none)
    (session : Int) {f : SessionRow → SessionRow} (hid : ∀ r, (f r).id = r.id)
    (hf : ∀ r c, r.session = session → r.IsOf c log → (f r).IsOf c (log ++ [x])) :
    ∃ found s', s.updateSession session f = .ok (found, s') ∧ s'.Continues before (log ++ [x]) := by
  obtain ⟨found, s', g, heq, hcurrent, hpanes, hrows, hg⟩ := h.toCurrent.updateSession session hid
  obtain ⟨new, hall, hnew⟩ := h.sessions_added
  refine ⟨found, s', heq, hcurrent, ⟨new.map g, ?_, fun r hr => ?_⟩, hpanes ▸ h.panes_kept hmade⟩
  · -- rows of earlier runs are closed, and so do not change
    have hold : before.sessionRows.map g = before.sessionRows := by
      refine (List.map_congr_left fun r hr => ?_).trans (List.map_id _)
      rcases hg r (by rw [hall]; exact List.mem_append_left _ hr) with ⟨-, hopen, -⟩ | hsame
      · have hclosed := hbefore r hr
        rw [hopen] at hclosed
        cases hclosed
      · exact hsame
    rw [hrows, hall, List.map_append, hold]
  · obtain ⟨r, hmem, rfl⟩ := List.mem_map.mp hr
    obtain ⟨c, hc, hof⟩ := hnew r hmem
    refine ⟨c, mem_openedSessions_append hc, ?_⟩
    rcases hg r (by rw [hall]; exact List.mem_append_right _ hmem) with ⟨hsession, -, heq⟩ | heq
    · rw [heq]
      exact hf r c hsession hof
    · rw [heq]
      exact hof.mono

theorem Continues.changePane (h : s.Continues before log) (hmade : x.2.made? = none) {t : PaneTable}
    (ht : s.panes = some t) (p : PaneRow → Bool) {f : PaneRow → PaneRow}
    (hf : ∀ r, (f r).known = r.known) :
    Continues { s with panes := some { t with table := t.table.changeNewest (·.id) p f } } before
      (log ++ [x]) := by
  obtain ⟨hcurrent, hknown⟩ := h.toCurrent.changePane ht p hf
  exact ⟨hcurrent, h.sessions_kept, hknown ▸ h.panes_kept hmade⟩

theorem Continues.sessionCreated (h : s.Continues before log) (now : Time.Instant)
    (session : Session) :
    ∃ n s', s.sessionCreated (rowId session.id) session.name session.createdAt.stamp = .ok (n, s') ∧
      s'.Continues before (log ++ [(now, .sessionCreated session)]) := by
  obtain ⟨n, s', r, heq, hcurrent, hpanes, hrows, hsession, hcreated, hopen⟩ :=
    h.toCurrent.sessionCreated (rowId session.id) session.name session.createdAt.stamp
  obtain ⟨new, hall, hnew⟩ := h.sessions_kept (x := (now, .sessionCreated session))
  refine ⟨n, s', heq, hcurrent, ⟨new ++ [r], ?_, fun r' hr' => ?_⟩, hpanes ▸ h.panes_kept rfl⟩
  · rw [hrows, hall, List.append_assoc]
  · rcases List.mem_append.mp hr' with hr' | hr'
    · exact hnew r' hr'
    · rw [List.mem_singleton.mp hr']
      refine ⟨session.card, ?_, hsession, hcreated, by simp [hopen]⟩
      rw [openedSessions, List.filterMap_append]
      exact List.mem_append_right _ (List.mem_singleton_self _)

theorem Continues.paneCreated (h : s.Continues before log) (now : Time.Instant) (d : PaneDescriptor) :
    ∃ n s', s.paneCreated (newPane d) = .ok (n, s') ∧
      s'.Continues before (log ++ [(now, .paneCreated d)]) := by
  obtain ⟨n, s', heq, hcurrent, hsessions, hrows⟩ := h.toCurrent.paneCreated (newPane d)
  -- the new row stands behind all others, as the new pane does in the log
  obtain ⟨new, hall, hnew⟩ := h.panes_added
  refine ⟨n, s', heq, hcurrent, hsessions ▸ h.sessions_kept, new ++ [(n, d.facts)], ?_, ?_⟩
  · rw [hrows, hall, List.append_assoc, facts_newPane]
  · rw [List.map_append, hnew, madePanes, madePanes, List.filterMap_append, List.map_append]
    rfl

/-- **Every entry that is recorded** leaves behind what it tells of. -/
theorem Continues.record (h : s.Continues before log)
    (hbefore : ∀ r ∈ before.sessionRows, r.closedAt.isSome) (now : Time.Instant)
    (e : LifecycleEvent) :
    ((s.record now e).toOption.getD s).Continues before (log ++ [(now, e)]) := by
  obtain ⟨t, ht, -⟩ := h.panes
  cases e with
  | sessionCreated session =>
    obtain ⟨n, s', hs', hcontinues⟩ := h.sessionCreated now session
    rw [Store.record, hs']
    exact hcontinues
  | sessionRenamed id name =>
    obtain ⟨found, s', hs', hcontinues⟩ := h.updateSession (x := (now, .sessionRenamed id name))
      hbefore rfl (rowId id) (f := fun r => { r with name }) (fun _ => rfl)
      fun r c _ hof => ⟨hof.session, hof.createdAt, hof.mono.closedAt⟩
    rw [Store.record, Store.sessionRenamed, hs']
    exact hcontinues
  | sessionClosed id =>
    obtain ⟨found, s', hs', hcontinues⟩ := h.updateSession (x := (now, .sessionClosed id))
      hbefore rfl (rowId id) (f := fun r => { r with closedAt := some now.stamp })
      (fun _ => rfl) fun r c hsession hof => ⟨hof.session, hof.createdAt, fun text htext =>
        ⟨now, id, by simp, hsession.symm.trans hof.session, (Option.some.inj htext).symm⟩⟩
    rw [Store.record, Store.sessionClosed, hs']
    exact hcontinues
  | paneCreated d =>
    obtain ⟨n, s', hs', hcontinues⟩ := h.paneCreated now d
    rw [Store.record, hs']
    exact hcontinues
  | paneClosed id session =>
    obtain ⟨found, heq⟩ := paneClosed_eq ht (rowId id) now.stamp
    rw [Store.record, heq]
    exact h.changePane rfl ht _ fun _ => rfl
  | paneExited id code killed =>
    rw [Store.record]
    -- it fails in a table without the column of kills, and a failure leaves the store as it was
    cases hexited : s.paneExited (rowId id) code killed with
    | error _ => exact ⟨h.toCurrent, h.sessions_kept, h.panes_kept rfl⟩
    | ok result =>
      obtain ⟨found, s'⟩ := result
      show Continues s' before _
      rw [paneExited_eq ht hexited, updatePane_eq ht]
      exact h.changePane rfl ht _ fun _ => rfl

/-- **A log that is recorded** leaves behind what it tells of. -/
theorem Current.recordLog (h : s.Current) (hclosed : ∀ r ∈ s.sessionRows, r.closedAt.isSome)
    (log : List (Time.Instant × LifecycleEvent)) : (s.recordLog log).Continues s log := by
  induction log using List.reverseRecOn with
  | nil =>
    exact ⟨h, ⟨[], (List.append_nil _).symm, fun _ hr => nomatch hr⟩, [],
      (List.append_nil _).symm, rfl⟩
  | append_singleton log x ih =>
    rw [Store.recordLog, List.foldl_append]
    exact ih.record hclosed x.1 x.2

end Recording

/-! ## §4 Runs -/

end Store

/-- What later runs do to a row of a session: the first of them closes it, if it is open. -/
def SessionRow.endBy (later : List DaemonRun) (r : SessionRow) : SessionRow :=
  match later with
  | [] => r
  | d :: _ => r.closeBy d.startedAt.stamp

theorem SessionRow.endBy_closeBy (later : List DaemonRun) (r : SessionRow) (text : String) :
    (r.closeBy text).endBy later = r.closeBy text := by
  cases later with
  | nil => rfl
  | cons d later => exact closeBy_of_closed (r.isSome_closeBy text) _

namespace Store

variable {s s' : Store} {ds : List DaemonRun}

theorem afterRuns_cons {d : DaemonRun} (h : s.afterRun d = .ok s') (ds : List DaemonRun) :
    s.afterRuns (d :: ds) = s'.afterRuns ds := by
  rw [afterRuns, List.foldlM_cons, h]
  rfl

/-- **What a run leaves behind**: it closes the windows that it finds open, and adds rows of its own. -/
theorem Current.afterRun (h : s.Current) (d : DaemonRun) :
    ∃ s', s.afterRun d = .ok s' ∧ s'.Current ∧
      (∃ new, s'.sessionRows = s.sessionRows.map (·.closeBy d.startedAt.stamp) ++ new ∧
        ∀ r ∈ new, ∃ c ∈ openedSessions d.log, r.IsOf c d.log) ∧
      ∃ new, s'.paneRows.map (·.known) = s.paneRows.map (·.known) ++ new ∧
        new.map (·.2) = (madePanes d.log).map (·.facts) := by
  obtain ⟨n, s₁, heq, hcurrent, hsessions, hpanes⟩ := h.closeDangling d.startedAt.stamp
  -- so the run finds no row open but its own
  have hclosed : ∀ r ∈ s₁.sessionRows, r.closedAt.isSome := by
    rw [hsessions]
    rintro _ hr
    obtain ⟨r, -, rfl⟩ := List.mem_map.mp hr
    exact r.isSome_closeBy _
  have hcontinues := hcurrent.recordLog hclosed d.log
  refine ⟨s₁.recordLog d.log, ?_, hcontinues.toCurrent, ?_, ?_⟩
  · rw [Store.afterRun, heq]
    rfl
  · rw [← hsessions]
    exact hcontinues.sessions_added
  · rw [← hpanes]
    exact hcontinues.panes_added

/-- **What several runs leave behind.** -/
theorem Current.afterRuns (h : s.Current) (ds : List DaemonRun) :
    ∃ s', s.afterRuns ds = .ok s' ∧ s'.Current ∧
      (∃ new, s'.sessionRows = s.sessionRows.map (·.endBy ds) ++ new) ∧
      ∃ new, s'.paneRows.map (·.known) = s.paneRows.map (·.known) ++ new ∧
        new.map (·.2) = (ds.flatMap fun d => madePanes d.log).map (·.facts) := by
  induction ds generalizing s with
  | nil =>
    exact ⟨s, rfl, h, ⟨[], by rw [List.append_nil]; exact (List.map_id _).symm⟩, [],
      (List.append_nil _).symm, rfl⟩
  | cons d ds ih =>
    obtain ⟨s₁, heq, hcurrent, ⟨new, hsessions, -⟩, added, hpanes, hadded⟩ := h.afterRun d
    obtain ⟨s', heq', hcurrent', ⟨new', hsessions'⟩, added', hpanes', hadded'⟩ := ih hcurrent
    refine ⟨s', (afterRuns_cons heq ds).trans heq', hcurrent', ⟨new.map (·.endBy ds) ++ new', ?_⟩,
      added ++ added', ?_, ?_⟩
    · -- what is closed at once is not touched by the runs after that
      rw [hsessions', hsessions, List.map_append, List.map_map, List.append_assoc]
      refine congrArg (· ++ _) (List.map_congr_left fun r _ => ?_)
      exact r.endBy_closeBy ds _
    · rw [hpanes', hpanes, List.append_assoc]
    · rw [List.map_append, hadded, hadded', List.flatMap_cons, List.map_append]

def sessionRowsSince (before s : Store) : List SessionRow :=
  s.sessionRows.drop before.sessionRows.length

theorem sessionRowsSince_eq {f : SessionRow → SessionRow} {new : List SessionRow}
    (h : s'.sessionRows = s.sessionRows.map f ++ new) : s.sessionRowsSince s' = new := by
  rw [sessionRowsSince, h, ← List.length_map f, List.drop_left]

/-- **A row of a session is one of a run**, which has added it, and which later runs may have
    closed. -/
theorem Current.exists_run (h : s.Current) (hruns : s.afterRuns ds = .ok s') {r : SessionRow}
    (hr : r ∈ s.sessionRowsSince s') :
    ∃ earlier d later before after, ds = earlier ++ d :: later ∧ s.afterRuns earlier = .ok before ∧
      before.afterRun d = .ok after ∧ after.afterRuns later = .ok s' ∧
      ∃ r₀ ∈ before.sessionRowsSince after, r = r₀.endBy later := by
  induction ds generalizing s with
  | nil =>
    cases hruns
    rw [sessionRowsSince, List.drop_length] at hr
    cases hr
  | cons d ds ih =>
    obtain ⟨s₁, heq, hcurrent, ⟨new, hsessions, -⟩, -⟩ := h.afterRun d
    obtain ⟨s₂, heq', -, ⟨new', hsessions'⟩, -⟩ := hcurrent.afterRuns ds
    rw [afterRuns_cons heq] at hruns
    have hsame : s₂ = s' := Except.ok.inj (heq'.symm.trans hruns)
    rw [hsame] at hsessions'
    have hnew : s.sessionRowsSince s₁ = new := sessionRowsSince_eq hsessions
    have hnew' : s₁.sessionRowsSince s' = new' := sessionRowsSince_eq hsessions'
    -- it has been added by the first run, or by a later one
    have hboth : s.sessionRowsSince s' = new.map (·.endBy ds) ++ new' := by
      refine sessionRowsSince_eq (f := fun r => (r.closeBy d.startedAt.stamp).endBy ds) ?_
      rw [hsessions', hsessions, List.map_append, List.map_map, List.append_assoc]
      rfl
    rw [hboth] at hr
    rcases List.mem_append.mp hr with hr | hr
    · obtain ⟨r₀, hr₀, rfl⟩ := List.mem_map.mp hr
      exact ⟨[], d, ds, s, s₁, rfl, rfl, heq, hruns, r₀, hnew ▸ hr₀, rfl⟩
    · obtain ⟨earlier, d', later, before, after, rfl, hbefore, hafter⟩ :=
        ih hcurrent hruns (hnew' ▸ hr)
      exact ⟨d :: earlier, d', later, before, after, rfl,
        (afterRuns_cons heq earlier).trans hbefore, hafter⟩

/-- What a run has added for a session is a row of a session that it has recorded. -/
theorem Current.exists_of_mem_since (h : s.Current) {before after : Store} {d : DaemonRun}
    (hbefore : s.afterRuns ds = .ok before) (hafter : before.afterRun d = .ok after) {r : SessionRow}
    (hr : r ∈ before.sessionRowsSince after) : ∃ c ∈ openedSessions d.log, r.IsOf c d.log := by
  obtain ⟨b, hb, hcurrent, -⟩ := h.afterRuns ds
  cases hb.symm.trans hbefore
  obtain ⟨a, ha, -, ⟨new, hrows, hnew⟩, -⟩ := hcurrent.afterRun d
  cases ha.symm.trans hafter
  exact hnew r (sessionRowsSince_eq hrows ▸ hr)

end Store

end PaneMux
