import PaneMux.Proofs.History.Windows
import PaneMux.Proofs.Registry.Chronology
import PaneMux.Proofs.Time.Stamps

/-!
# Panes Belong to the Run of Their Session

A row of a pane names its session by an identifier that every run gives out again. Which of the rows
under that identifier is meant is told by time alone: the pane was made while the window of that row
was open. As long as the clock does not go back, and each start falls between what was stamped before
and after it, the windows of one identifier do not overlap, and each covers the panes of its own run.

## Architecture

- **§1** runs one after the other on one clock (`Successive`), and what they stamp
- **§2** within one run: a session comes before its panes, and its closing after them
- **§3** windows: a row covers the panes of its session in its own run, and none of another run
- **§4** listing: what is listed for a row is what its run has recorded
-/

namespace PaneMux

open Time

/-! ## §1 Runs on one clock -/

/-- The time that is written down when an entry of the log is recorded: when something was made, or for
    a closing, when it is recorded. -/
def stamped? : Instant × LifecycleEvent → Option Instant
  | (now, .sessionClosed _) | (now, .paneClosed _ _) => some now
  | (_, e) => e.madeAt?

namespace DaemonRun

/-- The times that a run writes down. -/
def stamps (d : DaemonRun) : List Instant := d.log.filterMap stamped?

/-- The recorder hears what the registry tells, in order, or as much of it as it does not miss. Of the
    ends of processes it may hear at any time. -/
structure Overheard (d : DaemonRun) : Prop where
  heard : (lifeEvents (d.log.map (·.2))).Sublist (lifeEvents d.registry.events)
  sessions_fit : d.registry.nextSession ≤ 2 ^ 64

/-- The clock of a run does not go back. -/
structure Clocked (d : DaemonRun) : Prop where
  making : (d.acts.filterMap (·.madeAt?)).Pairwise fun a b => ¬ b.before a
  recording : (d.log.map (·.1)).Pairwise fun a b => ¬ b.before a
  /-- nothing is recorded before it was made -/
  prompt : ∀ x ∈ d.log, ∀ t ∈ x.2.madeAt?, ¬ x.1.before t

/-- The clock of a run is in the years from 0 to 9999, as every clock is that a run can read. -/
structure Dated (d : DaemonRun) : Prop where
  start : d.startedAt.IsWritten
  stamps : ∀ t ∈ d.stamps, t.IsWritten

end DaemonRun

/-- **Runs one after the other on one clock.** The start of each of them, when it closes what earlier
    runs have left open, lies by whole microseconds between what those have stamped and what it stamps
    itself. -/
structure Successive (ds : List DaemonRun) : Prop where
  overheard : ∀ d ∈ ds, d.Overheard
  clocked : ∀ d ∈ ds, d.Clocked
  opening : ∀ d ∈ ds, ∀ t ∈ d.stamps, d.startedAt.cut.before t.cut
  apart : ds.Pairwise fun d d' =>
    ¬ d'.startedAt.before d.startedAt ∧ ∀ t ∈ d.stamps, t.cut.before d'.startedAt.cut

section Logs

variable {d : DaemonRun} {c : SessionCard} {p : PaneDescriptor} {now : Instant} {id : Nat}

theorem exists_of_mem_openedSessions (h : c ∈ openedSessions d.log) :
    ∃ now s, (now, .sessionCreated s) ∈ d.log ∧ s.card = c := by
  obtain ⟨⟨now, e⟩, hx, he⟩ := List.mem_filterMap.mp h
  cases e with
  | sessionCreated s => exact ⟨now, s, hx, Option.some.inj he⟩
  | _ => cases he

theorem exists_of_mem_madePanes (h : p ∈ madePanes d.log) :
    ∃ now, (now, .paneCreated p) ∈ d.log := by
  obtain ⟨⟨now, e⟩, hx, he⟩ := List.mem_filterMap.mp h
  cases e with
  | paneCreated d =>
    rw [← Option.some.inj he]
    exact ⟨now, hx⟩
  | _ => cases he

theorem createdAt_mem_stamps (h : c ∈ openedSessions d.log) : c.createdAt ∈ d.stamps := by
  obtain ⟨now, s, hx, rfl⟩ := exists_of_mem_openedSessions h
  exact List.mem_filterMap.mpr ⟨_, hx, rfl⟩

theorem createdAt_mem_stamps_of_madePanes (h : p ∈ madePanes d.log) : p.createdAt ∈ d.stamps := by
  obtain ⟨now, hx⟩ := exists_of_mem_madePanes h
  exact List.mem_filterMap.mpr ⟨_, hx, rfl⟩

theorem mem_stamps_of_sessionClosed (h : (now, .sessionClosed id) ∈ d.log) : now ∈ d.stamps :=
  List.mem_filterMap.mpr ⟨_, h, rfl⟩

/-! ## §2 Within a run -/

/-- What is recorded has been told, unless it is the end of a process. -/
theorem DaemonRun.Overheard.mem_told (h : d.Overheard) {e : LifecycleEvent} (hx : (now, e) ∈ d.log)
    (he : e.isExit = false) : e ∈ d.registry.roll.panes.told := by
  refine h.heard.subset (List.mem_filter.mpr ⟨List.mem_map_of_mem hx, ?_⟩)
  rw [he]
  rfl

/-- **What is recorded is in order**, and so are the times of recording. -/
theorem DaemonRun.Clocked.pairwise (h : d.Clocked) (hheard : d.Overheard) :
    d.log.Pairwise fun x y => x.2.MayPrecede y.2 ∧ ¬ y.1.before x.1 := by
  have htold : (lifeEvents (d.log.map (·.2))).Pairwise LifecycleEvent.MayPrecede :=
    (Registry.pairwise_lifeEvents d.config h.making).sublist hheard.heard
  rw [lifeEvents, List.pairwise_filter, List.pairwise_map] at htold
  refine (htold.and (List.pairwise_map.mp h.recording)).imp fun {x y} hxy => ⟨?_, hxy.2⟩
  -- the end of a process may come anywhere
  cases hx : x.2.isExit with
  | true => exact .of_isExit (.inl hx)
  | false =>
    cases hy : y.2.isExit with
    | true => exact .of_isExit (.inr hy)
    | false => exact hxy.1 (by rw [hx]; rfl) (by rw [hy]; rfl)

theorem DaemonRun.Clocked.precedes (h : d.Clocked) (hheard : d.Overheard)
    {x y : Instant × LifecycleEvent} (hx : x ∈ d.log) (hy : y ∈ d.log) (hne : x.2 ≠ y.2) :
    (x.2.MayPrecede y.2 ∧ ¬ y.1.before x.1) ∨ (y.2.MayPrecede x.2 ∧ ¬ x.1.before y.1) := by
  have hpairs := List.pairwise_iff_getElem.mp (h.pairwise hheard)
  obtain ⟨i, hi, rfl⟩ := List.getElem_of_mem hx
  obtain ⟨j, hj, rfl⟩ := List.getElem_of_mem hy
  rcases Nat.lt_trichotomy i j with hless | rfl | hgreater
  · exact .inl (hpairs i j hi hj hless)
  · exact absurd rfl hne
  · exact .inr (hpairs j i hj hi hgreater)

theorem DaemonRun.Overheard.session_lt (h : d.Overheard) {s : Session}
    (hs : .sessionCreated s ∈ d.registry.roll.panes.told) : s.id < 2 ^ 64 :=
  Nat.lt_of_lt_of_le (d.recounted.within _ hs) h.sessions_fit

theorem DaemonRun.Overheard.opened_lt (h : d.Overheard) (hc : c ∈ openedSessions d.log) :
    c.id < 2 ^ 64 := by
  obtain ⟨now, s, hs, rfl⟩ := exists_of_mem_openedSessions hc
  exact h.session_lt (h.mem_told hs rfl)

theorem DaemonRun.Overheard.closed_lt (h : d.Overheard) (hx : (now, .sessionClosed id) ∈ d.log) :
    id < 2 ^ 64 :=
  Nat.lt_of_lt_of_le (d.recounted.within _ (h.mem_told hx rfl)) h.sessions_fit

theorem DaemonRun.Overheard.made_lt (h : d.Overheard) (hp : p ∈ madePanes d.log) :
    p.session < 2 ^ 64 := by
  obtain ⟨now, hp⟩ := exists_of_mem_madePanes hp
  obtain ⟨before, after, hsplit⟩ := List.append_of_mem (h.mem_told hp rfl)
  -- the session of a pane has been told before
  obtain ⟨⟨⟨s, hs, hid⟩, -⟩, -⟩ :=
    (Registry.replayed_run d.config d.acts).grounded before _ after hsplit
  rw [← hid]
  refine h.session_lt ?_
  rw [hsplit]
  exact List.mem_append_left _ hs

section Order

variable (h : d.Clocked) (hheard : d.Overheard) (hp : p ∈ madePanes d.log)

include h hheard hp

/-- A session is made before its panes. -/
theorem not_before_of_opened (hc : c ∈ openedSessions d.log) (hsession : p.session = c.id) :
    ¬ p.createdAt.before c.createdAt := by
  obtain ⟨now, s, hs, rfl⟩ := exists_of_mem_openedSessions hc
  obtain ⟨now', hp⟩ := exists_of_mem_madePanes hp
  rcases h.precedes hheard hs hp (by simp) with ⟨hfirst, -⟩ | ⟨hlast, -⟩
  · exact hfirst.times _ rfl _ rfl
  · exact absurd hsession.symm (hlast.session_first _ _ rfl rfl)

/-- A pane is made before the closing of its session is recorded. -/
theorem not_before_of_closed (hclosed : (now, .sessionClosed p.session) ∈ d.log) :
    ¬ now.before p.createdAt := by
  obtain ⟨now', hp⟩ := exists_of_mem_madePanes hp
  rcases h.precedes hheard hclosed hp (by simp) with ⟨hfirst, -⟩ | ⟨-, hlast⟩
  · exact absurd rfl (hfirst.closed_last _ _ rfl rfl)
  · -- the pane was made when it was recorded, at the latest
    exact fun hbefore => h.prompt _ hp _ rfl (Instant.before_of_not_before hlast hbefore)

end Order

end Logs

/-! ## §3 Windows -/

/-- A pane was made in a session, and while the window of a row was open. -/
def PaneFacts.inWindow (f : PaneFacts) (r : SessionRow) : Bool :=
  f.session = r.session && r.createdAt ≤ f.createdAt && r.closedAt.all (f.createdAt ≤ ·)

theorem PaneFacts.inWindow_iff {f : PaneFacts} {r : SessionRow} :
    f.inWindow r = true ↔ f.session = r.session ∧ r.createdAt ≤ f.createdAt ∧
      ∀ text ∈ r.closedAt, f.createdAt ≤ text := by
  cases hclosed : r.closedAt <;> simp [inWindow, hclosed, and_assoc]

theorem PaneDescriptor.session_facts (d : PaneDescriptor) : d.facts.session = rowId d.session := by
  rw [PaneDescriptor.facts]

namespace SessionRow

variable {r : SessionRow} {later : List DaemonRun}

/-- Later runs do not change more of a row than its end. -/
theorem exists_endBy_eq (r : SessionRow) (later : List DaemonRun) :
    ∃ closedAt, r.endBy later = { r with closedAt } := by
  unfold endBy closeBy
  split
  · exact ⟨r.closedAt, rfl⟩
  · split
    · exact ⟨_, rfl⟩
    · exact ⟨r.closedAt, rfl⟩

theorem id_endBy : (r.endBy later).id = r.id := by
  obtain ⟨closedAt, heq⟩ := r.exists_endBy_eq later
  rw [heq]

theorem session_endBy : (r.endBy later).session = r.session := by
  obtain ⟨closedAt, heq⟩ := r.exists_endBy_eq later
  rw [heq]

theorem createdAt_endBy : (r.endBy later).createdAt = r.createdAt := by
  obtain ⟨closedAt, heq⟩ := r.exists_endBy_eq later
  rw [heq]

/-- A row is closed in its own run, or else when the next one starts. -/
theorem closedAt_endBy {text : String} (h : text ∈ (r.endBy later).closedAt) :
    text ∈ r.closedAt ∨ ∃ d ∈ later.head?, text = d.startedAt.stamp := by
  cases later with
  | nil => exact .inl h
  | cons d later =>
    change text ∈ (r.closeBy d.startedAt.stamp).closedAt at h
    unfold closeBy at h
    split at h
    · exact .inr ⟨d, rfl, (Option.some.inj h).symm⟩
    · exact .inl h

theorem isSome_closedAt_endBy (h : later ≠ []) : (r.endBy later).closedAt.isSome := by
  cases later with
  | nil => exact absurd rfl h
  | cons d later => exact r.isSome_closeBy _

end SessionRow

section Windows

variable {earlier later : List DaemonRun} {d d' : DaemonRun} {c : SessionCard} {r : SessionRow}
  {p : PaneDescriptor} (hruns : Successive (earlier ++ d :: later))
  (hdated : ∀ d' ∈ earlier ++ d :: later, d'.Dated) (hc : c ∈ openedSessions d.log)
  (hr : r.IsOf c d.log)

include hruns

theorem Successive.mem_self : d.Overheard ∧ d.Clocked :=
  ⟨hruns.overheard d (by simp), hruns.clocked d (by simp)⟩

/-- A start does not come before an earlier one. -/
theorem Successive.start_le_of_head {d₁ : DaemonRun} (hd₁ : d₁ ∈ later.head?) (hd' : d' ∈ later) :
    ¬ d'.startedAt.before d₁.startedAt := by
  cases later with
  | nil => cases hd'
  | cons d₂ rest =>
    cases hd₁
    rcases List.mem_cons.mp hd' with rfl | hd'
    · exact fun hbefore => Instant.not_before_of_before hbefore hbefore
    · have hrest := (List.pairwise_append.mp hruns.apart).2.1
      exact ((List.pairwise_cons.mp (List.pairwise_cons.mp hrest).2).1 d' hd').1

theorem Successive.before_start (hd' : d' ∈ later) {t : Instant} (ht : t ∈ d.stamps) :
    t.cut.before d'.startedAt.cut := by
  have hrest := (List.pairwise_append.mp hruns.apart).2.1
  exact ((List.pairwise_cons.mp hrest).1 d' hd').2 t ht

theorem Successive.before_start_of_earlier (hd' : d' ∈ earlier) {t : Instant} (ht : t ∈ d'.stamps) :
    t.cut.before d.startedAt.cut :=
  ((List.pairwise_append.mp hruns.apart).2.2 d' hd' d (List.mem_cons_self ..)).2 t ht

include hdated hc hr

/-- In its own run, a pane of the session is made after the window was opened. -/
theorem Successive.opened_before (hp : p ∈ madePanes d.log) (hsession : p.session = c.id) :
    (r.endBy later).createdAt ≤ p.facts.createdAt := by
  obtain ⟨hheard, hclocked⟩ := hruns.mem_self
  have hstamps := (hdated d (by simp)).stamps
  rw [SessionRow.createdAt_endBy, hr.createdAt]
  refine (Instant.stamp_le_iff (hstamps _ (createdAt_mem_stamps hc))
    (hstamps _ (createdAt_mem_stamps_of_madePanes hp))).mpr ?_
  exact Instant.not_before_cut (not_before_of_opened hclocked hheard hp hc hsession)

/-- It is made before the window was closed, by its own run or by the next one. -/
theorem Successive.closed_after (hp : p ∈ madePanes d.log) (hsession : p.session = c.id)
    {text : String} (htext : text ∈ (r.endBy later).closedAt) : p.facts.createdAt ≤ text := by
  obtain ⟨hheard, hclocked⟩ := hruns.mem_self
  have hstamps := (hdated d (by simp)).stamps
  have hmem := createdAt_mem_stamps_of_madePanes hp
  rcases SessionRow.closedAt_endBy htext with htext | ⟨d₁, hd₁, rfl⟩
  · -- by its own run: what was closed under that number is the session of the pane
    obtain ⟨now, id, hclosed, hid, rfl⟩ := hr.closedAt text htext
    have hid : id = c.id := (rowId_eq_iff (hheard.closed_lt hclosed) (hheard.opened_lt hc)).mp hid
    have hclosed : (now, .sessionClosed p.session) ∈ d.log := by
      rw [hsession, ← hid]
      exact hclosed
    refine (Instant.stamp_le_iff (hstamps _ hmem)
      (hstamps _ (mem_stamps_of_sessionClosed hclosed))).mpr ?_
    exact Instant.not_before_cut (not_before_of_closed hclocked hheard hp hclosed)
  · have hd₁ : d₁ ∈ later := List.mem_of_mem_head? hd₁
    have hstart := (hdated d₁ (by simp [hd₁])).start
    exact le_of_lt (Instant.stamp_lt (hstamps _ hmem) hstart (hruns.before_start hd₁ hmem))

/-- **The window of a row covers the panes of its session** in its own run. -/
theorem Successive.inWindow_own (hp : p ∈ madePanes d.log) :
    p.facts.inWindow (r.endBy later) = decide (p.session = c.id) := by
  obtain ⟨hheard, -⟩ := hruns.mem_self
  have hsession : p.facts.session = (r.endBy later).session ↔ p.session = c.id := by
    rw [SessionRow.session_endBy, hr.session, PaneDescriptor.session_facts]
    exact rowId_eq_iff (hheard.made_lt hp) (hheard.opened_lt hc)
  rw [Bool.eq_iff_iff, PaneFacts.inWindow_iff, decide_eq_true_iff, hsession]
  -- the session decides: a pane of another one may be made in the same window
  refine and_iff_left_of_imp fun hown => ⟨?_, fun text htext => ?_⟩
  · exact hruns.opened_before hdated hc hr hp hown
  · exact hruns.closed_after hdated hc hr hp hown htext

/-- **No window covers a pane of an earlier run**, which was made before it was opened. -/
theorem Successive.inWindow_earlier (hd' : d' ∈ earlier) (hp : p ∈ madePanes d'.log) :
    p.facts.inWindow (r.endBy later) = false := by
  have hmem := createdAt_mem_stamps_of_madePanes hp
  have hbefore : p.createdAt.stamp < c.createdAt.stamp := by
    refine Instant.stamp_lt ((hdated d' (by simp [hd'])).stamps _ hmem)
      ((hdated d (by simp)).stamps _ (createdAt_mem_stamps hc)) ?_
    -- between them is the start of the run
    exact Instant.before_of_not_before
      (Instant.not_before_of_before (hruns.before_start_of_earlier hd' hmem))
      (hruns.opening d (by simp) _ (createdAt_mem_stamps hc))
  rw [Bool.eq_false_iff, ne_eq, PaneFacts.inWindow_iff]
  rintro ⟨-, hafter, -⟩
  rw [SessionRow.createdAt_endBy, hr.createdAt] at hafter
  exact not_le.mpr hbefore hafter

omit hc in
/-- **No window covers a pane of a later run**, which was made after it was closed. -/
theorem Successive.inWindow_later (hd' : d' ∈ later) (hp : p ∈ madePanes d'.log) :
    p.facts.inWindow (r.endBy later) = false := by
  have hmem := createdAt_mem_stamps_of_madePanes hp
  have hwritten := (hdated d' (by simp [hd'])).stamps _ hmem
  have hstart := hruns.opening d' (by simp [hd']) _ hmem
  obtain ⟨text, htext⟩ :=
    Option.isSome_iff_exists.mp (r.isSome_closedAt_endBy (List.ne_nil_of_mem hd'))
  have hbefore : text < p.createdAt.stamp := by
    rcases SessionRow.closedAt_endBy htext with htext | ⟨d₁, hd₁, rfl⟩
    · obtain ⟨now, id, hclosed, -, rfl⟩ := hr.closedAt text htext
      have hnow := mem_stamps_of_sessionClosed hclosed
      refine Instant.stamp_lt ((hdated d (by simp)).stamps _ hnow) hwritten ?_
      exact Instant.before_of_not_before
        (Instant.not_before_of_before (hruns.before_start hd' hnow)) hstart
    · -- it was closed by the start of the next run, and that is the later one or comes before it
      have hd₁' : d₁ ∈ later := List.mem_of_mem_head? hd₁
      refine Instant.stamp_lt (hdated d₁ (by simp [hd₁'])).start hwritten ?_
      exact Instant.before_of_not_before
        (Instant.not_before_cut (hruns.start_le_of_head hd₁ hd')) hstart
  rw [Bool.eq_false_iff, ne_eq, PaneFacts.inWindow_iff]
  rintro ⟨-, -, hall⟩
  exact not_le.mpr hbefore (hall text htext)

end Windows

/-! ## §4 Listing -/

/-- What an entry shows of a pane as it was made. -/
def PaneEntry.made (e : PaneEntry) : Store.NewPane :=
  ⟨e.pane, e.session, e.kind, e.title, e.shell, e.args, e.cwd, e.createdAt⟩

namespace Store

theorem entry_of_facts {r : PaneRow} {p : PaneDescriptor} (h : r.facts = p.facts) :
    ∃ e, entry r = .ok e ∧ e.id = r.id ∧ e.made = newPane p := by
  -- a row and an entry differ in the arguments only, which a row keeps as one text
  rw [← facts_newPane] at h
  generalize newPane p = q at h ⊢
  cases q
  simp only [PaneRow.facts, NewPane.facts, PaneFacts.mk.injEq] at h
  obtain ⟨rfl, rfl, rfl, rfl, rfl, hargs, rfl, rfl⟩ := h
  rw [entry, hargs, readArgs_argsText]
  exact ⟨_, rfl, rfl, rfl⟩

theorem mapM_entry {rows : List PaneRow} {ps : List PaneDescriptor}
    (h : rows.map (·.facts) = ps.map (·.facts)) :
    ∃ entries, rows.mapM entry = .ok entries ∧ entries.map (·.id) = rows.map (·.id) ∧
      entries.map (·.made) = ps.map newPane := by
  induction rows generalizing ps with
  | nil =>
    rw [List.map_nil, eq_comm, List.map_eq_nil_iff] at h
    exact ⟨[], rfl, rfl, by rw [h]; rfl⟩
  | cons r rows ih =>
    obtain ⟨p, ps, rfl, hfirst, hrest⟩ := List.map_eq_cons_iff.mp h.symm
    obtain ⟨e, he, hid, hmade⟩ := entry_of_facts hfirst.symm
    obtain ⟨entries, hentries, hids, hmades⟩ := ih hrest.symm
    refine ⟨e :: entries, ?_, ?_, ?_⟩
    · rw [List.mapM_cons, he, hentries]
      rfl
    · rw [List.map_cons, List.map_cons, hid, hids]
    · rw [List.map_cons, List.map_cons, hmade, hmades]

variable {s : Store}

/-- In a store of the current version, the panes of a row are found by its window. -/
theorem Current.listPanes_eq (h : s.Current) {r : SessionRow} (hr : r ∈ s.sessionRows) :
    s.listPanes r.id = (s.paneRows.filter (belongsTo r)).mapM entry := by
  obtain ⟨t, ht, hnumbered⟩ := h.sessions
  obtain ⟨u, hu, -⟩ := h.panes
  rw [sessionRows_eq ht] at hr
  rw [paneRows_eq hu]
  -- rows are numbered, so the one that is looked up is the row itself
  have hfind : t.rows.find? (·.id = r.id) = some r := Keyed.find?_eq_some hnumbered.nodup hr
  unfold listPanes currentPaneTable paneTable sessionTable
  rw [ht, hu]
  simp only [bind, Except.bind, h.column u hu, if_true, pure, Except.pure, hfind]

theorem map_known_rowsSince {before after : Store} {own : List (Int × PaneFacts)}
    (h : after.paneRows.map (·.known) = before.paneRows.map (·.known) ++ own) :
    (before.rowsSince after).map (·.known) = own := by
  rw [rowsSince, List.map_drop, h, ← List.length_map (·.known), List.drop_left]

theorem filter_inWindow_eq_nil {ds : List DaemonRun} {r : SessionRow} {known : List (Int × PaneFacts)}
    (hknown : known.map (·.2) = (ds.flatMap fun d => madePanes d.log).map (·.facts))
    (hnone : ∀ d ∈ ds, ∀ p ∈ madePanes d.log, p.facts.inWindow r = false) :
    known.filter (·.2.inWindow r) = [] := by
  refine List.filter_eq_nil_iff.mpr fun k hk => ?_
  have hmem : k.2 ∈ (ds.flatMap fun d => madePanes d.log).map (·.facts) :=
    hknown ▸ List.mem_map_of_mem hk
  obtain ⟨p, hp, hfacts⟩ := List.mem_map.mp hmem
  obtain ⟨d, hd, hp⟩ := List.mem_flatMap.mp hp
  rw [← hfacts, hnone d hd p hp]
  exact Bool.false_ne_true

section Listing

variable {earlier later : List DaemonRun} {d : DaemonRun} {before after : Store}
  (hruns : Successive (earlier ++ d :: later)) (hdated : ∀ d' ∈ earlier ++ d :: later, d'.Dated)
  (hbefore : fresh.afterRuns earlier = .ok before) (hafter : before.afterRun d = .ok after)
  (hs : after.afterRuns later = .ok s) {r : SessionRow} {c : SessionCard}
  (hc : c ∈ openedSessions d.log) (hr : r.IsOf c d.log)

include hruns hdated hbefore hafter hs hc hr

/-- **What a window covers** are the panes of the session that its run has made. -/
theorem exists_own :
    ∃ own, (before.rowsSince after).map (·.known) = own ∧
      own.map (·.2) = (madePanes d.log).map (·.facts) ∧
      (s.paneRows.filter (belongsTo (r.endBy later))).map (·.known) =
        own.filter (·.2.inWindow (r.endBy later)) := by
  -- the rows of panes are those of earlier runs, those of this one, and those of later ones
  obtain ⟨b, hb, hcurrent, -, known, hknown, hearlier⟩ := current_fresh.afterRuns earlier
  cases hb.symm.trans hbefore
  obtain ⟨a, ha, hcurrent', -, own, hown, hmade⟩ := hcurrent.afterRun d
  cases ha.symm.trans hafter
  obtain ⟨s', hs', -, -, more, hmore, hlater⟩ := hcurrent'.afterRuns later
  cases hs'.symm.trans hs
  have hnone : known.filter (·.2.inWindow (r.endBy later)) = [] :=
    filter_inWindow_eq_nil hearlier fun d' hd' p hp => hruns.inWindow_earlier hdated hc hr hd' hp
  have hnone' : more.filter (·.2.inWindow (r.endBy later)) = [] :=
    filter_inWindow_eq_nil hlater fun d' hd' p hp => hruns.inWindow_later hdated hr hd' hp
  refine ⟨own, map_known_rowsSince hown, hmade, ?_⟩
  calc (s.paneRows.filter (belongsTo (r.endBy later))).map (·.known)
    _ = (s.paneRows.map (·.known)).filter (·.2.inWindow (r.endBy later)) := by
      rw [List.filter_map]
      rfl
    _ = own.filter (·.2.inWindow (r.endBy later)) := by
      rw [hmore, hown, hknown, List.filter_append, List.filter_append, List.filter_append, hnone,
        hnone', List.append_nil]
      rfl

/-- They are the rows of the run under the identifier of the session. -/
theorem map_id_filter_belongsTo :
    (s.paneRows.filter (belongsTo (r.endBy later))).map (·.id) =
      ((before.rowsSince after).filter (·.session = r.session)).map (·.id) := by
  obtain ⟨own, hsince, hmade, hrows⟩ := exists_own hruns hdated hbefore hafter hs hc hr
  -- among the rows of one run, the number of the session says as much as the window does
  have hsession : own.filter (·.2.inWindow (r.endBy later)) =
      own.filter (·.2.session = r.session) := by
    refine List.filter_congr fun k hk => ?_
    obtain ⟨p, hp, hfacts⟩ := List.mem_map.mp (hmade ▸ List.mem_map_of_mem hk : k.2 ∈ _)
    have hiff : k.2.session = r.session ↔ p.session = c.id := by
      rw [← hfacts, PaneDescriptor.session_facts, hr.session]
      exact rowId_eq_iff (hruns.mem_self.1.made_lt hp) (hruns.mem_self.1.opened_lt hc)
    rw [← hfacts, hruns.inWindow_own hdated hc hr hp, hfacts, decide_eq_decide, hiff]
  calc (s.paneRows.filter (belongsTo (r.endBy later))).map (·.id)
    _ = ((s.paneRows.filter (belongsTo (r.endBy later))).map (·.known)).map (·.1) := by
      rw [List.map_map]
      rfl
    _ = (((before.rowsSince after).map (·.known)).filter (·.2.session = r.session)).map (·.1) := by
      rw [hrows, hsession, hsince]
    _ = ((before.rowsSince after).filter (·.session = r.session)).map (·.id) := by
      rw [List.filter_map, List.map_map]
      rfl

/-- They tell of the panes that were made in the session, in order. -/
theorem map_facts_filter_belongsTo :
    (s.paneRows.filter (belongsTo (r.endBy later))).map (·.facts) =
      ((madePanes d.log).filter (·.session = c.id)).map (·.facts) := by
  obtain ⟨own, -, hmade, hrows⟩ := exists_own hruns hdated hbefore hafter hs hc hr
  calc (s.paneRows.filter (belongsTo (r.endBy later))).map (·.facts)
    _ = ((s.paneRows.filter (belongsTo (r.endBy later))).map (·.known)).map (·.2) := by
      rw [List.map_map]
      rfl
    _ = (own.map (·.2)).filter (·.inWindow (r.endBy later)) := by
      rw [hrows, List.filter_map]
      rfl
    _ = ((madePanes d.log).filter (·.facts.inWindow (r.endBy later))).map (·.facts) := by
      rw [hmade, List.filter_map, Function.comp_def]
    _ = ((madePanes d.log).filter (·.session = c.id)).map (·.facts) := by
      rw [List.filter_congr fun p hp => hruns.inWindow_own hdated hc hr hp]

end Listing

/-- **Panes are listed by the run of their session.** After any number of runs over one store, each row
    of a session is one that some run has added for a session it has recorded, and what is listed for
    that row are the rows of panes that this run has added for that session, all of them and no others,
    in the order of recording, and as the panes were made. The years 0 to 9999 are the range of the
    clock. -/
theorem panes_listed_by_run {ds : List DaemonRun} (hruns : Successive ds)
    (hdated : ∀ d ∈ ds, d.Dated) :
    ∃ s, fresh.afterRuns ds = .ok s ∧ (s.paneRows.map (·.id)).Nodup ∧ ∀ r ∈ s.sessionRows,
      ∃ earlier d later before after c, ds = earlier ++ d :: later ∧
        fresh.afterRuns earlier = .ok before ∧ before.afterRun d = .ok after ∧
        r.id ∈ (before.sessionRowsSince after).map (·.id) ∧
        c ∈ openedSessions d.log ∧ r.session = rowId c.id ∧ r.createdAt = c.createdAt.stamp ∧
        ∃ entries, s.listPanes r.id = .ok entries ∧
          entries.map (·.id) = ((before.rowsSince after).filter (·.session = r.session)).map (·.id) ∧
          entries.map (·.made) = ((madePanes d.log).filter (·.session = c.id)).map newPane := by
  obtain ⟨s, hs, hcurrent, -, -⟩ := current_fresh.afterRuns ds
  obtain ⟨t, ht, hnumbered⟩ := hcurrent.panes
  refine ⟨s, hs, paneRows_eq ht ▸ hnumbered.nodup, fun r hr => ?_⟩
  -- the run that has added the row, and the session that it was added for
  obtain ⟨earlier, d, later, before, after, rfl, hbefore, hafter, hlater, r₀, hr₀, rfl⟩ :=
    current_fresh.exists_run hs (show r ∈ s.sessionRows.drop 0 from hr)
  obtain ⟨c, hc, hof⟩ := current_fresh.exists_of_mem_since hbefore hafter hr₀
  have hids := map_id_filter_belongsTo hruns hdated hbefore hafter hlater hc hof
  -- every row that is found can be shown, as it has the facts of a pane
  obtain ⟨entries, hentries, hlisted, hmade⟩ := mapM_entry
    (map_facts_filter_belongsTo hruns hdated hbefore hafter hlater hc hof)
  refine ⟨earlier, d, later, before, after, c, rfl, hbefore, hafter, ?_, hc, ?_, ?_, entries, ?_, ?_,
    hmade⟩
  · rw [SessionRow.id_endBy]
    exact List.mem_map_of_mem hr₀
  · rw [SessionRow.session_endBy, hof.session]
  · rw [SessionRow.createdAt_endBy, hof.createdAt]
  · rw [hcurrent.listPanes_eq hr, hentries]
  · rw [hlisted, hids, SessionRow.session_endBy]

/-- A run that makes a session and a pane in it, a second after the other, and then records both. -/
private def briefRun (second : Int) : DaemonRun :=
  let acts : List Registry.Act :=
    [.createSession ⟨second + 1, 0⟩ none, .createPane ⟨⟨second + 2, 0⟩, 0⟩ 1 .editor {}]
  { config := {}
    startedAt := ⟨second, 0⟩
    acts
    log := ((Registry.new {}).run acts).events.map (⟨second + 3, 0⟩, ·) }

private theorem overheard_briefRun (second : Int) : (briefRun second).Overheard where
  heard := by
    rw [briefRun, List.map_map]
    exact List.Sublist.refl _
  sessions_fit := by
    show 2 ≤ 2 ^ 64
    decide

private theorem clocked_briefRun (second : Int) : (briefRun second).Clocked := by
  constructor
  case making =>
    show List.Pairwise _ [(⟨second + 1, 0⟩ : Instant), ⟨second + 2, 0⟩]
    simp [Instant.before]
  case recording =>
    show List.Pairwise _ [(⟨second + 3, 0⟩ : Instant), ⟨second + 3, 0⟩]
    simp [Instant.before]
  case prompt =>
    intro x hx t ht
    have hnow : x.1 = ⟨second + 3, 0⟩ := by
      obtain ⟨e, -, rfl⟩ := List.mem_map.mp hx
      rfl
    have hmade : t ∈ (briefRun second).log.filterMap (·.2.madeAt?) :=
      List.mem_filterMap.mpr ⟨x, hx, ht⟩
    change t ∈ [(⟨second + 1, 0⟩ : Instant), ⟨second + 2, 0⟩] at hmade
    rw [hnow]
    rcases List.mem_pair.mp hmade with rfl | rfl <;> simp [Instant.before]

/-- Runs of this kind come one after the other if each starts when the one before it has ended. -/
private theorem successive_briefRuns (seconds : List Int) (h : seconds.Pairwise (· + 2 < ·)) :
    Successive (seconds.map briefRun) := by
  have hall : ∀ {P : DaemonRun → Prop}, (∀ second, P (briefRun second)) →
      ∀ d ∈ seconds.map briefRun, P d := fun hP => List.forall_mem_map.mpr fun second _ => hP second
  constructor
  case overheard => exact hall overheard_briefRun
  case clocked => exact hall clocked_briefRun
  case opening =>
    refine hall fun second => ?_
    show ∀ t ∈ [(⟨second + 1, 0⟩ : Instant), ⟨second + 2, 0⟩],
      Instant.before (.cut ⟨second, 0⟩) t.cut
    simp [Instant.cut, Instant.before]
  case apart =>
    refine List.pairwise_map.mpr (h.imp fun {a b} hab => ?_)
    show ¬ Instant.before ⟨b, 0⟩ ⟨a, 0⟩ ∧
      ∀ t ∈ [(⟨a + 1, 0⟩ : Instant), ⟨a + 2, 0⟩], t.cut.before (.cut ⟨b, 0⟩)
    simp [Instant.cut, Instant.before]
    omega

/-- Two runs, with a session and a pane under the same identifiers: each session lists the pane of its
    own run. -/
theorem panes_listed_by_run_twice :
    let ds := [briefRun 0, briefRun 10]
    Successive ds ∧ (∀ d ∈ ds, d.Dated) ∧ ∃ s, fresh.afterRuns ds = .ok s ∧
      s.sessionRows.map (fun r => (r.id, r.session)) = [(1, 1), (2, 1)] ∧
      (∀ r ∈ s.sessionRows, ∃ entries, s.listPanes r.id = .ok entries ∧ entries.length = 1) := by
  intro ds
  have hruns : Successive ds := successive_briefRuns [0, 10] (by decide)
  have hdated : ∀ d ∈ ds, d.Dated := by
    intro d hd
    rcases List.mem_pair.mp hd with rfl | rfl <;>
      exact ⟨by decide +kernel, by decide +kernel⟩
  obtain ⟨s, hs, -, hlisted⟩ := panes_listed_by_run hruns hdated
  have hrows : (fresh.afterRuns ds).toOption.map (·.sessionRows.map fun r => (r.id, r.session)) =
      some [(1, 1), (2, 1)] := by
    decide +kernel
  rw [hs] at hrows
  refine ⟨hruns, hdated, s, hs, Option.some.inj hrows, fun r hr => ?_⟩
  obtain ⟨earlier, d, later, before, after, c, hds, -, -, -, hc, -, -, entries, hentries, -, hmade⟩ :=
    hlisted r hr
  refine ⟨entries, hentries, ?_⟩
  obtain ⟨second, rfl⟩ : ∃ second, d = briefRun second := by
    have hd : d ∈ ds := by rw [hds]; simp
    rcases List.mem_pair.mp hd with rfl | rfl <;> exact ⟨_, rfl⟩
  have hc : c = ⟨1, "session-1", ⟨second + 1, 0⟩⟩ := List.mem_singleton.mp hc
  have hlength := congrArg List.length hmade
  rw [List.length_map, hc, List.length_map] at hlength
  exact hlength

end Store

end PaneMux
