import PaneMux.Proofs.History.Mirror

/-!
# Ends of Processes in the History

The end of a process is made known by whoever reads its output, and independently of the pane it
belongs to: that pane may have been closed by then, or not have been made known yet. It is noted on
the newest row of the pane's identifier, open or not. Closed panes are found that way, but identifiers
begin again with every run: before the pane is made known its newest row is one of an earlier run.

## Architecture

- **§1** the newest of several rows, and which rows a change of it leaves alone
- **§2** what a log tells of the ends of processes (`endings`)
- **§3** `Store.Follows`: rows of earlier runs, and then the endings that this run has told; kept by
  every entry that is recorded
- **§4** where the end of a process is noted, and where it is not
-/

namespace PaneMux

/-! ## §1 The newest row -/

namespace Store

variable {α : Type} {number : α → Int} {p : α → Bool}

/-- No number that is looked at is above the greatest one. -/
private theorem le_foldl_max (xs : List α) {best : Option Int} {n : Int}
    (h : xs.foldl (fun best r => some (best.elim (number r) (max (number r)))) best = some n) :
    (∀ r ∈ xs, number r ≤ n) ∧ ∀ b ∈ best, b ≤ n := by
  induction xs generalizing best with
  | nil =>
    refine ⟨fun _ hr => (nomatch hr), fun b hb => ?_⟩
    rw [show best = some n from h] at hb
    exact Int.le_of_eq (Option.some.inj hb).symm
  | cons x xs ih =>
    obtain ⟨hrest, hbest⟩ := ih h
    have hx := hbest _ rfl
    cases best with
    | none => exact ⟨List.forall_mem_cons.mpr ⟨hx, hrest⟩, fun _ hb => nomatch hb⟩
    | some b =>
      have hmax : max (number x) b ≤ n := hx
      refine ⟨List.forall_mem_cons.mpr ⟨by omega, hrest⟩, fun b' hb' => ?_⟩
      cases hb'
      omega

/-- **The newest row is above all others** that are looked for. -/
theorem le_newest {rows : List α} {n : Int} (h : newest number p rows = some n) :
    ∀ r ∈ rows, p r = true → number r ≤ n :=
  fun r hr hp => (le_foldl_max _ h).1 r (List.mem_filter.mpr ⟨hr, hp⟩)

end Store

namespace Table

variable {α : Type} {number : α → Int} {t : Table α}

/-- **A change of the newest row** is one of the row that is looked for and above all others that are;
    every other row stays. -/
theorem Numbered.exists_changeNewest (h : t.Numbered number) (p : α → Bool) (f : α → α) :
    ∃ g : α → α, (t.changeNewest number p f).rows = t.rows.map g ∧ ∀ r ∈ t.rows,
      (p r = true ∧ (∀ r' ∈ t.rows, p r' = true → number r' ≤ number r) ∧ g r = f r) ∨
      ((p r = true → ∃ r' ∈ t.rows, p r' = true ∧ number r < number r') ∧ g r = r) := by
  unfold Table.changeNewest
  cases hnewest : Store.newest number p t.rows with
  | none =>
    refine ⟨fun r => r, (List.map_id _).symm, fun r hr => .inr ⟨fun hp => ?_, rfl⟩⟩
    rw [Store.eq_false_of_newest_eq_none hnewest r hr] at hp
    cases hp
  | some n =>
    obtain ⟨r₀, hr₀, hp₀, rfl⟩ := Store.exists_of_newest_eq_some hnewest
    have hle := Store.le_newest hnewest
    refine ⟨fun r => if number r = number r₀ then f r else r, by simp [Table.update], fun r hr => ?_⟩
    by_cases hsame : number r = number r₀
    · have heq : r = r₀ := List.inj_on_of_nodup_map h.nodup hr hr₀ hsame
      exact .inl ⟨heq ▸ hp₀, fun r' hr' hp' => hsame ▸ hle r' hr' hp', if_pos hsame⟩
    · refine .inr ⟨fun hp => ⟨r₀, hr₀, hp₀, ?_⟩, if_neg hsame⟩
      have := hle r hr hp
      omega

end Table

/-! ## §2 Endings -/

/-- A pane that a log tells of, and what it tells of the end of its process from then on. -/
structure Ending where
  pane : Nat
  code : Option Int32
  killed : Bool
  deriving DecidableEq, Repr

namespace Ending

/-- The end of a process is that of a pane which has been told of. -/
def note (id : Nat) (code : Option Int32) (killed : Bool) (e : Ending) : Ending :=
  if e.pane = id then { e with code, killed } else e

@[simp] theorem pane_note (id : Nat) (code : Option Int32) (killed : Bool) (e : Ending) :
    (e.note id code killed).pane = e.pane := by
  unfold note
  split <;> rfl

/-- What one more entry tells. Where nothing is known of an end, `unknown` stands for whether the
    process was killed. -/
def hear (unknown : Bool) (es : List Ending) : LifecycleEvent → List Ending
  | .paneCreated d => es ++ [⟨d.id, none, unknown⟩]
  | .paneExited id code killed => es.map (note id code killed)
  | _ => es

end Ending

/-- What a log tells of the ends of processes. -/
def endings (unknown : Bool) (events : List LifecycleEvent) : List Ending :=
  events.foldl (Ending.hear unknown) []

/-- The pane that an entry in the log tells the end of the process of. -/
def LifecycleEvent.exited? : LifecycleEvent → Option Nat
  | .paneExited id _ _ => some id
  | _ => none

/-- The panes whose processes have ended, in the order in which that was made known. -/
def exitedPanes (events : List LifecycleEvent) : List Nat :=
  events.filterMap LifecycleEvent.exited?

section Endings

variable {unknown : Bool} {events before after : List LifecycleEvent} {e : LifecycleEvent}
  {id : Nat} {code : Option Int32} {killed : Bool}

theorem endings_append_singleton :
    endings unknown (events ++ [e]) = Ending.hear unknown (endings unknown events) e :=
  List.foldl_append

theorem createdPanes_append : createdPanes (before ++ after) = createdPanes before ++ createdPanes after :=
  List.filterMap_append

theorem exitedPanes_append : exitedPanes (before ++ after) = exitedPanes before ++ exitedPanes after :=
  List.filterMap_append

/-- There is an ending for each pane that was made. -/
theorem map_pane_endings (unknown : Bool) (events : List LifecycleEvent) :
    (endings unknown events).map (·.pane) = createdPanes events := by
  induction events using List.reverseRecOn with
  | nil => rfl
  | append_singleton events e ih =>
    rw [endings_append_singleton, createdPanes_append, ← ih]
    cases e with
    | paneCreated d => simp [Ending.hear, createdPanes, LifecycleEvent.created?]
    | paneExited id code killed =>
      simp [Ending.hear, createdPanes, LifecycleEvent.created?, Function.comp_def]
    | _ => simp [Ending.hear, createdPanes, LifecycleEvent.created?]

/-- What is known of a pane stays known, unless the end of its process is told once more. -/
theorem mem_endings_append {x : Ending} (h : x ∈ endings unknown before)
    (hnone : x.pane ∉ exitedPanes after) : x ∈ endings unknown (before ++ after) := by
  induction after using List.reverseRecOn with
  | nil => simpa using h
  | append_singleton after e ih =>
    rw [exitedPanes_append, List.mem_append, not_or] at hnone
    have hx := ih hnone.1
    rw [← List.append_assoc, endings_append_singleton]
    cases e with
    | paneCreated d => exact List.mem_append_left _ hx
    | paneExited id code killed =>
      have hne : x.pane ≠ id := by simpa [exitedPanes, LifecycleEvent.exited?] using hnone.2
      exact List.mem_map.mpr ⟨x, hx, if_neg hne⟩
    | _ => exact hx

/-- **An end that is told after its pane** is what the log tells of it, if it is told once. -/
theorem mem_endings_of_exit (hcreated : id ∈ createdPanes before) (honce : id ∉ exitedPanes after) :
    ⟨id, code, killed⟩ ∈ endings unknown (before ++ .paneExited id code killed :: after) := by
  rw [← map_pane_endings unknown] at hcreated
  obtain ⟨x, hx, rfl⟩ := List.mem_map.mp hcreated
  rw [List.append_cons]
  refine mem_endings_append ?_ honce
  rw [endings_append_singleton]
  exact List.mem_map.mpr ⟨x, hx, if_pos rfl⟩

/-- **An end that is told before its pane** is nothing that the log tells of it. -/
theorem mem_endings_of_created {d : PaneDescriptor} (hnone : d.id ∉ exitedPanes after) :
    ⟨d.id, none, unknown⟩ ∈ endings unknown (before ++ .paneCreated d :: after) := by
  rw [List.append_cons]
  refine mem_endings_append ?_ hnone
  rw [endings_append_singleton]
  exact List.mem_append_right _ (List.mem_singleton_self _)

end Endings

/-! ## §3 Recording -/

/-- Every process whose end is told belongs to a pane that has been told of by then. -/
def Timely (events : List LifecycleEvent) : Prop :=
  ∀ before e after id, events = before ++ e :: after → e.exited? = some id →
    id ∈ createdPanes before

theorem Timely.of_append_singleton {events : List LifecycleEvent} {e : LifecycleEvent}
    (h : Timely (events ++ [e])) : Timely events :=
  fun before x after id heq hx => h before x (after ++ [e]) id (by simp [heq]) hx

theorem Timely.mem_createdPanes {events : List LifecycleEvent} {e : LifecycleEvent} {id : Nat}
    (h : Timely (events ++ [e])) (he : e.exited? = some id) : id ∈ createdPanes events :=
  h events e [] id rfl he

/-- What a row tells of the end of a process. -/
def PaneRow.ending (r : PaneRow) : Int × Option Int32 × Bool := (r.pane, r.code, r.killed)

/-- What is to be told in a row. -/
def Ending.row (e : Ending) : Int × Option Int32 × Bool := (rowId e.pane, e.code, e.killed)

theorem Ending.row_fst (e : Ending) : e.row.1 = rowId e.pane := by rw [row]

theorem Ending.row_note {e : Ending} {id : Nat} (he : e.pane < 2 ^ 64) (hid : id < 2 ^ 64)
    (code : Option Int32) (killed : Bool) :
    (e.note id code killed).row =
      if e.row.1 = rowId id then (e.row.1, code, killed) else e.row := by
  have hiff : rowId e.pane = rowId id ↔ e.pane = id := rowId_eq_iff he hid
  rw [row_fst, note]
  by_cases hsame : e.pane = id
  · rw [if_pos hsame, if_pos (hiff.mpr hsame), row]
  · rw [if_neg hsame, if_neg (hiff.not.mpr hsame)]

/-- Rows that tell endings are rows of their panes. -/
theorem map_pane_of_endings {rows : List PaneRow} {es : List Ending}
    (h : rows.map PaneRow.ending = es.map Ending.row) :
    rows.map (·.pane) = es.map fun e => rowId e.pane := by
  simpa [Function.comp_def, PaneRow.ending, Ending.row] using congrArg (List.map Prod.fst) h

/-- Distinct panes have distinct rows. -/
theorem nodup_pane_of_endings {rows : List PaneRow} {unknown : Bool} {events : List LifecycleEvent}
    (h : rows.map PaneRow.ending = (endings unknown events).map Ending.row)
    (hnodup : (createdPanes events).Nodup) (hfit : ∀ id ∈ createdPanes events, id < 2 ^ 64) :
    (rows.map (·.pane)).Nodup := by
  rw [map_pane_of_endings h, ← Function.comp_def rowId, ← List.map_map, map_pane_endings]
  exact List.Nodup.map_on (fun m hm n hn => (rowId_eq_iff (hfit m hm) (hfit n hn)).mp) hnodup

namespace Store

/-- A store that earlier runs have left: brought up to date, with all its rows closed. `unknown` is
    what a new row says of whether its process was killed. -/
structure Dormant (s : Store) (unknown : Bool) : Prop extends s.Sound where
  column : s.panes.bind (·.newKilled) = some unknown
  sessions_closed : ∀ r ∈ s.sessionRows, r.closedAt.isSome
  panes_closed : ∀ r ∈ s.paneRows, r.closedAt.isSome

/-- **A store follows another one** when a log has been recorded: the rows that there were, all of them
    closed, and after them the endings of the panes that the log tells of. Rows that there were are
    the same ones as long as the ends of processes are told after their panes. -/
structure Follows (s before : Store) (unknown : Bool) (events : List LifecycleEvent) : Prop
    extends s.Sound where
  column : s.panes.bind (·.newKilled) = some unknown
  sessions_before : before.sessionRows <+: s.sessionRows
  rows : ∃ old new, s.paneRows = old ++ new ∧ old.length = before.paneRows.length ∧
    (∀ r ∈ old, r.closedAt.isSome) ∧ (Timely events → old = before.paneRows) ∧
    new.map PaneRow.ending = (endings unknown events).map Ending.row

variable {s before : Store} {unknown : Bool} {events : List LifecycleEvent} {e : LifecycleEvent}

theorem newKilled_eq (h : s.panes.bind (·.newKilled) = some unknown) {t : PaneTable}
    (ht : s.panes = some t) : t.newKilled = some unknown := by
  rwa [ht] at h

theorem Dormant.follows (h : s.Dormant unknown) : s.Follows s unknown [] where
  toSound := h.toSound
  column := h.column
  sessions_before := List.prefix_refl _
  rows := ⟨s.paneRows, [], (List.append_nil _).symm, rfl, h.panes_closed, fun _ => rfl, rfl⟩

/-- An entry that tells neither of a new pane nor of the end of a process. -/
theorem endings_of_other (hcreated : e.created? = none) (hexited : e.exited? = none) :
    endings unknown (events ++ [e]) = endings unknown events := by
  rw [endings_append_singleton]
  cases e with
  | paneCreated d => cases hcreated
  | paneExited id code killed => cases hexited
  | _ => rfl

/-- Only sessions change. -/
theorem Follows.of_sessions (h : s.Follows before unknown events) {t : Table SessionRow}
    (ht : t.Numbered (·.id)) (hbefore : before.sessionRows <+: t.rows)
    (hcreated : e.created? = none) (hexited : e.exited? = none) :
    ({ s with sessions := some t } : Store).Follows before unknown (events ++ [e]) where
  sessions := ⟨t, rfl, ht⟩
  panes := h.panes
  column := h.column
  sessions_before := hbefore
  rows := by
    rw [endings_of_other hcreated hexited]
    obtain ⟨old, new, hrows, hlength, hclosed, hsame, hnew⟩ := h.rows
    exact ⟨old, new, hrows, hlength, hclosed, fun htimely => hsame htimely.of_append_singleton, hnew⟩

/-- The newest open row of a session is none of those that are closed. -/
theorem Follows.updateSession (h : s.Follows before unknown events)
    (hclosed : ∀ r ∈ before.sessionRows, r.closedAt.isSome) (session : Int)
    {f : SessionRow → SessionRow} (hid : ∀ r, (f r).id = r.id) (hcreated : e.created? = none)
    (hexited : e.exited? = none) :
    ∃ found s', s.updateSession session f = .ok (found, s') ∧
      s'.Follows before unknown (events ++ [e]) := by
  obtain ⟨t, ht, hnumbered⟩ := h.sessions
  obtain ⟨found, heq⟩ := updateSession_eq ht session f
  refine ⟨found, _, heq, h.of_sessions (hnumbered.changeNewest _ hid) ?_ hcreated hexited⟩
  obtain ⟨g, hrows, hg⟩ := hnumbered.exists_changeNewest
    (fun r => decide (r.session = session ∧ r.closedAt.isNone)) f
  obtain ⟨more, hmore⟩ := h.sessions_before
  have hall : t.rows = before.sessionRows ++ more := by rw [hmore, sessionRows, ht]; rfl
  have hold : before.sessionRows.map g = before.sessionRows := by
    refine (List.map_congr_left fun r hr => ?_).trans (List.map_id _)
    rcases hg r (by rw [hall]; exact List.mem_append_left _ hr) with ⟨hp, -, -⟩ | ⟨-, hstays⟩
    · have hsome := hclosed r hr
      have hnone := (of_decide_eq_true hp).2
      simp [Option.isNone_iff_eq_none.mp hnone] at hsome
    · exact hstays
  rw [hrows, hall, List.map_append, hold]
  exact List.prefix_append _ _

/-- A new pane goes behind all others. -/
theorem Follows.paneCreated (h : s.Follows before unknown events) (d : PaneDescriptor) :
    ∃ n s', s.paneCreated (newPane d) = .ok (n, s') ∧
      s'.Follows before unknown (events ++ [.paneCreated d]) := by
  obtain ⟨t, ht, hnumbered⟩ := h.panes
  have hcolumn := newKilled_eq h.column ht
  obtain ⟨old, new, hrows, hlength, hclosed, hsame, hnew⟩ := h.rows
  let p := newPane d
  let row (id : Int) : PaneRow :=
    { id, pane := p.pane, session := p.session, kind := p.kind, title := p.title, shell := p.shell
      args := argsText p.args, cwd := p.cwd, createdAt := p.createdAt
      killed := t.newKilled.getD false }
  have hall : t.table.rows = old ++ new := by rw [← hrows, paneRows, ht]; rfl
  unfold Store.paneCreated paneTable
  rw [ht]
  refine ⟨_, { s with panes := some { t with table := (t.table.insert row).2 } }, rfl, ?_⟩
  constructor
  case toSound => exact ⟨h.sessions, _, rfl, hnumbered.insert fun _ => rfl⟩
  case column => exact hcolumn
  case sessions_before => exact h.sessions_before
  case rows =>
    refine ⟨old, new ++ [row t.table.next], ?_, hlength, hclosed,
      fun htimely => hsame htimely.of_append_singleton, ?_⟩
    · show t.table.rows ++ [row t.table.next] = _
      rw [hall, List.append_assoc]
    · rw [List.map_append, hnew, endings_append_singleton, Ending.hear, List.map_append]
      simp [row, p, newPane, PaneRow.ending, Ending.row, hcolumn]

/-- Rows change in place: those that are closed stay closed, and the rest is as the entry tells. -/
theorem Follows.of_map (h : s.Follows before unknown events) {t : PaneTable}
    (ht : s.panes = some t) {table : Table PaneRow} (hnumbered : table.Numbered (·.id))
    {g : PaneRow → PaneRow} (hrows : table.rows = t.table.rows.map g)
    (hclosed : ∀ r ∈ t.table.rows, r.closedAt.isSome → (g r).closedAt.isSome)
    (hchange : ∀ old new, t.table.rows = old ++ new → (∀ r ∈ old, r.closedAt.isSome) →
      new.map PaneRow.ending = (endings unknown events).map Ending.row →
      (Timely (events ++ [e]) → ∀ r ∈ old, g r = r) ∧
        (new.map g).map PaneRow.ending = (endings unknown (events ++ [e])).map Ending.row) :
    ({ s with panes := some { t with table } } : Store).Follows before unknown (events ++ [e]) := by
  obtain ⟨old, new, hsplit, hlength, hold, hsame, hnew⟩ := h.rows
  have hall : t.table.rows = old ++ new := by rw [← hsplit, paneRows, ht]; rfl
  obtain ⟨hstays, hnew⟩ := hchange old new hall hold hnew
  constructor
  case toSound => exact ⟨h.sessions, _, rfl, hnumbered⟩
  case column =>
    have hcolumn := newKilled_eq h.column ht
    exact hcolumn
  case sessions_before => exact h.sessions_before
  case rows =>
    refine ⟨old.map g, new.map g, ?_, by rw [List.length_map, hlength], ?_, fun htimely => ?_, hnew⟩
    · show table.rows = _
      rw [hrows, hall, List.map_append]
    · intro r hr
      obtain ⟨r, hmem, rfl⟩ := List.mem_map.mp hr
      exact hclosed r (by rw [hall]; exact List.mem_append_left _ hmem) (hold r hmem)
    · rw [List.map_congr_left (hstays htimely), List.map_id', hsame htimely.of_append_singleton]

/-- Closing a pane changes an open row, and nothing in it of the end of its process. -/
theorem Follows.paneClosed (h : s.Follows before unknown events) (id session : Nat)
    (at_ : String) :
    ∃ found s', s.paneClosed (rowId id) at_ = .ok (found, s') ∧
      s'.Follows before unknown (events ++ [.paneClosed id session]) := by
  obtain ⟨t, ht, hnumbered⟩ := h.panes
  obtain ⟨found, heq⟩ := paneClosed_eq ht (rowId id) at_
  obtain ⟨g, hrows, hg⟩ := hnumbered.exists_changeNewest
    (fun r => decide (r.pane = rowId id ∧ r.closedAt.isNone)) fun r => { r with closedAt := some at_ }
  refine ⟨found, _, heq, h.of_map ht (hnumbered.changeNewest _ fun _ => rfl) hrows ?_ ?_⟩
  · intro r hr hclosed
    rcases hg r hr with ⟨-, -, heq⟩ | ⟨-, heq⟩ <;> rw [heq]
    · rfl
    · exact hclosed
  · intro old new hall hold hnew
    refine ⟨fun _ r hr => ?_, ?_⟩
    · rcases hg r (by rw [hall]; exact List.mem_append_left _ hr) with ⟨hp, -, -⟩ | ⟨-, heq⟩
      · have hsome := hold r hr
        simp [Option.isNone_iff_eq_none.mp (of_decide_eq_true hp).2] at hsome
      · exact heq
    · rw [endings_of_other rfl rfl, ← hnew, List.map_map]
      refine List.map_congr_left fun r hr => ?_
      rcases hg r (by rw [hall]; exact List.mem_append_right _ hr) with ⟨-, -, heq⟩ | ⟨-, heq⟩ <;>
        simp [Function.comp_apply, heq, PaneRow.ending]

/-- In a store that is up to date the end of a process is noted in the newest row of its pane. -/
theorem paneExited_eq_ok {t : PaneTable} (ht : s.panes = some t)
    (hcolumn : t.newKilled = some unknown) (pane : Int) (code : Option Int32) (killed : Bool) :
    ∃ found, s.paneExited pane code killed = .ok (found,
      { s with
        panes := some
          { t with
            table := t.table.changeNewest (·.id) (fun r => decide (r.pane = pane ∧ true))
              fun r => { r with code, killed } } }) := by
  have hkilled : t.hasKilled = true := by rw [PaneTable.hasKilled, hcolumn]; rfl
  unfold Store.paneExited currentPaneTable paneTable
  rw [← updatePane_eq ht pane (fun _ => true), ht]
  simp only [bind, Except.bind, hkilled, if_true, pure, Except.pure]
  exact ⟨_, rfl⟩

/-- **The end of a process goes to the row of its pane** if that has been told of, and in any case to
    no row of another pane of this run. -/
theorem Follows.paneExited (h : s.Follows before unknown events) {id : Nat} (hid : id < 2 ^ 64)
    (hnodup : (createdPanes events).Nodup) (hfit : ∀ id ∈ createdPanes events, id < 2 ^ 64)
    (code : Option Int32) (killed : Bool) :
    ∃ found s', s.paneExited (rowId id) code killed = .ok (found, s') ∧
      s'.Follows before unknown (events ++ [.paneExited id code killed]) := by
  obtain ⟨t, ht, hnumbered⟩ := h.panes
  have hcolumn := newKilled_eq h.column ht
  obtain ⟨found, heq⟩ := paneExited_eq_ok ht hcolumn (rowId id) code killed
  obtain ⟨g, hrows, hg⟩ := hnumbered.exists_changeNewest
    (fun r => decide (r.pane = rowId id ∧ true)) fun r => { r with code, killed }
  simp only [and_true, decide_eq_true_eq] at hg
  refine ⟨found, _, heq, h.of_map ht (hnumbered.changeNewest _ fun _ => rfl) hrows ?_ ?_⟩
  · intro r hr hclosed
    rcases hg r hr with ⟨-, -, heq⟩ | ⟨-, heq⟩ <;> rw [heq] <;> exact hclosed
  intro old new hall hold hnew
  have hfit' : ∀ e ∈ endings unknown events, e.pane < 2 ^ 64 := fun e he =>
    hfit _ (by rw [← map_pane_endings unknown]; exact List.mem_map_of_mem he)
  -- rows of this run are above those of earlier ones
  have habove : ∀ r ∈ old, ∀ r' ∈ new, r.id < r'.id := by
    have := hnumbered.ascending
    rw [hall, List.map_append, List.pairwise_append] at this
    exact fun r hr r' hr' => this.2.2 _ (List.mem_map_of_mem hr) _ (List.mem_map_of_mem hr')
  constructor
  · intro htimely r hr
    -- the pane has a row in this run, which is above this one
    have hmem : rowId id ∈ new.map (·.pane) := by
      have hcreated := htimely.mem_createdPanes rfl
      rw [← map_pane_endings unknown] at hcreated
      obtain ⟨e, he, rfl⟩ := List.mem_map.mp hcreated
      rw [map_pane_of_endings hnew]
      exact List.mem_map.mpr ⟨e, he, rfl⟩
    obtain ⟨r', hr', hpane⟩ := List.mem_map.mp hmem
    rcases hg r (by rw [hall]; exact List.mem_append_left _ hr) with ⟨-, hmax, -⟩ | ⟨-, heq⟩
    · have := hmax r' (by rw [hall]; exact List.mem_append_right _ hr') hpane
      have := habove r hr r' hr'
      omega
    · exact heq
  · have hone := nodup_pane_of_endings hnew hnodup hfit
    have hnote : ∀ r ∈ new, (g r).ending =
        if r.ending.1 = rowId id then (r.ending.1, code, killed) else r.ending := by
      intro r hr
      rcases hg r (by rw [hall]; exact List.mem_append_right _ hr) with ⟨hp, -, heq⟩ | ⟨hless, heq⟩
      · rw [heq, if_pos (show r.ending.1 = rowId id from hp)]
        rfl
      · -- a row above it would be another one of this run under the same identifier
        have hne : r.pane ≠ rowId id := by
          intro hp
          obtain ⟨r', hr', hp', hlt⟩ := hless hp
          rw [hall] at hr'
          rcases List.mem_append.mp hr' with hr' | hr'
          · have := habove r' hr' r hr
            omega
          · rw [List.inj_on_of_nodup_map hone hr' hr (hp'.trans hp.symm)] at hlt
            omega
        rw [heq]
        exact (if_neg (show ¬ r.ending.1 = rowId id from hne)).symm
    calc (new.map g).map PaneRow.ending
        = (new.map PaneRow.ending).map fun x =>
            if x.1 = rowId id then (x.1, code, killed) else x := by
          rw [List.map_map, List.map_map]
          exact List.map_congr_left hnote
      _ = (endings unknown (events ++ [.paneExited id code killed])).map Ending.row := by
          rw [hnew, endings_append_singleton, Ending.hear, List.map_map, List.map_map]
          refine List.map_congr_left fun e he => ?_
          rw [Function.comp_apply, Function.comp_apply, Ending.row_note (hfit' e he) hid]

/-- A log that tells of every pane once, and of the end of its process once, under identifiers of 64
    bits. -/
structure OneRun (events : List LifecycleEvent) : Prop where
  created : (createdPanes events).Nodup
  exited : (exitedPanes events).Nodup
  created_lt : ∀ id ∈ createdPanes events, id < 2 ^ 64
  exited_lt : ∀ id ∈ exitedPanes events, id < 2 ^ 64

theorem OneRun.of_append {more : List LifecycleEvent} (h : OneRun (events ++ more)) :
    OneRun events := by
  obtain ⟨hcreated, hexited, hcreated_lt, hexited_lt⟩ := h
  rw [createdPanes_append] at hcreated hcreated_lt
  rw [exitedPanes_append] at hexited hexited_lt
  exact ⟨hcreated.of_append_left, hexited.of_append_left,
    fun id hid => hcreated_lt id (List.mem_append_left _ hid),
    fun id hid => hexited_lt id (List.mem_append_left _ hid)⟩

/-- **Every entry that is recorded** adds to the rows what it tells. -/
theorem Follows.record (h : s.Follows before unknown events) (hbefore : before.Dormant unknown)
    (hrun : OneRun (events ++ [e])) (now : Time.Instant) :
    ((s.record now e).toOption.getD s).Follows before unknown (events ++ [e]) := by
  cases e with
  | sessionCreated session =>
    obtain ⟨t, ht, hnumbered⟩ := h.sessions
    have hold : before.sessionRows <+: t.rows := by
      have := h.sessions_before
      rwa [sessionRows, sessionRows, ht] at this
    let row (id : Int) : SessionRow :=
      { id, session := rowId session.id, name := session.name, createdAt := session.createdAt.stamp }
    have hinsert : (t.insert row).2.Numbered (·.id) := hnumbered.insert fun _ => rfl
    unfold Store.record Store.sessionCreated sessionTable
    rw [ht]
    exact h.of_sessions hinsert (hold.trans (List.prefix_append _ _)) rfl rfl
  | sessionRenamed id name =>
    obtain ⟨found, s', hs', hfollows⟩ := h.updateSession (e := .sessionRenamed id name)
      hbefore.sessions_closed (rowId id) (f := fun r => { r with name }) (fun _ => rfl) rfl rfl
    rw [Store.record, Store.sessionRenamed, hs']
    exact hfollows
  | sessionClosed id =>
    obtain ⟨found, s', hs', hfollows⟩ := h.updateSession (e := .sessionClosed id)
      hbefore.sessions_closed (rowId id) (f := fun r => { r with closedAt := some now.stamp })
      (fun _ => rfl) rfl rfl
    rw [Store.record, Store.sessionClosed, hs']
    exact hfollows
  | paneCreated d =>
    obtain ⟨n, s', hs', hfollows⟩ := h.paneCreated d
    rw [Store.record, hs']
    exact hfollows
  | paneClosed id session =>
    obtain ⟨found, s', hs', hfollows⟩ := h.paneClosed id session now.stamp
    rw [Store.record, hs']
    exact hfollows
  | paneExited id code killed =>
    have hold := hrun.of_append
    have hid : id < 2 ^ 64 := hrun.exited_lt id (by
      rw [exitedPanes_append]
      exact List.mem_append_right _ (List.mem_singleton_self id))
    obtain ⟨found, s', hs', hfollows⟩ :=
      h.paneExited hid hold.created hold.created_lt code killed
    rw [Store.record, hs']
    exact hfollows

theorem Follows.recordLog (hbefore : before.Dormant unknown)
    {log : List (Time.Instant × LifecycleEvent)} (hrun : OneRun (log.map (·.2))) :
    (before.recordLog log).Follows before unknown (log.map (·.2)) := by
  induction log using List.reverseRecOn with
  | nil => exact hbefore.follows
  | append_singleton log x ih =>
    rw [List.map_append] at hrun ⊢
    rw [Store.recordLog, List.foldl_append]
    exact (ih hrun.of_append).record hbefore hrun x.1

/-! ## §4 Rows of this run -/

/-- The rows that have been added since. -/
def rowsSince (before s : Store) : List PaneRow := s.paneRows.drop before.paneRows.length

/-- **A pane of this run has one row of this run**, with what the log tells of its end. -/
theorem Follows.exists_row (h : s.Follows before unknown events) (hrun : OneRun events) {x : Ending}
    (hx : x ∈ endings unknown events) :
    ∃ r, (before.rowsSince s).filter (·.pane = rowId x.pane) = [r] ∧ r.code = x.code ∧
      r.killed = x.killed := by
  obtain ⟨old, new, hrows, hlength, -, -, hnew⟩ := h.rows
  have hsince : before.rowsSince s = new := by
    rw [rowsSince, hrows, ← hlength]
    exact List.drop_left
  have hone := nodup_pane_of_endings hnew hrun.created hrun.created_lt
  obtain ⟨r, hr, hending⟩ : ∃ r ∈ new, r.ending = x.row :=
    List.mem_map.mp (hnew ▸ List.mem_map_of_mem hx)
  rw [PaneRow.ending, Ending.row, Prod.mk.injEq, Prod.mk.injEq] at hending
  obtain ⟨hpane, hcode, hkilled⟩ := hending
  exact ⟨r, by rw [hsince, ← hpane, Keyed.filter_eq_singleton hone hr], hcode, hkilled⟩

section Exits

variable {log : List (Time.Instant × LifecycleEvent)} (hs : s.Dormant unknown)
  (hrun : OneRun (log.map (·.2)))

include hs hrun

/-- **The end of a process lands on the row of its pane**, wherever it is told after the pane itself,
    before or behind that it is closed; and no row of an earlier run changes. -/
theorem exit_lands_on_row_of_run (htimely : Timely (log.map (·.2))) :
    s.sessionRows <+: (s.recordLog log).sessionRows ∧
    s.paneRows <+: (s.recordLog log).paneRows ∧
    ∀ id code killed, .paneExited id code killed ∈ log.map (·.2) →
      ∃ r, (s.rowsSince (s.recordLog log)).filter (·.pane = rowId id) = [r] ∧ r.code = code ∧
        r.killed = killed := by
  have h := Follows.recordLog hs hrun
  refine ⟨h.sessions_before, ?_, fun id code killed hmem => ?_⟩
  · obtain ⟨old, new, hrows, -, -, hsame, -⟩ := h.rows
    rw [hrows, hsame htimely]
    exact List.prefix_append _ _
  · obtain ⟨before, after, hsplit⟩ := List.append_of_mem hmem
    have honce : id ∉ exitedPanes after := by
      have hexited := hrun.exited
      rw [hsplit, exitedPanes_append] at hexited
      exact (List.nodup_cons.mp hexited.of_append_right).1
    have hx : ⟨id, code, killed⟩ ∈ endings unknown (log.map (·.2)) := by
      rw [hsplit]
      exact mem_endings_of_exit (htimely before _ after id hsplit rfl) honce
    obtain ⟨r, hrow, hending⟩ := h.exists_row hrun hx
    exact ⟨r, hrow, hending⟩

/-- **The end of a process that is told before its pane is lost**: nothing of it is in the row of the
    pane. -/
theorem early_exit_lost {before after : List LifecycleEvent} {d : PaneDescriptor}
    {code : Option Int32} {killed : Bool}
    (hsplit : log.map (·.2) = before ++ .paneCreated d :: after)
    (hearly : .paneExited d.id code killed ∈ before) :
    ∃ r, (s.rowsSince (s.recordLog log)).filter (·.pane = rowId d.id) = [r] ∧ r.code = none ∧
      r.killed = unknown := by
  have hbefore : d.id ∈ exitedPanes before := List.mem_filterMap.mpr ⟨_, hearly, rfl⟩
  have hnone : d.id ∉ exitedPanes after := by
    have hexited := hrun.exited
    rw [hsplit, exitedPanes_append] at hexited
    exact fun hafter => (List.nodup_append.mp hexited).2.2 _ hbefore _ hafter rfl
  have hx : ⟨d.id, none, unknown⟩ ∈ endings unknown (log.map (·.2)) := by
    rw [hsplit]
    exact mem_endings_of_created hnone
  obtain ⟨r, hrow, hending⟩ := (Follows.recordLog hs hrun).exists_row hrun hx
  exact ⟨r, hrow, hending⟩

end Exits

/-- A pane as the examples below know it. -/
private def somePane : PaneDescriptor where
  id := 1
  session := 1
  kind := .terminal
  title := "sh"
  workingDir := none
  size := {}
  state := .running
  createdAt := ⟨0, 0⟩
  lastActivity := ⟨0, 0⟩
  metadata := []
  process := none

/-- What a run leaves that has made one pane and closed it. -/
private def afterOnePane : Store :=
  fresh.recordLog [(⟨0, 0⟩, .paneCreated somePane), (⟨1, 0⟩, .paneExited 1 (some 0) false),
    (⟨2, 0⟩, .paneClosed 1 1)]

private theorem dormant_afterOnePane : afterOnePane.Dormant false where
  toSound := sound_fresh.recordLog _
  column := by decide +kernel
  sessions_closed := by decide +kernel
  panes_closed := by decide +kernel

/-- The pane of the second run is closed before the end of its process is told. -/
theorem exit_lands_on_row_of_run_closed :
    let log : List (Time.Instant × LifecycleEvent) :=
      [(⟨3, 0⟩, .paneCreated somePane), (⟨4, 0⟩, .paneClosed 1 1),
        (⟨5, 0⟩, .paneExited 1 none true)]
    afterOnePane.Dormant false ∧ OneRun (log.map (·.2)) ∧ Timely (log.map (·.2)) ∧
      afterOnePane.paneRows <+: (afterOnePane.recordLog log).paneRows ∧
      ∃ r, (afterOnePane.rowsSince (afterOnePane.recordLog log)).filter (·.pane = rowId 1) = [r] ∧
        r.code = none ∧ r.killed = true := by
  intro log
  have hrun : OneRun (log.map (·.2)) := ⟨by decide, by decide, by decide, by decide⟩
  have htimely : Timely (log.map (·.2)) := by
    intro before e after id heq he
    -- the last entry is the only one that tells of an end
    rcases before with _ | ⟨_, _ | ⟨_, _ | ⟨_, before⟩⟩⟩ <;> simp [log] at heq
    · obtain ⟨rfl, -⟩ := heq
      cases he
    · obtain ⟨-, rfl, -⟩ := heq
      cases he
    · obtain ⟨rfl, rfl, rfl, -⟩ := heq
      cases he
      decide
  obtain ⟨-, hrows, hexits⟩ := exit_lands_on_row_of_run dormant_afterOnePane hrun htimely
  exact ⟨dormant_afterOnePane, hrun, htimely, hrows, hexits 1 none true (by decide)⟩

/-- **An end that is told before its pane is noted on a row of an earlier run**, and the row of the
    pane itself knows nothing of it. -/
theorem early_exit_on_row_of_earlier_run :
    let log : List (Time.Instant × LifecycleEvent) :=
      [(⟨3, 0⟩, .paneExited 1 (some 3) false), (⟨4, 0⟩, .paneCreated somePane)]
    afterOnePane.Dormant false ∧ OneRun (log.map (·.2)) ∧
      afterOnePane.paneRows.map (·.code) = [some 0] ∧
      (afterOnePane.recordLog log).paneRows.map (fun r => (r.pane, r.code)) =
        [(1, some 3), (1, none)] ∧
      ¬ afterOnePane.paneRows <+: (afterOnePane.recordLog log).paneRows := by
  intro log
  exact ⟨dormant_afterOnePane, ⟨by decide, by decide, by decide, by decide⟩, by decide +kernel,
    by decide +kernel, by decide +kernel⟩

end Store

end PaneMux
