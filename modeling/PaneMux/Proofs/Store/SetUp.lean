import Mathlib.Data.List.Induction
import PaneMux.Store.Basic

/-!
# Bringing a Store Up to Date

A store is brought up to date by one change after the other, and the daemon may be stopped after any of
them. Whoever goes on looks only at what is there: the tables are made where they are missing, and what
is missing beyond that follows from the version that is recorded and from the newest column. Each change
that is made takes itself off the list of what is missing, so that going on ends where the first attempt
would have ended, and a store that is up to date stays as it is.

## Architecture

- **§1** what is missing, in the order in which it is made good (`Store.Due`)
- **§2** the next change, made alone: the rest is still missing, and nothing else
- **§3** a store that is left behind after some of its changes (`Store.stoppedAfter`)
- **§4** nothing is lost (`Store.Keeps`)
- **§5** stores as they are found (`Store.Found`), and what becomes of them
-/

namespace PaneMux

namespace Store

variable {s s' : Store} {c : Change} {pre rest cs : List Change}

/-! ## §1 What is missing -/

/-- The greatest version that is recorded; none counts as zero. -/
def recorded (s : Store) : Int := (s.versions.getD []).foldl max 0

/-- The panes are there, with the column that tells whether a process was killed. -/
def hasKilled (s : Store) : Bool := s.panes.any (·.hasKilled)

/-- What is missing beyond the tables of the first version. -/
def pending (s : Store) : List Change := migration s.recorded s.hasKilled

theorem changes_eq (s : Store) : s.changes = creation ++ s.pending := rfl

theorem version_eq {vs : List Int} (h : s.versions = some vs) : s.version = .ok s.recorded := by
  rw [version, recorded, h]
  rfl

/-- The tables of the first version are there. -/
structure HasTables (s : Store) : Prop where
  versions : s.versions.isSome
  settings : s.settings.isSome
  sessions : s.sessions.isSome
  panes : s.panes.isSome

/-- A change that is made next: a table, in any order, and then what is missing first. -/
inductive Due (s : Store) : Change → Prop where
  | create {c : Change} (hc : c ∈ creation) : Due s c
  | migrate {c : Change} {rest : List Change} (htables : s.HasTables)
      (hpending : s.pending = c :: rest) : Due s c

/-- Changes that are due, one after the other. -/
inductive Steps (s : Store) : Store → Prop where
  | refl : Steps s s
  | tail {t : Store} {c : Change} (hsteps : Steps s t) (hdue : t.Due c) : Steps s (t.apply c)

/-- **What every change that is due keeps, all of them keep.** -/
theorem Steps.induction {P : Store → Prop} (hstep : ∀ t c, t.Due c → P t → P (t.apply c))
    (h : P s) (hsteps : Steps s s') : P s' := by
  induction hsteps with
  | refl => exact h
  | tail _ hdue ih => exact hstep _ _ hdue ih

/-! ## §2 The next change -/

/-- A table that is made has no rows, and tells neither of versions nor of killed processes. -/
theorem recorded_create (hc : c ∈ creation) (s : Store) :
    (s.apply c).recorded = s.recorded ∧ (s.apply c).hasKilled = s.hasKilled := by
  obtain ⟨versions, settings, sessions, panes⟩ := s
  simp only [creation, List.mem_cons, List.not_mem_nil, or_false] at hc
  rcases hc with rfl | rfl | rfl | rfl
  · exact ⟨rfl, rfl⟩
  · exact ⟨rfl, rfl⟩
  · exact ⟨rfl, rfl⟩
  · cases panes <;> exact ⟨rfl, rfl⟩

theorem pending_create (hc : c ∈ creation) (s : Store) : (s.apply c).pending = s.pending := by
  obtain ⟨hrecorded, hkilled⟩ := recorded_create hc s
  rw [pending, hrecorded, hkilled, pending]

theorem hasTables_foldl_creation (s : Store) : (creation.foldl apply s).HasTables :=
  ⟨rfl, rfl, rfl, rfl⟩

/-- It makes no difference whether one looks for what is missing before or after the tables are made. -/
theorem pending_foldl_create (hcs : ∀ c ∈ cs, c ∈ creation) (s : Store) :
    (cs.foldl apply s).pending = s.pending := by
  induction cs generalizing s with
  | nil => rfl
  | cons c cs ih =>
    rw [List.foldl_cons, ih fun c hc => hcs c (List.mem_cons_of_mem _ hc),
      pending_create (hcs c (List.mem_cons_self ..))]

/-- Tables that are there are not made again. -/
theorem HasTables.foldl_creation (h : s.HasTables) : creation.foldl apply s = s := by
  obtain ⟨versions, settings, sessions, panes⟩ := s
  obtain ⟨hversions, hsettings, hsessions, hpanes⟩ := h
  obtain ⟨versions, rfl⟩ := Option.isSome_iff_exists.mp hversions
  obtain ⟨settings, rfl⟩ := Option.isSome_iff_exists.mp hsettings
  obtain ⟨sessions, rfl⟩ := Option.isSome_iff_exists.mp hsessions
  obtain ⟨panes, rfl⟩ := Option.isSome_iff_exists.mp hpanes
  rfl

/-- A table that has been made already is one less to make. -/
theorem foldl_creation_apply (hc : c ∈ creation) (s : Store) :
    creation.foldl apply (s.apply c) = creation.foldl apply s := by
  simp only [creation, List.mem_cons, List.not_mem_nil, or_false] at hc
  rcases hc with rfl | rfl | rfl | rfl <;> rfl

theorem HasTables.apply (h : s.HasTables) (c : Change) : (s.apply c).HasTables := by
  obtain ⟨hversions, hsettings, hsessions, hpanes⟩ := h
  cases c <;> constructor <;> simp [Store.apply, hversions, hsettings, hsessions, hpanes]

theorem le_foldl_max_of_le {v least : Int} (h : v ≤ least) (vs : List Int) :
    v ≤ vs.foldl max least := by
  induction vs generalizing least with
  | nil => exact h
  | cons w vs ih => exact ih (Int.le_trans h (Int.le_max_left least w))

theorem le_foldl_max_of_mem {v : Int} {vs : List Int} (h : v ∈ vs) (least : Int) :
    v ≤ vs.foldl max least := by
  induction vs generalizing least with
  | nil => cases h
  | cons w vs ih =>
    rcases List.mem_cons.mp h with rfl | h
    · exact le_foldl_max_of_le (Int.le_max_right least v) vs
    · exact ih h _

/-- **A version that is recorded** raises the greatest one, if it is not that high already. -/
theorem recorded_setVersion (h : s.HasTables) (v : Int) :
    (s.apply (.setVersion v)).recorded = max s.recorded v := by
  obtain ⟨vs, hvs⟩ := Option.isSome_iff_exists.mp h.versions
  simp only [recorded, Store.apply, hvs, Option.map_some, Option.getD_some]
  split
  case isTrue hmem =>
    exact (Int.max_eq_left (le_foldl_max_of_mem (List.contains_iff_mem.mp hmem) 0)).symm
  case isFalse => rw [List.foldl_append, List.foldl_cons, List.foldl_nil]

theorem hasKilled_setVersion (s : Store) (v : Int) :
    (s.apply (.setVersion v)).hasKilled = s.hasKilled := rfl

theorem hasKilled_addKilled (h : s.HasTables) : (s.apply .addKilled).hasKilled = true := by
  obtain ⟨p, hp⟩ := Option.isSome_iff_exists.mp h.panes
  rw [hasKilled, Store.apply, hp]
  rfl

/-- What can be missing first, and what that says of the store. -/
theorem pending_cases (h : s.pending = c :: rest) :
    (c = .setVersion 1 ∧ s.recorded < 1 ∧ rest = migration 1 s.hasKilled) ∨
    (c = .addKilled ∧ ¬ s.recorded < 1 ∧ s.recorded < 2 ∧ s.hasKilled = false ∧
      rest = migration s.recorded true) ∨
    (c = .setVersion currentVersion ∧ ¬ s.recorded < 1 ∧ s.recorded < 2 ∧ s.hasKilled = true ∧
      rest = []) := by
  unfold pending migration at h
  by_cases hfirst : s.recorded < 1
  · -- below the first version, and so below the current one
    have hsecond : s.recorded < 2 := by omega
    rw [if_pos hfirst, if_pos hsecond, List.singleton_append] at h
    obtain ⟨rfl, rfl⟩ := List.cons.inj h
    exact .inl ⟨rfl, hfirst, rfl⟩
  · rw [if_neg hfirst, List.nil_append] at h
    by_cases hsecond : s.recorded < 2
    · rw [if_pos hsecond] at h
      cases hkilled : s.hasKilled with
      | false =>
        rw [hkilled] at h
        obtain ⟨rfl, rfl⟩ := List.cons.inj h
        refine .inr (.inl ⟨rfl, hfirst, hsecond, rfl, ?_⟩)
        simp [migration, hfirst, hsecond]
      | true =>
        rw [hkilled] at h
        obtain ⟨rfl, rfl⟩ := List.cons.inj h
        exact .inr (.inr ⟨rfl, hfirst, hsecond, rfl, rfl⟩)
    · rw [if_neg hsecond] at h
      cases h

/-- **A change that is made takes itself off the list**, and leaves the rest of it as it is. -/
theorem pending_apply (htables : s.HasTables) (h : s.pending = c :: rest) :
    (s.apply c).pending = rest := by
  rcases pending_cases h with ⟨rfl, hfirst, rfl⟩ | ⟨rfl, -, -, -, rfl⟩ | ⟨rfl, -, hsecond, -, rfl⟩
  -- a version that is recorded is the greatest one from then on, and a column that is made is there
  · have hrecorded : (s.apply (.setVersion 1)).recorded = 1 := by
      rw [recorded_setVersion htables]
      omega
    rw [pending, hrecorded, hasKilled_setVersion]
  · rw [pending, hasKilled_addKilled htables]
    rfl
  · have hrecorded : (s.apply (.setVersion currentVersion)).recorded = 2 := by
      rw [recorded_setVersion htables, currentVersion]
      omega
    rw [pending, hrecorded]
    rfl

/-- **Going on ends where the first attempt would have ended.** -/
theorem Due.setUp_apply (h : s.Due c) : (s.apply c).setUp = s.setUp := by
  cases h with
  | create hc =>
    rw [setUp, setUp, changes_eq, changes_eq, List.foldl_append, List.foldl_append,
      foldl_creation_apply hc, pending_create hc]
  | migrate htables hpending =>
    rw [setUp, setUp, changes_eq, changes_eq, List.foldl_append, List.foldl_append,
      htables.foldl_creation, (htables.apply c).foldl_creation, pending_apply htables hpending,
      hpending, List.foldl_cons]

/-! ## §3 Stopping -/

/-- A store that is left behind after some of its changes. -/
def stoppedAfter (s : Store) (n : Nat) : Store := (s.changes.take n).foldl apply s

theorem steps_create (hpre : ∀ c ∈ pre, c ∈ creation) : Steps s (pre.foldl apply s) := by
  induction pre using List.reverseRecOn with
  | nil => exact .refl
  | append_singleton pre c ih =>
    rw [List.foldl_append]
    exact .tail (ih fun c hc => hpre c (List.mem_append_left _ hc)) (.create (hpre c (by simp)))

theorem steps_migrate (htables : s'.HasTables) (hsteps : Steps s s') (h : s'.pending = pre ++ rest) :
    Steps s (pre.foldl apply s') := by
  induction pre generalizing s' with
  | nil => exact hsteps
  | cons c pre ih =>
    exact ih (htables.apply c) (.tail hsteps (.migrate htables h)) (pending_apply htables h)

/-- **Every change is due when its turn comes.** -/
theorem steps_foldl (h : s.changes = pre ++ rest) : Steps s (pre.foldl apply s) := by
  rw [changes_eq] at h
  rcases List.append_eq_append_iff.mp h with ⟨begun, rfl, hpending⟩ | ⟨left, hcreation, -⟩
  · -- all the tables have been made, and some of the rest
    rw [List.foldl_append]
    exact steps_migrate (hasTables_foldl_creation s) (steps_create fun _ hc => hc)
      ((pending_foldl_create (fun _ hc => hc) s).trans hpending)
  · exact steps_create fun c hc => hcreation ▸ List.mem_append_left _ hc

theorem steps_stoppedAfter (s : Store) (n : Nat) : Steps s (s.stoppedAfter n) :=
  steps_foldl (List.take_append_drop n s.changes).symm

theorem steps_setUp (s : Store) : Steps s s.setUp := steps_foldl (List.append_nil _).symm

/-- **It does not matter where it was stopped.** -/
theorem setUp_stoppedAfter (s : Store) (n : Nat) : (s.stoppedAfter n).setUp = s.setUp :=
  (steps_stoppedAfter s n).induction (P := fun t => t.setUp = s.setUp)
    (fun _ _ hdue ih => hdue.setUp_apply.trans ih) rfl

/-- **A store that is up to date stays as it is.** -/
theorem setUp_setUp (s : Store) : s.setUp.setUp = s.setUp :=
  (steps_setUp s).induction (P := fun t => t.setUp = s.setUp)
    (fun _ _ hdue ih => hdue.setUp_apply.trans ih) rfl

theorem HasTables.foldl_apply (h : s.HasTables) (cs : List Change) :
    (cs.foldl Store.apply s).HasTables := by
  induction cs generalizing s with
  | nil => exact h
  | cons c cs ih => exact ih (h.apply c)

theorem hasTables_setUp (s : Store) : s.setUp.HasTables := by
  rw [setUp, changes_eq, List.foldl_append]
  exact (hasTables_foldl_creation s).foldl_apply _

theorem pending_foldl (htables : s.HasTables) (h : s.pending = pre ++ rest) :
    (pre.foldl apply s).pending = rest := by
  induction pre generalizing s with
  | nil => exact h
  | cons c pre ih => exact ih (htables.apply c) (pending_apply htables h)

/-- **In the end nothing is missing.** -/
theorem pending_setUp (s : Store) : s.setUp.pending = [] := by
  rw [setUp, changes_eq, List.foldl_append]
  refine pending_foldl (hasTables_foldl_creation s) ?_
  rw [pending_foldl_create fun _ hc => hc, List.append_nil]

theorem pending_eq_nil_iff : s.pending = [] ↔ 2 ≤ s.recorded := by
  unfold pending migration
  constructor
  · intro h
    by_contra hlow
    rw [if_pos (show s.recorded < 2 by omega)] at h
    simp at h
  · intro h
    rw [if_neg (show ¬ s.recorded < 1 by omega), if_neg (show ¬ s.recorded < 2 by omega)]
    rfl

end Store

/-! ## §4 What is kept -/

/-- The table with what its rows tell once there is a column for it: where there was none, no process was
    killed. -/
def PaneTable.told (t : PaneTable) : Table PaneRow :=
  if t.hasKilled then t.table
  else { t.table with rows := t.table.rows.map fun r => { r with killed := false } }

theorem PaneTable.told_of_hasKilled {t : PaneTable} (h : t.hasKilled = true) : t.told = t.table :=
  if_pos h

theorem PaneTable.told_of_not_hasKilled {t : PaneTable} (h : t.hasKilled = false) :
    t.told = { t.table with rows := t.table.rows.map fun r => { r with killed := false } } :=
  if_neg (by simp [h])

namespace Store

variable {s : Store} {c : Change}

theorem hasKilled_iff : s.hasKilled = true ↔ ∃ p, s.panes = some p ∧ p.hasKilled = true := by
  rw [hasKilled, Option.any_eq_true]

/-- **Nothing is lost and nothing is made up**: all tables have the rows that they had, with all that they
    told. A table that was not there had no rows. -/
structure Keeps (s t : Store) : Prop where
  settings : t.settings.getD [] = s.settings.getD []
  sessions : t.sessions.getD {} = s.sessions.getD {}
  panes : (t.panes.getD {}).told = (s.panes.getD {}).told
  /-- a table with the newest column stays whole -/
  column : s.hasKilled = true → t.panes = s.panes

theorem Keeps.refl (s : Store) : s.Keeps s := ⟨rfl, rfl, rfl, fun _ => rfl⟩

theorem Keeps.trans {t u : Store} (h : s.Keeps t) (h' : t.Keeps u) : s.Keeps u where
  settings := h'.settings.trans h.settings
  sessions := h'.sessions.trans h.sessions
  panes := h'.panes.trans h.panes
  column hkilled := by
    have hsame := h.column hkilled
    rw [← hsame]
    exact h'.column (by rw [hasKilled, hsame]; exact hkilled)

/-- **A change that is due keeps everything.** -/
theorem Due.keeps (h : s.Due c) : s.Keeps (s.apply c) := by
  cases h with
  | create hc =>
    simp only [creation, List.mem_cons, List.not_mem_nil, or_false] at hc
    rcases hc with rfl | rfl | rfl | rfl
    · exact ⟨rfl, rfl, rfl, fun _ => rfl⟩
    · exact ⟨rfl, rfl, rfl, fun _ => rfl⟩
    · exact ⟨rfl, rfl, rfl, fun _ => rfl⟩
    · refine ⟨rfl, rfl, rfl, fun hkilled => ?_⟩
      obtain ⟨p, hp, -⟩ := hasKilled_iff.mp hkilled
      rw [Store.apply, hp]
      rfl
  | migrate htables hpending =>
    rcases pending_cases hpending with ⟨rfl, -⟩ | ⟨rfl, -, -, hnone, -⟩ | ⟨rfl, -⟩
    · exact ⟨rfl, rfl, rfl, fun _ => rfl⟩
    · obtain ⟨p, hp⟩ := Option.isSome_iff_exists.mp htables.panes
      have hcolumn : p.hasKilled = false := by simpa [hasKilled, hp] using hnone
      refine ⟨rfl, rfl, ?_, fun hkilled => ?_⟩
      · rw [hp, Option.getD_some, PaneTable.told_of_not_hasKilled hcolumn, Store.apply, hp]
        rfl
      · rw [hnone] at hkilled
        cases hkilled
    · exact ⟨rfl, rfl, rfl, fun _ => rfl⟩

theorem Steps.keeps {t : Store} (h : Steps s t) : s.Keeps t :=
  h.induction (fun _ _ hdue hkeeps => hkeeps.trans hdue.keeps) (.refl s)

/-! ## §5 Stores as they are found -/

/-- A store as it may be found: a new one, one of an earlier version or of the current one, whatever its
    rows, or one that was left behind while it was being brought up to date. The current version is the one
    with the newest column. -/
inductive Found : Store → Prop where
  | new : Found {}
  | older {s : Store} {v : Int} (hversion : s.version = .ok v) (hv : v < currentVersion) : Found s
  | current {s : Store} {p : PaneTable} (hversion : s.version = .ok currentVersion)
      (hpanes : s.currentPaneTable = .ok p) : Found s
  | stopped {s : Store} (h : Found s) (n : Nat) : Found (s.stoppedAfter n)

/-- No version is recorded above the current one, and that one only if the column is there. -/
structure Upgradable (s : Store) : Prop where
  recorded_le : s.recorded ≤ 2
  column : s.recorded = 2 → s.hasKilled = true

theorem recorded_of_version {v : Int} (h : s.version = .ok v) : s.recorded = v := by
  cases hversions : s.versions with
  | none =>
    rw [version, hversions] at h
    cases h
  | some vs =>
    rw [version_eq hversions] at h
    exact Except.ok.inj h

theorem hasKilled_of_currentPaneTable {p : PaneTable} (h : s.currentPaneTable = .ok p) :
    s.hasKilled = true := by
  unfold currentPaneTable paneTable at h
  cases hpanes : s.panes with
  | none =>
    rw [hpanes] at h
    cases h
  | some q =>
    rw [hpanes] at h
    cases hkilled : q.hasKilled with
    | true => simp [hasKilled, hpanes, hkilled]
    | false =>
      simp only [bind, Except.bind, hkilled] at h
      cases h

/-- A version is recorded last, when everything that it stands for is there. -/
theorem Due.upgradable (h : s.Due c) (hs : s.Upgradable) : (s.apply c).Upgradable := by
  cases h with
  | create hc =>
    obtain ⟨hrecorded, hkilled⟩ := recorded_create hc s
    exact ⟨hrecorded ▸ hs.recorded_le, fun h => hkilled ▸ hs.column (hrecorded ▸ h)⟩
  | migrate htables hpending =>
    rcases pending_cases hpending with ⟨rfl, hfirst, -⟩ | ⟨rfl, -, hsecond, -⟩ |
      ⟨rfl, -, hsecond, hkilled, -⟩
    · have hrecorded := recorded_setVersion htables 1
      exact ⟨by omega, fun h => by omega⟩
    · have hsame : (s.apply .addKilled).recorded = s.recorded := rfl
      exact ⟨by omega, fun h => by omega⟩
    · have hrecorded := recorded_setVersion htables currentVersion
      rw [currentVersion] at hrecorded
      exact ⟨by rw [currentVersion]; omega, fun _ => hkilled⟩

theorem Found.upgradable (h : s.Found) : s.Upgradable := by
  induction h with
  | new => exact ⟨by decide, fun h => absurd h (by decide)⟩
  | older hversion hv =>
    rw [currentVersion, ← recorded_of_version hversion] at hv
    exact ⟨by omega, fun h => by omega⟩
  | current hversion hpanes =>
    have hrecorded := recorded_of_version hversion
    rw [currentVersion] at hrecorded
    exact ⟨by omega, fun _ => hasKilled_of_currentPaneTable hpanes⟩
  | stopped _ n ih => exact (steps_stoppedAfter _ n).induction (fun _ _ hdue => hdue.upgradable) ih

/-- **Bringing a store up to date can be resumed, can be repeated and loses nothing.** However a store is
    found, it ends at the current version, with the newest column; every row is there with all its values,
    and a row that had no such column tells that its process was not killed; doing it again changes
    nothing, and stopping it after any of its changes makes no difference in the end. -/
theorem setUp_of_found (h : s.Found) :
    s.setUp.version = .ok currentVersion ∧
    (∃ p, s.setUp.currentPaneTable = .ok p ∧ p.table = (s.panes.getD {}).told ∧
      (s.hasKilled = true → s.panes = some p)) ∧
    s.setUp.settings = some (s.settings.getD []) ∧
    s.setUp.sessions = some (s.sessions.getD {}) ∧
    s.setUp.setUp = s.setUp ∧
    ∀ n, (s.stoppedAfter n).setUp = s.setUp := by
  have htables := hasTables_setUp s
  have hkeeps := (steps_setUp s).keeps
  have hdone : s.setUp.Upgradable :=
    (steps_setUp s).induction (fun _ _ hdue => hdue.upgradable) h.upgradable
  -- no version above the current one was found or recorded, and nothing is missing of that one
  have hrecorded : s.setUp.recorded = 2 :=
    Int.le_antisymm hdone.recorded_le (pending_eq_nil_iff.mp (pending_setUp s))
  obtain ⟨vs, hvs⟩ := Option.isSome_iff_exists.mp htables.versions
  obtain ⟨settings, hsettings⟩ := Option.isSome_iff_exists.mp htables.settings
  obtain ⟨sessions, hsessions⟩ := Option.isSome_iff_exists.mp htables.sessions
  obtain ⟨p, hp, hcolumn⟩ := hasKilled_iff.mp (hdone.column hrecorded)
  refine ⟨?_, ⟨p, ?_, ?_, fun hkilled => ?_⟩, ?_, ?_, setUp_setUp s, setUp_stoppedAfter s⟩
  · rw [version_eq hvs, hrecorded, currentVersion]
  · simp [currentPaneTable, paneTable, hp, hcolumn, bind, Except.bind, pure, Except.pure]
  · rw [← hkeeps.panes, hp, Option.getD_some, PaneTable.told_of_hasKilled hcolumn]
  · rw [← hkeeps.column hkilled, hp]
  · rw [← hkeeps.settings, hsettings, Option.getD_some]
  · rw [← hkeeps.sessions, hsessions, Option.getD_some]

/-- A store of the first version, with an open session and a pane, that was left behind when it had the new
    column but not the new version. -/
theorem setUp_of_found_interrupted :
    let row : PaneRow :=
      { id := 1, pane := 1, session := 1, kind := "terminal", title := "old", shell := none, args := "[]"
        cwd := none, createdAt := "2024-01-01T00:00:00Z", killed := true }
    let s : Store :=
      { versions := some [1]
        settings := some [("markers", "maybe")]
        sessions := some { rows := [⟨1, 1, "first", "2024-01-01T00:00:00Z", none⟩], next := 2 }
        panes := some { table := { rows := [row], next := 2 } } }
    let left := s.stoppedAfter 5
    left.Found ∧ left.version = .ok 1 ∧ left.hasKilled = true ∧ left.setUp.version = .ok 2 ∧
      (∃ p, left.setUp.currentPaneTable = .ok p ∧ p.table.rows = [{ row with killed := false }]) ∧
      left.setUp.settings = s.settings ∧ left.setUp.sessions = s.sessions ∧
      left.setUp.setUp = left.setUp := by
  intro row s left
  have hfound : left.Found := .stopped (.older (v := 1) rfl (by decide)) 5
  obtain ⟨hversion, ⟨p, hp, htable, -⟩, hsettings, hsessions, hagain, -⟩ := setUp_of_found hfound
  exact ⟨hfound, rfl, rfl, hversion, ⟨p, hp, congrArg Table.rows htable⟩, hsettings, hsessions, hagain⟩

end Store

end PaneMux
