import Mathlib.Algebra.Group.Nat.Defs
import Mathlib.Data.List.Induction
import PaneMux.Store.Recorder
import PaneMux.Proofs.History.Lives
import PaneMux.Proofs.Json.Decoding
import PaneMux.Proofs.Json.Reading

/-!
# Rows

The store keeps a row for every life. Rows are found by identifiers that every run of the daemon
gives out anew, so that what is meant is the newest open row of an identifier. As long as what earlier
runs left is closed there is one such row at most, and each entry in the log does to the rows just what
it tells of the lives.

## Architecture

- **§1** numbered tables: what one shows (`Table.Shows`), and the newest row of several
- **§2** the facts in a row, and 64-bit identifiers
- **§3** `Store.Holds`: the lives that the rows of a store tell, changed by each kind of write
- **§4** `Store.Tells`: closed rows of earlier runs, and then the lives of this one; kept by every
  entry that is recorded
-/

namespace PaneMux

/-! ## §1 Tables -/

/-- A table is numbered in the order of its rows. -/
structure Table.Numbered {α : Type} (number : α → Int) (t : Table α) : Prop where
  ascending : (t.rows.map number).Pairwise (· < ·)
  fresh : ∀ r ∈ t.rows, number r < t.next

/-- A table is numbered, and its rows look like this. -/
structure Table.Shows {α β : Type} (number : α → Int) (view : α → β) (t : Table α)
    (shown : List β) : Prop extends t.Numbered number where
  eq : t.rows.map view = shown

namespace Table

variable {α β : Type} {number : α → Int} {view : α → β} {t : Table α} {shown : List β}

theorem Numbered.nodup (h : t.Numbered number) : (t.rows.map number).Nodup :=
  h.ascending.imp fun hlt => Int.ne_of_lt hlt

theorem Numbered.insert (h : t.Numbered number) {f : Int → α} (hf : ∀ n, number (f n) = n) :
    (t.insert f).2.Numbered number := by
  constructor
  case ascending =>
    show ((t.rows ++ [f t.next]).map number).Pairwise (· < ·)
    rw [List.map_append, List.pairwise_append]
    refine ⟨h.ascending, List.pairwise_singleton _ _, fun n hn n' hn' => ?_⟩
    -- the number of the new row is above those of all others
    obtain ⟨r, hr, rfl⟩ := List.mem_map.mp hn
    rw [List.mem_singleton.mp hn']
    show number r < number (f t.next)
    rw [hf]
    exact h.fresh r hr
  case fresh =>
    intro r hr
    show number r < t.next + 1
    rcases List.mem_append.mp hr with hr | hr
    · have := h.fresh r hr
      omega
    · rw [List.mem_singleton.mp hr, hf]
      omega

/-- Rows that keep their numbers may change. -/
theorem Numbered.update (h : t.Numbered number) (p : α → Bool) {f : α → α}
    (hnumber : ∀ r, number (f r) = number r) : (t.update p f).2.Numbered number := by
  have hsame : ∀ r, number (if p r then f r else r) = number r := by
    intro r
    split
    · exact hnumber r
    · rfl
  constructor
  case ascending =>
    show ((t.rows.map fun r => if p r then f r else r).map number).Pairwise (· < ·)
    rw [List.map_map, show number ∘ (fun r => if p r then f r else r) = number from funext hsame]
    exact h.ascending
  case fresh =>
    intro r hr
    obtain ⟨r, hmem, rfl⟩ := List.mem_map.mp hr
    rw [hsame]
    exact h.fresh r hmem

theorem Shows.insert (h : t.Shows number view shown) {f : Int → α} (hf : ∀ n, number (f n) = n) :
    (t.insert f).2.Shows number view (shown ++ [view (f t.next)]) where
  toNumbered := h.toNumbered.insert hf
  eq := by
    show (t.rows ++ [f t.next]).map view = _
    rw [List.map_append, h.eq]
    rfl

theorem Shows.update (h : t.Shows number view shown) {p : α → Bool} {f : α → α}
    (hnumber : ∀ r, number (f r) = number r) {g : List β → List β}
    (hview : (t.rows.map fun r => if p r then f r else r).map view = g (t.rows.map view)) :
    (t.update p f).2.Shows number view (g shown) where
  toNumbered := h.toNumbered.update p hnumber
  eq := by
    rw [← h.eq]
    exact hview

end Table

namespace Store

variable {α : Type} {number : α → Int} {p : α → Bool} {rows : List α}

/-- The greatest of several numbers is one of them. -/
private theorem exists_of_foldl_max (xs : List α) {best : Option Int} {n : Int}
    (h : xs.foldl (fun best r => some (best.elim (number r) (max (number r)))) best = some n) :
    (∃ r ∈ xs, number r = n) ∨ best = some n := by
  induction xs generalizing best with
  | nil => exact .inr h
  | cons x xs ih =>
    rcases ih h with ⟨r, hr, hn⟩ | hbest
    · exact .inl ⟨r, List.mem_cons_of_mem x hr, hn⟩
    · cases best with
      | none => exact .inl ⟨x, List.mem_cons_self .., Option.some.inj hbest⟩
      | some b =>
        -- the best so far is the first of the rest, or it was the best before
        have hmax : max (number x) b = n := Option.some.inj hbest
        rcases Int.le_total (number x) b with hle | hle
        · exact .inr (by rw [← hmax, Int.max_eq_right hle])
        · exact .inl ⟨x, List.mem_cons_self .., by rw [← hmax, Int.max_eq_left hle]⟩

/-- The newest row is one of those looked for. -/
theorem exists_of_newest_eq_some {n : Int} (h : newest number p rows = some n) :
    ∃ r ∈ rows, p r = true ∧ number r = n := by
  rcases exists_of_foldl_max _ h with ⟨r, hr, hn⟩ | hnone
  · obtain ⟨hr, hp⟩ := List.mem_filter.mp hr
    exact ⟨r, hr, hp, hn⟩
  · cases hnone

/-- There is none only if there is nothing to be found. -/
theorem eq_false_of_newest_eq_none (h : newest number p rows = none) : ∀ r ∈ rows, p r = false := by
  intro r hr
  by_contra hp
  have hmem : r ∈ rows.filter p := List.mem_filter.mpr ⟨hr, by simpa using hp⟩
  -- a number that has been found is not forgotten
  have hsome : ∀ (xs : List α) (best : Option Int), best.isSome →
      (xs.foldl (fun best r => some (best.elim (number r) (max (number r)))) best).isSome := by
    intro xs
    induction xs with
    | nil => exact fun _ hbest => hbest
    | cons x xs ih => exact fun _ _ => ih _ rfl
  unfold newest at h
  cases hrows : rows.filter p with
  | nil => rw [hrows] at hmem; cases hmem
  | cons x xs =>
    have := hsome xs (some (number x)) rfl
    rw [hrows, List.foldl_cons] at h
    rw [show (none : Option Int).elim (number x) (max (number x)) = number x from rfl] at h
    rw [h] at this
    cases this

/-- **Where one row at most is looked for, the newest one is it.** -/
theorem map_newest (hnumbers : (rows.map number).Nodup)
    (hone : ∀ r ∈ rows, ∀ r' ∈ rows, p r = true → p r' = true → r = r') {n : Int}
    (h : newest number p rows = some n) (f : α → α) :
    (rows.map fun r => if number r = n then f r else r) =
      rows.map fun r => if p r then f r else r := by
  obtain ⟨r, hr, hp, rfl⟩ := exists_of_newest_eq_some h
  refine List.map_congr_left fun r' hr' => ?_
  -- the row with that number is the only one that satisfies the condition
  have hiff : number r' = number r ↔ p r' = true := by
    constructor
    · intro hsame
      rw [List.inj_on_of_nodup_map hnumbers hr' hr hsame]
      exact hp
    · intro hp'
      rw [hone r' hr' r hr hp' hp]
  simp only [hiff]

end Store

/-! ## §2 Facts -/

/-- What a row tells of a session. -/
structure SessionFacts where
  session : Int
  name : String
  createdAt : String
  deriving DecidableEq, Repr

def SessionRow.facts (r : SessionRow) : SessionFacts := ⟨r.session, r.name, r.createdAt⟩

def SessionRow.life (r : SessionRow) : Life SessionFacts := ⟨r.facts, r.closedAt.isSome⟩

/-- What is to be told of a session. -/
def SessionCard.facts (c : SessionCard) : SessionFacts := ⟨rowId c.id, c.name, c.createdAt.stamp⟩

/-- What a row tells of a pane, apart from the end of its process. -/
structure PaneFacts where
  pane : Int
  session : Int
  kind : String
  title : String
  shell : Option String
  args : String
  cwd : Option String
  createdAt : String
  deriving DecidableEq, Repr

def PaneRow.facts (r : PaneRow) : PaneFacts :=
  ⟨r.pane, r.session, r.kind, r.title, r.shell, r.args, r.cwd, r.createdAt⟩

def PaneRow.life (r : PaneRow) : Life PaneFacts := ⟨r.facts, r.closedAt.isSome⟩

def Store.NewPane.facts (p : Store.NewPane) : PaneFacts :=
  ⟨p.pane, p.session, p.kind, p.title, p.shell, Store.argsText p.args, p.cwd, p.createdAt⟩

/-- What is to be told of a pane. A terminal has a program, arguments and a directory; another pane
    has at most a directory. -/
def PaneDescriptor.facts (d : PaneDescriptor) : PaneFacts where
  pane := rowId d.id
  session := rowId d.session
  kind := d.kind.label
  title := d.title
  shell := d.process.map (·.shell)
  args := Store.argsText ((d.process.map (·.args)).getD [])
  cwd := d.process.elim d.workingDir fun p => some p.cwd
  createdAt := d.createdAt.stamp

/-- Nothing that is to be told of a pane is lost on the way to its row. -/
theorem Store.facts_newPane (d : PaneDescriptor) : (newPane d).facts = d.facts := by
  rw [NewPane.facts, newPane, PaneDescriptor.facts]

/-- **Arguments are read back from the one text** that a row keeps of them. -/
theorem Store.readArgs_argsText (args : List String) : readArgs (argsText args) = .ok args := by
  have hreadable : Json.Readable Json.maxDepth (.list .str args) := .list fun a _ => .str a
  rw [readArgs, argsText, Json.parse?_compact hreadable]
  exact Decoder.reads_list (fun a _ => Decoder.reads_string a) _ .id

/-- **Identifiers of 64 bits are not confused** when they wrap. -/
theorem rowId_eq_iff {m n : Nat} (hm : m < 2 ^ 64) (hn : n < 2 ^ 64) : rowId m = rowId n ↔ m = n := by
  -- the width is any number here, so that nothing computes with it
  have hinj : ∀ width : Nat, m < width → n < width →
      Int.bmod m width = Int.bmod n width → m = n := by
    intro width hm hn hbmod
    have hmod : (m : Int) % width = (n : Int) % width := by
      rw [← Int.bmod_emod, hbmod, Int.bmod_emod]
    rw [Int.emod_eq_of_lt (by omega) (by omega), Int.emod_eq_of_lt (by omega) (by omega)] at hmod
    omega
  exact ⟨hinj (Nat.pow 2 64) hm hn, congrArg rowId⟩

theorem SessionCard.session_facts (c : SessionCard) : c.facts.session = rowId c.id := by
  rw [SessionCard.facts]

theorem PaneDescriptor.pane_facts (d : PaneDescriptor) : d.facts.pane = rowId d.id := by
  rw [PaneDescriptor.facts]

/-- Rows without the time of an end are open. -/
theorem Life.openOnes_rows {ρ φ : Type} (facts : ρ → φ) (closedAt : ρ → Option String)
    (rows : List ρ) :
    openOnes (rows.map fun r => ⟨facts r, (closedAt r).isSome⟩) =
      (rows.filter (closedAt · |>.isNone)).map facts := by
  simp [openOnes, List.filter_map, Function.comp_def]

section Told

variable {α φ : Type} (key : α → Nat) (rowKey : φ → Int) (facts : α → φ)
  (hkey : ∀ a, rowKey (facts a) = rowId (key a)) {past : List (Life φ)}
  (hpast : ∀ x ∈ past, x.closed = true) {xs : List (Life α)}
  (hfit : ∀ id ∈ xs.map (key ·.subject), id < 2 ^ 64)

include hkey hpast hfit

/-- There is one open row at most for every identifier. -/
theorem nodup_openOnes_told (hids : (xs.map (key ·.subject)).Nodup) :
    ((Life.openOnes (past ++ xs.map (.map facts))).map rowKey).Nodup := by
  rw [Life.openOnes_append, Life.openOnes_eq_nil hpast, List.nil_append, Life.openOnes_map,
    Life.openOnes, List.map_map, List.map_map]
  -- distinct identifiers are distinct in the rows
  have hrows : (xs.map fun x => rowId (key x.subject)).Nodup := by
    rw [← Function.comp_def rowId, ← List.map_map]
    refine List.Nodup.map_on (fun m hm n hn hmn => ?_) hids
    obtain ⟨x, hx, rfl⟩ := List.mem_map.mp hm
    obtain ⟨y, hy, rfl⟩ := List.mem_map.mp hn
    exact (rowId_eq_iff (hfit _ (List.mem_map_of_mem hx)) (hfit _ (List.mem_map_of_mem hy))).mp hmn
  have hopen : ((xs.filter (!·.closed)).map fun x => rowId (key x.subject)).Nodup :=
    hrows.sublist (List.filter_sublist.map _)
  rwa [← List.map_congr_left fun x _ => hkey x.subject] at hopen

theorem closeAll_told {id : Nat} (hid : id < 2 ^ 64) :
    Life.closeAll rowKey (rowId id) (past ++ xs.map (.map facts)) =
      past ++ (Life.closeAll key id xs).map (.map facts) := by
  rw [Life.closeAll, List.map_append]
  -- what was closed before stays as it is, whatever its identifier
  refine congrArg₂ _ (Life.closeAll_of_closed hpast rowKey (rowId id)) ?_
  simp only [Life.closeAll, List.map_map]
  refine List.map_congr_left fun x hx => ?_
  have hiff : rowKey (facts x.subject) = rowId id ↔ key x.subject = id := by
    rw [hkey, rowId_eq_iff (hfit _ (List.mem_map_of_mem hx)) hid]
  by_cases hsame : key x.subject = id <;> simp [Life.map, Life.close, hiff, hsame]

theorem changeOpen_told {id : Nat} (hid : id < 2 ^ 64) {f : α → α} {g : φ → φ}
    (hfg : ∀ a, facts (f a) = g (facts a)) :
    Life.changeOpen rowKey (rowId id) g (past ++ xs.map (.map facts)) =
      past ++ (Life.changeOpen key id f xs).map (.map facts) := by
  rw [Life.changeOpen, List.map_append]
  refine congrArg₂ _ (Life.changeOpen_of_closed hpast rowKey (rowId id) g) ?_
  simp only [Life.changeOpen, List.map_map]
  refine List.map_congr_left fun x hx => ?_
  have hiff : rowKey (facts x.subject) = rowId id ↔ key x.subject = id := by
    rw [hkey, rowId_eq_iff (hfit _ (List.mem_map_of_mem hx)) hid]
  by_cases hopen : key x.subject = id ∧ x.closed = false
  · simp [Life.map, hiff, hopen, hfg]
  · simp [Life.map, hiff, hopen]

end Told

/-! ## §3 The store -/

/-- The lives that the rows of a store tell. -/
structure Store.Holds (s : Store) (sessions : List (Life SessionFacts))
    (panes : List (Life PaneFacts)) : Prop where
  sessions : ∃ t, s.sessions = some t ∧ t.Shows (·.id) (·.life) sessions
  panes : ∃ t, s.panes = some t ∧ t.table.Shows (·.id) (·.life) panes

namespace Table

variable {α β φ : Type} {number : α → Int} {view : α → β} {t : Table α} {shown : List β}

/-- The newest of the rows that satisfy a condition changes, if there is one. -/
def changeNewest (t : Table α) (number : α → Int) (p : α → Bool) (f : α → α) : Table α :=
  match Store.newest number p t.rows with
  | none => t
  | some n => (t.update (number · = n) f).2

theorem Numbered.changeNewest (h : t.Numbered number) (p : α → Bool) {f : α → α}
    (hnumber : ∀ r, number (f r) = number r) : (t.changeNewest number p f).Numbered number := by
  unfold Table.changeNewest
  split
  · exact h
  · exact h.update _ hnumber

/-- **A change of the newest row is a change of every row**, where there is one at most. -/
theorem Shows.changeNewest (h : t.Shows number view shown) {p : α → Bool} {f : α → α}
    (hnumber : ∀ r, number (f r) = number r)
    (hone : ∀ r ∈ t.rows, ∀ r' ∈ t.rows, p r = true → p r' = true → r = r')
    {g : List β → List β}
    (hview : (t.rows.map fun r => if p r then f r else r).map view = g (t.rows.map view)) :
    (t.changeNewest number p f).Shows number view (g shown) := by
  refine ⟨h.toNumbered.changeNewest p hnumber, ?_⟩
  rw [← h.eq, ← hview, Table.changeNewest]
  cases hnewest : Store.newest number p t.rows with
  | none =>
    -- nothing satisfies the condition
    refine congrArg (List.map view) ((List.map_id _).symm.trans (List.map_congr_left fun r hr => ?_))
    simp [Store.eq_false_of_newest_eq_none hnewest r hr]
  | some n =>
    rw [← Store.map_newest h.nodup hone hnewest]
    simp [Table.update]

/-- Open rows of one identifier are the same row. -/
theorem Shows.eq_of_open {facts : α → φ} {closedAt : α → Option String} {lives : List (Life φ)}
    (h : t.Shows number (fun r => ⟨facts r, (closedAt r).isSome⟩) lives) {rowKey : φ → Int}
    (hone : ((Life.openOnes lives).map rowKey).Nodup) {id : Int} {r r' : α} (hr : r ∈ t.rows)
    (hr' : r' ∈ t.rows) (hp : rowKey (facts r) = id ∧ (closedAt r).isNone)
    (hp' : rowKey (facts r') = id ∧ (closedAt r').isNone) : r = r' := by
  rw [← h.eq, Life.openOnes_rows, List.map_map] at hone
  exact List.inj_on_of_nodup_map hone (List.mem_filter.mpr ⟨hr, hp.2⟩)
    (List.mem_filter.mpr ⟨hr', hp'.2⟩) (hp.1.trans hp'.1.symm)

end Table

namespace Store

variable {s : Store} {sessions : List (Life SessionFacts)} {panes : List (Life PaneFacts)}

/-- What is looked for among the rows of a session. -/
theorem updateSession_eq {t : Table SessionRow} (ht : s.sessions = some t) (session : Int)
    (f : SessionRow → SessionRow) :
    ∃ found, s.updateSession session f = .ok (found,
      { s with
        sessions := some
          (t.changeNewest (·.id) (fun r => decide (r.session = session ∧ r.closedAt.isNone)) f) }) := by
  have htable : s.sessionTable = .ok t := by rw [sessionTable, ht]
  rw [Store.updateSession, htable, Table.changeNewest]
  dsimp only [bind, Except.bind]
  cases newest (·.id) (fun r => decide (r.session = session ∧ r.closedAt.isNone)) t.rows with
  | none => exact ⟨false, by rw [← ht]; rfl⟩
  | some n => exact ⟨_, rfl⟩

theorem updatePane_eq {t : PaneTable} (ht : s.panes = some t) (pane : Int) (p : PaneRow → Bool)
    (f : PaneRow → PaneRow) :
    (s.updatePane t pane p f).2 =
      { s with
        panes := some
          { t with table := t.table.changeNewest (·.id) (fun r => decide (r.pane = pane ∧ p r)) f } } := by
  rw [Store.updatePane, Table.changeNewest]
  cases newest (·.id) (fun r => decide (r.pane = pane ∧ p r)) t.table.rows with
  | none =>
    show s = { s with panes := some t }
    rw [← ht]
  | some n => rfl

theorem paneClosed_eq {t : PaneTable} (ht : s.panes = some t) (pane : Int) (at_ : String) :
    ∃ found, s.paneClosed pane at_ = .ok (found,
      { s with
        panes := some
          { t with
            table := t.table.changeNewest (·.id) (fun r => decide (r.pane = pane ∧ r.closedAt.isNone))
              fun r => { r with closedAt := some at_ } } }) := by
  unfold Store.paneClosed paneTable
  rw [← updatePane_eq ht, ht]
  exact ⟨_, rfl⟩

/-- The newest open row of a session changes. -/
theorem Holds.updateSession (h : s.Holds sessions panes) {session : Int}
    {f : SessionRow → SessionRow} (hid : ∀ r, (f r).id = r.id)
    (hone : ((Life.openOnes sessions).map (·.session)).Nodup)
    {g : List (Life SessionFacts) → List (Life SessionFacts)}
    (hg : ∀ rows : List SessionRow,
      (rows.map fun r => if decide (r.session = session ∧ r.closedAt.isNone) then f r else r).map
        (·.life) = g (rows.map (·.life))) :
    ∃ found s', s.updateSession session f = .ok (found, s') ∧ s'.Holds (g sessions) panes := by
  obtain ⟨t, ht, hshows⟩ := h.sessions
  obtain ⟨found, heq⟩ := updateSession_eq ht session f
  refine ⟨found, _, heq, ⟨_, rfl, hshows.changeNewest hid ?_ (hg t.rows)⟩, h.panes⟩
  exact fun r hr r' hr' hp hp' =>
    hshows.eq_of_open hone hr hr' (of_decide_eq_true hp) (of_decide_eq_true hp')

theorem Holds.sessionCreated (h : s.Holds sessions panes) (session : Int) (name at_ : String) :
    ∃ n s', s.sessionCreated session name at_ = .ok (n, s') ∧
      s'.Holds (sessions ++ [⟨⟨session, name, at_⟩, false⟩]) panes := by
  obtain ⟨t, ht, hshows⟩ := h.sessions
  have hinsert := hshows.insert (f := fun id => { id, session, name, createdAt := at_ }) fun _ => rfl
  unfold Store.sessionCreated sessionTable
  rw [ht]
  exact ⟨_, _, rfl, ⟨_, rfl, hinsert⟩, h.panes⟩

theorem Holds.sessionRenamed (h : s.Holds sessions panes) (session : Int) (name : String)
    (hone : ((Life.openOnes sessions).map (·.session)).Nodup) :
    ∃ found s', s.sessionRenamed session name = .ok (found, s') ∧
      s'.Holds (Life.changeOpen (·.session) session (fun x => { x with name }) sessions) panes := by
  refine h.updateSession (f := fun r => { r with name })
    (g := Life.changeOpen (·.session) session fun x => { x with name }) (fun _ => rfl) hone
    fun rows => ?_
  simp only [Life.changeOpen, List.map_map]
  refine List.map_congr_left fun r _ => ?_
  cases hclosed : r.closedAt <;> by_cases hsession : r.session = session <;>
    simp [SessionRow.life, SessionRow.facts, hclosed, hsession]

theorem Holds.sessionClosed (h : s.Holds sessions panes) (session : Int) (at_ : String)
    (hone : ((Life.openOnes sessions).map (·.session)).Nodup) :
    ∃ found s', s.sessionClosed session at_ = .ok (found, s') ∧
      s'.Holds (Life.closeAll (·.session) session sessions) panes := by
  refine h.updateSession (f := fun r => { r with closedAt := some at_ })
    (g := Life.closeAll (·.session) session) (fun _ => rfl) hone fun rows => ?_
  simp only [Life.closeAll, List.map_map]
  refine List.map_congr_left fun r _ => ?_
  cases hclosed : r.closedAt <;> by_cases hsession : r.session = session <;>
    simp [SessionRow.life, SessionRow.facts, Life.close, hclosed, hsession]

theorem Holds.paneCreated (h : s.Holds sessions panes) (p : NewPane) :
    ∃ n s', s.paneCreated p = .ok (n, s') ∧
      s'.Holds sessions (panes ++ [⟨p.facts, false⟩]) := by
  obtain ⟨t, ht, hshows⟩ := h.panes
  let row (id : Int) : PaneRow :=
    { id, pane := p.pane, session := p.session, kind := p.kind, title := p.title, shell := p.shell
      args := argsText p.args, cwd := p.cwd, createdAt := p.createdAt
      killed := t.newKilled.getD false }
  have hinsert := hshows.insert (f := row) fun _ => rfl
  unfold Store.paneCreated paneTable
  rw [ht]
  exact ⟨_, _, rfl, h.sessions, _, rfl, hinsert⟩

theorem Holds.paneClosed (h : s.Holds sessions panes) (pane : Int) (at_ : String)
    (hone : ((Life.openOnes panes).map (·.pane)).Nodup) :
    ∃ found s', s.paneClosed pane at_ = .ok (found, s') ∧
      s'.Holds sessions (Life.closeAll (·.pane) pane panes) := by
  obtain ⟨t, ht, hshows⟩ := h.panes
  have hview : (t.table.rows.map fun r =>
        if decide (r.pane = pane ∧ r.closedAt.isNone) then { r with closedAt := some at_ } else r).map
        (·.life) = Life.closeAll (·.pane) pane (t.table.rows.map (·.life)) := by
    simp only [Life.closeAll, List.map_map]
    refine List.map_congr_left fun r _ => ?_
    cases hclosed : r.closedAt <;> by_cases hpane : r.pane = pane <;>
      simp [PaneRow.life, PaneRow.facts, Life.close, hclosed, hpane]
  have hnew : (t.table.changeNewest (·.id) (fun r => decide (r.pane = pane ∧ r.closedAt.isNone))
      fun r => { r with closedAt := some at_ }).Shows (·.id) (·.life)
        (Life.closeAll (·.pane) pane panes) := by
    apply hshows.changeNewest
    case hnumber => exact fun _ => rfl
    case hone =>
      exact fun r hr r' hr' hp hp' =>
        hshows.eq_of_open hone hr hr' (of_decide_eq_true hp) (of_decide_eq_true hp')
    case hview => exact hview
  obtain ⟨found, heq⟩ := paneClosed_eq ht pane at_
  exact ⟨found, _, heq, h.sessions, _, rfl, hnew⟩

/-- The end of a process is noted in the newest row of its pane, if at all. -/
theorem paneExited_eq {t : PaneTable} (ht : s.panes = some t) {pane : Int} {code : Option Int32}
    {killed found : Bool} {s' : Store} (h : s.paneExited pane code killed = .ok (found, s')) :
    s' = (s.updatePane t pane (fun _ => true) fun r => { r with code, killed }).2 := by
  unfold Store.paneExited currentPaneTable paneTable at h
  rw [ht] at h
  cases hkilled : t.hasKilled <;> simp [bind, Except.bind, pure, Except.pure, hkilled] at h
  rw [h]

/-- The end of a process neither opens nor closes a row. -/
theorem Holds.paneExited (h : s.Holds sessions panes) {pane : Int} {code : Option Int32}
    {killed found : Bool} {s' : Store} (hexited : s.paneExited pane code killed = .ok (found, s')) :
    s'.Holds sessions panes := by
  obtain ⟨t, ht, hshows⟩ := h.panes
  rw [paneExited_eq ht hexited, updatePane_eq ht]
  refine ⟨h.sessions, _, rfl, hshows.toNumbered.changeNewest _ fun _ => rfl, ?_⟩
  -- it may be noted in a row of an earlier run, whose life stays the same
  rw [← hshows.eq, Table.changeNewest]
  split
  · rfl
  · show (t.table.rows.map _).map _ = t.table.rows.map _
    rw [List.map_map]
    refine List.map_congr_left fun r _ => ?_
    rw [Function.comp_apply]
    split <;> rfl

end Store

/-! ## §4 Recording -/

namespace Lives

def sessionIds (l : Lives) : List Nat := l.sessions.map (·.subject.id)

def paneIds (l : Lives) : List Nat := l.panes.map (·.subject.id)

/-- What has been told of is not forgotten. -/
theorem sessionIds_hear (l : Lives) (e : LifecycleEvent) :
    l.sessionIds <+: (l.hear e).sessionIds := by
  cases e with
  | sessionCreated s => exact ⟨_, List.map_append.symm⟩
  | sessionRenamed id name =>
    have hids := Life.map_key_changeOpen SessionCard.id id (f := fun s => { s with name })
      (fun _ => rfl) l.sessions
    exact ⟨[], (List.append_nil _).trans hids.symm⟩
  | sessionClosed id =>
    have hids := Life.map_subject_closeAll SessionCard.id id (·.id) l.sessions
    exact ⟨[], (List.append_nil _).trans hids.symm⟩
  | paneCreated | paneClosed | paneExited => exact List.prefix_refl _

theorem paneIds_hear (l : Lives) (e : LifecycleEvent) : l.paneIds <+: (l.hear e).paneIds := by
  cases e with
  | paneCreated d => exact ⟨_, List.map_append.symm⟩
  | paneClosed id session =>
    have hids := Life.map_subject_closeAll PaneDescriptor.id id (·.id) l.panes
    exact ⟨[], (List.append_nil _).trans hids.symm⟩
  | sessionCreated | sessionRenamed | sessionClosed | paneExited => exact List.prefix_refl _

theorem ids_of_prefix {events events' : List LifecycleEvent} (h : events <+: events') :
    (of events).sessionIds <+: (of events').sessionIds ∧
      (of events).paneIds <+: (of events').paneIds := by
  obtain ⟨more, rfl⟩ := h
  induction more using List.reverseRecOn with
  | nil => rw [List.append_nil]; exact ⟨List.prefix_refl _, List.prefix_refl _⟩
  | append_singleton more e ih =>
    rw [← List.append_assoc, of_append_singleton]
    exact ⟨ih.1.trans (sessionIds_hear _ e), ih.2.trans (paneIds_hear _ e)⟩

/-- Identifiers that were given out once each, and have 64 bits. -/
structure Fit (l : Lives) : Prop where
  sessions : l.sessionIds.Nodup
  panes : l.paneIds.Nodup
  sessions_lt : ∀ id ∈ l.sessionIds, id < 2 ^ 64
  panes_lt : ∀ id ∈ l.paneIds, id < 2 ^ 64

/-- What fits has fitted before. -/
theorem Fit.of_hear {l : Lives} {e : LifecycleEvent} (h : (l.hear e).Fit) : l.Fit where
  sessions := h.sessions.sublist (l.sessionIds_hear e).sublist
  panes := h.panes.sublist (l.paneIds_hear e).sublist
  sessions_lt id hid := h.sessions_lt id ((l.sessionIds_hear e).subset hid)
  panes_lt id hid := h.panes_lt id ((l.paneIds_hear e).subset hid)

end Lives

/-- What earlier runs have left, all of it closed. -/
structure Past where
  sessions : List (Life SessionFacts)
  panes : List (Life PaneFacts)
  sessions_closed : ∀ x ∈ sessions, x.closed = true
  panes_closed : ∀ x ∈ panes, x.closed = true

/-- **The store tells the past, and then the lives of one run.** -/
def Store.Tells (s : Store) (past : Past) (l : Lives) : Prop :=
  s.Holds (past.sessions ++ l.sessions.map (.map SessionCard.facts))
    (past.panes ++ l.panes.map (.map PaneDescriptor.facts))

namespace Store

variable {s : Store} {past : Past} {l : Lives}

/-- **An entry that is recorded does to the rows what it tells.** -/
theorem Tells.record (h : s.Tells past l) (hl : l.Fit) {e : LifecycleEvent}
    (he : e.Within (2 ^ 64) (2 ^ 64)) (now : Time.Instant) :
    ((s.record now e).toOption.getD s).Tells past (l.hear e) := by
  -- an identifier finds one open row at most
  have hsessions := nodup_openOnes_told SessionCard.id SessionFacts.session SessionCard.facts
    SessionCard.session_facts past.sessions_closed hl.sessions_lt hl.sessions
  have hpanes := nodup_openOnes_told PaneDescriptor.id PaneFacts.pane PaneDescriptor.facts
    PaneDescriptor.pane_facts past.panes_closed hl.panes_lt hl.panes
  cases e with
  | sessionCreated session =>
    obtain ⟨n, s', hs', hholds⟩ :=
      Holds.sessionCreated h (rowId session.id) session.name session.createdAt.stamp
    rw [Store.record, hs']
    rw [Tells, Lives.hear, List.map_append, ← List.append_assoc]
    exact hholds
  | sessionRenamed id name =>
    obtain ⟨found, s', hs', hholds⟩ := Holds.sessionRenamed h (rowId id) name hsessions
    rw [Store.record, hs']
    rw [changeOpen_told SessionCard.id SessionFacts.session SessionCard.facts
      SessionCard.session_facts past.sessions_closed hl.sessions_lt he
      (f := fun c => { c with name }) fun c => by rw [SessionCard.facts, SessionCard.facts]] at hholds
    exact hholds
  | sessionClosed id =>
    obtain ⟨found, s', hs', hholds⟩ := Holds.sessionClosed h (rowId id) now.stamp hsessions
    rw [Store.record, hs']
    rw [closeAll_told SessionCard.id SessionFacts.session SessionCard.facts
      SessionCard.session_facts past.sessions_closed hl.sessions_lt he] at hholds
    exact hholds
  | paneCreated d =>
    obtain ⟨n, s', hs', hholds⟩ := Holds.paneCreated h (newPane d)
    rw [facts_newPane] at hholds
    rw [Store.record, hs', Tells, Lives.hear, List.map_append, ← List.append_assoc]
    exact hholds
  | paneClosed id session =>
    obtain ⟨found, s', hs', hholds⟩ := Holds.paneClosed h (rowId id) now.stamp hpanes
    rw [Store.record, hs']
    rw [closeAll_told PaneDescriptor.id PaneFacts.pane PaneDescriptor.facts
      PaneDescriptor.pane_facts past.panes_closed hl.panes_lt he] at hholds
    exact hholds
  | paneExited id code killed =>
    rw [Store.record]
    cases hexited : s.paneExited (rowId id) code killed with
    | error _ => exact h
    | ok result =>
      obtain ⟨found, s'⟩ := result
      exact Holds.paneExited h hexited

/-- Records entries in order, each at a time of its own, passing over those that cannot be
    recorded. -/
def recordLog (s : Store) (log : List (Time.Instant × LifecycleEvent)) : Store :=
  log.foldl (fun s x => (s.record x.1 x.2).toOption.getD s) s

theorem recordAll_eq_recordLog (s : Store) (now : Time.Instant) (events : List LifecycleEvent) :
    s.recordAll now events = s.recordLog (events.map (now, ·)) := by
  rw [recordAll, recordLog, List.foldl_map]

/-- **A log that is recorded does to the rows what it tells.** -/
theorem Tells.recordLog (h : s.Tells past {}) {log : List (Time.Instant × LifecycleEvent)}
    (hfit : (Lives.of (log.map (·.2))).Fit) (hwithin : ∀ x ∈ log, x.2.Within (2 ^ 64) (2 ^ 64)) :
    (s.recordLog log).Tells past (Lives.of (log.map (·.2))) := by
  induction log using List.reverseRecOn with
  | nil => exact h
  | append_singleton log x ih =>
    rw [List.map_append, List.map_singleton, Lives.of_append_singleton] at hfit ⊢
    have htells := ih hfit.of_hear fun y hy => hwithin y (List.mem_append_left _ hy)
    rw [Store.recordLog, List.foldl_append]
    exact htells.record hfit.of_hear (hwithin x (by simp)) x.1

end Store

end PaneMux
