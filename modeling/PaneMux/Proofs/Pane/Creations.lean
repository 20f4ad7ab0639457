import PaneMux.Proofs.Pane.Lifecycle

/-!
# Panes Made at the Same Time

Several panes can be in the making at once. Each creation takes an identifier, and later puts a
record into the table or gives the identifier back; in between others do the same, and panes are
closed. Of the identifiers below the next one nothing is kept but those that were lost, and yet each
of them can be told to be free, live or closed.

## Architecture

- **§1** steps of creations, and what has come of them so far (`Creations`)
- **§2** `Creations.Accounted`: every identifier given out is in flight, lost, or was used once;
  with a lemma for each step, and kept by every run
- **§3** the operations that make a pane are series of these steps
- **§4** the three answers of `Panes.close`, read off the accounts
-/

namespace PaneMux

/-! ## §1 Steps -/

/-- A step of one of several creations, or a pane that is closed. -/
inductive CreationStep where
  /-- a creation begins -/
  | reserve
  /-- it ends with a pane without a process -/
  | insert (r : Pane)
  /-- it ends with a terminal -/
  | insertTerminal (now : Time.Instant) (session id : Nat) (o : TerminalOptions)
      (info : ProcessInfo)
  /-- it ends without a pane -/
  | release (id : Nat)
  | close (uptime : Nat) (how : Panes.Teardown) (id : Nat)

def CreationStep.isClose : CreationStep → Bool
  | .close .. => true
  | _ => false

/-- A table with the creations that are going on, and with what has happened to it so far. -/
structure Creations where
  panes : Panes
  /-- the identifiers of creations that have begun and not ended -/
  inFlight : List Nat := []
  /-- every record that has been put into the table, as its identifier and its session -/
  inserted : List (Nat × Nat) := []
  /-- every pane that has been closed -/
  closed : List Nat := []

namespace Creations

def new (config : Config) : Creations := { panes := .new config }

/-- A creation ends with a record in the table. -/
def finish (s : Creations) (id session : Nat) (panes : Panes) : Creations :=
  { s with panes, inFlight := s.inFlight.erase id, inserted := s.inserted ++ [(id, session)] }

/-- A creation only uses an identifier that it has been given. -/
def step (s : Creations) : CreationStep → Creations
  | .reserve => { s with panes := s.panes.reserve.2, inFlight := s.panes.reserve.1 :: s.inFlight }
  | .insert r => if r.id ∈ s.inFlight then s.finish r.id r.session (s.panes.insert r) else s
  | .insertTerminal now session id o info =>
    if id ∈ s.inFlight then
      s.finish id session (s.panes.insertTerminal now session id o info).2
    else s
  | .release id =>
    if id ∈ s.inFlight then
      { s with panes := s.panes.release id, inFlight := s.inFlight.erase id }
    else s
  | .close uptime how id =>
    { s with
      panes := (s.panes.close uptime how id).2
      closed := if s.panes.contains id then s.closed ++ [id] else s.closed }

def run (s : Creations) (steps : List CreationStep) : Creations := steps.foldl step s

theorem run_append (s : Creations) (xs ys : List CreationStep) :
    s.run (xs ++ ys) = (s.run xs).run ys :=
  List.foldl_append

/-! ## §2 Accounts -/

/-- **Every identifier given out is accounted for** once: a creation holds it, it has been lost, or a
    record was put into the table under it. What is in the table is what has not been closed. -/
structure Accounted (s : Creations) : Prop where
  positive : 1 ≤ s.panes.nextId
  accounts : (s.inFlight ++ s.panes.abandoned ++ s.inserted.map Prod.fst).Perm
    (List.range' 1 (s.panes.nextId - 1))
  owners : s.panes.owners = s.inserted.filter (·.1 ∉ s.closed)
  closed : ∀ id ∈ s.closed, id ∈ s.inserted.map Prod.fst

theorem accounted_new (config : Config) : (new config).Accounted where
  positive := Nat.le_refl 1
  accounts := List.Perm.nil
  owners := rfl
  closed _ hid := nomatch hid

theorem perm_of_inFlight {s : Creations} {id : Nat} (hid : id ∈ s.inFlight) :
    (s.inFlight ++ s.panes.abandoned ++ s.inserted.map Prod.fst).Perm
      (id :: (s.inFlight.erase id ++ s.panes.abandoned ++ s.inserted.map Prod.fst)) :=
  ((List.perm_cons_erase hid).append_right _).append_right _

namespace Accounted

variable {s : Creations} {id session : Nat}

theorem nodup (h : s.Accounted) :
    (s.inFlight ++ s.panes.abandoned ++ s.inserted.map Prod.fst).Nodup :=
  h.accounts.nodup_iff.mpr List.nodup_range'

theorem mem_iff (h : s.Accounted) :
    (id ∈ s.inFlight ∨ id ∈ s.panes.abandoned ∨ id ∈ s.inserted.map Prod.fst) ↔
      0 < id ∧ id < s.panes.nextId := by
  have hmem := h.accounts.mem_iff (a := id)
  have hpositive := h.positive
  -- the range starts at one
  rw [List.mem_append, List.mem_append, List.mem_range'_1] at hmem
  rw [← or_assoc, hmem]
  omega

/-- No record has the identifier of a creation that has not ended. -/
theorem not_mem_inserted (h : s.Accounted) (hid : id ∈ s.inFlight) :
    id ∉ s.inserted.map Prod.fst :=
  fun hmem => (List.nodup_append.mp h.nodup).2.2 id (List.mem_append_left _ hid) id hmem rfl

theorem not_mem_abandoned (h : s.Accounted) (hid : id ∈ s.inserted.map Prod.fst) :
    id ∉ s.panes.abandoned :=
  fun hmem => (List.nodup_append.mp h.nodup).2.2 id (List.mem_append_right _ hmem) id hid rfl

theorem reserve (h : s.Accounted) : (s.step .reserve).Accounted := by
  refine ⟨Nat.le_succ_of_le h.positive, ?_, h.owners, h.closed⟩
  -- the identifier that is given out is the last of the range
  obtain ⟨n, hn⟩ : ∃ n, s.panes.nextId = n + 1 :=
    ⟨_, (Nat.sub_add_cancel h.positive).symm⟩
  have haccounts := h.accounts
  rw [hn, Nat.add_sub_cancel] at haccounts
  show (s.panes.nextId :: _).Perm (List.range' 1 s.panes.nextId)
  rw [hn, List.range'_1_concat, Nat.add_comm 1 n]
  exact (haccounts.cons (n + 1)).trans (List.perm_append_singleton _ _).symm

/-- A creation that ends with a record hands its identifier over to it. -/
theorem finish (h : s.Accounted) (hid : id ∈ s.inFlight) {panes : Panes}
    (howners : panes.owners = s.panes.owners ++ [(id, session)])
    (hnext : panes.nextId = s.panes.nextId) (habandoned : panes.abandoned = s.panes.abandoned) :
    (s.finish id session panes).Accounted where
  positive := by
    show 1 ≤ panes.nextId
    rw [hnext]
    exact h.positive
  accounts := by
    show (s.inFlight.erase id ++ panes.abandoned ++ (s.inserted ++ [(id, session)]).map Prod.fst).Perm
      (List.range' 1 (panes.nextId - 1))
    rw [hnext, habandoned, List.map_append, ← List.append_assoc]
    exact (List.perm_append_singleton _ _).trans ((perm_of_inFlight hid).symm.trans h.accounts)
  owners := by
    have hopen : id ∉ s.closed := fun hclosed => h.not_mem_inserted hid (h.closed id hclosed)
    show panes.owners = (s.inserted ++ [(id, session)]).filter (·.1 ∉ s.closed)
    rw [howners, h.owners, List.filter_append]
    simp [hopen]
  closed id' hid' := by
    show id' ∈ (s.inserted ++ [(id, session)]).map Prod.fst
    rw [List.map_append]
    exact List.mem_append_left _ (h.closed id' hid')

/-- An identifier that is given back is free again, or lost if others have been given out since. -/
theorem release (h : s.Accounted) (hid : id ∈ s.inFlight) :
    ({ s with panes := s.panes.release id, inFlight := s.inFlight.erase id } :
      Creations).Accounted := by
  have hheld := perm_of_inFlight hid
  by_cases hnext : s.panes.nextId = id + 1
  · -- it was the last one given out
    have hpanes : s.panes.release id = { s.panes with nextId := id } := if_pos hnext
    rw [hpanes]
    have hpositive : 1 ≤ id := (h.mem_iff.mp (.inl hid)).1
    refine ⟨hpositive, ?_, h.owners, h.closed⟩
    obtain ⟨n, rfl⟩ : ∃ n, id = n + 1 := ⟨_, (Nat.sub_add_cancel hpositive).symm⟩
    have haccounts := hheld.symm.trans h.accounts
    rw [hnext, Nat.add_sub_cancel, List.range'_1_concat, Nat.add_comm 1 n] at haccounts
    exact (haccounts.trans (List.perm_append_singleton _ _)).cons_inv
  · have hpanes : s.panes.release id =
        { s.panes with abandoned := id :: s.panes.abandoned } := if_neg hnext
    rw [hpanes]
    refine ⟨h.positive, ?_, h.owners, h.closed⟩
    show (s.inFlight.erase id ++ id :: s.panes.abandoned ++ s.inserted.map Prod.fst).Perm
      (List.range' 1 (s.panes.nextId - 1))
    exact ((List.perm_middle.append_right _).trans hheld.symm).trans h.accounts

end Accounted

end Creations

namespace Panes

@[simp] theorem abandoned_retire (p : Panes) (uptime : Nat) (how : Teardown) (id : Nat) :
    (p.retire uptime how id).abandoned = p.abandoned := by
  unfold retire
  split <;> rfl

@[simp] theorem abandoned_close (p : Panes) (uptime : Nat) (how : Teardown) (id : Nat) :
    (p.close uptime how id).2.abandoned = p.abandoned := by
  unfold close
  split
  · rfl
  · exact abandoned_retire _ uptime how id

end Panes

namespace Creations

namespace Accounted

variable {s : Creations}

theorem close (h : s.Accounted) (uptime : Nat) (how : Panes.Teardown) (id : Nat) :
    (s.step (.close uptime how id)).Accounted := by
  have hcloses := s.panes.closes_close uptime how id
  cases hfind : s.panes.find? id with
  | none =>
    -- nothing happens where there is no such pane
    have hsame : s.step (.close uptime how id) = s := by
      simp [step, Panes.close, Panes.contains, hfind]
    rw [hsame]
    exact h
  | some r =>
    have howner := Panes.mem_owners_of_find? hfind
    have hstep : s.step (.close uptime how id) =
        { s with panes := (s.panes.close uptime how id).2, closed := s.closed ++ [id] } := by
      simp [step, Panes.contains, hfind]
    rw [hstep]
    constructor
    case positive => exact hcloses.nextId_eq ▸ h.positive
    case accounts =>
      show (s.inFlight ++ (s.panes.close uptime how id).2.abandoned ++ _).Perm
        (List.range' 1 ((s.panes.close uptime how id).2.nextId - 1))
      rw [Panes.abandoned_close, hcloses.nextId_eq]
      exact h.accounts
    case owners =>
      show (s.panes.close uptime how id).2.owners = s.inserted.filter (·.1 ∉ s.closed ++ [id])
      rw [hcloses.owners_eq, h.owners, List.filter_filter]
      exact List.filter_congr fun x _ => by simp [not_or, Bool.and_comm]
    case closed =>
      intro id' hid'
      rcases List.mem_append.mp hid' with hid' | hid'
      · exact h.closed id' hid'
      · rw [List.mem_singleton.mp hid']
        rw [h.owners] at howner
        exact List.mem_map_of_mem (List.mem_filter.mp howner).1

/-- **Every step keeps the accounts.** -/
theorem step (h : s.Accounted) (x : CreationStep) : (s.step x).Accounted := by
  cases x with
  | reserve => exact h.reserve
  | insert r =>
    simp only [Creations.step]
    split
    · rename_i hid
      exact h.finish hid (by simp [Panes.owners, Panes.insert]) rfl rfl
    · exact h
  | insertTerminal now session id o info =>
    simp only [Creations.step]
    split
    · rename_i hid
      exact h.finish hid (by simp [Panes.owners, Panes.insertTerminal, Panes.insert, Panes.ask]) rfl
        rfl
    · exact h
  | release id =>
    simp only [Creations.step]
    split
    · rename_i hid
      exact h.release hid
    · exact h
  | close uptime how id => exact h.close uptime how id

theorem run (h : s.Accounted) (steps : List CreationStep) : (s.run steps).Accounted := by
  induction steps generalizing s with
  | nil => exact h
  | cons x steps ih => exact ih (h.step x)

end Accounted

/-! ## §3 Operations -/

/-- A terminal is made, or not, in two steps. -/
theorem createTerminal_steps (s : Creations) (spawn : Spawner) (now : Time.Instant) (session : Nat)
    (o : TerminalOptions) :
    ∃ steps, (s.run steps).panes = (s.panes.createTerminal spawn now session o).2 ∧
      (s.run steps).inFlight = s.inFlight := by
  unfold Panes.createTerminal
  split
  · exact ⟨[], rfl, rfl⟩
  · dsimp only
    split
    · refine ⟨[.reserve, .release s.panes.nextId], ?_, ?_⟩ <;>
        simp [run, step, Panes.reserve]
    · rename_i info _
      refine ⟨[.reserve, .insertTerminal now session s.panes.nextId o info], ?_, ?_⟩ <;>
        simp [run, step, finish, Panes.reserve]

/-- So is a pane without a process. -/
theorem createPane_steps (s : Creations) (now : Time.Instant) (session : Nat) (kind : PaneKind)
    (o : PaneOptions) :
    ∃ steps, (s.run steps).panes = (s.panes.createPane now session kind o).2 ∧
      (s.run steps).inFlight = s.inFlight := by
  unfold Panes.createPane
  split
  · exact ⟨[], rfl, rfl⟩
  · split
    · exact ⟨[], rfl, rfl⟩
    · let record : Pane :=
        { id := s.panes.nextId, session, kind, title := o.title.getD kind.defaultTitle
          workingDir := o.workingDir, size := o.size, createdAt := now, lastActivity := now
          metadata := o.metadata }
      refine ⟨[.reserve, .insert record], ?_, ?_⟩ <;>
        simp [run, step, finish, Panes.reserve, record]

/-! ## §4 Answers -/

section Answers

variable {s : Creations} {id : Nat}

/-- Where no creation holds an identifier, it has been issued exactly if a record had it. -/
theorem Accounted.wasIssued_iff (h : s.Accounted) (hid : id ∉ s.inFlight) :
    s.panes.wasIssued id = true ↔ id ∈ s.inserted.map Prod.fst := by
  have hmem : id ∈ s.inFlight ∨ id ∈ s.panes.abandoned ∨ id ∈ s.inserted.map Prod.fst ↔
      0 < id ∧ id < s.panes.nextId := h.mem_iff
  simp only [Panes.wasIssued, Bool.and_eq_true, decide_eq_true_eq, Bool.not_eq_true',
    List.contains_eq_mem, decide_eq_false_iff_not]
  constructor
  · rintro ⟨hbounds, habandoned⟩
    rcases hmem.mpr hbounds with hheld | hlost | hinserted
    · exact absurd hheld hid
    · exact absurd hlost habandoned
    · exact hinserted
  · exact fun hinserted => ⟨hmem.mp (.inr (.inr hinserted)), h.not_mem_abandoned hinserted⟩

/-- What has been put into the table and is not there has been closed. -/
theorem Accounted.mem_closed (h : s.Accounted) (hfind : s.panes.find? id = none)
    (hinserted : id ∈ s.inserted.map Prod.fst) : id ∈ s.closed := by
  obtain ⟨x, hx, rfl⟩ := List.mem_map.mp hinserted
  by_contra hopen
  have howner : x ∈ s.panes.owners := by
    rw [h.owners]
    exact List.mem_filter.mpr ⟨hx, by simpa using hopen⟩
  obtain ⟨r, hr, rfl⟩ := List.mem_map.mp howner
  simpa using List.find?_eq_none.mp hfind r hr

/-- What is in the table has been put there, and has not been closed. -/
theorem Accounted.not_mem_closed (h : s.Accounted) {r : Pane} (hfind : s.panes.find? id = some r) :
    (id, r.session) ∈ s.inserted ∧ id ∉ s.closed := by
  have howner := Panes.mem_owners_of_find? hfind
  rw [h.owners] at howner
  obtain ⟨hinserted, hopen⟩ := List.mem_filter.mp howner
  exact ⟨hinserted, by simpa using hopen⟩

theorem Accounted.close_answers (h : s.Accounted) (hid : id ∉ s.inFlight) (uptime : Nat)
    (how : Panes.Teardown) :
    (∀ session, (s.panes.close uptime how id).1 = .ok (some session) ↔
      ∃ r, s.panes.find? id = some r ∧ r.session = session) ∧
    ((s.panes.close uptime how id).1 = .ok none ↔
      id ∈ s.inserted.map Prod.fst ∧ id ∈ s.closed) ∧
    ((s.panes.close uptime how id).1 = .error (.paneNotFound id) ↔
      id ∉ s.inserted.map Prod.fst) := by
  have hissued := h.wasIssued_iff hid
  -- a live pane is answered for by its record, all others by the counter and what was lost of it
  cases hfind : s.panes.find? id with
  | some r =>
    obtain ⟨hinserted, hopen⟩ := h.not_mem_closed hfind
    have hmem : id ∈ s.inserted.map Prod.fst := List.mem_map_of_mem (f := Prod.fst) hinserted
    have hclose : (s.panes.close uptime how id).1 = .ok (some r.session) := by
      simp [Panes.close, hfind]
    simp only [hclose]
    exact ⟨fun session => by simp, by simp [hopen], by simp only [hmem]; simp⟩
  | none =>
    have hclose : (s.panes.close uptime how id).1 =
        if s.panes.wasIssued id then .ok none else .error (.paneNotFound id) := by
      simp [Panes.close, hfind]
    rw [hclose]
    by_cases hmem : id ∈ s.inserted.map Prod.fst
    · rw [if_pos (hissued.mpr hmem)]
      exact ⟨fun session => by simp, iff_of_true (by simp) ⟨hmem, h.mem_closed hfind hmem⟩,
        iff_of_false (by simp) (not_not_intro hmem)⟩
    · rw [if_neg (mt hissued.mp hmem)]
      exact ⟨fun session => by simp, iff_of_false (by simp) fun hboth => hmem hboth.1,
        iff_of_true rfl hmem⟩

end Answers

/-- Closing is no matter of the creations that are going on. -/
theorem run_closes {s : Creations} {closes : List CreationStep}
    (hcloses : ∀ x ∈ closes, x.isClose = true) :
    (s.run closes).inFlight = s.inFlight ∧ (s.run closes).panes.nextId = s.panes.nextId ∧
      (s.run closes).panes.abandoned = s.panes.abandoned := by
  induction closes generalizing s with
  | nil => exact ⟨rfl, rfl, rfl⟩
  | cons x closes ih =>
    obtain ⟨hflight, hnext, habandoned⟩ :=
      ih (s := s.step x) fun y hy => hcloses y (List.mem_cons_of_mem _ hy)
    cases x with
    | close uptime how id =>
      exact ⟨hflight, hnext.trans (s.panes.closes_close uptime how id).nextId_eq,
        habandoned.trans (s.panes.abandoned_close uptime how id)⟩
    | _ => simp [CreationStep.isClose] at hcloses

/-- A creation that fails while there is no other leaves no trace in the identifiers. -/
theorem run_failed {s : Creations} {closes : List CreationStep}
    (hcloses : ∀ x ∈ closes, x.isClose = true) :
    let s' := s.run (.reserve :: closes ++ [.release s.panes.nextId])
    s'.inFlight = s.inFlight ∧ s'.panes.nextId = s.panes.nextId ∧
      s'.panes.abandoned = s.panes.abandoned := by
  intro s'
  obtain ⟨hflight, hnext, habandoned⟩ := run_closes (s := s.step .reserve) hcloses
  have hheld : s.panes.nextId ∈ ((s.step .reserve).run closes).inFlight := by
    rw [hflight]
    exact List.mem_cons_self
  have hs' : s' = { (s.step .reserve).run closes with
      panes := ((s.step .reserve).run closes).panes.release s.panes.nextId
      inFlight := ((s.step .reserve).run closes).inFlight.erase s.panes.nextId } := by
    show ((s.step .reserve).run (closes ++ [.release s.panes.nextId])) = _
    rw [run_append]
    exact if_pos hheld
  -- nobody else has been given an identifier in the meantime
  have hreleased : ((s.step .reserve).run closes).panes.release s.panes.nextId =
      { ((s.step .reserve).run closes).panes with nextId := s.panes.nextId } := if_pos hnext
  rw [hs', hreleased, hflight]
  exact ⟨List.erase_cons_head .., rfl, habandoned⟩

/-- **Identifiers of panes**: however the steps of any creations and closes follow each other, no two
    records that were ever put into the table share an identifier, and those that have not been
    closed are live. For an identifier that no creation holds, closing tells the session exactly if
    the pane is live, does nothing exactly if there was such a pane and it has been closed, and
    complains exactly if there never was one. A creation that fails while no other takes a step
    leaves the next identifier and the lost ones as they were. -/
theorem identifiers_accounted (config : Config) (steps : List CreationStep) :
    let s := (new config).run steps
    (s.inserted.map Prod.fst).Nodup ∧
    s.panes.owners = s.inserted.filter (·.1 ∉ s.closed) ∧
    (∀ id ∉ s.inFlight, ∀ uptime how,
      (∀ session, (s.panes.close uptime how id).1 = .ok (some session) ↔
        ∃ r, s.panes.find? id = some r ∧ r.session = session) ∧
      ((s.panes.close uptime how id).1 = .ok none ↔
        id ∈ s.inserted.map Prod.fst ∧ id ∈ s.closed) ∧
      ((s.panes.close uptime how id).1 = .error (.paneNotFound id) ↔
        id ∉ s.inserted.map Prod.fst)) ∧
    ∀ closes : List CreationStep, (∀ x ∈ closes, x.isClose = true) →
      let s' := s.run (.reserve :: closes ++ [.release s.panes.nextId])
      s'.inFlight = s.inFlight ∧ s'.panes.nextId = s.panes.nextId ∧
        s'.panes.abandoned = s.panes.abandoned := by
  intro s
  have h : s.Accounted := (accounted_new config).run steps
  exact ⟨(List.nodup_append.mp h.nodup).2.1, h.owners,
    fun id hid uptime how => h.close_answers hid uptime how, fun closes hcloses => run_failed hcloses⟩

/-- Three creations overlap. The first fails and its identifier is lost, the second makes a pane,
    which is closed, and the third fails, so that its identifier is free again. Then another one
    fails while the closed pane is closed once more. -/
theorem identifiers_accounted_overlapping :
    let record : Pane := ⟨2, 7, .editor, "notes", none, ⟨24, 80⟩, ⟨0, 0⟩, ⟨0, 0⟩, []⟩
    let s := (new {}).run [.reserve, .reserve, .reserve, .release 1, .insert record,
      .close 0 .graceful 2, .release 3]
    let s' := s.run [.reserve, .close 0 .graceful 2, .release 3]
    s.panes.nextId = 3 ∧ s.panes.abandoned = [1] ∧
      (s.panes.close 0 .graceful 1).1 = .error (.paneNotFound 1) ∧
      (s.panes.close 0 .graceful 2).1 = .ok none ∧
      s'.panes.nextId = 3 ∧ s'.panes.abandoned = [1] := by
  intro record s s'
  obtain ⟨-, -, hclose, hfailed⟩ := identifiers_accounted {}
    [.reserve, .reserve, .reserve, .release 1, .insert record, .close 0 .graceful 2, .release 3]
  obtain ⟨-, -, hnever⟩ := hclose 1 (by decide) 0 .graceful
  obtain ⟨-, hclosed, -⟩ := hclose 2 (by decide) 0 .graceful
  obtain ⟨-, hnext, habandoned⟩ := hfailed [.close 0 .graceful 2] (by decide)
  exact ⟨rfl, rfl, hnever.mpr (by decide), hclosed.mpr (by decide), hnext, habandoned⟩

end Creations

end PaneMux
