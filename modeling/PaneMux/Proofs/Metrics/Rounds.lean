import PaneMux.Proofs.Metrics.Panes

/-!
# Rounds of Measurements

All panes are measured by one loop, in which each takes its turn, at whatever time the clock shows then.
A turn touches its own pane only, so that any order of turns makes the same round, and each pane has a
history of its own: what was read of its process since it was tracked, for as long as it is measured.

## Architecture

- **§1** a round in which panes take turns (`Sampler.roundInTurn`)
- **§2** histories, and the samples of a round
-/

namespace PaneMux

namespace Tracked

/-- What is kept of a pane when some panes have had their turns. -/
def afterTurns (probe : Probe) (capacity : Nat) (clock : Clock) (done : List Nat) (t : Tracked) :
    Tracked :=
  if t.pane ∈ done then (t.measure probe capacity (clock t.pane)).2 else t

@[simp] theorem pane_afterTurns (probe : Probe) (capacity : Nat) (clock : Clock) (done : List Nat)
    (t : Tracked) : (t.afterTurns probe capacity clock done).pane = t.pane := by
  unfold afterTurns
  split
  · exact t.pane_measure probe capacity (clock t.pane)
  · rfl

theorem afterTurns_of_not_mem {probe : Probe} {capacity : Nat} {clock : Clock} {done : List Nat}
    {t : Tracked} (h : t.pane ∉ done) : t.afterTurns probe capacity clock done = t := if_neg h

/-- One more turn, of a pane that has had none. -/
theorem afterTurns_append_singleton (probe : Probe) (capacity : Nat) (clock : Clock)
    {done : List Nat} {pane : Nat} (hnew : pane ∉ done) (t : Tracked) :
    (t.afterTurns probe capacity clock done).afterTurns probe capacity clock [pane] =
      t.afterTurns probe capacity clock (done ++ [pane]) := by
  by_cases hpane : t.pane = pane
  · have hwaiting : t.pane ∉ done := hpane ▸ hnew
    rw [afterTurns_of_not_mem hwaiting]
    simp [afterTurns, hpane]
  · rw [afterTurns_of_not_mem (by simpa using hpane)]
    simp [afterTurns, hpane]

/-- A round takes a sample of a pane that is measured, if there is something to read. -/
theorem measure_fst (t : Tracked) (probe : Probe) (capacity : Nat) (now : Time.Instant) :
    (t.measure probe capacity now).1 = (t.active && (probe t.pid).isOk) := by
  unfold measure
  cases hactive : t.active with
  | false => rfl
  | true =>
    rw [if_neg (by simp)]
    cases hread : probe t.pid with
    | ok u => rfl
    | error e => cases e <;> rfl

/-- A round leaves a pane alone that is not measured. -/
theorem measure_of_inactive {t : Tracked} (h : t.active = false) (probe : Probe) (capacity : Nat)
    (now : Time.Instant) : (t.measure probe capacity now).2 = t := by
  simp [measure, h]

end Tracked

namespace Sampler

/-! ## §1 Turns -/

/-- The panes that a round measures, with their processes. -/
def active (s : Sampler) : List (Nat × Nat) :=
  (s.tracked.filter (·.active)).map fun t => (t.pane, t.pid)

/-- Adds a sample to those of a pane. -/
def record (s : Sampler) (pane : Nat) (sample : Sample) : Sampler :=
  { s with tracked := s.tracked.map fun t => if t.pane = pane then t.record s.capacity sample else t }

/-- The turn of one pane in a round: its process is measured, and what the probe says is noted. The
    samples are counted. -/
def turn (probe : Probe) (clock : Clock) (sofar : Nat × Sampler) (target : Nat × Nat) :
    Nat × Sampler :=
  match probe target.2 with
  | .ok u =>
    if (sofar.2.find? target.1).isSome then
      (sofar.1 + 1, sofar.2.record target.1 ⟨target.1, target.2, u.cpu, u.memory, clock target.1⟩)
    else sofar
  | .error (.gone _) => (sofar.1, sofar.2.deactivate target.1)
  | .error (.failed _) => sofar

/-- A round in which panes take turns. -/
def roundInTurn (s : Sampler) (probe : Probe) (clock : Clock) (targets : List (Nat × Nat)) :
    Nat × Sampler :=
  targets.foldl (turn probe clock) (0, s)

/-- No pane is tracked twice. -/
def Distinct (s : Sampler) : Prop := (s.tracked.map (·.pane)).Nodup

/-- A change of what is kept of panes that does not change which panes there are. -/
theorem Distinct.map {s : Sampler} (h : s.Distinct) {f : Tracked → Tracked}
    (hf : ∀ t, (f t).pane = t.pane) : Distinct { s with tracked := s.tracked.map f } := by
  unfold Distinct at h ⊢
  simpa [Function.comp_def, hf] using h

theorem Distinct.untrack {s : Sampler} (h : s.Distinct) (pane : Nat) : (s.untrack pane).Distinct :=
  h.sublist (List.filter_sublist.map _)

theorem round_snd (s : Sampler) (probe : Probe) (clock : Clock) :
    (s.round probe clock).2 =
      { s with tracked := s.tracked.map fun t => (t.measure probe s.capacity (clock t.pane)).2 } := by
  simp [round, Function.comp_def]

theorem round_fst (s : Sampler) (probe : Probe) (clock : Clock) :
    (s.round probe clock).1 =
      s.tracked.countP fun t => (t.measure probe s.capacity (clock t.pane)).1 := by
  simp [round, List.countP_eq_length_filter, List.filter_map, Function.comp_def]

/-- **No call tracks a pane twice.** -/
theorem Distinct.perform {s : Sampler} (h : s.Distinct) (call : Call) : (s.perform call).Distinct := by
  cases call with
  | track p pid =>
    -- whatever was there of the pane is taken out first
    unfold Distinct
    rw [Sampler.perform, track, List.map_append, List.map_singleton, List.nodup_append_comm]
    exact List.nodup_cons.mpr ⟨by simp [Sampler.untrack], h.untrack p⟩
  | untrack p => exact h.untrack p
  | deactivate p => exact h.map fun t => by split <;> rfl
  | round probe clock =>
    rw [Sampler.perform, round_snd]
    exact h.map fun t => t.pane_measure probe s.capacity (clock t.pane)

theorem distinct_run (capacity : Nat) (calls : List Call) :
    ((Sampler.new capacity).run calls).Distinct := by
  induction calls using List.reverseRecOn with
  | nil => exact List.nodup_nil
  | append_singleton calls call ih =>
    rw [run_append]
    exact ih.perform call

/-- **A turn measures one pane**, and leaves the others as they are. -/
theorem turn_eq (probe : Probe) (clock : Clock) (n : Nat) {s : Sampler} {target : Nat × Nat}
    (hthere : (s.find? target.1).isSome)
    (hactive : ∀ t ∈ s.tracked, t.pane = target.1 → t.active = true ∧ t.pid = target.2) :
    turn probe clock (n, s) target =
      (n + if (probe target.2).isOk then 1 else 0,
        { s with tracked := s.tracked.map (·.afterTurns probe s.capacity clock [target.1]) }) := by
  -- a change of this pane alone is its turn if it is what a measurement makes of the pane
  have htracked {f : Tracked → Tracked}
      (hf : ∀ t, t.pane = target.1 → t.active = true → t.pid = target.2 →
        f t = (t.measure probe s.capacity (clock t.pane)).2) :
      (s.tracked.map fun t => if t.pane = target.1 then f t else t) =
        s.tracked.map (·.afterTurns probe s.capacity clock [target.1]) := by
    refine List.map_congr_left fun t ht => ?_
    simp only [Tracked.afterTurns, List.mem_singleton]
    split
    case isTrue hpane =>
      obtain ⟨hon, hpid⟩ := hactive t ht hpane
      exact hf t hpane hon hpid
    case isFalse => rfl
  unfold turn
  cases hread : probe target.2 with
  | ok u =>
    simp only [hthere, if_true, record]
    rw [htracked]
    · rfl
    · intro t hpane hon hpid
      simp [Tracked.measure, hon, hpid, hread, hpane]
  | error e =>
    cases e with
    | gone pid =>
      simp only [deactivate]
      rw [htracked]
      · rfl
      · intro t hpane hon hpid
        simp [Tracked.measure, hon, hpid, hread]
    | failed message =>
      -- nothing changes, and that is what a measurement makes of the pane
      have hsame := htracked (f := id) fun t hpane hon hpid => by
        simp [Tracked.measure, hon, hpid, hread]
      rw [← hsame]
      simp [Except.isOk, Except.toBool]

/-- **What panes that have taken their turns have done so far.** -/
theorem roundInTurn_eq_of_subset {s : Sampler} (h : s.Distinct) (probe : Probe) (clock : Clock)
    {targets : List (Nat × Nat)} (hnodup : (targets.map (·.1)).Nodup) (hsubset : targets ⊆ s.active) :
    s.roundInTurn probe clock targets =
      (targets.countP fun target => (probe target.2).isOk,
        { s with tracked :=
            s.tracked.map (·.afterTurns probe s.capacity clock (targets.map (·.1))) }) := by
  induction targets using List.reverseRecOn with
  | nil => simp [roundInTurn, Tracked.afterTurns]
  | append_singleton targets target ih =>
    rw [List.map_append, List.map_singleton] at hnodup
    obtain ⟨hbefore, -, hapart⟩ := List.nodup_append.mp hnodup
    have hnew : target.1 ∉ targets.map (·.1) := fun hmem => hapart _ hmem _ (by simp) rfl
    have htarget : target ∈ s.active := hsubset (by simp)
    obtain ⟨t, ht, hpair⟩ := List.mem_map.mp htarget
    obtain ⟨hmem, hon⟩ := List.mem_filter.mp ht
    have hsofar := ih hbefore fun x hx => hsubset (List.mem_append_left _ hx)
    rw [roundInTurn] at hsofar
    rw [roundInTurn, List.foldl_append, hsofar, List.foldl_cons, List.foldl_nil, turn_eq]
    · simp only [List.countP_append, List.countP_singleton, List.map_map, List.map_append,
        List.map_singleton]
      refine Prod.ext rfl (congrArg (Sampler.mk s.capacity) (List.map_congr_left fun t _ => ?_))
      exact Tracked.afterTurns_append_singleton probe s.capacity clock hnew t
    · rw [find?, find?_map (fun t => Tracked.pane_afterTurns ..), Option.isSome_map,
        Keyed.isSome_find?_iff]
      exact List.mem_map.mpr ⟨t, hmem, congrArg Prod.fst hpair⟩
    · -- the pane has had no turn yet, so it is as it was
      intro x hx hpane
      obtain ⟨t', ht', rfl⟩ := List.mem_map.mp hx
      rw [Tracked.pane_afterTurns] at hpane
      have hsame : t' = t :=
        List.inj_on_of_nodup_map h ht' hmem (hpane.trans (congrArg Prod.fst hpair).symm)
      rw [Tracked.afterTurns_of_not_mem (hpane ▸ hnew), hsame]
      exact ⟨hon, congrArg Prod.snd hpair⟩

/-- **A round in which panes take turns is one round**, in whatever order they do. -/
theorem roundInTurn_eq_of_perm {s : Sampler} (h : s.Distinct) (probe : Probe) (clock : Clock)
    {targets : List (Nat × Nat)} (hperm : targets.Perm s.active) :
    s.roundInTurn probe clock targets = s.round probe clock := by
  have hpanes : (targets.map (·.1)).Perm ((s.tracked.filter (·.active)).map (·.pane)) := by
    simpa [active, Function.comp_def] using hperm.map (·.1)
  have hnodup : (targets.map (·.1)).Nodup :=
    hpanes.nodup_iff.mpr (h.sublist (List.filter_sublist.map _))
  rw [roundInTurn_eq_of_subset h probe clock hnodup hperm.subset]
  refine Prod.ext ?_ ?_
  · -- as many samples, since nothing is read of the others
    rw [round_fst, hperm.countP_eq, active, List.countP_map, List.countP_filter]
    simp only [Tracked.measure_fst, Function.comp_def]
    refine List.countP_congr fun t _ => ?_
    rw [Bool.and_comm]
  · rw [round_snd]
    refine congrArg (Sampler.mk s.capacity) (List.map_congr_left fun t ht => ?_)
    by_cases hon : t.active = true
    · exact if_pos (hpanes.mem_iff.mpr (List.mem_map_of_mem (List.mem_filter.mpr ⟨ht, hon⟩)))
    · -- a pane that is not measured is as it was, with or without a turn
      have hoff := Bool.not_eq_true _ ▸ hon
      rw [Tracked.measure_of_inactive hoff, Tracked.afterTurns]
      exact ite_eq_right_iff.mpr fun _ => Tracked.measure_of_inactive hoff ..

/-! ## §2 Histories -/

/-- The call is about a pane, or measures all of them. -/
def Call.concerns (pane : Nat) : Call → Bool
  | .track p _ => p = pane
  | .untrack p => p = pane
  | .deactivate p => p = pane
  | .round _ _ => true

theorem Call.affect_of_not_concerns {pane : Nat} {call : Call} (h : call.concerns pane = false)
    (capacity : Nat) (kept : Option Tracked) : call.affect capacity pane kept = kept := by
  cases call with
  | round probe clock => exact Bool.noConfusion h
  | _ => exact if_neg (of_decide_eq_false h)

/-- **Calls about other panes make no difference** to what is kept of a pane. -/
theorem find?_run_filter_concerns (s : Sampler) (pane : Nat) (calls : List Call) :
    (s.run (calls.filter (·.concerns pane))).find? pane = (s.run calls).find? pane := by
  induction calls using List.reverseRecOn with
  | nil => rfl
  | append_singleton calls call ih =>
    rw [List.filter_append, run_append s calls]
    show _ = ((s.run calls).perform call).find? pane
    rw [find?_perform, capacity_run]
    cases hcall : call.concerns pane with
    | true =>
      rw [List.filter_cons_of_pos hcall, List.filter_nil, run_append]
      show ((s.run _).perform call).find? pane = _
      rw [find?_perform, capacity_run, ih]
    | false =>
      rw [List.filter_cons_of_neg (by simp [hcall]), List.filter_nil, List.append_nil, ih,
        Call.affect_of_not_concerns hcall]

theorem capacity_new_pos (capacity : Nat) : 0 < (Sampler.new capacity).capacity :=
  Nat.lt_of_lt_of_le Nat.zero_lt_one (Nat.le_max_right _ _)

/-- **What a pane remembers**: of what was read since it was tracked, as much as fits. -/
theorem history_of_tenure (capacity : Nat) {pane pid : Nat} {later calls : List Call}
    (h : Tenure pane pid later calls) :
    ((Sampler.new capacity).run calls).history pane =
      (readings pane pid later).rtake (max 1 capacity) := by
  rw [history, find?_run_of_tenure _ (capacity_new_pos capacity) h]
  simp [standing, new, Nat.max_comm]

/-- A pane that is tracked is measured in the next round, and something is read. -/
def Sampled (probe : Probe) (calls : List Call) (pane : Nat) : Prop :=
  ∃ pid later, Tenure pane pid later calls ∧ lasts pane pid later = true ∧
    ∃ u, probe pid = .ok u

/-- The panes of which a round takes a sample. -/
def sampled (s : Sampler) (probe : Probe) : List Nat :=
  (s.tracked.filter fun t => t.active && (probe t.pid).isOk).map (·.pane)

theorem round_fst_eq_length (s : Sampler) (probe : Probe) (clock : Clock) :
    (s.round probe clock).1 = (s.sampled probe).length := by
  simp [round_fst, sampled, Tracked.measure_fst, List.countP_eq_length_filter]

theorem Distinct.nodup_sampled {s : Sampler} (h : s.Distinct) (probe : Probe) :
    (s.sampled probe).Nodup := h.sublist (List.filter_sublist.map _)

theorem mem_sampled_run_iff (capacity : Nat) (probe : Probe) (calls : List Call) (pane : Nat) :
    pane ∈ ((Sampler.new capacity).run calls).sampled probe ↔ Sampled probe calls pane := by
  have hdistinct := distinct_run capacity calls
  have hok (pid : Nat) : (probe pid).isOk = true ↔ ∃ u, probe pid = .ok u := by
    cases probe pid <;> simp [Except.isOk, Except.toBool]
  simp only [sampled, List.mem_map, List.mem_filter, Bool.and_eq_true, hok]
  constructor
  · rintro ⟨t, ⟨hmem, hon, u, hread⟩, hpane⟩
    have hfind : ((Sampler.new capacity).run calls).find? pane = some t :=
      hpane ▸ Keyed.find?_eq_some hdistinct hmem
    by_cases htracked : ∃ pid later, Tenure pane pid later calls
    · obtain ⟨pid, later, htenure⟩ := htracked
      rw [find?_run_of_tenure _ (capacity_new_pos capacity) htenure] at hfind
      obtain rfl := Option.some.inj hfind
      exact ⟨pid, later, htenure, hon, u, hread⟩
    · rw [find?_run_of_not_tenure capacity fun pid later h => htracked ⟨pid, later, h⟩] at hfind
      cases hfind
  · rintro ⟨pid, later, htenure, hlasts, hread⟩
    have hfind := find?_run_of_tenure _ (capacity_new_pos capacity) htenure
    obtain ⟨hmem, -⟩ := Keyed.mem_of_find? hfind
    exact ⟨_, ⟨hmem, hlasts, hread⟩, rfl⟩

/-- **Each pane has a history of its own**, whatever happens to the others and in whatever order panes
    are measured, and a round counts the panes that it takes samples of. -/
theorem panes_independent (capacity : Nat) (calls : List Call) :
    let s := (Sampler.new capacity).run calls
    (∀ pane,
      (∀ pid later, Tenure pane pid later calls →
        s.history pane = (readings pane pid later).rtake (max 1 capacity)) ∧
      ((∀ pid later, ¬Tenure pane pid later calls) → s.history pane = []) ∧
      s.latest pane = (s.history pane).getLast? ∧
      s.history pane =
        ((Sampler.new capacity).run (calls.filter (·.concerns pane))).history pane) ∧
    ∀ probe clock,
      (∀ targets, targets.Perm s.active → s.roundInTurn probe clock targets = s.round probe clock) ∧
      ∃ panes : List Nat, panes.Nodup ∧ (∀ pane, pane ∈ panes ↔ Sampled probe calls pane) ∧
        (s.round probe clock).1 = panes.length := by
  intro s
  constructor
  · intro pane
    refine ⟨fun pid later => history_of_tenure capacity, fun huntracked => ?_, rfl, ?_⟩
    · rw [history, find?_run_of_not_tenure capacity huntracked]
      rfl
    · rw [history, history, find?_run_filter_concerns]
  · intro probe clock
    have hdistinct : s.Distinct := distinct_run capacity calls
    exact ⟨fun targets => roundInTurn_eq_of_perm hdistinct probe clock, s.sampled probe,
      hdistinct.nodup_sampled probe, mem_sampled_run_iff capacity probe calls,
      s.round_fst_eq_length probe clock⟩

/-- Two panes share a process. One of them is tracked anew with another process, which fails once,
    before the shared one is gone. -/
theorem panes_independent_shared :
    let usage (memory : Nat) : ProcessUsage := ⟨.zero, memory⟩
    let now (second : Int) : Clock := fun pane => ⟨second, pane⟩
    let steady (memory : Nat) : Probe := fun _ => .ok (usage memory)
    let faltering : Probe := fun pid => if pid = 7 then .error (.gone 7) else .error (.failed "busy")
    let later : List Call := [.round faltering (now 2), .round (steady 30) (now 3), .untrack 3,
      .round (steady 40) (now 4), .round (steady 50) (now 5)]
    let between : List Call := [.round (steady 10) (now 0), .track 3 9]
    let calls : List Call := [.track 1 7, .track 2 7] ++ between ++ .track 1 8 :: later
    let s := (Sampler.new 2).run calls
    (s.history 1).map (·.memory) = [40, 50] ∧ (s.history 2).map (·.memory) = [10] ∧
      s.history 3 = [] ∧ (s.latest 1).map (·.timestamp) = some ⟨5, 1⟩ ∧
      (∀ pane, Sampled (steady 60) calls pane ↔ pane = 1) ∧
      s.roundInTurn (steady 60) (now 6) [(1, 8)] = s.round (steady 60) (now 6) := by
  intro usage now steady faltering later between calls s
  obtain ⟨hpanes, hrounds⟩ := panes_independent 2 calls
  obtain ⟨horder, panes, -, hsampled, hcount⟩ := hrounds (steady 60) (now 6)
  have hfirst : Tenure 1 8 later calls := ⟨_, rfl, by simp [later, Call.Registers]⟩
  have hsecond : Tenure 2 7 (between ++ .track 1 8 :: later) calls :=
    ⟨[.track 1 7], rfl, by simp [between, later, Call.Registers]⟩
  have hlast : ∀ call ∈ [Call.round (steady 40) (now 4), .round (steady 50) (now 5)],
      ¬call.Registers 3 := by simp [Call.Registers]
  have hthird : ∀ pid since, ¬Tenure 3 pid since calls :=
    not_tenure_of_untrack ([.track 1 7, .track 2 7] ++ between ++
      [.track 1 8, .round faltering (now 2), .round (steady 30) (now 3)]) hlast
  have hhistory := (hpanes 1).1 8 later hfirst
  have hactive : s.active = [(1, 8)] := by decide +kernel
  have hsample : (s.round (steady 60) (now 6)).1 = 1 := by decide +kernel
  refine ⟨?_, ?_, (hpanes 3).2.1 hthird, ?_, fun pane => ?_, horder _ (.of_eq hactive.symm)⟩
  · rw [hhistory]
    rfl
  · rw [(hpanes 2).1 7 _ hsecond]
    rfl
  · rw [(hpanes 1).2.2.1, hhistory]
    rfl
  · -- the round takes one sample, and the first pane is still measured
    obtain ⟨only, rfl⟩ := List.length_eq_one_iff.mp (hcount.symm.trans hsample)
    have hone : 1 = only :=
      List.mem_singleton.mp ((hsampled 1).mpr ⟨8, later, hfirst, rfl, usage 60, rfl⟩)
    rw [← hsampled, List.mem_singleton, hone]

end Sampler

end PaneMux
