import Mathlib.Data.List.DropRight
import Mathlib.Data.List.Induction
import PaneMux.Metrics.Sampler
import PaneMux.Proofs.Keyed

/-!
# Panes that Are Measured

A sampler keeps something of every pane that it tracks. Whatever it is asked, it does to each pane what
it would do to that pane alone, so that what is kept of a pane is fixed by the calls since it was tracked:
the last samples that were read of its process, for as long as it was measured.

## Architecture

- **§1** what is kept of one pane, and a measurement
- **§2** everything that can be asked of a sampler (`Sampler.Call`), and its runs
- **§3** what has been read of a pane (`Sampler.readings`), and what is kept of that
- **§4** panes that are tracked (`Sampler.Tenure`), and panes that are not
-/

namespace PaneMux

/-! ## §1 One pane -/

namespace Tracked

theorem pane_measure (t : Tracked) (probe : Probe) (capacity : Nat) (now : Time.Instant) :
    (t.measure probe capacity now).2.pane = t.pane := by
  unfold measure
  split
  · rfl
  · split <;> rfl

/-- **One more sample takes the place of the oldest** where there are as many as are kept. -/
theorem record_rtake {capacity : Nat} (hpos : 0 < capacity) {t : Tracked} {samples : List Sample}
    (h : t.history = samples.rtake capacity) (s : Sample) :
    (t.record capacity s).history = (samples ++ [s]).rtake capacity := by
  obtain ⟨n, rfl⟩ := Nat.exists_eq_succ_of_ne_zero (Nat.ne_of_gt hpos)
  have hlength : t.history.length = samples.length - (samples.length - (n + 1)) := by
    rw [h, List.rtake, List.length_drop]
  rw [List.rtake_concat_succ]
  simp only [record]
  congr 1
  split
  case isTrue hfull =>
    rw [h, List.rtake, List.rtake, List.drop_drop]
    congr 1
    omega
  case isFalse hroom =>
    rw [h, List.rtake, List.rtake]
    congr 1
    omega

end Tracked

namespace Sampler

/-- What is found of a pane among panes that have been changed but kept their names. -/
theorem find?_map {tracked : List Tracked} {f : Tracked → Tracked} (hf : ∀ t, (f t).pane = t.pane)
    (pane : Nat) :
    (tracked.map f).find? (·.pane = pane) = (tracked.find? (·.pane = pane)).map f := by
  rw [List.find?_map]
  simp only [Function.comp_def, hf]

/-! ## §2 Calls -/

/-- What can be asked of a sampler. In a round the probe says what it will of each process, and each
    pane is measured at a time of its own. -/
inductive Call where
  | track (pane pid : Nat)
  | untrack (pane : Nat)
  | deactivate (pane : Nat)
  | round (probe : Probe) (clock : Clock)

/-- The sampler after a call. -/
def perform (s : Sampler) : Call → Sampler
  | .track pane pid => s.track pane pid
  | .untrack pane => s.untrack pane
  | .deactivate pane => s.deactivate pane
  | .round probe clock => (s.round probe clock).2

/-- Calls one after the other. -/
def run (s : Sampler) (calls : List Call) : Sampler := calls.foldl perform s

theorem run_append (s : Sampler) (calls calls' : List Call) :
    s.run (calls ++ calls') = (s.run calls).run calls' := by
  simp [run]

@[simp] theorem capacity_perform (s : Sampler) (call : Call) :
    (s.perform call).capacity = s.capacity := by
  cases call <;> rfl

theorem capacity_run (s : Sampler) (calls : List Call) : (s.run calls).capacity = s.capacity := by
  induction calls generalizing s with
  | nil => rfl
  | cons call calls ih => exact (ih _).trans (capacity_perform s call)

/-- What a call does to what is kept of a pane. -/
def Call.affect (capacity pane : Nat) (kept : Option Tracked) : Call → Option Tracked
  | .track p pid => if p = pane then some { pane, pid } else kept
  | .untrack p => if p = pane then none else kept
  | .deactivate p => if p = pane then kept.map fun t => { t with active := false } else kept
  | .round probe clock => kept.map fun t => (t.measure probe capacity (clock t.pane)).2

theorem find?_untrack (s : Sampler) (p pane : Nat) :
    (s.untrack p).find? pane = if p = pane then none else s.find? pane := by
  simp only [find?, untrack, List.find?_filter]
  split
  case isTrue h =>
    subst h
    simp
  case isFalse h =>
    congr 1
    funext t
    by_cases ht : t.pane = pane
    · simp [ht, Ne.symm h]
    · simp [ht]

/-- **A call does to each pane what it does to that pane alone.** -/
theorem find?_perform (s : Sampler) (call : Call) (pane : Nat) :
    (s.perform call).find? pane = call.affect s.capacity pane (s.find? pane) := by
  cases call with
  | track p pid =>
    have hothers := find?_untrack s p pane
    simp only [perform, Call.affect, track, find?] at hothers ⊢
    rw [List.find?_append, hothers]
    split
    case isTrue h => simp [h]
    case isFalse h => simp [h]
  | untrack p => exact find?_untrack s p pane
  | deactivate p =>
    simp only [perform, Call.affect, deactivate, find?]
    rw [find?_map (by intro t; split <;> rfl)]
    split
    case isTrue h =>
      cases hfind : s.tracked.find? (·.pane = pane) with
      | none => rfl
      | some t => simp [h, (Keyed.mem_of_find? hfind).2]
    case isFalse h =>
      cases hfind : s.tracked.find? (·.pane = pane) with
      | none => rfl
      | some t => simp [(Keyed.mem_of_find? hfind).2, Ne.symm h]
  | round probe clock =>
    simp only [perform, Call.affect, round, find?, List.map_map]
    exact find?_map (fun t => t.pane_measure _ _ _) pane

/-! ## §3 Readings -/

/-- The call tracks a pane or untracks it. -/
def Call.Registers (pane : Nat) : Call → Prop
  | .track p _ => p = pane
  | .untrack p => p = pane
  | _ => False

/-- The call ends the measuring of a pane: it is deactivated, or its process is reported gone. -/
def Call.ends (pane pid : Nat) : Call → Bool
  | .deactivate p => p = pane
  | .round probe _ =>
    match probe pid with
    | .error (.gone _) => true
    | _ => false
  | _ => false

/-- What a round reads of a pane's process. -/
def Call.reading? (pane pid : Nat) : Call → Option Sample
  | .round probe clock =>
    match probe pid with
    | .ok u => some ⟨pane, pid, u.cpu, u.memory, clock pane⟩
    | .error _ => none
  | _ => none

/-- **What has been read of a pane** in the rounds of some calls, until its measuring ends. -/
def readings (pane pid : Nat) (calls : List Call) : List Sample :=
  (calls.takeWhile fun c => !c.ends pane pid).filterMap (·.reading? pane pid)

/-- No call has ended the measuring of a pane. -/
def lasts (pane pid : Nat) (calls : List Call) : Bool := calls.all fun c => !c.ends pane pid

theorem lasts_append_singleton (pane pid : Nat) (calls : List Call) (call : Call) :
    lasts pane pid (calls ++ [call]) = (lasts pane pid calls && !call.ends pane pid) := by
  simp [lasts]

theorem reading?_of_ends {pane pid : Nat} {call : Call} (h : call.ends pane pid = true) :
    call.reading? pane pid = none := by
  cases call with
  | round probe clock =>
    simp only [Call.ends] at h
    simp only [Call.reading?]
    split at h
    case h_1 hgone => rw [hgone]
    case h_2 => cases h
  | _ => rfl

theorem readings_cons (pane pid : Nat) (call : Call) (calls : List Call) :
    readings pane pid (call :: calls) =
      if call.ends pane pid then [] else (call.reading? pane pid).toList ++ readings pane pid calls := by
  unfold readings
  cases hends : call.ends pane pid with
  | true => simp [hends]
  | false => cases hreading : call.reading? pane pid <;> simp [hends, hreading]

/-- **One more call adds what it reads**, if the pane is still measured. -/
theorem readings_append_singleton (pane pid : Nat) (calls : List Call) (call : Call) :
    readings pane pid (calls ++ [call]) =
      readings pane pid calls ++
        if lasts pane pid calls then (call.reading? pane pid).toList else [] := by
  induction calls with
  | nil =>
    rw [List.nil_append, readings_cons]
    split
    case isTrue hends => simp [readings, reading?_of_ends hends]
    case isFalse => simp [readings, lasts]
  | cons first calls ih =>
    rw [List.cons_append, readings_cons, readings_cons, ih]
    cases hends : first.ends pane pid <;> simp [lasts, hends]

/-- What is kept of a pane that is tracked with a process, after some calls. -/
def standing (capacity pane pid : Nat) (later : List Call) : Tracked where
  pane := pane
  pid := pid
  active := lasts pane pid later
  history := (readings pane pid later).rtake capacity

/-- What a call leaves of a pane that it does not measure: it may have ended the measuring. -/
theorem standing_append_singleton {capacity pane pid : Nat} {call : Call}
    (hreading : call.reading? pane pid = none) (later : List Call) :
    standing capacity pane pid (later ++ [call]) =
      { standing capacity pane pid later with
        active := lasts pane pid later && !call.ends pane pid } := by
  simp [standing, readings_append_singleton, lasts_append_singleton, hreading]

/-- **A round leaves of a pane what is to be left.** -/
theorem measure_standing {capacity : Nat} (hpos : 0 < capacity) (pane pid : Nat) (later : List Call)
    (probe : Probe) (clock : Clock) :
    ((standing capacity pane pid later).measure probe capacity (clock pane)).2 =
      standing capacity pane pid (later ++ [.round probe clock]) := by
  unfold Tracked.measure
  cases hactive : lasts pane pid later with
  | false =>
    -- nothing is read any more
    simp [standing, readings_append_singleton, lasts_append_singleton, hactive]
  | true =>
    have hprobe : (standing capacity pane pid later).pid = pid := rfl
    rw [if_neg (by simp [standing, hactive]), hprobe]
    cases hread : probe pid with
    | ok u =>
      have hrecord := Tracked.record_rtake hpos (t := standing capacity pane pid later) rfl
        ⟨pane, pid, u.cpu, u.memory, clock pane⟩
      simp only [standing, readings_append_singleton, lasts_append_singleton, hactive,
        Call.reading?, Call.ends, hread] at hrecord ⊢
      simpa [Tracked.record] using hrecord
    | error e =>
      rw [standing_append_singleton (by simp [Call.reading?, hread])]
      cases e <;> simp [standing, Call.ends, hread, hactive]

/-- **A call that neither tracks a pane nor untracks it** leaves of it what is to be left. -/
theorem affect_standing {capacity : Nat} (hpos : 0 < capacity) {pane pid : Nat} {call : Call}
    (hcall : ¬call.Registers pane) (later : List Call) :
    call.affect capacity pane (some (standing capacity pane pid later)) =
      some (standing capacity pane pid (later ++ [call])) := by
  cases call with
  | track p pid' =>
    have hp : ¬p = pane := hcall
    rw [standing_append_singleton rfl, Call.affect]
    simp [Call.ends, standing, hp]
  | untrack p =>
    have hp : ¬p = pane := hcall
    rw [standing_append_singleton rfl, Call.affect]
    simp [Call.ends, standing, hp]
  | deactivate p =>
    rw [standing_append_singleton rfl, Call.affect]
    by_cases hp : p = pane <;> simp [Call.ends, standing, hp]
  | round probe clock => exact congrArg some (measure_standing hpos pane pid later probe clock)

/-- **What is kept of a pane that is tracked**, whatever was asked of the others since. -/
theorem find?_run_track (s : Sampler) (hpos : 0 < s.capacity) (pane pid : Nat) {later : List Call}
    (hlater : ∀ call ∈ later, ¬call.Registers pane) :
    ((s.track pane pid).run later).find? pane = some (standing s.capacity pane pid later) := by
  induction later using List.reverseRecOn with
  | nil =>
    have htrack := find?_perform s (.track pane pid) pane
    rw [Call.affect, if_pos rfl] at htrack
    simpa [standing, lasts, readings, run, perform] using htrack
  | append_singleton later call ih =>
    rw [run_append]
    show (((s.track pane pid).run later).perform call).find? pane = _
    have hcapacity : ((s.track pane pid).run later).capacity = s.capacity := capacity_run _ _
    rw [find?_perform, ih fun c hc => hlater c (List.mem_append_left _ hc), hcapacity]
    exact affect_standing hpos (hlater call (by simp)) later

/-! ## §4 Panes that are tracked -/

/-- **A pane is tracked with a process** by a call after which others follow that neither track it again
    nor untrack it. -/
def Tenure (pane pid : Nat) (later calls : List Call) : Prop :=
  ∃ before, calls = before ++ .track pane pid :: later ∧ ∀ call ∈ later, ¬call.Registers pane

/-- A pane that was untracked last is not tracked. -/
theorem not_tenure_of_untrack {pane : Nat} (before : List Call) {after : List Call}
    (hafter : ∀ call ∈ after, ¬call.Registers pane) (pid : Nat) (later : List Call) :
    ¬Tenure pane pid later (before ++ .untrack pane :: after) := by
  rintro ⟨before', hcalls, hlater⟩
  obtain ⟨between, rfl, hrest⟩ | ⟨between, rfl, hrest⟩ := List.append_eq_append_iff.mp hcalls
  · -- it would be tracked after it was untracked
    cases between with
    | nil => cases hrest
    | cons first between =>
      obtain ⟨rfl, rfl⟩ := List.cons.inj hrest
      exact hafter (.track pane pid) (by simp) rfl
  · cases between with
    | nil => cases hrest
    | cons first between =>
      obtain ⟨rfl, rfl⟩ := List.cons.inj hrest
      exact hlater (.untrack pane) (by simp) rfl

theorem find?_run_of_tenure (s : Sampler) (hpos : 0 < s.capacity) {pane pid : Nat}
    {later calls : List Call} (h : Tenure pane pid later calls) :
    (s.run calls).find? pane = some (standing s.capacity pane pid later) := by
  obtain ⟨before, rfl, hlater⟩ := h
  have hrun := find?_run_track (s.run before) (by rwa [capacity_run]) pane pid hlater
  rw [capacity_run] at hrun
  rw [run_append]
  exact hrun

/-- **Nothing is kept of a pane that is not tracked.** -/
theorem find?_run_of_not_tenure (capacity : Nat) {pane : Nat} {calls : List Call}
    (h : ∀ pid later, ¬Tenure pane pid later calls) :
    ((Sampler.new capacity).run calls).find? pane = none := by
  induction calls using List.reverseRecOn with
  | nil => rfl
  | append_singleton calls call ih =>
    rw [run_append]
    show (((Sampler.new capacity).run calls).perform call).find? pane = none
    rw [find?_perform]
    by_cases hcall : call.Registers pane
    · cases call with
      | track p pid =>
        obtain rfl : p = pane := hcall
        exact absurd ⟨calls, rfl, by simp⟩ (h pid [])
      | untrack p => exact if_pos hcall
      | _ => exact hcall.elim
    · have hnone := ih fun pid later ⟨before, hcalls, hlater⟩ => by
        refine h pid (later ++ [call]) ⟨before, by simp [hcalls], fun c hc => ?_⟩
        rcases List.mem_append.mp hc with hc | hc
        · exact hlater c hc
        · rw [List.mem_singleton.mp hc]
          exact hcall
      rw [hnone]
      cases call with
      | track p pid => exact if_neg hcall
      | untrack p => exact if_neg hcall
      | deactivate p => simp [Call.affect]
      | round probe clock => rfl

end Sampler

end PaneMux
