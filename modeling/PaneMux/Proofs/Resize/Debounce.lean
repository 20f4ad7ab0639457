import PaneMux.Proofs.Resize.Timeline
import Mathlib.Data.List.Chain

/-!
# The Specification of Debouncing

Of the requests for a pane those count that are followed by a pause. `Debounced` says, request by
request, what becomes of it, and knows nothing of slots, rounds and of what is due when for which
other pane. The story of every run is shown to be one that it allows.

## Architecture

- **§1** the specification
- **§2** a pane in the middle of a run meets it: time passes (`Debounced.pass`), a call is made
  (`Debounced.call`), and the rest follows by induction over the calls
- **§3** consequences: sizes in force change (`Debounced.changes`), and the last request is heard
- **§4** the law
-/

namespace PaneMux

/-! ## §1 The specification -/

/-- A pane is left alone until a time that has come by now. -/
def LeftAlone {τ ε : Type} (due horizon : Nat) (rest : List (ResizeEvent τ ε)) : Prop :=
  due ≤ horizon ∧ ∀ call, .called call ∈ rest → due ≤ call.time

/-- Where the story of a pane has come to. -/
inductive DebouncePhase (τ : Type) where
  /-- nothing has been asked that is not dealt with; a slot has a target and the size last applied -/
  | calm (slot : Option (τ × Geometry))
  /-- the latest request is for a size, and due at a time -/
  | asked (target : τ) (inForce wanted : Geometry) (due : Nat)

/-- **The story of a pane as it should be**, from some phase on and up to the time `horizon`. -/
inductive Debounced {τ ε : Type} (pane pause horizon : Nat) :
    DebouncePhase τ → List (ResizeEvent τ ε) → Prop where
  | nil (slot : Option (τ × Geometry)) : Debounced pane pause horizon (.calm slot) []
  /-- The slot is dropped. -/
  | forgotten (slot : Option (τ × Geometry)) {time : Nat} {rest : List (ResizeEvent τ ε)}
      (hrest : Debounced pane pause horizon (.calm none) rest) :
      Debounced pane pause horizon (.calm slot) (.called (.forget time pane) :: rest)
  /-- A request counts from now on. The first one of a slot brings the target and the size in force. -/
  | asked (slot : Option (τ × Geometry)) {time : Nat} {target : τ} {applied wanted : Geometry}
      {rest : List (ResizeEvent τ ε)}
      (hrest : Debounced pane pause horizon
        (.asked (slot.getD (target, applied)).1 (slot.getD (target, applied)).2 wanted
          (time + pause)) rest) :
      Debounced pane pause horizon (.calm slot)
        (.called (.request time pane target applied wanted) :: rest)
  /-- Another call comes too early, or the pause is not over yet. -/
  | disturbed {target : τ} {inForce wanted : Geometry} {due : Nat} {rest : List (ResizeEvent τ ε)}
      (halone : ¬ LeftAlone due horizon rest)
      (hrest : Debounced pane pause horizon (.calm (some (target, inForce))) rest) :
      Debounced pane pause horizon (.asked target inForce wanted due) rest
  /-- The size is in force. -/
  | already {target : τ} {inForce : Geometry} {due : Nat} {rest : List (ResizeEvent τ ε)}
      (halone : LeftAlone due horizon rest)
      (hrest : Debounced pane pause horizon (.calm (some (target, inForce))) rest) :
      Debounced pane pause horizon (.asked target inForce inForce due) rest
  /-- The target takes the size. -/
  | taken {target : τ} {inForce wanted : Geometry} {due : Nat} {rest : List (ResizeEvent τ ε)}
      (halone : LeftAlone due horizon rest) (hother : wanted ≠ inForce)
      (hrest : Debounced pane pause horizon (.calm (some (target, wanted))) rest) :
      Debounced pane pause horizon (.asked target inForce wanted due)
        (.tried due pane target wanted (.ok ()) :: rest)
  /-- The target refuses the size, and the one in force stays. -/
  | refused {target : τ} {inForce wanted : Geometry} {due : Nat} (e : ε)
      {rest : List (ResizeEvent τ ε)} (halone : LeftAlone due horizon rest)
      (hother : wanted ≠ inForce)
      (hrest : Debounced pane pause horizon (.calm (some (target, inForce))) rest) :
      Debounced pane pause horizon (.asked target inForce wanted due)
        (.tried due pane target wanted (.error e) :: rest)

/-! ## §2 Every run meets it -/

/-- Where a slot is in the story of its pane. -/
def ResizeSlot.phase {τ : Type} : Option (ResizeSlot τ) → DebouncePhase τ
  | none => .calm none
  | some slot =>
    match slot.pending with
    | none => .calm (some (slot.target, slot.applied))
    | some q => .asked slot.target slot.applied q.size q.due

namespace Debounced

variable {τ ε : Type} {pane pause horizon : Nat} {rest : List (ResizeEvent τ ε)}
  {slot? slot?' : Option (ResizeSlot τ)}

/-- **Time passes**: what is due is done, and done in time. -/
theorem pass {until_ : Nat} {hs : List (ResizeEvent τ ε)} (h : ResizeSlot.Passes until_ slot? hs slot?')
    (hpane : ∀ slot ∈ slot?, slot.pane = pane) (huntil : until_ ≤ horizon)
    (hcalls : ∀ call, .called call ∈ rest → until_ ≤ call.time)
    (hrest : Debounced pane pause horizon (ResizeSlot.phase slot?') rest) :
    Debounced pane pause horizon (ResizeSlot.phase slot?) (hs ++ rest) := by
  have halone : ∀ due, due ≤ until_ → LeftAlone due horizon rest := fun due hdue =>
    ⟨Nat.le_trans hdue huntil, fun call hcall => Nat.le_trans hdue (hcalls call hcall)⟩
  cases h with
  | still => exact hrest
  | already hq hdue hsame =>
    simp only [ResizeSlot.phase, hq, hsame]
    exact .already (halone _ hdue) hrest
  | taken hq hdue hother =>
    simp only [ResizeSlot.phase, hq, hpane _ rfl]
    exact .taken (halone _ hdue) hother hrest
  | refused e hq hdue hother =>
    simp only [ResizeSlot.phase, hq, hpane _ rfl]
    exact .refused e (halone _ hdue) hother hrest

/-- **The story ends** with a request that is for later at most. -/
theorem finish (hlater : ∀ slot ∈ slot?, ∀ q ∈ slot.pending, horizon < q.due) :
    Debounced (ε := ε) pane pause horizon (ResizeSlot.phase slot?) [] := by
  cases slot? with
  | none => exact .nil none
  | some slot =>
    cases hq : slot.pending with
    | none =>
      simp only [ResizeSlot.phase, hq]
      exact .nil _
    | some q =>
      simp only [ResizeSlot.phase, hq]
      exact .disturbed (fun halone => absurd (hlater slot rfl q hq) (Nat.not_lt.mpr halone.1))
        (.nil _)

/-- A call disturbs a request that is for later. -/
theorem of_disturbed {call : ResizeCall τ}
    (hlater : ∀ slot ∈ slot?, ∀ q ∈ slot.pending, call.time < q.due)
    (h : Debounced pane pause horizon (.calm (slot?.map fun slot => (slot.target, slot.applied)))
      (.called call :: rest)) :
    Debounced pane pause horizon (ResizeSlot.phase slot?) (.called call :: rest) := by
  cases slot? with
  | none => exact h
  | some slot =>
    cases hq : slot.pending with
    | none =>
      simp only [ResizeSlot.phase, hq]
      exact h
    | some q =>
      simp only [ResizeSlot.phase, hq]
      refine .disturbed (fun halone => ?_) h
      have hdue := halone.2 call (List.mem_cons_self ..)
      exact absurd (hlater slot rfl q hq) (Nat.not_lt.mpr hdue)

/-- **A call is made**, for this pane or for another one. -/
theorem call {d : Debouncer τ} {call : ResizeCall τ}
    (hlater : ∀ slot ∈ d.find? pane, ∀ q ∈ slot.pending, call.time < q.due)
    (hrest : Debounced pane d.pause horizon (ResizeSlot.phase ((d.perform call).find? pane)) rest) :
    Debounced pane d.pause horizon (ResizeSlot.phase (d.find? pane))
      ([ResizeEvent.called call].filter (·.pane? = some pane) ++ rest) := by
  cases call with
  | wait time => exact hrest
  | forget time other =>
    rw [Debouncer.perform, Debouncer.find?_forget] at hrest
    by_cases hother : pane = other
    · subst hother
      rw [if_pos rfl] at hrest
      simp only [ResizeEvent.pane?, ResizeCall.pane?, decide_true, List.filter_cons_of_pos,
        List.filter_nil, List.cons_append, List.nil_append]
      exact of_disturbed hlater (.forgotten _ hrest)
    · rw [if_neg hother] at hrest
      simpa [ResizeEvent.pane?, ResizeCall.pane?, Ne.symm hother] using hrest
  | request time other target applied wanted =>
    rw [Debouncer.perform, Debouncer.find?_request] at hrest
    by_cases hother : pane = other
    · subst hother
      rw [if_pos rfl] at hrest
      simp only [ResizeEvent.pane?, ResizeCall.pane?, decide_true, List.filter_cons_of_pos,
        List.filter_nil, List.cons_append, List.nil_append]
      refine of_disturbed hlater (.asked _ ?_)
      cases hslot : d.find? pane <;> simpa [hslot, ResizeSlot.phase] using hrest
    · rw [if_neg hother] at hrest
      simpa [ResizeEvent.pane?, ResizeCall.pane?, Ne.symm hother] using hrest

end Debounced

namespace Debouncer

variable {τ σ ε : Type} (rt : ResizeTarget τ σ ε) {d : Debouncer τ} {pane horizon : Nat}

theorem pause_perform (d : Debouncer τ) (call : ResizeCall τ) : (d.perform call).pause = d.pause := by
  cases call with
  | wait | forget => rfl
  | request time pane target applied wanted =>
    unfold perform request
    dsimp only
    split <;> rfl

theorem mem_calls_of_mem_story {calls : List (ResizeCall τ)} {s : σ} {call : ResizeCall τ}
    (h : .called call ∈ (story rt horizon calls d s).filter (·.pane? = some pane)) :
    call ∈ calls := by
  rw [← filterMap_call?_story rt horizon calls d s]
  exact List.mem_filterMap.mpr ⟨_, (List.mem_filter.mp h).1, rfl⟩

/-- **The story of every pane is as it should be**, from any moment of a run on. -/
theorem debounced_story (h : d.Distinct) (calls : List (ResizeCall τ)) (s : σ)
    (hsorted : calls.Pairwise fun a b => a.time ≤ b.time)
    (hhorizon : ∀ call ∈ calls, call.time ≤ horizon) (pane : Nat) :
    Debounced pane d.pause horizon (ResizeSlot.phase (d.find? pane))
      ((story rt horizon calls d s).filter (·.pane? = some pane)) := by
  have hpane : ∀ slot ∈ d.find? pane, slot.pane = pane := fun slot hslot =>
    (Keyed.mem_of_find? hslot).2
  induction calls generalizing d s with
  | nil =>
    have hpasses := passes_elapse rt h horizon s pane
    rw [← List.append_nil ((story rt horizon [] d s).filter _)]
    exact .pass hpasses hpane (Nat.le_refl _) (fun call hcall => nomatch hcall) (.finish hpasses.later)
  | cons call calls ih =>
    obtain ⟨hfirst, hsorted⟩ := List.pairwise_cons.mp hsorted
    obtain ⟨hcall, hhorizon⟩ := List.forall_mem_cons.mp hhorizon
    have hpasses := passes_elapse rt h call.time s pane
    let now := d.elapse rt.resizer call.time s
    have hnow : now.1.Distinct := h.elapse rt call.time s
    have hrest := ih (hnow.perform call) now.2 hsorted hhorizon fun slot hslot =>
      (Keyed.mem_of_find? hslot).2
    have hpause : now.1.pause = d.pause := pause_elapse rt d call.time s
    rw [pause_perform] at hrest
    have hafter := Debounced.call hpasses.later hrest
    rw [hpause] at hafter
    have hstory : (story rt horizon (call :: calls) d s).filter (·.pane? = some pane) =
        (attempts rt call.time d.slots.length d s).filter (·.pane? = some pane) ++
          ([ResizeEvent.called call].filter (·.pane? = some pane) ++
            (story rt horizon calls (now.1.perform call) now.2).filter (·.pane? = some pane)) := by
      rw [← List.filter_append, ← List.filter_append]
      rfl
    rw [hstory]
    refine .pass hpasses hpane hcall (fun call' hcall' => ?_) hafter
    rcases List.mem_append.mp hcall' with hmem | hmem
    · -- the call itself
      cases List.mem_singleton.mp (List.mem_filter.mp hmem).1
      exact Nat.le_refl _
    · exact hfirst call' (mem_calls_of_mem_story rt hmem)

end Debouncer

/-! ## §3 Consequences -/

/-- How a happening changes the size in force in the slot of a pane, where it does: to another one, or
    to none as the slot is dropped. -/
def ResizeEvent.change? {τ ε : Type} : ResizeEvent τ ε → Option (Option Geometry)
  | .tried _ _ _ size (.ok ()) => some (some size)
  | .called (.forget _ _) => some none
  | _ => none

/-- The size in force, where there is a slot. -/
def DebouncePhase.inForce {τ : Type} : DebouncePhase τ → Option Geometry
  | .calm slot => slot.map (·.2)
  | .asked _ inForce _ _ => some inForce

/-- **A slot never applies a size twice in a row**, that which it started with included. -/
theorem Debounced.changes {τ ε : Type} {pane pause horizon : Nat} {phase : DebouncePhase τ}
    {hs : List (ResizeEvent τ ε)} (h : Debounced pane pause horizon phase hs) :
    (phase.inForce :: hs.filterMap (·.change?)).IsChain fun a b => a = none ∨ a ≠ b := by
  induction h with
  | nil => exact .singleton _
  | disturbed _ _ ih => exact ih
  | already _ _ ih => exact ih
  | refused _ _ _ _ ih => exact ih
  | forgotten slot _ ih =>
    refine List.isChain_cons_cons.mpr ⟨?_, ih⟩
    cases slot with
    | none => exact .inl rfl
    | some x => exact .inr (by simp [DebouncePhase.inForce])
  | taken _ hother _ ih =>
    refine List.isChain_cons_cons.mpr ⟨.inr ?_, ih⟩
    intro hsame
    exact hother (Option.some.inj hsame).symm
  | asked slot _ ih =>
    cases slot with
    | some x => exact ih
    | none =>
      -- before the slot was opened no size was in force
      exact ih.imp_head fun _ => .inl rfl

/-- A slot that has applied a size, or is about to. -/
def ResizeSlot.HeadsFor {τ : Type} (wanted : Geometry) (due : Nat) (slot : ResizeSlot τ) : Prop :=
  (slot.pending = none ∧ slot.applied = wanted) ∨ slot.pending = some ⟨wanted, due⟩

/-- Time leads there, unless the target refuses. -/
theorem ResizeSlot.Passes.headsFor {τ ε : Type} {until_ due : Nat} {wanted : Geometry}
    {slot : ResizeSlot τ} {slot?' : Option (ResizeSlot τ)} {hs : List (ResizeEvent τ ε)}
    (h : Passes until_ (some slot) hs slot?') (hheads : slot.HeadsFor wanted due)
    (htaken : ∀ target size e, .tried due slot.pane target size (.error e) ∉ hs) :
    ∃ slot', slot?' = some slot' ∧ slot'.pane = slot.pane ∧ slot'.HeadsFor wanted due := by
  have hpending : ∀ q, slot.pending = some q → q = ⟨wanted, due⟩ := by
    intro q hq
    rcases hheads with ⟨hnone, -⟩ | hsome
    · rw [hnone] at hq
      cases hq
    · rw [hsome] at hq
      exact (Option.some.inj hq).symm
  cases h with
  | still => exact ⟨slot, rfl, rfl, hheads⟩
  | already hq hdue hsame =>
    cases hpending _ hq
    exact ⟨_, rfl, rfl, .inl ⟨rfl, hsame.symm⟩⟩
  | taken hq hdue hother =>
    cases hpending _ hq
    exact ⟨_, rfl, rfl, .inl ⟨rfl, rfl⟩⟩
  | refused e hq hdue hother =>
    cases hpending _ hq
    exact absurd (List.mem_singleton_self _) (htaken _ _ e)

namespace Debouncer

variable {τ σ ε : Type} (rt : ResizeTarget τ σ ε) {d : Debouncer τ} {pane horizon : Nat}

/-- A call that is not for a pane leaves its slot alone. -/
theorem find?_perform_of_ne {call : ResizeCall τ} (h : call.pane? ≠ some pane) :
    (d.perform call).find? pane = d.find? pane := by
  cases call with
  | wait time => rfl
  | forget time other =>
    have hother : pane ≠ other := fun hsame => h (congrArg some hsame.symm)
    rw [perform, find?_forget, if_neg hother]
  | request time other target applied wanted =>
    have hother : pane ≠ other := fun hsame => h (congrArg some hsame.symm)
    rw [perform, find?_request, if_neg hother]

theorem headsFor_request (d : Debouncer τ) (time pane : Nat) (target : τ)
    (applied wanted : Geometry) :
    ∃ slot, (d.perform (.request time pane target applied wanted)).find? pane = some slot ∧
      slot.HeadsFor wanted (time + d.pause) := by
  rw [perform, find?_request, if_pos rfl]
  exact ⟨_, rfl, .inr rfl⟩

/-- While a pane is silent, its slot comes to the size that it heads for, unless the target refuses. -/
theorem headsFor_elapse (h : d.Distinct) {slot : ResizeSlot τ} (hslot : d.find? pane = some slot)
    {wanted : Geometry} {due : Nat} (hheads : slot.HeadsFor wanted due) (until_ : Nat) (s : σ)
    (htaken : ∀ target size e,
      .tried due pane target size (.error e) ∉ attempts rt until_ d.slots.length d s) :
    ∃ slot', (d.elapse rt.resizer until_ s).1.find? pane = some slot' ∧
      slot'.HeadsFor wanted due := by
  have hpane : slot.pane = pane := (Keyed.mem_of_find? hslot).2
  have hpasses := passes_elapse rt h until_ s pane
  rw [hslot] at hpasses
  obtain ⟨slot', hslot', -, hheads'⟩ := hpasses.headsFor hheads fun target size e hmem =>
    htaken target size e (hpane ▸ (List.mem_filter.mp hmem).1)
  exact ⟨slot', hslot', hheads'⟩

/-- **The last size that was asked for comes into force**, unless the target refuses it. -/
theorem inForce_play (h : d.Distinct) {slot : ResizeSlot τ} (hslot : d.find? pane = some slot)
    {wanted : Geometry} {due : Nat} (hheads : slot.HeadsFor wanted due) (hdue : due ≤ horizon)
    (calls : List (ResizeCall τ)) (s : σ) (hsilent : ∀ call ∈ calls, call.pane? ≠ some pane)
    (htaken : ∀ target size e,
      .tried due pane target size (.error e) ∉ story rt horizon calls d s) :
    ((play rt horizon calls d s).1.find? pane).map (·.applied) = some wanted := by
  induction calls generalizing d s slot with
  | nil =>
    obtain ⟨slot', hslot', hheads'⟩ := headsFor_elapse rt h hslot hheads horizon s htaken
    rw [play, hslot', Option.map_some]
    rcases hheads' with ⟨-, happlied⟩ | hpending
    · rw [happlied]
    · -- it cannot wait any longer
      have hlater := (passes_elapse rt h horizon s pane).later slot' hslot' ⟨wanted, due⟩ hpending
      exact absurd hlater (Nat.not_lt.mpr hdue)
  | cons call calls ih =>
    obtain ⟨hother, hsilent⟩ := List.forall_mem_cons.mp hsilent
    obtain ⟨slot', hslot', hheads'⟩ := headsFor_elapse rt h hslot hheads call.time s
      fun target size e hmem => htaken target size e (List.mem_append_left _ hmem)
    refine ih ((h.elapse rt call.time s).perform call) ?_ hheads' _ hsilent
      fun target size e hmem => htaken target size e
        (List.mem_append_right _ (List.mem_cons_of_mem _ hmem))
    rw [find?_perform_of_ne hother]
    exact hslot'

/-- A run comes to each of its calls. -/
theorem play_append (horizon : Nat) (h : d.Distinct) (before after : List (ResizeCall τ)) (s : σ) :
    ∃ (d' : Debouncer τ) (s' : σ) (hs : List (ResizeEvent τ ε)), d'.Distinct ∧ d'.pause = d.pause ∧
      play rt horizon (before ++ after) d s = play rt horizon after d' s' ∧
      story rt horizon (before ++ after) d s = hs ++ story rt horizon after d' s' := by
  induction before generalizing d s with
  | nil => exact ⟨d, s, [], h, rfl, rfl, rfl⟩
  | cons call before ih =>
    let now := d.elapse rt.resizer call.time s
    obtain ⟨d', s', hs, hd', hpause, hplay, hstory⟩ :=
      ih ((h.elapse rt call.time s).perform call) now.2
    refine ⟨d', s', attempts rt call.time d.slots.length d s ++ .called call :: hs, hd', ?_, hplay, ?_⟩
    · rw [hpause, pause_perform, pause_elapse]
    · rw [List.cons_append, story, hstory, List.append_assoc, List.cons_append]

/-- **A pane that falls silent has the size that was asked for last**, unless its target refused it. -/
theorem inForce_of_silent (h : d.Distinct) (s : σ) {before after : List (ResizeCall τ)}
    {time : Nat} {target : τ} {applied wanted : Geometry} (hdue : time + d.pause ≤ horizon)
    (hsilent : ∀ call ∈ after, call.pane? ≠ some pane)
    (htaken : ∀ target' size e, .tried (time + d.pause) pane target' size (.error e) ∉
      story rt horizon (before ++ .request time pane target applied wanted :: after) d s) :
    ((play rt horizon (before ++ .request time pane target applied wanted :: after) d s).1.find?
      pane).map (·.applied) = some wanted := by
  obtain ⟨d', s', hs, hd', hpause, hplay, hstory⟩ :=
    play_append rt horizon h before (.request time pane target applied wanted :: after) s
  rw [hstory] at htaken
  rw [hplay, play]
  -- the slot heads for the size from the request on
  let now := d'.elapse rt.resizer time s'
  obtain ⟨slot, hslot, hheads⟩ := now.1.headsFor_request time pane target applied wanted
  rw [pause_elapse, hpause] at hheads
  refine inForce_play rt ((hd'.elapse rt time s').perform _) hslot hheads hdue after now.2 hsilent ?_
  intro target' size e hmem
  exact htaken target' size e
    (List.mem_append_right _ (List.mem_append_right _ (List.mem_cons_of_mem _ hmem)))

/-! ## §4 The law -/

/-- **Debouncing meets its specification**, for every target, whatever it refuses and when, and all
    calls in the order of their times. What the targets are asked and told is what the story tells, the
    story of each pane is as it should be, no slot applies a size twice in a row, and a pane that falls
    silent has the size that was asked for last, unless its target refused that one. -/
theorem resizes_debounced (pause horizon : Nat) (calls : List (ResizeCall τ)) (s : σ)
    (hsorted : calls.Pairwise fun a b => a.time ≤ b.time)
    (hhorizon : ∀ call ∈ calls, call.time ≤ horizon) :
    let start : Debouncer τ := { pause }
    let told := story rt horizon calls start s
    told.filterMap (·.call?) = calls ∧
      (play rt.logged horizon calls start (s, [])).2.2 = told.flatMap (·.targetCalls) ∧
      ∀ pane,
        let own := told.filter (·.pane? = some pane)
        Debounced pane pause horizon (.calm none) own ∧
          ((own.filterMap (·.change?)).IsChain fun a b => a = none ∨ a ≠ b) ∧
          ∀ before time target applied wanted after,
            calls = before ++ .request time pane target applied wanted :: after →
            (∀ call ∈ after, call.pane? ≠ some pane) →
            time + pause ≤ horizon →
            (∀ target' size e, .tried (time + pause) pane target' size (.error e) ∉ own) →
            ((play rt horizon calls start s).1.find? pane).map (·.applied) = some wanted := by
  intro start told
  have hstart : start.Distinct := List.nodup_nil
  refine ⟨filterMap_call?_story rt horizon calls start s, ?_, fun pane => ?_⟩
  · rw [play_logged, List.nil_append]
  · intro own
    have hown : Debounced pane pause horizon (.calm none) own :=
      debounced_story rt hstart calls s hsorted hhorizon pane
    refine ⟨hown, hown.changes.tail, ?_⟩
    intro before time target applied wanted after hcalls hsilent hdue htaken
    subst hcalls
    exact inForce_of_silent rt hstart s hdue hsilent fun target' size e hmem =>
      htaken target' size e (List.mem_filter.mpr ⟨hmem, by simp [ResizeEvent.pane?]⟩)

/-- A target that refuses whatever it is asked first: of two requests in quick succession the second one
    is tried and fails, and the same request made again is tried again. -/
theorem resizes_debounced_refused :
    let rt : ResizeTarget Unit Bool Unit :=
      { resize := fun _ _ ready => (if ready then .ok () else .error (), true)
        applied := fun _ _ ready => ready
        failed := fun _ _ _ ready => ready }
    let before : List (ResizeCall Unit) :=
      [.request 0 1 () ⟨24, 80⟩ ⟨40, 120⟩, .request 60 1 () ⟨24, 80⟩ ⟨50, 120⟩, .wait 170]
    let calls := before ++ [.request 200 1 () ⟨24, 80⟩ ⟨50, 120⟩]
    (calls.Pairwise fun a b => a.time ≤ b.time) ∧ (∀ call ∈ calls, call.time ≤ 300) ∧
      (play rt.logged 300 calls { pause := 100 } (false, [])).2.2 =
        [.resize () ⟨50, 120⟩ (.error ()), .failed () ⟨50, 120⟩ (),
          .resize () ⟨50, 120⟩ (.ok ()), .applied () ⟨50, 120⟩] ∧
      ((play rt 300 calls { pause := 100 } false).1.find? 1).map (·.applied) = some ⟨50, 120⟩ := by
  intro rt before calls
  have hsorted : calls.Pairwise fun a b => a.time ≤ b.time := by
    simp [calls, before, ResizeCall.time]
  have hhorizon : ∀ call ∈ calls, call.time ≤ 300 := by simp [calls, before, ResizeCall.time]
  obtain ⟨-, hlog, hpanes⟩ := resizes_debounced rt 100 300 calls false hsorted hhorizon
  refine ⟨hsorted, hhorizon, hlog.trans (by decide +kernel), ?_⟩
  refine (hpanes 1).2.2 before 200 () ⟨24, 80⟩ ⟨50, 120⟩ [] rfl (by simp) (by decide) ?_
  intro target size e hmem
  have hown : (story rt 300 calls { pause := 100 } false).filter (·.pane? = some 1) =
      [.called (.request 0 1 () ⟨24, 80⟩ ⟨40, 120⟩), .called (.request 60 1 () ⟨24, 80⟩ ⟨50, 120⟩),
        .tried 160 1 () ⟨50, 120⟩ (.error ()), .called (.request 200 1 () ⟨24, 80⟩ ⟨50, 120⟩),
        .tried 300 1 () ⟨50, 120⟩ (.ok ())] := by
    decide +kernel
  rw [hown] at hmem
  simp at hmem

end Debouncer

end PaneMux
