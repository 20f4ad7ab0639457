import PaneMux.Terminal.Resize
import PaneMux.Proofs.Pane.Frame

/-!
# Resizing over Time

A debouncer is asked for sizes and told to forget panes at certain times, and applies what falls due
in between. This file says what happens on the way, one happening after the other, and what the
passing of time does to the slot of a single pane, whatever else falls due.

## Architecture

- **§1** what a debouncer asks of a target and tells it (`ResizeTarget`); terminals are such targets
- **§2** the calls made of a debouncer, and the story of a run (`Debouncer.story`)
- **§3** every call of a target is told in the story
- **§4** one slot: `ResizeSlot.Passes` says all that the passing of time can do to it
-/

namespace PaneMux

/-! ## §1 Targets -/

/-- What can be brought to a size, with a state of affairs `σ` that it may depend on and change. -/
structure ResizeTarget (τ σ ε : Type) where
  resize : τ → Geometry → σ → Except ε Unit × σ
  /-- told after a success -/
  applied : τ → Geometry → σ → σ
  /-- told after a failure -/
  failed : τ → Geometry → ε → σ → σ

/-- A call of a target. -/
inductive TargetCall (τ ε : Type) where
  | resize (target : τ) (size : Geometry) (outcome : Except ε Unit)
  | applied (target : τ) (size : Geometry)
  | failed (target : τ) (size : Geometry) (error : ε)
  deriving DecidableEq

namespace ResizeTarget

variable {τ σ ε : Type}

/-- The target is asked for the size, and told what came of it. -/
def resizer (rt : ResizeTarget τ σ ε) : Resizer τ σ := fun target size s =>
  match rt.resize target size s with
  | (.ok (), s) => (true, rt.applied target size s)
  | (.error e, s) => (false, rt.failed target size e s)

/-- The same target, with a record of its calls. -/
def logged (rt : ResizeTarget τ σ ε) : ResizeTarget τ (σ × List (TargetCall τ ε)) ε where
  resize target size := fun (s, log) =>
    let (outcome, s) := rt.resize target size s
    (outcome, s, log ++ [.resize target size outcome])
  applied target size := fun (s, log) => (rt.applied target size s, log ++ [.applied target size])
  failed target size e := fun (s, log) =>
    (rt.failed target size e s, log ++ [.failed target size e])

end ResizeTarget

/-- The terminals of a table. The machine is asked for the size; subscribers hear of a success as a new
    size and of a failure as a fault. -/
def Panes.resizeTarget : ResizeTarget Nat Panes TerminalError where
  resize id size p :=
    match p.terminal? id with
    | none => (.error .processExited, p)
    | some t =>
      match t.resize size with
      | .ok request => (.ok (), p.ask [request])
      | .error e => (.error e, p)
  applied id size p :=
    (p.modify id fun r => { r with size }).modifyTerminal id fun t =>
      { t with stream := t.stream.publishResize size }
  failed id size e p :=
    p.modifyTerminal id fun t =>
      { t with stream := t.stream.publishFault (.resizeFailed size.rows size.cols e.message) }

/-- A terminal that is not there cannot change. -/
private theorem Panes.modifyTerminal_eq_self {p : Panes} {id : Nat} (h : p.terminal? id = none)
    (f : Terminal → Terminal) : p.modifyTerminal id f = p := by
  have hsame : p.terminals.map (fun t => if t.pane = id then f t else t) = p.terminals := by
    refine (List.map_congr_left fun t ht => ?_).trans (List.map_id _)
    have hne : t.pane ≠ id := by simpa using List.find?_eq_none.mp h t ht
    rw [if_neg hne, id_eq]
  rw [modifyTerminal, hsame]

/-- **Terminals are resized as targets are.** -/
theorem Panes.resizeTerminal_eq : Panes.resizeTerminal = Panes.resizeTarget.resizer := by
  funext id size p
  cases hterminal : p.terminal? id with
  | none =>
    simp only [resizeTerminal, ResizeTarget.resizer, resizeTarget, hterminal,
      modifyTerminal_eq_self hterminal]
  | some t =>
    cases hresize : t.resize size with
    | error e => simp only [resizeTerminal, ResizeTarget.resizer, resizeTarget, hterminal, hresize]
    | ok request =>
      simp only [resizeTerminal, ResizeTarget.resizer, resizeTarget, hterminal, hresize]
      rfl

/-! ## §2 Stories -/

/-- What is asked of a debouncer at a time. -/
inductive ResizeCall (τ : Type) where
  | request (time pane : Nat) (target : τ) (applied wanted : Geometry)
  | forget (time pane : Nat)
  /-- the debouncer notices that it is so late -/
  | wait (time : Nat)
  deriving DecidableEq, Repr

namespace ResizeCall

variable {τ : Type}

def time : ResizeCall τ → Nat
  | .request time .. | .forget time _ | .wait time => time

/-- The pane that a call is about. -/
def pane? : ResizeCall τ → Option Nat
  | .request _ pane .. | .forget _ pane => some pane
  | .wait _ => none

end ResizeCall

/-- What happens to a debouncer. -/
inductive ResizeEvent (τ ε : Type) where
  | called (call : ResizeCall τ)
  /-- a target was asked for a size that it was not known to have -/
  | tried (time pane : Nat) (target : τ) (size : Geometry) (outcome : Except ε Unit)
  deriving DecidableEq

namespace ResizeEvent

variable {τ ε : Type}

/-- The pane that is concerned. -/
def pane? : ResizeEvent τ ε → Option Nat
  | .called call => call.pane?
  | .tried _ pane .. => some pane

def call? : ResizeEvent τ ε → Option (ResizeCall τ)
  | .called call => some call
  | .tried .. => none

/-- How the target is called: it is asked for the size, and told once what came of it. -/
def targetCalls : ResizeEvent τ ε → List (TargetCall τ ε)
  | .called _ => []
  | .tried _ _ target size (.ok ()) => [.resize target size (.ok ()), .applied target size]
  | .tried _ _ target size (.error e) => [.resize target size (.error e), .failed target size e]

end ResizeEvent

namespace Debouncer

variable {τ σ ε : Type}

/-- The debouncer after a call. -/
def perform (d : Debouncer τ) : ResizeCall τ → Debouncer τ
  | .request time pane target applied wanted => d.request time pane target applied wanted
  | .forget _ pane => d.forget pane
  | .wait _ => d

/-- What is asked of a target for a size that is due. -/
def attempt (rt : ResizeTarget τ σ ε) (slot : ResizeSlot τ) (q : PendingResize) (s : σ) :
    List (ResizeEvent τ ε) :=
  if q.size = slot.applied then []
  else [.tried q.due slot.pane slot.target q.size (rt.resize slot.target q.size s).1]

/-- What happens in so many rounds while time passes: `elapse.go` with an account. -/
def attempts (rt : ResizeTarget τ σ ε) (until_ : Nat) :
    Nat → Debouncer τ → σ → List (ResizeEvent τ ε)
  | 0, _, _ => []
  | n + 1, d, s =>
    match d.due? until_ with
    | none => []
    | some (slot, q) =>
      let rest := fire rt.resizer slot q d s
      attempt rt slot q s ++ attempts rt until_ n rest.1 rest.2

/-- The debouncer, and the state of affairs, at the time `horizon` after some calls. What falls due
    before a call has been dealt with when the call is made. -/
def play (rt : ResizeTarget τ σ ε) (horizon : Nat) :
    List (ResizeCall τ) → Debouncer τ → σ → Debouncer τ × σ
  | [], d, s => d.elapse rt.resizer horizon s
  | call :: calls, d, s =>
    let now := d.elapse rt.resizer call.time s
    play rt horizon calls (now.1.perform call) now.2

/-- All that happens meanwhile. -/
def story (rt : ResizeTarget τ σ ε) (horizon : Nat) :
    List (ResizeCall τ) → Debouncer τ → σ → List (ResizeEvent τ ε)
  | [], d, s => attempts rt horizon d.slots.length d s
  | call :: calls, d, s =>
    let now := d.elapse rt.resizer call.time s
    attempts rt call.time d.slots.length d s ++
      .called call :: story rt horizon calls (now.1.perform call) now.2

end Debouncer

/-! ## §3 Nothing is left out -/

namespace Debouncer

variable {τ σ ε : Type} (rt : ResizeTarget τ σ ε)

/-- A size that is due, with a record of what is asked of its target. -/
theorem fire_logged (slot : ResizeSlot τ) (q : PendingResize) (d : Debouncer τ) (s : σ)
    (log : List (TargetCall τ ε)) :
    fire rt.logged.resizer slot q d (s, log) =
      ((fire rt.resizer slot q d s).1, (fire rt.resizer slot q d s).2,
        log ++ (attempt rt slot q s).flatMap (·.targetCalls)) := by
  by_cases hsame : q.size = slot.applied
  · simp [fire, applySize, attempt, hsame]
  · rcases houtcome : rt.resize slot.target q.size s with ⟨_ | _, s'⟩ <;>
      simp [fire, applySize, attempt, hsame, ResizeTarget.resizer, ResizeTarget.logged, houtcome,
        ResizeEvent.targetCalls]

theorem elapse_go_logged (until_ n : Nat) (d : Debouncer τ) (s : σ) (log : List (TargetCall τ ε)) :
    elapse.go rt.logged.resizer until_ n d (s, log) =
      ((elapse.go rt.resizer until_ n d s).1, (elapse.go rt.resizer until_ n d s).2,
        log ++ (attempts rt until_ n d s).flatMap (·.targetCalls)) := by
  induction n generalizing d s log with
  | zero => simp [elapse.go, attempts]
  | succ n ih =>
    unfold elapse.go attempts
    cases d.due? until_ with
    | none => simp
    | some x =>
      obtain ⟨slot, q⟩ := x
      simp only [fire_logged, ih, List.flatMap_append, List.append_assoc]

/-- **The calls of all targets are those told in the story**, in this order, and no other. -/
theorem play_logged (horizon : Nat) (calls : List (ResizeCall τ)) (d : Debouncer τ) (s : σ)
    (log : List (TargetCall τ ε)) :
    play rt.logged horizon calls d (s, log) =
      ((play rt horizon calls d s).1, (play rt horizon calls d s).2,
        log ++ (story rt horizon calls d s).flatMap (·.targetCalls)) := by
  induction calls generalizing d s log with
  | nil => exact elapse_go_logged rt horizon d.slots.length d s log
  | cons call calls ih =>
    have helapse := elapse_go_logged rt call.time d.slots.length d s log
    simp only [play, story, elapse, helapse, ih, List.flatMap_append, List.flatMap_cons,
      ResizeEvent.targetCalls, List.nil_append, List.append_assoc]

theorem filterMap_call?_attempts (until_ n : Nat) (d : Debouncer τ) (s : σ) :
    (attempts rt until_ n d s).filterMap (·.call?) = [] := by
  induction n generalizing d s with
  | zero => rfl
  | succ n ih =>
    unfold attempts
    cases d.due? until_ with
    | none => rfl
    | some x =>
      obtain ⟨slot, q⟩ := x
      rw [List.filterMap_append, ih, List.append_nil]
      unfold attempt
      split <;> rfl

/-- The calls in a story are the calls made. -/
theorem filterMap_call?_story (horizon : Nat) (calls : List (ResizeCall τ)) (d : Debouncer τ)
    (s : σ) : (story rt horizon calls d s).filterMap (·.call?) = calls := by
  induction calls generalizing d s with
  | nil => exact filterMap_call?_attempts rt horizon _ d s
  | cons call calls ih =>
    rw [story, List.filterMap_append, filterMap_call?_attempts, List.nil_append]
    exact congrArg (call :: ·) (ih _ _)

end Debouncer

/-! ## §4 One slot -/

namespace Debouncer

variable {τ : Type} {d : Debouncer τ} {pane : Nat}

/-- No two slots are for the same pane. -/
def Distinct (d : Debouncer τ) : Prop := (d.slots.map (·.pane)).Nodup

theorem map_pane_modify (d : Debouncer τ) (pane : Nat) {f : ResizeSlot τ → ResizeSlot τ}
    (hf : ∀ slot, (f slot).pane = slot.pane) :
    (d.modify pane f).slots.map (·.pane) = d.slots.map (·.pane) := by
  rw [modify, List.map_map]
  refine List.map_congr_left fun slot _ => ?_
  show (if slot.pane = pane then f slot else slot).pane = slot.pane
  split
  · exact hf slot
  · rfl

theorem find?_modify (d : Debouncer τ) (pane : Nat) {f : ResizeSlot τ → ResizeSlot τ}
    (hf : ∀ slot, (f slot).pane = slot.pane) (other : Nat) :
    (d.modify pane f).find? other =
      if other = pane then (d.find? pane).map f else d.find? other := by
  have hpane : ∀ slot : ResizeSlot τ, (if slot.pane = pane then f slot else slot).pane = slot.pane := by
    intro slot
    split
    · exact hf slot
    · rfl
  have hfind : (d.modify pane f).find? other =
      (d.find? other).map fun slot => if slot.pane = pane then f slot else slot := by
    simp only [find?, modify, List.find?_map, Function.comp_def, hpane]
  rw [hfind]
  cases hslot : d.find? other with
  | none =>
    split
    · subst_vars; simp [hslot]
    · rfl
  | some slot =>
    have hother : slot.pane = other := (Keyed.mem_of_find? hslot).2
    split
    · subst_vars; simp [hslot]
    · rename_i hne
      simp [hother, hne]

/-- The slot of a pane after a request for a pane. -/
theorem find?_request (d : Debouncer τ) (now pane : Nat) (target : τ) (applied wanted : Geometry)
    (other : Nat) :
    (d.request now pane target applied wanted).find? other =
      if other = pane then
        some { (d.find? pane).getD { pane, target, applied, pending := none } with
          pending := some ⟨wanted, now + d.pause⟩ }
      else d.find? other := by
  unfold request
  cases hslot : d.find? pane with
  | some slot =>
    simp only
    rw [find?_modify, hslot]
    · rfl
    · exact fun _ => rfl
  | none =>
    simp only [find?, List.find?_append]
    by_cases hother : other = pane
    · subst hother
      have hnone : d.slots.find? (·.pane = other) = none := hslot
      simp [hnone]
    · simp [hother, Ne.symm hother]

theorem find?_forget (d : Debouncer τ) (pane other : Nat) :
    (d.forget pane).find? other = if other = pane then none else d.find? other := by
  simp only [find?, forget, List.find?_filter]
  split
  · subst_vars
    exact List.find?_eq_none.mpr (by simp)
  · rename_i hother
    congr 1
    funext slot
    by_cases hslot : slot.pane = other <;> simp [hslot, hother]

theorem Distinct.perform (h : d.Distinct) (call : ResizeCall τ) : (d.perform call).Distinct := by
  cases call with
  | wait time => exact h
  | forget time pane => exact List.Nodup.sublist (List.Sublist.map _ List.filter_sublist) h
  | request time pane target applied wanted =>
    cases hslot : d.find? pane with
    | some slot =>
      simp only [Distinct, Debouncer.perform, request, hslot]
      rw [map_pane_modify]
      · exact h
      · exact fun _ => rfl
    | none =>
      -- a pane that has no slot yet
      have hnew : ∀ slot ∈ d.slots, slot.pane ≠ pane := by simpa using List.find?_eq_none.mp hslot
      simp only [Distinct, Debouncer.perform, request, hslot, List.map_append, List.map_cons,
        List.map_nil]
      refine List.nodup_append.mpr ⟨h, List.nodup_singleton _, ?_⟩
      intro x hx y hy
      obtain ⟨slot, hmem, rfl⟩ := List.mem_map.mp hx
      rw [List.mem_singleton.mp hy]
      exact hnew slot hmem

/-- What waits is what the slot of its pane waits for. -/
theorem find?_of_mem_waiting (h : d.Distinct) {slot : ResizeSlot τ} {q : PendingResize}
    (hx : (slot, q) ∈ d.waiting) : d.find? slot.pane = some slot ∧ slot.pending = some q := by
  obtain ⟨slot', hslot', hpending⟩ := List.mem_filterMap.mp hx
  obtain ⟨q', hq', hsame⟩ := Option.map_eq_some_iff.mp hpending
  cases hsame
  exact ⟨Keyed.find?_eq_some h hslot', hq'⟩

theorem mem_waiting_of_find? {slot : ResizeSlot τ} {q : PendingResize}
    (hslot : d.find? pane = some slot) (hq : slot.pending = some q) : (slot, q) ∈ d.waiting :=
  List.mem_filterMap.mpr ⟨slot, (Keyed.mem_of_find? hslot).1, by rw [hq]; rfl⟩

/-- There is an earliest of several sizes. -/
private theorem isSome_foldl_earlier (xs : List (ResizeSlot τ × PendingResize))
    {best : Option (ResizeSlot τ × PendingResize)} (h : best.isSome) :
    (xs.foldl earlier best).isSome := by
  induction xs generalizing best with
  | nil => exact h
  | cons x xs ih =>
    refine ih ?_
    unfold earlier
    split
    · split <;> rfl
    · rfl

/-- Nothing is due when all that waits is for later. -/
theorem lt_of_due?_eq_none {until_ : Nat} (h : d.due? until_ = none) {x : ResizeSlot τ × PendingResize}
    (hx : x ∈ d.waiting) : until_ < x.2.due := by
  by_contra hdue
  have hmem : x ∈ d.waiting.filter (·.2.due ≤ until_) :=
    List.mem_filter.mpr ⟨hx, by simpa using hdue⟩
  unfold due? at h
  cases hall : d.waiting.filter (·.2.due ≤ until_) with
  | nil => rw [hall] at hmem; cases hmem
  | cons y ys =>
    have hsome : ((y :: ys).foldl earlier none).isSome := isSome_foldl_earlier ys rfl
    rw [← hall, h] at hsome
    cases hsome

/-- A pane that has been dealt with waits for nothing. -/
theorem waiting_settle (d : Debouncer τ) (pane : Nat) (size : Geometry) (taken : Bool) :
    (d.settle pane size taken).waiting = d.waiting.filter (·.1.pane ≠ pane) := by
  simp only [waiting, settle, modify, List.filterMap_map, List.filter_filterMap]
  refine List.filterMap_congr fun slot _ => ?_
  by_cases hpane : slot.pane = pane
  · cases hq : slot.pending <;> simp [hpane, Option.filter_some]
  · cases hq : slot.pending <;> simp [hpane, hq, Option.filter_some]

end Debouncer

/-- **All that the passing of time can do to the slot of a pane**, with what happens meanwhile. -/
inductive ResizeSlot.Passes {τ ε : Type} (until_ : Nat) :
    Option (ResizeSlot τ) → List (ResizeEvent τ ε) → Option (ResizeSlot τ) → Prop where
  /-- Nothing was due. -/
  | still {slot? : Option (ResizeSlot τ)}
      (hlater : ∀ slot ∈ slot?, ∀ q ∈ slot.pending, until_ < q.due) : Passes until_ slot? [] slot?
  /-- The size was known to be the one in force. -/
  | already {slot : ResizeSlot τ} {q : PendingResize} (hq : slot.pending = some q)
      (hdue : q.due ≤ until_) (hsame : q.size = slot.applied) :
      Passes until_ (some slot) [] (some { slot with pending := none })
  | taken {slot : ResizeSlot τ} {q : PendingResize} (hq : slot.pending = some q)
      (hdue : q.due ≤ until_) (hother : q.size ≠ slot.applied) :
      Passes until_ (some slot) [.tried q.due slot.pane slot.target q.size (.ok ())]
        (some { slot with pending := none, applied := q.size })
  | refused {slot : ResizeSlot τ} {q : PendingResize} (e : ε) (hq : slot.pending = some q)
      (hdue : q.due ≤ until_) (hother : q.size ≠ slot.applied) :
      Passes until_ (some slot) [.tried q.due slot.pane slot.target q.size (.error e)]
        (some { slot with pending := none })

/-- Nothing happens to a slot that waits for nothing. -/
theorem ResizeSlot.Passes.of_idle {τ ε : Type} {until_ : Nat} {slot? slot?' : Option (ResizeSlot τ)}
    {hs : List (ResizeEvent τ ε)} (h : Passes until_ slot? hs slot?')
    (hidle : ∀ slot ∈ slot?, slot.pending = none) : hs = [] ∧ slot?' = slot? := by
  cases h with
  | still => exact ⟨rfl, rfl⟩
  | already hq | taken hq | refused e hq =>
    rw [hidle _ rfl] at hq
    cases hq

namespace Debouncer

variable {τ σ ε : Type} (rt : ResizeTarget τ σ ε) {d : Debouncer τ}

/-- Only the pane whose size is due is concerned. -/
theorem filter_attempt (slot : ResizeSlot τ) (q : PendingResize) (s : σ) (pane : Nat) :
    (attempt rt slot q s).filter (·.pane? = some pane) =
      if slot.pane = pane then attempt rt slot q s else [] := by
  unfold attempt
  split
  · simp
  · by_cases hpane : slot.pane = pane <;> simp [ResizeEvent.pane?, hpane]

/-- One size falls due, and its slot is dealt with. -/
theorem passes_fire {until_ : Nat} {slot : ResizeSlot τ} {q : PendingResize}
    (hslot : d.find? slot.pane = some slot) (hq : slot.pending = some q) (hdue : q.due ≤ until_)
    (s : σ) :
    ResizeSlot.Passes until_ (some slot) (attempt rt slot q s)
        ((fire rt.resizer slot q d s).1.find? slot.pane) ∧
      ∀ slot' ∈ (fire rt.resizer slot q d s).1.find? slot.pane, slot'.pending = none := by
  have hsettled : ∀ taken, (d.settle slot.pane q.size taken).find? slot.pane =
      some { slot with pending := none, applied := if taken then q.size else slot.applied } := by
    intro taken
    rw [settle, find?_modify, if_pos rfl, hslot]
    · rfl
    · exact fun _ => rfl
  have hpending : ∀ taken, ∀ slot' ∈ (d.settle slot.pane q.size taken).find? slot.pane,
      slot'.pending = none := by
    intro taken slot' hslot'
    rw [hsettled taken, Option.mem_some_iff] at hslot'
    rw [← hslot']
  refine ⟨?_, hpending _⟩
  by_cases hsame : q.size = slot.applied
  · have hfire : (fire rt.resizer slot q d s).1 = d.settle slot.pane q.size true := by
      simp [fire, applySize, hsame]
    rw [attempt, if_pos hsame, hfire, hsettled]
    simpa [hsame] using ResizeSlot.Passes.already hq hdue hsame
  · rw [attempt, if_neg hsame]
    rcases houtcome : rt.resize slot.target q.size s with ⟨e | ⟨⟩, s'⟩
    · have hfire : (fire rt.resizer slot q d s).1 = d.settle slot.pane q.size false := by
        simp [fire, applySize, hsame, ResizeTarget.resizer, houtcome]
      rw [hfire, hsettled]
      exact .refused e hq hdue hsame
    · have hfire : (fire rt.resizer slot q d s).1 = d.settle slot.pane q.size true := by
        simp [fire, applySize, hsame, ResizeTarget.resizer, houtcome]
      rw [hfire, hsettled]
      exact .taken hq hdue hsame

theorem Distinct.fire (h : d.Distinct) (slot : ResizeSlot τ) (q : PendingResize) (s : σ) :
    (fire rt.resizer slot q d s).1.Distinct := by
  unfold Distinct Debouncer.fire settle
  rw [map_pane_modify]
  · exact h
  · exact fun _ => rfl

/-- **Passing time deals with a pane at most once**, whatever else falls due, given a round for each
    size that is due. -/
theorem passes_go (h : d.Distinct) {until_ n : Nat} (s : σ)
    (hn : (d.waiting.filter (·.2.due ≤ until_)).length ≤ n) (pane : Nat) :
    ResizeSlot.Passes until_ (d.find? pane)
      ((attempts rt until_ n d s).filter (·.pane? = some pane))
      ((elapse.go rt.resizer until_ n d s).1.find? pane) := by
  induction n generalizing d s with
  | zero =>
    have hnone := List.eq_nil_of_length_eq_zero (Nat.le_zero.mp hn)
    refine .still fun slot hslot q hq => ?_
    have hlater := List.filter_eq_nil_iff.mp hnone (slot, q) (mem_waiting_of_find? hslot hq)
    simpa using hlater
  | succ n ih =>
    unfold attempts elapse.go
    cases hdue? : d.due? until_ with
    | none =>
      exact .still fun slot hslot q hq => lt_of_due?_eq_none hdue? (mem_waiting_of_find? hslot hq)
    | some x =>
      obtain ⟨slot, q⟩ := x
      have hmem := mem_of_due? hdue?
      obtain ⟨hwaiting, hdue⟩ := List.mem_filter.mp hmem
      obtain ⟨hslot, hq⟩ := find?_of_mem_waiting h hwaiting
      -- one size less is due then
      have hless : ((fire rt.resizer slot q d s).1.waiting.filter (·.2.due ≤ until_)).length ≤ n := by
        have hwaiting' : (fire rt.resizer slot q d s).1.waiting =
            d.waiting.filter (·.1.pane ≠ slot.pane) := waiting_settle _ _ _ _
        rw [hwaiting', List.filter_comm]
        refine Nat.le_of_lt_succ (Nat.lt_of_lt_of_le ?_ hn)
        exact List.length_filter_lt_length_iff_exists.mpr ⟨(slot, q), hmem, by simp⟩
      have hrest := ih (h.fire rt slot q s) (fire rt.resizer slot q d s).2 hless
      rw [List.filter_append, filter_attempt]
      by_cases hpane : slot.pane = pane
      · -- it is the pane in question, which waits for nothing from now on
        subst hpane
        obtain ⟨hpasses, hidle⟩ := passes_fire rt hslot hq (by simpa using hdue) s
        obtain ⟨hquiet, hsame⟩ := hrest.of_idle hidle
        rw [if_pos rfl, hquiet, hsame, List.append_nil, hslot]
        exact hpasses
      · have hfind : (fire rt.resizer slot q d s).1.find? pane = d.find? pane := by
          unfold Debouncer.fire settle
          rw [find?_modify, if_neg (Ne.symm hpane)]
          exact fun _ => rfl
        rw [if_neg hpane, List.nil_append, ← hfind]
        exact hrest

/-- **The passing of time, for one pane.** -/
theorem passes_elapse (h : d.Distinct) (until_ : Nat) (s : σ) (pane : Nat) :
    ResizeSlot.Passes until_ (d.find? pane)
      ((attempts rt until_ d.slots.length d s).filter (·.pane? = some pane))
      ((d.elapse rt.resizer until_ s).1.find? pane) := by
  refine passes_go rt h s ?_ pane
  calc (d.waiting.filter (·.2.due ≤ until_)).length
      ≤ d.waiting.length := List.length_filter_le _ _
    _ ≤ d.slots.length := List.length_filterMap_le _ _

theorem Distinct.elapse (h : d.Distinct) (until_ : Nat) (s : σ) :
    (d.elapse rt.resizer until_ s).1.Distinct := by
  unfold Debouncer.elapse
  generalize d.slots.length = n
  induction n generalizing d s with
  | zero => exact h
  | succ n ih =>
    unfold elapse.go
    split
    · exact h
    · exact ih (h.fire rt _ _ s) _

theorem pause_elapse (d : Debouncer τ) (until_ : Nat) (s : σ) :
    (d.elapse rt.resizer until_ s).1.pause = d.pause := by
  unfold Debouncer.elapse
  generalize d.slots.length = n
  induction n generalizing d s with
  | zero => rfl
  | succ n ih =>
    unfold elapse.go
    split
    · rfl
    · exact ih _ _

end Debouncer

namespace ResizeSlot

/-- What still waits afterwards is for later. -/
theorem Passes.later {τ ε : Type} {until_ : Nat} {slot? slot?' : Option (ResizeSlot τ)}
    {hs : List (ResizeEvent τ ε)} (h : Passes until_ slot? hs slot?') :
    ∀ slot ∈ slot?', ∀ q ∈ slot.pending, until_ < q.due := by
  cases h with
  | still hlater => exact hlater
  | already | taken | refused =>
    intro slot hslot q hq
    cases hslot
    cases hq

end ResizeSlot

end PaneMux
