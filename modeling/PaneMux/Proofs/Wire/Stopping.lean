import Mathlib.Data.List.Induction
import PaneMux.Wire.Pump

/-!
# Stopping a Subscription

Whether a subscription is known when its client stops it depends on what has happened to it, and on one
thing else. A pump that has come to its end is kept until something else is started, and forgotten then.
So the answer to a client that stops a subscription after its end also tells whether anything has been
started since; there is nothing else that it could tell of others.

## Architecture

- **§1** what can be done with the pumps of a connection (`Pumps.Act`)
- **§2** the news of one subscription (`Pumps.News`), and what is known of it after them
- **§3** the pumps that there are of it (`Pumps.Standing`), act by act
- **§4** the law, for two runs
-/

namespace PaneMux.Pumps

/-! ## §1 Acts -/

/-- What can be done with the pumps of a connection. -/
inductive Act where
  | queue (source subscription : Nat)
  | launch
  | stop (subscription : Nat)
  /-- a pump comes to its end -/
  | complete (subscription : Nat)
  deriving DecidableEq, Repr

/-- The pump of a subscription comes to its end, if it has been started. -/
def complete (ps : Pumps) (subscription : Nat) : Pumps :=
  { ps with
    started := ps.started.map fun p =>
      if p.subscription = subscription then { p with held := none, finished := true } else p }

/-- The pumps after an act. -/
def act (ps : Pumps) : Act → Pumps
  | .queue source n => ps.queue source n
  | .launch => ps.launch
  | .stop n => (ps.stop n ([] : List Stream)).2.1
  | .complete n => ps.complete n

/-- The pumps of a new connection after some acts. -/
def run (acts : List Act) : Pumps := acts.foldl act {}

/-! ## §2 News of one subscription -/

/-- What may happen to a subscription, or concern it. -/
inductive News where
  | queued
  | started
  | ended
  | stopped
  /-- others were started, while it was not waiting -/
  | othersStarted
  deriving DecidableEq, Repr

/-- What an act means to a subscription, if anything. -/
def news? (n : Nat) (ps : Pumps) : Act → Option News
  | .queue _ m => if m = n then some .queued else none
  | .launch =>
    if ps.pending.any (·.subscription = n) then some .started
    else if ps.pending.isEmpty then none
    else some .othersStarted
  | .stop m => if m = n then some .stopped else none
  | .complete m =>
    if m = n ∧ ps.started.any (fun p => p.subscription = n ∧ p.finished = false) then some .ended
    else none

/-- All the news of a subscription, oldest first. -/
def news (n : Nat) (acts : List Act) : List News := go {} acts
where
  go (ps : Pumps) : List Act → List News
    | [] => []
    | a :: acts => (ps.news? n a).toList ++ go (ps.act a) acts

/-- The news that are of the subscription itself. -/
def News.own (ns : List News) : List News := ns.filter (· ≠ .othersStarted)

@[simp] theorem News.own_append_others (ns : List News) : own (ns ++ [.othersStarted]) = own ns := by
  simp [own]

theorem News.own_append_singleton {new : News} (h : new ≠ .othersStarted) (ns : List News) :
    own (ns ++ [new]) = own ns ++ [new] := by
  simp [own, h]

theorem news_append_singleton (n : Nat) (acts : List Act) (a : Act) :
    news n (acts ++ [a]) = news n acts ++ ((run acts).news? n a).toList := by
  have hgo (ps : Pumps) :
      news.go n ps (acts ++ [a]) = news.go n ps acts ++ ((acts.foldl act ps).news? n a).toList := by
    induction acts generalizing ps with
    | nil => simp [news.go]
    | cons first acts ih => simp [news.go, ih]
  exact hgo {}

/-- Where a subscription is. -/
inductive Place where
  | unknown
  | waiting
  | running
  /-- at its end, but not yet forgotten -/
  | ended
  deriving DecidableEq, Repr

/-- Where a subscription is after the next news. -/
def Place.next : Place → News → Place
  | _, .queued => .waiting
  | _, .started => .running
  | _, .ended => .ended
  | _, .stopped => .unknown
  | .ended, .othersStarted => .unknown
  | place, .othersStarted => place

/-- Where a subscription is after all the news of it. -/
def place (ns : List News) : Place := ns.foldl Place.next .unknown

theorem place_append_singleton (ns : List News) (new : News) :
    place (ns ++ [new]) = (place ns).next new := by
  simp [place]

/-- Where its own news leave a subscription. -/
def Place.after : Option News → Place
  | none | some .stopped | some .othersStarted => .unknown
  | some .queued => .waiting
  | some .started => .running
  | some .ended => .ended

/-- **What others do matters to a subscription at its end only**: it is where its own news have left it,
    but an end that is not the last news any more is forgotten. -/
theorem place_eq (ns : List News) :
    place ns =
      if (News.own ns).getLast? = some .ended ∧ ns.getLast? ≠ some .ended then .unknown
      else .after (News.own ns).getLast? := by
  induction ns using List.reverseRecOn with
  | nil => rfl
  | append_singleton ns new ih =>
    rw [place_append_singleton, ih, List.getLast?_concat]
    cases new with
    | othersStarted =>
      rw [News.own_append_others]
      rcases (News.own ns).getLast? with _ | _ | _ | _ | _ | _ <;>
        first | rfl | (split <;> rfl)
    | _ =>
      rw [News.own_append_singleton (by simp), List.getLast?_concat]
      simp [Place.next, Place.after]

/-! ## §3 The pumps of one subscription -/

/-- The pumps of a subscription: those that wait, and those that have been started. -/
def entries (n : Nat) (ps : Pumps) : List Pump × List Pump :=
  (ps.pending.filter (·.subscription = n), ps.started.filter (·.subscription = n))

/-- **The pumps of a subscription are what its place says.** -/
inductive Standing (ps : Pumps) (n : Nat) : Place → Prop where
  | unknown (h : ps.entries n = ([], [])) : Standing ps n .unknown
  | waiting {p : Pump} (h : ps.entries n = ([p], [])) (hp : p.finished = false) :
      Standing ps n .waiting
  | running {p : Pump} (h : ps.entries n = ([], [p])) (hp : p.finished = false) :
      Standing ps n .running
  | ended {p : Pump} (h : ps.entries n = ([], [p])) (hp : p.finished = true) : Standing ps n .ended

variable {n m : Nat} {ps : Pumps} {place' : Place}

theorem any_pending (n : Nat) (ps : Pumps) :
    ps.pending.any (·.subscription = n) ↔ (ps.entries n).1 ≠ [] := by
  simp [entries]

theorem any_running (n : Nat) (ps : Pumps) :
    ps.started.any (fun p => p.subscription = n ∧ p.finished = false) ↔
      ∃ p ∈ (ps.entries n).2, p.finished = false := by
  simp [entries, and_assoc]

theorem entries_queue (source n : Nat) (ps : Pumps) :
    (ps.queue source n).entries n =
      ((ps.entries n).1 ++ [{ subscription := n, source }], (ps.entries n).2) := by
  simp [entries, queue]

theorem entries_queue_of_ne (h : m ≠ n) (source : Nat) (ps : Pumps) :
    (ps.queue source m).entries n = ps.entries n := by
  simp [entries, queue, h]

theorem entries_launch (h : ps.pending ≠ []) (n : Nat) :
    ps.launch.entries n = ([], (ps.entries n).2.filter (!·.finished) ++ (ps.entries n).1) := by
  simp [entries, launch, h, List.filter_filter, Bool.and_comm]

/-- To come to its end changes a pump, and no other. -/
theorem entries_complete (m n : Nat) (ps : Pumps) :
    (ps.complete m).entries n =
      ((ps.entries n).1,
        (ps.entries n).2.map fun p => if m = n then { p with held := none, finished := true } else p) := by
  refine Prod.ext rfl ?_
  show (ps.started.map _).filter _ = (ps.started.filter _).map _
  rw [List.filter_map]
  have hsame : ((fun p : Pump => decide (p.subscription = n)) ∘ fun p =>
      if p.subscription = m then { p with held := none, finished := true } else p) =
      fun p => decide (p.subscription = n) := by
    funext p
    by_cases hm : p.subscription = m <;> simp [hm]
  rw [hsame]
  refine List.map_congr_left fun p hp => ?_
  obtain rfl : p.subscription = n := by simpa using (List.mem_filter.mp hp).2
  simp only [eq_comm]

theorem entries_without (m n : Nat) (ps : List Pump) :
    (without m ps).filter (·.subscription = n) =
      if m = n then [] else ps.filter (·.subscription = n) := by
  rw [without, List.filter_filter]
  by_cases hm : m = n
  · simp [hm]
  · rw [if_neg hm]
    refine List.filter_congr fun p _ => ?_
    by_cases hp : p.subscription = n
    · simp [hp, Ne.symm hm]
    · simp [hp]

variable {σ : Type} [Streams σ]

/-- **A subscription is known** if it waits or has been started. -/
theorem stop_fst (n : Nat) (ps : Pumps) (streams : σ) :
    (ps.stop n streams).1 = true ↔ ps.entries n ≠ ([], []) := by
  unfold stop
  rw [← List.head?_filter, ← List.head?_filter]
  cases hpending : ps.pending.filter (·.subscription = n) with
  | cons p rest => simp [entries, hpending]
  | nil =>
    cases hstarted : ps.started.filter (·.subscription = n) <;> simp [entries, hpending, hstarted]

/-- One that waits is stopped, and otherwise one that has been started. -/
theorem entries_stop (n : Nat) (ps : Pumps) (streams : σ) :
    (ps.stop n streams).2.1.entries n =
      ([], if (ps.entries n).1 = [] then [] else (ps.entries n).2) := by
  unfold stop
  rw [← List.head?_filter, ← List.head?_filter]
  cases hpending : ps.pending.filter (·.subscription = n) with
  | cons p rest => simp [entries, entries_without, hpending]
  | nil =>
    cases hstarted : ps.started.filter (·.subscription = n) <;>
      simp [entries, entries_without, hpending, hstarted]

theorem entries_stop_of_ne {σ : Type} [Streams σ] (h : m ≠ n) (ps : Pumps) (streams : σ) :
    (ps.stop m streams).2.1.entries n = ps.entries n := by
  unfold stop
  split
  · simp [entries, entries_without, h]
  · split
    · simp [entries, entries_without, h]
    · rfl

theorem Standing.of_entries_eq {pl : Place} (h : ps.Standing n pl) {ps' : Pumps}
    (heq : ps'.entries n = ps.entries n) : ps'.Standing n pl := by
  cases h with
  | unknown h => exact .unknown (heq.trans h)
  | waiting h hp => exact .waiting (heq.trans h) hp
  | running h hp => exact .running (heq.trans h) hp
  | ended h hp => exact .ended (heq.trans h) hp

theorem Standing.launch {pl : Place} (h : ps.Standing n pl) :
    ps.launch.Standing n (((ps.news? n .launch).map pl.next).getD pl) := by
  by_cases hidle : ps.pending = []
  · -- there is nothing to start
    simpa [news?, Pumps.launch, hidle] using h
  · have hnews : ps.news? n .launch =
        if (ps.entries n).1 ≠ [] then some .started else some .othersStarted := by
      simp only [news?, any_pending, List.isEmpty_iff, hidle, if_false]
    have hentries := entries_launch hidle n
    rw [hnews]
    cases h with
    | unknown h =>
      rw [h] at hentries ⊢
      exact .unknown hentries
    | waiting h hp =>
      rw [h] at hentries ⊢
      exact .running hentries hp
    | running h hp =>
      rw [h] at hentries ⊢
      exact .running (by simpa [hp] using hentries) hp
    | ended h hp =>
      rw [h] at hentries ⊢
      exact .unknown (by simpa [hp] using hentries)

theorem Standing.stop {pl : Place} (h : ps.Standing n pl) (streams : σ) :
    (ps.stop n streams).2.1.Standing n .unknown := by
  refine .unknown ?_
  rw [entries_stop]
  cases h with
  | unknown h | waiting h hp | running h hp | ended h hp => simp [h]

theorem Standing.complete {pl : Place} (h : ps.Standing n pl) :
    (ps.complete n).Standing n (((ps.news? n (.complete n)).map pl.next).getD pl) := by
  have hnews : ps.news? n (.complete n) =
      if ∃ p ∈ (ps.entries n).2, p.finished = false then some .ended else none := by
    simp only [news?, any_running, true_and]
  have hentries := entries_complete n n ps
  rw [hnews]
  cases h with
  | unknown h =>
    rw [h] at hentries ⊢
    exact .unknown hentries
  | waiting h hp =>
    rw [h] at hentries ⊢
    exact .waiting hentries hp
  | running h hp =>
    rw [h] at hentries ⊢
    simp only [List.mem_singleton, exists_eq_left, hp]
    exact .ended hentries (by simp)
  | ended h hp =>
    rw [h] at hentries ⊢
    simp only [List.mem_singleton, exists_eq_left, hp]
    exact .ended hentries (by simp)

/-- **What an act does to a subscription** is what its news say. -/
theorem Standing.act {pl : Place} (h : ps.Standing n pl) (a : Act)
    (hfresh : ∀ source, a = .queue source n → pl = .unknown) :
    (ps.act a).Standing n (((ps.news? n a).map pl.next).getD pl) := by
  cases a with
  | queue source m =>
    by_cases hm : m = n
    · subst hm
      cases hfresh source rfl
      cases h with | unknown h =>
      have hentries := entries_queue source m ps
      rw [h] at hentries
      simp only [news?, if_true]
      exact .waiting hentries rfl
    · simp only [news?, hm, if_false]
      exact h.of_entries_eq (entries_queue_of_ne hm source ps)
  | launch => exact h.launch
  | stop m =>
    by_cases hm : m = n
    · subst hm
      simp only [news?, if_true]
      exact h.stop _
    · simp only [news?, hm, if_false]
      exact h.of_entries_eq (entries_stop_of_ne hm ps _)
  | complete m =>
    by_cases hm : m = n
    · subst hm
      exact h.complete
    · simp only [news?, hm, false_and, if_false]
      refine h.of_entries_eq ?_
      show (ps.complete m).entries n = _
      simp [entries_complete, hm]

/-- A subscription that is unknown stays so until it is queued. -/
theorem Standing.next_of_unknown (h : ps.Standing n .unknown) {a : Act} {new : News}
    (hnew : ps.news? n a = some new) (hne : new ≠ .queued) : Place.unknown.next new = .unknown := by
  cases h with | unknown h =>
  have hnone : ps.pending.any (·.subscription = n) = false ∧
      ps.started.any (fun p => p.subscription = n ∧ p.finished = false) = false := by
    rw [← Bool.not_eq_true, ← Bool.not_eq_true, any_pending, any_running, h]
    simp
  cases new with
  | queued => exact absurd rfl hne
  | stopped | othersStarted => rfl
  | started | ended =>
    -- there is no pump that could be started or end
    simp only [news?, hnone, Bool.false_eq_true, and_false, if_false] at hnew
    repeat' split at hnew
    all_goals cases hnew

/-- **Where a subscription is**, as long as its number is given out once. -/
theorem standing_run (acts : List Act) (honce : (news n acts).count .queued ≤ 1) :
    (run acts).Standing n (place (news n acts)) ∧
      (.queued ∉ news n acts → place (news n acts) = .unknown) := by
  induction acts using List.reverseRecOn with
  | nil => exact ⟨.unknown rfl, fun _ => rfl⟩
  | append_singleton acts a ih =>
    rw [news_append_singleton, List.count_append] at honce
    obtain ⟨hstanding, hunknown⟩ := ih (by omega)
    have hstep := hstanding.act a fun source ha => hunknown fun hqueued => by
      -- it has been queued before
      have hagain : (run acts).news? n a = some .queued := by simp [ha, news?]
      have hbefore := List.count_pos_iff.mpr hqueued
      simp [hagain] at honce
      omega
    have hrun : run (acts ++ [a]) = (run acts).act a := by simp [run]
    rw [hrun, news_append_singleton]
    cases hnew : (run acts).news? n a with
    | none =>
      simp only [hnew, Option.map_none, Option.getD_none] at hstep
      simpa using ⟨hstep, hunknown⟩
    | some new =>
      simp only [hnew, Option.map_some, Option.getD_some] at hstep
      rw [Option.toList_some, place_append_singleton]
      refine ⟨hstep, fun hnone => ?_⟩
      obtain ⟨hbefore, hne⟩ : .queued ∉ news n acts ∧ new ≠ .queued := by
        simpa [eq_comm] using hnone
      rw [hunknown hbefore] at hstanding ⊢
      exact hstanding.next_of_unknown hnew hne

/-! ## §4 Answers -/

/-- **A subscription is known** unless its news say that it is not. -/
theorem stop_run_iff (acts : List Act) (honce : (news n acts).count .queued ≤ 1) (streams : σ) :
    ((run acts).stop n streams).1 = true ↔ place (news n acts) ≠ .unknown := by
  rw [stop_fst]
  obtain ⟨hstanding, -⟩ := standing_run acts honce
  generalize place (news n acts) = pl at hstanding
  cases hstanding with
  | unknown h | waiting h hp | running h hp | ended h hp => simp [h]

theorem count_own (ns : List News) : (News.own ns).count .queued = ns.count .queued :=
  List.count_filter (by decide)

/-- The end of a subscription is of its own news. -/
theorem getLast?_own {ns : List News} (h : ns.getLast? = some .ended) :
    (News.own ns).getLast? = some .ended := by
  obtain ⟨before, rfl⟩ := List.getLast?_eq_some_iff.mp h
  rw [News.own_append_singleton (by decide), List.getLast?_concat]

/-- **Answers to a stop agree** in any two runs in which the same has happened to a subscription, exactly
    if its end is the last news of it in both of them or in neither. Where it has not come to its end,
    or has been stopped since, that is so whatever has been done with others. -/
theorem stop_answers_agree {acts acts' : List Act} {n : Nat}
    (hown : News.own (news n acts) = News.own (news n acts'))
    (honce : (News.own (news n acts)).count .queued ≤ 1) (streams streams' : σ) :
    ((run acts).stop n streams).1 = ((run acts').stop n streams').1 ↔
      ((news n acts).getLast? = some .ended ↔ (news n acts').getLast? = some .ended) := by
  have honce' := honce
  rw [hown] at honce'
  rw [count_own] at honce honce'
  rw [Bool.eq_iff_iff, stop_run_iff acts honce, stop_run_iff acts' honce', place_eq, place_eq, ← hown]
  by_cases hended : (News.own (news n acts)).getLast? = some .ended
  · simp [hended, Place.after]
  · have hlast : (news n acts).getLast? ≠ some .ended := fun h => hended (getLast?_own h)
    have hlast' : (news n acts').getLast? ≠ some .ended := fun h =>
      hended (hown ▸ getLast?_own h)
    simp [hended, hlast, hlast']

/-- A subscription that others come and go around, stopped after its end. -/
theorem stop_answers_agree_at_end :
    let acts : List Act := [.queue 0 1, .queue 1 2, .launch, .complete 1, .complete 2]
    let acts' : List Act := [.queue 1 2, .launch, .complete 2, .stop 9, .queue 0 1, .launch, .stop 2,
      .queue 1 3, .launch, .complete 1, .stop 3, .launch]
    News.own (news 1 acts) = News.own (news 1 acts') ∧ news 1 acts ≠ news 1 acts' ∧
      (News.own (news 1 acts)).count .queued ≤ 1 ∧
      ((run acts).stop 1 ([] : List Stream)).1 = ((run acts').stop 1 ([] : List Stream)).1 := by
  intro acts acts'
  have hown : News.own (news 1 acts) = News.own (news 1 acts') := by decide
  have honce : (News.own (news 1 acts)).count .queued ≤ 1 := by decide
  exact ⟨hown, by decide, honce, (stop_answers_agree hown honce _ _).mpr (by decide)⟩

/-- The answer to a stop after the end tells whether anything has been started since. -/
theorem end_forgotten_with_others :
    let acts : List Act := [.queue 0 1, .launch, .complete 1]
    let others : List Act := acts ++ [.queue 1 2, .launch]
    News.own (news 1 acts) = News.own (news 1 others) ∧
      ((run acts).stop 1 ([] : List Stream)).1 = true ∧
      ((run others).stop 1 ([] : List Stream)).1 = false := by
  decide

end PaneMux.Pumps
