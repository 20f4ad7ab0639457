import PaneMux.Proofs.Json.Reading
import PaneMux.Proofs.Wire.PumpMoves
import Mathlib.Data.List.Perm.Subperm

/-!
# The Order of Events on a Connection

In whatever order the tasks of a connection take their turns, the lines that go into its queue keep what
belongs together in order: the events of a subscription are those that it yields, as far as its pump has
got, and come after the response that tells the client of it.

Two invariants carry this. One is about every subscription at once and says what each pump has put into
the queue and what it holds (`Traffic.Ordered`); it rests on there being one pump for each subscription.
The other is about one subscription whose response is under way (`Traffic.Announced`); it rests on the
pump not being started before the response is in the queue.

## Architecture

- **§1** the events of one subscription, among the lines and as it yields them
- **§2** one pump at work, and what its moves do to these events
- **§3** the pumps of a connection keep account (`Traffic.Ordered`), move by move
- **§4** a response that is on its way (`Traffic.Announced`), move by move
- **§5** every run
-/

namespace PaneMux

/-! ## §1 The events of one subscription -/

/-- The event of a subscription that a line carries. -/
def Outbound.eventOf? (n : Nat) : Outbound → Option Event
  | .response _ => none
  | .event i e => if i = n then some e else none

/-- The events of a subscription among the lines. -/
def eventsIn (n : Nat) (lines : List Outbound) : List Event := lines.filterMap (Outbound.eventOf? n)

/-- What a subscription has yielded. -/
def yieldsOf (n : Nat) (yielded : List Carried) : List Event :=
  (yielded.filter (·.1 = n)).map (·.2)

section Projections

variable (n : Nat) (lines : List Outbound) (yielded : List Carried)

@[simp] theorem eventsIn_append (more : List Outbound) :
    eventsIn n (lines ++ more) = eventsIn n lines ++ eventsIn n more :=
  List.filterMap_append

@[simp] theorem eventsIn_response (r : Response) : eventsIn n [.response r] = [] := rfl

@[simp] theorem eventsIn_event (e : Event) : eventsIn n [.event n e] = [e] := by
  simp [eventsIn, Outbound.eventOf?]

theorem eventsIn_event_of_ne {n i : Nat} (h : i ≠ n) (e : Event) : eventsIn n [.event i e] = [] := by
  simp [eventsIn, Outbound.eventOf?, h]

theorem mem_eventsIn {n : Nat} {lines : List Outbound} {e : Event} :
    e ∈ eventsIn n lines ↔ .event n e ∈ lines := by
  rw [eventsIn, List.mem_filterMap]
  refine ⟨?_, fun h => ⟨_, h, by simp [Outbound.eventOf?]⟩⟩
  rintro ⟨line, hline, heq⟩
  cases line with
  | response r => cases heq
  | event i e' =>
    by_cases hi : i = n <;> simp_all [Outbound.eventOf?]

@[simp] theorem yieldsOf_append (more : List Carried) :
    yieldsOf n (yielded ++ more) = yieldsOf n yielded ++ yieldsOf n more := by
  simp [yieldsOf]

@[simp] theorem yieldsOf_self (es : List Event) : yieldsOf n (es.map (n, ·)) = es := by
  simp [yieldsOf, List.filter_map, Function.comp_def]

theorem yieldsOf_of_ne {n i : Nat} (h : i ≠ n) (es : List Event) :
    yieldsOf n (es.map (i, ·)) = [] := by
  simp [yieldsOf, List.filter_map, Function.comp_def, h]

theorem yieldsOf_eq_nil {n : Nat} {yielded : List Carried} (h : ∀ c ∈ yielded, c.1 ≠ n) :
    yieldsOf n yielded = [] := by
  simpa [yieldsOf] using h

end Projections

/-- **The lines of a subscription are in order**: they are the first of what it has yielded, and only the
    last of them can be an exit. -/
structure InOrder (lines yielded : List Event) : Prop where
  carried : lines <+: yielded
  exit_last : ∀ e ∈ lines.dropLast, e.isExit = false

theorem InOrder.yield {lines yielded : List Event} (h : InOrder lines yielded) (more : List Event) :
    InOrder lines (yielded ++ more) :=
  ⟨h.carried.trans (List.prefix_append _ _), h.exit_last⟩

/-- An exit with an event behind it would not be the last. -/
theorem InOrder.none_after_exit {n : Nat} {lines before after : List Outbound} {yielded : List Event}
    {e : Event} (h : InOrder (eventsIn n lines) yielded) (hlines : lines = before ++ .event n e :: after)
    (hexit : e.isExit = true) (e' : Event) : .event n e' ∉ after := by
  intro he'
  have hevents : eventsIn n lines = eventsIn n before ++ e :: eventsIn n after := by
    rw [hlines, List.append_cons, eventsIn_append, eventsIn_append, eventsIn_event,
      List.append_assoc, List.singleton_append]
  have hmem : e ∈ (eventsIn n lines).dropLast := by
    rw [hevents, List.dropLast_append_cons,
      List.dropLast_cons_of_ne_nil (List.ne_nil_of_mem (mem_eventsIn.mpr he'))]
    exact List.mem_append_right _ List.mem_cons_self
  simp [h.exit_last e hmem] at hexit

/-! ## §2 A pump at work -/

namespace Pump

/-- **A pump at work** has put everything into the queue but what it holds, and no exit. -/
structure AtWork (p : Pump) (lines yielded : List Event) : Prop where
  yielded_eq : yielded = lines ++ p.held.toList
  no_exit : ∀ e ∈ lines, e.isExit = false

variable {p q : Pump} {lines yielded : List Event}

theorem AtWork.pull (h : p.AtWork lines yielded) (hheld : p.held = none) :
    q.AtWork lines (yielded ++ q.held.toList) :=
  ⟨by simp [h.yielded_eq, hheld], h.no_exit⟩

theorem AtWork.inOrder_put (h : p.AtWork lines yielded) {e : Event} (hheld : p.held = some e) :
    InOrder (lines ++ [e]) yielded where
  carried := by simp [h.yielded_eq, hheld]
  exit_last := by simpa using h.no_exit

theorem AtWork.put (h : p.AtWork lines yielded) {e : Event} (hheld : p.held = some e)
    (hq : q.held = none) (hexit : e.isExit = false) : q.AtWork (lines ++ [e]) yielded where
  yielded_eq := by simp [h.yielded_eq, hheld, hq]
  no_exit e' he' := by
    obtain he' | he' := List.mem_append.mp he'
    · exact h.no_exit e' he'
    · exact List.mem_singleton.mp he' ▸ hexit

end Pump

/-! ## §3 The pumps of a connection -/

namespace Traffic

/-- All pumps, also those that wait. -/
def all (s : Traffic) : List Pump := s.pumps.pending ++ s.running

/-- **The pumps keep account.** No two of them are for one subscription; and what is among the lines of
    any subscription is in order, and all but what the pump holds while that is at work. -/
structure Ordered (s : Traffic) : Prop where
  distinct : (s.all.map (·.subscription)).Nodup
  issued : ∀ p ∈ s.all, p.subscription < s.daemon.nextSubscription
  yielded_lt : ∀ c ∈ s.yielded, c.1 < s.daemon.nextSubscription
  inOrder : ∀ n, InOrder (eventsIn n s.lines) (yieldsOf n s.yielded)
  atWork : ∀ p ∈ s.all, p.finished = false →
    p.AtWork (eventsIn p.subscription s.lines) (yieldsOf p.subscription s.yielded)

variable {s s' : Traffic}

theorem ordered_new (daemon : Daemon) (capacity : Nat) : (new daemon capacity).Ordered where
  distinct := .nil
  issued _ h := nomatch h
  yielded_lt _ h := nomatch h
  inOrder _ := ⟨List.prefix_rfl, fun _ h => nomatch h⟩
  atWork _ h := nomatch h

namespace Ordered

/-- A subscription that is still to be opened has yielded nothing, and is in no line. -/
theorem unissued (h : s.Ordered) {n : Nat} (hn : s.daemon.nextSubscription ≤ n) :
    yieldsOf n s.yielded = [] ∧ eventsIn n s.lines = [] := by
  have hyields : yieldsOf n s.yielded = [] :=
    yieldsOf_eq_nil fun c hc => Nat.ne_of_lt (Nat.lt_of_lt_of_le (h.yielded_lt c hc) hn)
  exact ⟨hyields, List.prefix_nil.mp (hyields ▸ (h.inOrder n).carried)⟩

/-- **A move of which no event is part** keeps account, whatever becomes of the pumps, if none is there
    twice and none is new but one for a new subscription. -/
theorem of_mem (h : s.Ordered) (hdistinct : (s'.all.map (·.subscription)).Nodup)
    (hmem : ∀ p ∈ s'.all, p ∈ s.all ∨ p.held = none ∧
      p.subscription = s.daemon.nextSubscription ∧ p.subscription < s'.daemon.nextSubscription)
    (hlines : ∀ n, eventsIn n s'.lines = eventsIn n s.lines) (hyielded : s'.yielded = s.yielded)
    (hnext : s.daemon.nextSubscription ≤ s'.daemon.nextSubscription) : s'.Ordered where
  distinct := hdistinct
  issued p hp := by
    obtain hp | ⟨-, -, hlt⟩ := hmem p hp
    · exact Nat.lt_of_lt_of_le (h.issued p hp) hnext
    · exact hlt
  yielded_lt c hc := Nat.lt_of_lt_of_le (h.yielded_lt c (hyielded ▸ hc)) hnext
  inOrder n := by
    rw [hlines, hyielded]
    exact h.inOrder n
  atWork p hp hfinished := by
    rw [hlines, hyielded]
    obtain hp | ⟨hheld, hnew, -⟩ := hmem p hp
    · exact h.atWork p hp hfinished
    · obtain ⟨hyields, hevents⟩ := h.unissued (Nat.le_of_eq hnew.symm)
      rw [hyields, hevents]
      exact ⟨by simp [hheld], by simp⟩

/-- In particular pumps may change places and go away. -/
theorem of_subperm (h : s.Ordered) (hall : s'.all.Subperm s.all)
    (hlines : ∀ n, eventsIn n s'.lines = eventsIn n s.lines) (hyielded : s'.yielded = s.yielded)
    (hnext : s.daemon.nextSubscription ≤ s'.daemon.nextSubscription) : s'.Ordered := by
  refine h.of_mem ?_ (fun p hp => .inl (hall.subset hp)) hlines hyielded hnext
  obtain ⟨ps, hperm, hsub⟩ := hall
  exact (hperm.map _).nodup_iff.mp (h.distinct.sublist (hsub.map _))

theorem finish (h : s.Ordered) : s.finish.Ordered :=
  h.of_subperm (List.sublist_append_right _ _).subperm (fun _ => rfl) rfl
    (Nat.le_of_eq (Daemon.nextSubscription_stopAll s.pumps s.daemon).symm)

theorem launch (h : s.Ordered) : { s with pumps := s.pumps.launch, loop := .reading }.Ordered := by
  refine h.of_subperm ?_ (fun _ => rfl) rfl (Nat.le_refl _)
  unfold all running Pumps.launch
  split
  · exact .refl _
  · -- those that have waited are now behind those at work
    have hsub : (s.pumps.started.filter (!·.finished) ++ s.pumps.pending).Subperm
        (s.pumps.pending ++ s.pumps.started) :=
      (List.filter_sublist.append_right s.pumps.pending).subperm.trans List.perm_append_comm.subperm
    simpa only [List.nil_append, List.append_assoc] using hsub.append (.refl s.leaving)

end Ordered

/-- Pumps that are stopped go on until they notice. -/
theorem running_perm (kept : Pump → Bool) (started leaving : List Pump) :
    (started.filter kept ++
      (started.filter (· ∉ started.filter kept) ++ leaving)).Perm (started ++ leaving) := by
  have hstopped : started.filter (· ∉ started.filter kept) = started.filter (!kept ·) :=
    List.filter_congr fun p hp => by simp [List.mem_filter, hp]
  rw [hstopped, ← List.append_assoc]
  exact (List.filter_append_perm kept started).append_right leaving

namespace Ordered

/-- A line is answered: pumps may have been stopped, and one may wait now. -/
theorem handle (h : s.Ordered) {served : Daemon.Served} (r : Response)
    (hserved : Daemon.Served.Follows ⟨s.daemon, s.pumps⟩ served) :
    { s with
      daemon := served.daemon
      pumps := served.pumps
      leaving := s.pumps.started.filter (· ∉ served.pumps.started) ++ s.leaving
      loop := .responding r }.Ordered := by
  obtain ⟨hnext, ⟨kept, hstarted⟩, hpending⟩ := hserved
  have hperm := running_perm kept s.pumps.started s.leaving
  rw [← hstarted] at hperm
  obtain hpending | ⟨hlt, pane, hpending⟩ := hpending
  · refine h.of_subperm ?_ (fun _ => rfl) rfl hnext
    exact (hperm.append_left _).subperm.trans (hpending.append_right _).subperm
  · -- the one that waits now has a number that none of the others has
    have hall : (served.pumps.pending ++ (served.pumps.started ++
        (s.pumps.started.filter (· ∉ served.pumps.started) ++ s.leaving))).Perm
          (⟨s.daemon.nextSubscription, pane, none, false⟩ :: s.all) := by
      refine (hperm.append_left _).trans ?_
      rw [hpending, List.append_assoc]
      exact List.perm_middle
    refine h.of_mem ((hall.map _).nodup_iff.mpr ?_) (fun p hp => ?_) (fun _ => rfl) rfl hnext
    · refine List.nodup_cons.mpr ⟨fun hmem => ?_, h.distinct⟩
      obtain ⟨p, hp, heq⟩ := List.mem_map.mp hmem
      exact Nat.ne_of_lt (h.issued p hp) heq
    · obtain rfl | hp := List.mem_cons.mp (hall.mem_iff.mp hp)
      · exact .inr ⟨rfl, rfl, hlt⟩
      · exact .inl hp

end Ordered

/-! A pump moves on: it is in the place of the one that it has come of, and alone for its subscription. -/

theorem subscriptions_withPump (s : Traffic) (q : Pump) (stream : Stream) :
    (s.withPump q stream).all.map (·.subscription) = s.all.map (·.subscription) := by
  have hchange : ∀ ps : List Pump,
      (ps.map fun p => if p.subscription = q.subscription then q else p).map (·.subscription) =
        ps.map (·.subscription) := by
    intro ps
    rw [List.map_map]
    refine List.map_congr_left fun p _ => ?_
    by_cases hp : p.subscription = q.subscription <;> simp [hp]
  simp only [all, running, withPump, List.map_append, hchange]

theorem mem_all_withPump (hdistinct : (s.all.map (·.subscription)).Nodup) {p q p' : Pump}
    (stream : Stream) (hp : p ∈ s.running) (hq : q.subscription = p.subscription)
    (hp' : p' ∈ (s.withPump q stream).all) :
    p' = q ∨ p' ∈ s.all ∧ p'.subscription ≠ q.subscription := by
  obtain hwaits | hruns := List.mem_append.mp hp'
  · -- one that waits is not the one that runs
    rw [all, List.map_append, List.nodup_append] at hdistinct
    refine .inr ⟨List.mem_append_left _ hwaits, ?_⟩
    rw [hq]
    exact hdistinct.2.2 _ (List.mem_map_of_mem hwaits) _ (List.mem_map_of_mem hp)
  · exact (mem_running_withPump stream hruns).imp id fun ⟨h, hne⟩ => ⟨List.mem_append_right _ h, hne⟩

namespace Ordered

/-- **A pump moves on**, and the account of its subscription with it. -/
theorem withPump (h : s.Ordered) {p q : Pump} (hp : p ∈ s.running)
    (hq : q.subscription = p.subscription) {stream : Stream} {queue : Channel Outbound}
    {lines : List Outbound} {yielded : List Carried}
    (hothers : ∀ n ≠ p.subscription,
      eventsIn n lines = eventsIn n s.lines ∧ yieldsOf n yielded = yieldsOf n s.yielded)
    (hyielded : ∀ c ∈ yielded, c ∈ s.yielded ∨ c.1 = p.subscription)
    (hinOrder : InOrder (eventsIn p.subscription lines) (yieldsOf p.subscription yielded))
    (hatWork : q.finished = false →
      q.AtWork (eventsIn p.subscription lines) (yieldsOf p.subscription yielded)) :
    { s.withPump q stream with queue, lines, yielded }.Ordered where
  distinct := (subscriptions_withPump s q stream ▸ h.distinct :)
  issued p' hp' := by
    obtain rfl | ⟨hold, -⟩ := mem_all_withPump h.distinct stream hp hq hp'
    · exact hq ▸ h.issued p (List.mem_append_right _ hp)
    · exact h.issued p' hold
  yielded_lt c hc := by
    obtain hc | hc := hyielded c hc
    · exact h.yielded_lt c hc
    · exact hc ▸ h.issued p (List.mem_append_right _ hp)
  inOrder n := by
    by_cases hn : n = p.subscription
    · exact hn ▸ hinOrder
    · obtain ⟨hlines, hyields⟩ := hothers n hn
      exact hlines ▸ hyields ▸ h.inOrder n
  atWork p' hp' hfinished := by
    obtain rfl | ⟨hold, hne⟩ := mem_all_withPump h.distinct stream hp hq hp'
    · exact hq ▸ hatWork hfinished
    · obtain ⟨hlines, hyields⟩ := hothers _ (hq ▸ hne)
      exact hlines ▸ hyields ▸ h.atWork p' hold hfinished

/-- It pulls an event. -/
theorem pull (h : s.Ordered) {p q : Pump} (hp : p ∈ s.running) {stream stream' : Stream}
    (hpull : p.pull stream = some (q, stream')) :
    { s.withPump q stream' with
      yielded := s.yielded ++
        (stream.receive p.subscription).1.event?.toList.map (p.subscription, ·) }.Ordered := by
  have hq := (Pump.pull_same hpull).1
  obtain ⟨hfinished, hheld, hout⟩ := Pump.pull_cases hpull
  -- what the stream delivers is what the pump holds then
  have hevent : (stream.receive p.subscription).1.event? = q.held := by
    obtain ⟨e, hreceive, rfl⟩ | ⟨hreceive, rfl, -⟩ := hout <;> rw [hreceive] <;> rfl
  rw [hevent]
  refine h.withPump hp hq (fun n hn => ⟨rfl, ?_⟩) (fun c hc => ?_) ?_ fun _ => ?_
  · rw [yieldsOf_append, yieldsOf_of_ne (Ne.symm hn), List.append_nil]
  · refine (List.mem_append.mp hc).imp id fun hc => ?_
    obtain ⟨e, -, rfl⟩ := List.mem_map.mp hc
    rfl
  · rw [yieldsOf_append, yieldsOf_self]
    exact (h.inOrder p.subscription).yield _
  · rw [yieldsOf_append, yieldsOf_self]
    exact (h.atWork p (List.mem_append_right _ hp) hfinished).pull hheld

/-- It puts an event into the queue. -/
theorem put (h : s.Ordered) {p q : Pump} (hp : p ∈ s.running) {stream stream' : Stream}
    {queue : Channel Outbound} (hput : p.put s.queue stream = some (q, queue, stream')) :
    { s.withPump q stream' with
      queue, lines := s.lines ++ queue.items.drop s.queue.items.length }.Ordered := by
  have hq := (Pump.put_same hput).1
  obtain ⟨hfinished, e, hheld, hout⟩ := Pump.put_cases hput
  have hwork := h.atWork p (List.mem_append_right _ hp) hfinished
  obtain ⟨rfl, rfl, -⟩ | ⟨rfl, rfl, -⟩ := hout
  -- the queue is closed, and the event is lost with the pump
  · rw [List.drop_length, List.append_nil]
    refine h.withPump hp hq (fun _ _ => ⟨rfl, rfl⟩) (fun _ => .inl) (h.inOrder _) fun hgoing => ?_
    cases hgoing
  -- it has gone into the queue
  · have hline : (s.queue.push (.event p.subscription e)).items.drop s.queue.items.length =
        [.event p.subscription e] := List.drop_left
    rw [hline]
    refine h.withPump hp hq (fun n hn => ⟨?_, rfl⟩) (fun _ => .inl) ?_ fun hgoing => ?_
    · rw [eventsIn_append, eventsIn_event_of_ne (Ne.symm hn), List.append_nil]
    · rw [eventsIn_append, eventsIn_event]
      exact hwork.inOrder_put hheld
    · rw [eventsIn_append, eventsIn_event]
      exact hwork.put hheld rfl hgoing

/-- **Every move keeps account.** -/
theorem moved (h : s.Ordered) (hmoved : s.Moved s') : s'.Ordered := by
  cases hmoved with
  | still => exact h
  | answered r _ hserved => exact h.handle r hserved
  | responded _ => exact h.of_subperm (.refl _) (fun n => by simp) rfl (Nat.le_refl _)
  | launched _ => exact h.launch
  | finished => exact h.finish
  | pulled hp hpull => exact h.pull hp hpull
  | put hp hput => exact h.put hp hput
  | left n =>
    have hleft := (List.filter_sublist (p := (·.subscription ≠ n))
      (l := s.leaving)).append_left (s.pumps.pending ++ s.pumps.started)
    refine h.of_subperm ?_ (fun _ => rfl) rfl (Nat.le_refl _)
    simpa only [all, running, Pumps.without, List.append_assoc] using hleft.subperm
  | drained _ => exact h.of_subperm (.refl _) (fun _ => rfl) rfl (Nat.le_refl _)
  | elsewhere hdaemon => exact h.of_subperm (.refl _) (fun _ => rfl) rfl hdaemon

theorem run (h : s.Ordered) (moves : List Move) : (s.run moves).Ordered :=
  run_induction (fun hmoved h => h.moved hmoved) h moves

/-- Every pump is alone for its subscription. -/
theorem has (h : s.Ordered) {p : Pump} (hp : p ∈ s.running) {stream : Stream}
    (hstream : Streams.stream? s.daemon p.source = some stream) : s.Has p s.queue stream where
  running := hp
  alone _ hp' hn := List.inj_on_of_nodup_map h.distinct (List.mem_append_right _ hp')
    (List.mem_append_right _ hp) hn
  queue_eq := rfl
  stream_eq := hstream

end Ordered

/-! ## §4 A response that is on its way -/

/-- **A subscription is announced** with a response, from the lines `earlier` on: until the response is in
    the queue, no pump for the subscription is at work, and there is no line of it; after that there is
    none before the response. -/
inductive Announced (earlier : List Outbound) (r : Response) (n : Nat) (s : Traffic) : Prop where
  | pending (hearlier : earlier <+: s.lines) (hnone : ∀ e, .event n e ∉ s.lines)
      (hidle : ∀ p ∈ s.running, p.subscription ≠ n) (hloop : s.loop = .responding r ∨ s.loop = .ended)
  | told (between after : List Outbound)
      (hlines : s.lines = earlier ++ between ++ .response r :: after)
      (hnone : ∀ e, .event n e ∉ earlier ++ between)

namespace Announced

variable {earlier : List Outbound} {r : Response} {n : Nat}

/-- Once the response is there, lines that come after it change nothing. -/
theorem of_told {between after : List Outbound}
    (htold : s.lines = earlier ++ between ++ .response r :: after)
    (hnone : ∀ e, .event n e ∉ earlier ++ between) {more : List Outbound}
    (hlines : s'.lines = s.lines ++ more) : s'.Announced earlier r n :=
  .told between (after ++ more) (by simp [hlines, htold]) hnone

/-- While the response is pending, pumps may go away. -/
theorem of_running (h : s.Announced earlier r n) (hlines : s'.lines = s.lines)
    (hrunning : ∀ p ∈ s'.running, p ∈ s.running)
    (hloop : s.loop = .responding r ∨ s.loop = .ended → s'.loop = .responding r ∨ s'.loop = .ended) :
    s'.Announced earlier r n := by
  obtain ⟨hearlier, hnone, hidle, hwait⟩ | ⟨between, after, htold, hnone⟩ := h
  · exact .pending (hlines ▸ hearlier) (hlines ▸ hnone) (fun p hp => hidle p (hrunning p hp))
      (hloop hwait)
  · exact .told between after (hlines.trans htold) hnone

/-- A pump moves on, and what it puts into the queue is of its own subscription. -/
theorem withPump (h : s.Announced earlier r n) {p q : Pump} (hp : p ∈ s.running)
    (hq : q.subscription = p.subscription) {stream : Stream} {queue : Channel Outbound}
    {yielded : List Carried} {lines more : List Outbound} (hlines : lines = s.lines ++ more)
    (hmore : ∀ line ∈ more, ∃ e, line = .event p.subscription e) :
    { s.withPump q stream with queue, yielded, lines }.Announced earlier r n := by
  subst hlines
  obtain ⟨hearlier, hnone, hidle, hwait⟩ | ⟨between, after, htold, hnone⟩ := h
  · refine .pending (hearlier.trans (List.prefix_append _ _)) (fun e he => ?_) (fun p' hp' => ?_) hwait
    · obtain he | he := List.mem_append.mp he
      · exact hnone e he
      · obtain ⟨e', heq⟩ := hmore _ he
        cases heq
        exact hidle p hp rfl
    · obtain rfl | ⟨hold, -⟩ := mem_running_withPump stream hp'
      · exact hq ▸ hidle p hp
      · exact hidle p' hold
  · exact of_told htold hnone rfl

/-- **Every move keeps to it.** -/
theorem moved (h : s.Announced earlier r n) (hmoved : s.Moved s') : s'.Announced earlier r n := by
  cases hmoved with
  | still => exact h
  | answered r' hloop hserved =>
    -- nothing is read while the response waits
    obtain ⟨hearlier, hnone, hidle, hwait⟩ | ⟨between, after, htold, hnone⟩ := h
    · simp [hloop] at hwait
    · exact .told between after htold hnone
  | responded hloop =>
    obtain ⟨⟨between, hbetween⟩, hnone, hidle, hwait⟩ | ⟨between, after, htold, hnone⟩ := h
    · simp only [hloop, RequestLoop.responding.injEq, reduceCtorEq, or_false] at hwait
      subst hwait
      exact .told between [] (by simp [hbetween]) (by simpa only [hbetween] using hnone)
    · exact of_told htold hnone rfl
  | launched hloop =>
    obtain ⟨hearlier, hnone, hidle, hwait⟩ | ⟨between, after, htold, hnone⟩ := h
    · simp [hloop] at hwait
    · exact .told between after htold hnone
  | finished => exact h.of_running rfl (fun _ hp => hp) fun _ => .inr rfl
  | pulled hp hpull =>
    have hq := (Pump.pull_same hpull).1
    exact h.withPump hp hq (List.append_nil _).symm (by simp)
  | put hp hput =>
    obtain ⟨-, e, -, hout⟩ := Pump.put_cases hput
    refine h.withPump hp (Pump.put_same hput).1 rfl fun line hline => ⟨e, ?_⟩
    obtain ⟨rfl, -⟩ | ⟨rfl, -⟩ := hout
    · simp at hline
    · simpa [Channel.push] using hline
  | left _ =>
    refine h.of_running rfl (fun p hp => ?_) id
    exact (List.Sublist.append (.refl _) List.filter_sublist).subset hp
  | drained _ => exact h.of_running rfl (fun _ hp => hp) id
  | elsewhere _ => exact h.of_running rfl (fun _ hp => hp) id

theorem run (h : s.Announced earlier r n) (moves : List Move) :
    (s.run moves).Announced earlier r n :=
  run_induction (fun hmoved h => h.moved hmoved) h moves

/-- So the response comes before every line of the subscription. -/
theorem response_mem (h : s.Announced earlier r n) {before after : List Outbound} {e : Event}
    (hlines : s.lines = before ++ .event n e :: after) :
    ∃ between, before = earlier ++ between ∧ .response r ∈ between := by
  obtain ⟨-, hnone, -, -⟩ | ⟨between, after, htold, hnone⟩ := h
  · exact absurd (by simp [hlines]) (hnone e)
  · rw [htold, List.append_eq_append_iff] at hlines
    -- the event is behind the response, or it would be among the lines that hold none
    obtain ⟨more, rfl, heq⟩ | ⟨more, hmore, heq⟩ := hlines
    · refine ⟨_, List.append_assoc _ _ _, List.mem_append_right _ ?_⟩
      cases more with
      | nil => cases heq
      | cons line more => exact (List.cons.inj heq).1 ▸ List.mem_cons_self
    · cases more with
      | nil => cases heq
      | cons line more =>
        rw [(List.cons.inj heq).1.symm] at hmore
        exact absurd (by simp [hmore]) (hnone e)

end Announced

/-- **A subscription is announced by its request**, with the number that no other has. -/
theorem announced_handle (h : s.Ordered) (m : Machine) (now : Time.Moment) {line : String}
    {request : Request} {pane n : Nat} (hloop : s.loop = .reading)
    (hline : Daemon.isBlankLine line = false) (hparse : Request.parse line = .ok request)
    (hdecode : Command.decode request.op request.args = .ok (.subscribe pane))
    (hsubscribe : (s.daemon.registry.subscribe pane).1 = .ok n) :
    (s.step (.handle m now line)).Announced s.lines
      (.success request.id (.obj [("subscription", .nat n), ("pane_id", .nat pane)])) n := by
  obtain ⟨hanswer, rfl⟩ := Daemon.answer_subscribe hparse hdecode hsubscribe m now s.pumps
  obtain ⟨-, ⟨kept, hstarted⟩, -⟩ := s.daemon.follows_answer m now s.pumps line
  have hperm := running_perm kept s.pumps.started s.leaving
  rw [← hstarted] at hperm
  simp only [step, hloop, hline, Bool.false_eq_true, if_false]
  -- every line and every pump is of a subscription with a lower number
  refine .pending List.prefix_rfl (fun e he => ?_) (fun p hp => ?_) (.inl (by rw [hanswer]))
  · have hmem := mem_eventsIn.mpr he
    rw [(h.unissued (Nat.le_refl _)).2] at hmem
    exact List.not_mem_nil hmem
  · exact Nat.ne_of_lt (h.issued p (List.mem_append_right _ (hperm.mem_iff.mp hp)))

/-! ## §5 Every run -/

/-- What waits in the queue are the last of the lines: they are handed on in their order. -/
theorem queue_suffix_moved (h : s.queue.items <:+ s.lines) (hmoved : s.Moved s') :
    s'.queue.items <:+ s'.lines := by
  have hpush : ∀ line, s.queue.items ++ [line] <:+ s.lines ++ [line] := by
    obtain ⟨gone, hgone⟩ := h
    exact fun line => ⟨gone, by rw [← hgone, List.append_assoc]⟩
  cases hmoved with
  | responded _ => exact hpush _
  | put hp hput =>
    obtain ⟨-, e, -, ⟨rfl, -⟩ | ⟨rfl, -⟩⟩ := Pump.put_cases hput
    · simpa using h
    · simpa [Channel.push] using hpush _
  | drained hqueue => exact hqueue.trans h
  | _ => exact h

theorem queue_suffix_run (h : s.queue.items <:+ s.lines) (moves : List Move) :
    (s.run moves).queue.items <:+ (s.run moves).lines :=
  run_induction (P := fun s => s.queue.items <:+ s.lines) (fun hmoved h => queue_suffix_moved h hmoved)
    h moves

/-- **Events keep their order, and follow the response that announces them.** Whatever the daemon, the
    room in the queue and the order in which the tasks of the connection take their turns: the queue
    hands the lines on in the order in which they were put into it, and among these

    - the events of every subscription are the first of those that its stream delivers to its pump, all
      but the one that the pump holds as long as it is at work, and none comes after an exit;
    - a pump at work that holds nothing takes the next event off its subscription, just once, and makes it
      the next line when there is room;
    - the response to a request that opens a subscription has been put in since the request, and before
      every event of that subscription. -/
theorem pump_ordering (daemon : Daemon) (capacity : Nat) (moves : List Move) :
    let s := (new daemon capacity).run moves
    s.queue.items <:+ s.lines ∧
      (∀ n, eventsIn n s.lines <+: yieldsOf n s.yielded) ∧
      (∀ p ∈ s.running, p.finished = false →
        yieldsOf p.subscription s.yielded = eventsIn p.subscription s.lines ++ p.held.toList) ∧
      (∀ p ∈ s.running, p.finished = false →
        ∀ stream, Streams.stream? s.daemon p.source = some stream →
        (p.held = none → ∀ e left, stream.receive p.subscription = (.event e, left) →
          s.Takes (s.step (.pull p.subscription)) p e left) ∧
        ∀ e, p.held = some e → s.queue.closed = false → s.queue.hasRoom = true →
          s.Hands (s.step (.put p.subscription)) p e stream) ∧
      (∀ n e before after, s.lines = before ++ .event n e :: after → e.isExit = true →
        ∀ e', .event n e' ∉ after) ∧
      ∀ earlier later m now line request pane n,
        moves = earlier ++ .handle m now line :: later →
        let t := (new daemon capacity).run earlier
        t.loop = .reading → Daemon.isBlankLine line = false →
        Request.parse line = .ok request →
        Command.decode request.op request.args = .ok (.subscribe pane) →
        (t.daemon.registry.subscribe pane).1 = .ok n →
        ∀ e before after, s.lines = before ++ .event n e :: after →
          ∃ between, before = t.lines ++ between ∧
            .response (.success request.id (.obj [("subscription", .nat n), ("pane_id", .nat pane)])) ∈
              between := by
  intro s
  have hs : s.Ordered := (ordered_new daemon capacity).run moves
  refine ⟨queue_suffix_run List.suffix_rfl moves, fun n => (hs.inOrder n).carried,
    fun p hp hfinished => (hs.atWork p (List.mem_append_right _ hp) hfinished).yielded_eq,
    fun p hp hfinished stream hstream => ?_,
    fun n e before after hlines hexit => (hs.inOrder n).none_after_exit hlines hexit, ?_⟩
  · have hhas := hs.has hp hstream
    exact ⟨fun hheld e left hreceive => hhas.takes hfinished hheld hreceive,
      fun e hheld hclosed hroom => hhas.hands hfinished hheld hclosed hroom⟩
  rintro earlier later m now line request pane n rfl t hloop hline hparse hdecode hsubscribe e before
    after hlines
  have ht : t.Ordered := (ordered_new daemon capacity).run earlier
  have hlast : s = (t.step (.handle m now line)).run later := run_append _ _ _
  have hannounced := announced_handle ht m now hloop hline hparse hdecode hsubscribe
  exact (hlast ▸ hannounced.run later).response_mem hlines

/-- A terminal writes and ends while a client subscribes to it: the client is told of the subscription,
    then of the output, and then of the end. -/
theorem pump_ordering_exit :
    let m : Machine :=
      { spawn := fun _ => .ok ⟨some 9, "sh", [], "/", [], ⟨0, 0⟩⟩
        probe := fun pid => .error (.gone pid)
        host := fun now => ⟨.zero, ⟨0, 0⟩, ⟨0, 0⟩, now⟩ }
    let d : Daemon :=
      { registry := (Registry.new {}).run
          [.createSession ⟨0, 0⟩ none, .createTerminal m.spawn ⟨⟨0, 0⟩, 0⟩ 1 {}]
        store := .fresh }
    let line :=
      (Json.obj [("id", .nat 4), ("op", .str "subscribe"), ("pane_id", .nat 1)]).compact
    let output := Event.output ⟨1, 1, Utf8.encode "hi"⟩
    let ended := Event.exit 1 2 (some 0) false
    let opened : List Move := [.handle m ⟨⟨0, 0⟩, 0⟩ line, .respond, .launch]
    let writing : Daemon :=
      { ((new d 8).run opened).daemon with
        registry := ((new d 8).run opened).daemon.registry.run
          [.output ⟨⟨0, 0⟩, 0⟩ 1 (Utf8.encode "hi"), .ended ⟨⟨0, 0⟩, 0⟩ 1 (some 0)] }
    let earlier : List Move := opened ++ [.elsewhere writing, .pull 1]
    let later : List Move := [.put 1, .pull 1, .put 1]
    yieldsOf 1 ((new d 8).run earlier).yielded =
        eventsIn 1 ((new d 8).run earlier).lines ++ [output] ∧
      (((new d 8).run earlier).step (.put 1)).lines =
        ((new d 8).run earlier).lines ++ [.event 1 output] ∧
      ∃ before after, ((new d 8).run (earlier ++ later)).lines = before ++ .event 1 ended :: after ∧
        .response (.success 4 (.obj [("subscription", .nat 1), ("pane_id", .nat 1)])) ∈ before ∧
        ∀ e, .event 1 e ∉ after := by
  intro m d line output ended opened writing earlier later
  obtain ⟨-, -, hheld, hconveys, -, -⟩ := pump_ordering d 8 earlier
  obtain ⟨-, -, -, -, hexit, hannounced⟩ := pump_ordering d 8 (earlier ++ later)
  have hholds : ⟨1, 1, some output, false⟩ ∈ ((new d 8).run earlier).running := by decide +kernel
  have hstream : (Streams.stream? ((new d 8).run earlier).daemon 1).isSome := by decide +kernel
  obtain ⟨stream, hstream⟩ := Option.isSome_iff_exists.mp hstream
  have hroom : ((new d 8).run earlier).queue.closed = false ∧
      ((new d 8).run earlier).queue.hasRoom = true := by decide +kernel
  have hhands := (hconveys _ hholds rfl stream hstream).2 output rfl hroom.1 hroom.2
  have hyields := hheld _ hholds rfl
  refine ⟨hyields, hhands.lines_eq, ?_⟩
  have hmem : ended ∈ eventsIn 1 ((new d 8).run (earlier ++ later)).lines := by decide +kernel
  obtain ⟨before, after, hlines⟩ := List.append_of_mem (mem_eventsIn.mp hmem)
  have hparse : Request.parse line = .ok ⟨4, "subscribe", [("pane_id", .nat 1)]⟩ := by
    have hreadable : Json.Readable Json.maxDepth
        (.obj [("id", .nat 4), ("op", .str "subscribe"), ("pane_id", .nat 1)]) :=
      .obj_cons (.nat (by decide)) (.obj_cons (.str _) (.obj_cons (.nat (by decide)) .obj_nil))
    rw [Request.parse, Json.parse?_compact hreadable]
    rfl
  obtain ⟨between, hbefore, htold⟩ := hannounced [] _ m _ line _ 1 1 rfl rfl (by decide +kernel)
    hparse rfl (by decide +kernel) ended before after hlines
  exact ⟨before, after, hlines, hbefore ▸ List.mem_append_right _ htold,
    hexit 1 ended before after hlines rfl⟩

end Traffic

end PaneMux
