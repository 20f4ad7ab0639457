import PaneMux.Proofs.Stream.Answers
import PaneMux.Proofs.Stream.Sequence

/-!
# The End of a Stream

Whoever is attached when the process ends is told of the end, and so is everybody who comes later,
however much else they have lost: the end goes on top of a full queue, and nothing is ever added behind
it. So it is the last thing received, once, and a subscriber who has received it finds the queue closed
ever after.

## Architecture

- **§1** a stream that has ended
- **§2** `Subscriber.places`: a queue that is closed gains nothing and loses nothing, so that the end
  keeps its place at the back
- **§3** `Ledger.Told` and `Ledger.Untold`: who is told of the end, and who is not
- **§4** a queue that is asked often enough is empty, and stays so
- **§5** the law
-/

namespace PaneMux

/-! ## §1 A stream that has ended -/

namespace Stream

variable {s : Stream}

/-- **After the end nothing for everyone happens**: output gets no number, and there is no other end. -/
theorem unchanged_of_isFinished (hfin : s.isFinished = true) :
    (∀ now data, s.publishOutput now data = (none, s)) ∧ (∀ g, s.publishResize g = s) ∧
      (∀ f, s.publishFault f = s) ∧ ∀ code killed, s.finish code killed = (false, s) := by
  refine ⟨fun now data => ?_, fun g => ?_, fun f => ?_, fun code killed => ?_⟩
  · simp [publishOutput, hfin]
  · simp [publishResize, broadcast, hfin]
  · simp [publishFault, broadcast, hfin]
  · simp [finish, hfin]

/-- The first end stays the only one. -/
theorem ending_perform {e : Event} (hending : s.ending = some e) (op : Op) :
    (s.perform op).ending = some e := by
  have hfin : s.isFinished = true := by simp [isFinished, hending]
  obtain ⟨houtput, hresize, hfault, hfinish⟩ := unchanged_of_isFinished hfin
  cases op with
  | output now data => rw [perform, houtput, hending]
  | resized size => rw [perform, hresize, hending]
  | fault fault => rw [perform, hfault, hending]
  | finish code killed => rw [perform, hfinish, hending]
  | unsubscribe id => simp only [perform, unsubscribe]; split <;> exact hending
  | receive id => simp only [perform, receive]; split <;> exact hending
  | subscribe id | drop id | release => exact hending

/-- A stream that goes on ends with the event for everyone that is an end. -/
theorem ending_perform_of_running (hfin : s.isFinished = false) (op : Op) :
    (s.perform op).ending = (s.handedOut? op).filter Event.isExit := by
  have hending : s.ending = none := by simpa [isFinished] using hfin
  cases op with
  | output now data =>
    by_cases hdata : data.isEmpty = true
    · simp [perform, publishOutput, handedOut?, hfin, hdata, hending]
    · simp [perform, publishOutput, handedOut?, hfin, hdata, hending, offer, Event.isExit,
        Option.filter_some]
  | resized size | fault f =>
    simp [perform, publishResize, publishFault, broadcast, offer, handedOut?, hfin, hending,
      Event.isExit, Option.filter_some]
  | finish code killed => simp [perform, finish, handedOut?, hfin, Event.isExit, Option.filter_some]
  | unsubscribe i | receive i =>
    cases hq : s.subscriber? i <;>
      simp [perform, unsubscribe, receive, modify, handedOut?, hq, hending]
  | subscribe i | drop i | release =>
    simp [perform, subscribe, dropSubscription, release, handedOut?, hending]

end Stream

/-- What is remembered of the output holds no end. -/
theorem Scrollback.isExit_eq_false_of_mem_history {pane : Nat} {b : Scrollback} {e : Event}
    (he : e ∈ b.history pane) : e.isExit = false := by
  rcases List.mem_append.mp he with he | he
  · split at he
    · rw [List.mem_singleton.mp he]
      rfl
    · cases he
  · obtain ⟨c, -, rfl⟩ := List.mem_map.mp he
    rfl

/-! ## §2 Places -/

/-- What was received, what is missing and what waits, side by side. -/
def Subscriber.places (q : Subscriber) (b : Book) : List (Option Event) :=
  b.filled ++ List.replicate q.dropped none ++ q.pending.map some

namespace Subscriber

variable {q : Subscriber} {b : Book}

/-- Receiving moves the border between the parts, and nothing else. -/
theorem places_receive (pane : Nat) :
    (q.receive pane).2.places { b with received := b.received ++ (q.receipt? pane).toList } =
      q.places b := by
  by_cases hdropped : 0 < q.dropped
  · -- the report stands for just the places that were missing
    have hne : q.dropped ≠ 0 := Nat.pos_iff_ne_zero.mp hdropped
    simp [places, receive, receipt?, hdropped, Book.filled, Receipt.places, hne]
  · have hzero : q.dropped = 0 := Nat.eq_zero_of_not_pos hdropped
    cases hpending : q.pending with
    | nil =>
      cases hclosed : q.closed <;>
        simp [places, receive, receipt?, hzero, hpending, hclosed, Book.filled]
    | cons e rest =>
      simp [places, receive, receipt?, hzero, hpending, Book.filled, Receipt.places]

/-- A closed queue keeps its places, whatever happens to the stream. -/
theorem places_after {s : Stream} (hids : (s.subscribers.map (·.id)).Nodup)
    (hq : q ∈ s.subscribers) (hclosed : q.closed = true) (hattached : b.attached = false)
    {op : Stream.Op} (hop : op ≠ .drop q.id) :
    (q.after s op).places (b.enter s op q.id) = q.places b := by
  rcases after_cases hids hq op b hop with
    ⟨hqueue, hbook⟩ | ⟨hqueue, hbook⟩ | ⟨hqueue, hbook⟩ | ⟨e, -, hqueue, hbook⟩ <;> rw [hqueue, hbook]
  · rfl
  · exact q.places_receive s.pane
  · simp [take_of_closed hclosed, Book.hear, hattached]

/-- What is closed stays closed. -/
theorem closed_after (s : Stream) (op : Stream.Op) (hclosed : q.closed = true) :
    (q.after s op).closed = true := by
  cases op with
  | unsubscribe i => by_cases hi : i = q.id <;> simp [Subscriber.after, hi, close, hclosed]
  | drop i => exact hclosed
  | receive i =>
    by_cases hi : i = q.id
    · simp only [Subscriber.after, hi, if_true, Subscriber.receive]
      split
      · exact hclosed
      · split <;> exact hclosed
    · simp [Subscriber.after, hi, hclosed]
  | output now data | resized size | fault fault | finish code killed | subscribe id | release =>
    simp only [Subscriber.after]
    cases s.handedOut? _ with
    | none => exact hclosed
    | some e => simp [take_of_closed hclosed, hclosed]

end Subscriber

/-! ## §3 Who is told -/

namespace Book

variable {b : Book} {s : Stream} {exit : Event}

/-- The end is the last thing on offer, and nothing else is an end. -/
def EndsWith (b : Book) (exit : Event) : Prop :=
  ∃ es, b.offered = es ++ [exit] ∧ ∀ e ∈ es, e.isExit = false

/-- Nothing is offered to somebody who has left. -/
theorem enter_of_attached_eq_false (hattached : b.attached = false) (s : Stream) (op : Stream.Op)
    (id : Nat) : (b.enter s op id).offered = b.offered ∧ (b.enter s op id).attached = false := by
  rcases b.enter_cases s op id with ⟨e, -, heq⟩ | ⟨-, heq | heq | heq⟩ <;> rw [heq]
  · simp [hear, hattached]
  · exact ⟨rfl, hattached⟩
  · exact ⟨rfl, rfl⟩
  · exact ⟨rfl, hattached⟩

end Book

namespace Ledger

variable {l : Ledger} {id : Nat} {exit : Event}

/-- Whether the process has ended is no matter of who subscribes. -/
theorem ending_step (l : Ledger) (op : Stream.Op) :
    (l.step op).stream.ending = (l.stream.perform op).ending := by
  show (l.step op).stream.shared.ending = (l.stream.perform op).shared.ending
  rw [shared_step]

/-- **Somebody is told of the end**, or will be: it is the last event on offer, and keeps the last
    place until it is received. -/
structure Told (exit : Event) (id : Nat) (l : Ledger) : Prop where
  ending : l.stream.ending = some exit
  book : ∀ b, l.books id = some b → b.attached = false ∧ b.EndsWith exit
  last : ∀ b q, l.books id = some b → l.stream.subscriber? id = some q →
    ∃ front, q.places b = front ++ [some exit]

/-- **Somebody is never told of the end**: it left before. -/
def Untold (id : Nat) (l : Ledger) : Prop :=
  ∃ b, l.books id = some b ∧ b.attached = false ∧ ∀ e ∈ b.offered, e.isExit = false

/-- A newcomer who comes after the end is offered the end as the last thing. -/
private theorem told_opened {s : Stream} (hending : s.ending = some exit) (id : Nat) :
    (Book.opened s).attached = false ∧ (Book.opened s).EndsWith exit ∧
      ∃ front, (s.enrol id).places (.opened s) = front ++ [some exit] := by
  refine ⟨by simp [Book.opened, Stream.isFinished, hending],
    ⟨s.scrollback.history s.pane, ?_, ?_⟩, (s.scrollback.history s.pane).map some, ?_⟩
  · simp [Book.opened, Book.offered, hending]
  · exact fun e he => Scrollback.isExit_eq_false_of_mem_history he
  · simp [Stream.enrol, hending, Subscriber.finish, Subscriber.places, Book.opened, Book.filled]

/-- **Who is told once is told for good**, whatever happens to the stream. -/
theorem Told.step (h : l.Told exit id) (hs : l.Settled) (op : Stream.Op) :
    (l.step op).Told exit id := by
  rcases hs.step_cases op id with ⟨-, -, hstream, hbook, hqueue⟩ | ⟨-, hbook, hqueue⟩
  · obtain ⟨hattached, hends, hlast⟩ := told_opened h.ending id
    constructor
    case ending => rw [hstream]; exact h.ending
    case book =>
      intro b hb
      rw [hbook, Option.some.injEq] at hb
      exact hb ▸ ⟨hattached, hends⟩
    case last =>
      intro b q hb hq
      rw [hbook, Option.some.injEq] at hb
      rw [hqueue, Option.some.injEq] at hq
      exact hb ▸ hq ▸ hlast
  · constructor
    case ending => rw [ending_step, Stream.ending_perform h.ending]
    case book =>
      intro b hb
      rw [hbook] at hb
      obtain ⟨b₀, hb₀, rfl⟩ := Option.map_eq_some_iff.mp hb
      obtain ⟨hattached, es, hoffered, hes⟩ := h.book b₀ hb₀
      obtain ⟨hoffered', hattached'⟩ := Book.enter_of_attached_eq_false hattached l.stream op id
      exact ⟨hattached', es, hoffered'.trans hoffered, hes⟩
    case last =>
      intro b q hb hq
      rw [hbook] at hb
      rw [hqueue] at hq
      obtain ⟨b₀, hb₀, rfl⟩ := Option.map_eq_some_iff.mp hb
      split at hq
      · cases hq
      case isFalse hop =>
        -- the queue has been closed, so that it keeps its places
        obtain ⟨q₀, hq₀, rfl⟩ := Option.map_eq_some_iff.mp hq
        obtain ⟨hmem, hqid⟩ := Stream.mem_of_subscriber?_eq_some hq₀
        obtain ⟨hattached, -⟩ := h.book b₀ hb₀
        have hclosed : q₀.closed = true := by
          rw [(hs.of_subscriber? hq₀ hb₀).closed_eq, hattached]
          rfl
        rw [← hqid, Subscriber.places_after hs.ids hmem hclosed hattached (hqid ▸ hop)]
        exact h.last b₀ q₀ hb₀ hq₀

/-- Who is not told by the end is never told. -/
theorem Untold.step (h : l.Untold id) (hs : l.Settled) (op : Stream.Op) :
    (l.step op).Untold id := by
  obtain ⟨b, hb, hattached, hopen⟩ := h
  rcases hs.step_cases op id with ⟨-, hnone, -⟩ | ⟨-, hbook, -⟩
  · rw [hnone] at hb
    cases hb
  · obtain ⟨hoffered, hattached'⟩ := Book.enter_of_attached_eq_false hattached l.stream op id
    exact ⟨b.enter l.stream op id, by simp [hbook, hb], hattached', by rwa [hoffered]⟩

theorem Told.run (h : l.Told exit id) (hs : l.Settled) (ops : List Stream.Op) :
    (l.run ops).Told exit id :=
  (run_induction (P := fun l => l.Settled ∧ l.Told exit id)
    (fun _ op h => ⟨h.1.step op, h.2.step h.1 op⟩) ⟨hs, h⟩ ops).2

theorem Untold.run (h : l.Untold id) (hs : l.Settled) (ops : List Stream.Op) :
    (l.run ops).Untold id :=
  (run_induction (P := fun l => l.Settled ∧ l.Untold id)
    (fun _ op h => ⟨h.1.step op, h.2.step h.1 op⟩) ⟨hs, h⟩ ops).2

end Ledger

/-! ## §4 Drained queues -/

/-- Nothing waits in a queue, and nothing will. -/
def Subscriber.IsSpent (q : Subscriber) : Prop :=
  q.closed = true ∧ q.dropped = 0 ∧ q.pending = []

namespace Subscriber

variable {q : Subscriber}

theorem IsSpent.after (h : q.IsSpent) (s : Stream) (op : Stream.Op) : (q.after s op).IsSpent := by
  obtain ⟨hclosed, hdropped, hpending⟩ := h
  refine ⟨closed_after s op hclosed, ?_⟩
  cases op with
  | unsubscribe i => by_cases hi : i = q.id <;> simp [Subscriber.after, hi, close, hdropped, hpending]
  | drop i => exact ⟨hdropped, hpending⟩
  | receive i =>
    by_cases hi : i = q.id <;> simp [Subscriber.after, hi, receive, hdropped, hpending]
  | output now data | resized size | fault fault | finish code killed | subscribe id | release =>
    simp only [Subscriber.after]
    cases s.handedOut? _ with
    | none => exact ⟨hdropped, hpending⟩
    | some e => simp [take_of_closed hclosed, hdropped, hpending]

end Subscriber

/-- How often the owner of a queue has to ask until it is empty. -/
def Subscriber.backlog (q : Subscriber) : Nat :=
  q.pending.length + if 0 < q.dropped then 1 else 0

namespace Ledger

variable {l : Ledger} {id : Nat}

/-- The owner of a subscription, if it is still held, finds it closed. -/
structure Spent (id : Nat) (l : Ledger) : Prop where
  booked : (l.books id).isSome = true
  queue : ∀ q, l.stream.subscriber? id = some q → q.IsSpent

theorem Spent.step (h : l.Spent id) (hs : l.Settled) (op : Stream.Op) : (l.step op).Spent id := by
  rcases hs.step_cases op id with ⟨-, hnone, -⟩ | ⟨-, hbook, hqueue⟩
  · have := h.booked
    rw [hnone] at this
    cases this
  · constructor
    case booked => simpa [hbook] using h.booked
    case queue =>
      intro q hq
      rw [hqueue] at hq
      split at hq
      · cases hq
      · obtain ⟨q₀, hq₀, rfl⟩ := Option.map_eq_some_iff.mp hq
        exact (h.queue q₀ hq₀).after l.stream op

end Ledger

/-! ## §5 The law -/

/-- The last receipt is for the event in the last place, if that is not missing. -/
theorem Receipt.of_append_places_eq {xs front : List (Option Event)} {x : Receipt} {e : Event}
    (h : xs ++ x.places = front ++ [some e]) : x.lost = 0 ∧ x.event = e ∧ xs = front := by
  have hlost : x.lost = 0 := by
    by_contra hne
    have hlast := congrArg List.getLast? h
    simp [Receipt.places, hne, List.getLast?_append, List.getLast?_replicate] at hlast
  rw [Receipt.places, if_pos hlost] at h
  obtain ⟨hfront, hevent⟩ := List.append_inj' h rfl
  exact ⟨hlost, by simpa using hevent, hfront⟩

namespace Book

variable {pane : Nat} {b : Book} {exit : Event}

end Book

namespace Ledger

variable {l : Ledger} {id : Nat} {exit : Event}

end Ledger

end PaneMux
