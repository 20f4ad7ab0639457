import PaneMux.Proofs.Stream.Ledger

/-!
# Queues and Books

A full queue loses its oldest event, and its owner is told of the loss before the next event. The book
on the owner knows nothing of the queue. This file proves that the two agree in every run: written down
side by side, what was received, what is still owed a report on, and what waits are what the book says
was offered, with holes just where events were lost.

## Architecture

- **§1** tallies: a sequence of places, some of them missing, against a sequence of events
- **§2** `Settled`: a queue agrees with the book on its owner; kept by each operation on a queue
- **§3** `Ledger.Settled`: every queue does; kept by each operation on the stream, and so by any run

Events are lost at the front of a queue and added at its end, and the loss is reported at the front
as well. So the hole is always the part between what was received and what waits, and it can be
written as `dropped` missing places there.
-/

namespace PaneMux

/-! ## §1 Tallies -/

/-- A place holds the event, or the event is missing there. -/
def Fits (place : Option Event) (e : Event) : Prop := ∀ x ∈ place, x = e

@[simp] theorem fits_none (e : Event) : Fits none e := by simp [Fits]

@[simp] theorem fits_some {x e : Event} : Fits (some x) e ↔ x = e := by simp [Fits]

/-- Places that hold nothing but some of the events, each where it belongs. -/
abbrev Tallies (places : List (Option Event)) (events : List Event) : Prop :=
  List.Forall₂ Fits places events

/-- Events that all arrived. -/
theorem tallies_map_some (events : List Event) : Tallies (events.map some) events :=
  List.forall₂_map_left_iff.mpr (List.forall₂_same.mpr fun _ _ => fits_some.mpr rfl)

/-- Where no place is missing, what is in the places is everything. -/
theorem Tallies.eq_of_map_some {events events' : List Event} (h : Tallies (events.map some) events') :
    events = events' := by
  rw [Tallies, List.forall₂_map_left_iff] at h
  exact List.forall₂_eq_eq_eq ▸ h.imp fun _ _ => fits_some.mp

theorem Tallies.append {xs ys : List (Option Event)} {es fs : List Event} (hx : Tallies xs es)
    (hy : Tallies ys fs) : Tallies (xs ++ ys) (es ++ fs) :=
  List.rel_append hx hy

/-- The events against a part of the places. -/
theorem Tallies.split {xs ys : List (Option Event)} {es : List Event} (h : Tallies (xs ++ ys) es) :
    ∃ es₁ es₂, es = es₁ ++ es₂ ∧ Tallies xs es₁ ∧ Tallies ys es₂ := by
  refine ⟨es.take xs.length, es.drop xs.length, (List.take_append_drop _ _).symm, ?_, ?_⟩
  · have htake := List.forall₂_take xs.length h
    rwa [List.take_left] at htake
  · have hdrop := List.forall₂_drop xs.length h
    rwa [List.drop_left] at hdrop

/-- An event in its place, with the events before and behind it. -/
theorem Tallies.split_some {xs ys : List (Option Event)} {e : Event} {es : List Event}
    (h : Tallies (xs ++ some e :: ys) es) :
    ∃ es₁ es₂, es = es₁ ++ e :: es₂ ∧ Tallies xs es₁ ∧ Tallies ys es₂ := by
  obtain ⟨es₁, es₂, rfl, hxs, htail⟩ := h.split
  obtain ⟨e', es₃, he, hys, rfl⟩ := List.forall₂_cons_left_iff.mp htail
  rw [fits_some] at he
  exact ⟨es₁, es₃, by rw [he], hxs, hys⟩

/-- A place whose event is lost is a missing one. -/
theorem Tallies.lose {xs ys : List (Option Event)} {x : Event} {es : List Event}
    (h : Tallies (xs ++ some x :: ys) es) : Tallies (xs ++ none :: ys) es := by
  obtain ⟨es₁, es₂, rfl, hxs, hys⟩ := h.split_some
  exact hxs.append (List.Forall₂.cons (fits_none x) hys)

/-! ## §2 One queue and one book -/

/-- The places that the receipts in a book stand for. -/
def Book.filled (b : Book) : List (Option Event) := b.received.flatMap Receipt.places

/-- **A queue agrees with the book** on its owner. -/
structure Subscriber.Settled (capacity : Nat) (q : Subscriber) (b : Book) : Prop where
  tally : Tallies (b.filled ++ List.replicate q.dropped none ++ q.pending.map some) b.offered
  closed_eq : q.closed = !b.attached
  capacity_eq : q.capacity = capacity
  /-- the last event comes on top of a full queue -/
  room : q.pending.length ≤ max capacity b.opening.length + if b.attached then 0 else 1

namespace Subscriber

variable {capacity : Nat} {q : Subscriber} {b : Book}

/-- **What an event for everyone does to a queue and to the book on its owner**: nothing, if the owner
    has left; the end finds room and closes both; any other event finds room, or takes that of the oldest
    event waiting. -/
theorem Settled.take_cases (h : q.Settled capacity b) (hpos : 0 < capacity) (e : Event) :
    (b.attached = false ∧ q.take e = q ∧ b.hear e = b) ∨
      (b.attached = true ∧ e.isExit = true ∧
        q.take e = { q with pending := q.pending ++ [e], closed := true } ∧
        b.hear e = { b with since := b.since ++ [e], attached := false }) ∨
      (b.attached = true ∧ e.isExit = false ∧ q.pending.length < capacity ∧
        q.take e = { q with pending := q.pending ++ [e] } ∧
        b.hear e = { b with since := b.since ++ [e] }) ∨
      (b.attached = true ∧ e.isExit = false ∧ capacity ≤ q.pending.length ∧
        (∃ x rest, q.pending = x :: rest ∧
          q.take e = { q with pending := rest ++ [e], dropped := q.dropped + 1 }) ∧
        b.hear e = { b with since := b.since ++ [e] }) := by
  by_cases hattached : b.attached = true
  · have hopen : q.closed = false := by rw [h.closed_eq, hattached]; rfl
    right
    cases hexit : e.isExit with
    | true =>
      exact .inl ⟨hattached, rfl, take_exit hopen hexit, by simp [Book.hear, hattached, hexit]⟩
    | false =>
      have hb : b.hear e = { b with since := b.since ++ [e] } := by
        simp [Book.hear, hattached, hexit]
      right
      rcases Nat.lt_or_ge q.pending.length capacity with hroom | hfull
      · exact .inl ⟨hattached, rfl, hroom, take_of_room hopen hexit (h.capacity_eq.symm ▸ hroom), hb⟩
      · obtain ⟨x, rest, hpending⟩ := List.exists_cons_of_length_pos (Nat.lt_of_lt_of_le hpos hfull)
        exact .inr ⟨hattached, rfl, hfull, ⟨x, rest, hpending,
          take_of_full hopen hexit (h.capacity_eq.symm ▸ hfull) hpending⟩, hb⟩
  · have hleft : b.attached = false := by simpa using hattached
    have hclosed : q.closed = true := by rw [h.closed_eq, hleft]; rfl
    exact .inl ⟨hleft, take_of_closed hclosed e, by simp [Book.hear, hleft]⟩

/-- An event for everyone is taken as it is offered. -/
theorem Settled.take (h : q.Settled capacity b) (hpos : 0 < capacity) (e : Event) :
    (q.take e).Settled capacity (b.hear e) := by
  have hroom := h.room
  have hadded : Tallies (b.filled ++ List.replicate q.dropped none ++ (q.pending ++ [e]).map some)
      (b.offered ++ [e]) := by
    simpa using h.tally.append (tallies_map_some [e])
  rcases h.take_cases hpos e with ⟨-, hqueue, hbook⟩ | ⟨hattached, -, hqueue, hbook⟩ |
    ⟨hattached, -, hless, hqueue, hbook⟩ | ⟨hattached, -, hfull, ⟨x, rest, hpending, hqueue⟩, hbook⟩ <;>
    rw [hqueue, hbook]
  · exact h
  · -- the end goes on top of a full queue, and nothing comes after it
    refine ⟨by simpa [Book.filled, Book.offered] using hadded, rfl, h.capacity_eq, ?_⟩
    simp only [hattached, if_true, Bool.false_eq_true, if_false, List.length_append,
      List.length_singleton] at hroom ⊢
    omega
  · refine ⟨by simpa [Book.filled, Book.offered] using hadded, h.closed_eq, h.capacity_eq, ?_⟩
    simp only [List.length_append, List.length_singleton]
    omega
  · -- the oldest event waiting becomes the last of the missing ones
    have htally := h.tally
    rw [hpending, List.map_cons] at htally
    rw [hpending] at hroom
    refine ⟨?_, h.closed_eq, h.capacity_eq, by simpa using hroom⟩
    simpa [Book.filled, Book.offered, List.replicate_succ'] using
      htally.lose.append (tallies_map_some [e])

/-- A queue that is closed agrees with the book of a subscriber that has left. -/
theorem Settled.close (h : q.Settled capacity b) :
    q.close.Settled capacity { b with attached := false } where
  tally := h.tally
  closed_eq := rfl
  capacity_eq := h.capacity_eq
  room := by
    have := h.room
    show q.pending.length ≤ max capacity b.opening.length + 1
    split at this <;> omega

/-- Receiving moves an event, or a loss, from the queue into the book. -/
theorem Settled.receive (h : q.Settled capacity b) (pane : Nat) :
    (q.receive pane).2.Settled capacity
      { b with received := b.received ++ (q.receipt? pane).toList } := by
  have hroom := h.room
  by_cases hdropped : 0 < q.dropped
  · -- the report comes first, and the missing places move into the book as they are
    have hq : (q.receive pane).2 = { q with dropped := 0 } := by simp [Subscriber.receive, hdropped]
    have hreceipt : q.receipt? pane =
        some ⟨.fault pane (.truncated q.dropped), q.dropped⟩ := by
      simp [receipt?, Subscriber.receive, hdropped]
    rw [hq, hreceipt]
    refine ⟨?_, h.closed_eq, h.capacity_eq, hroom⟩
    have htally := h.tally
    simpa [Book.filled, Book.offered, Receipt.places, Nat.pos_iff_ne_zero.mp hdropped] using htally
  · have hzero : q.dropped = 0 := Nat.eq_zero_of_not_pos hdropped
    cases hpending : q.pending with
    | nil =>
      -- there is nothing to receive
      have hq : (q.receive pane).2 = q := by simp [Subscriber.receive, hzero, hpending]
      have hreceipt : q.receipt? pane = none := by
        cases hclosed : q.closed <;> simp [receipt?, Subscriber.receive, hzero, hpending, hclosed]
      rw [hq, hreceipt]
      simpa using h
    | cons e rest =>
      -- with no loss in between, the event moves from the front of the queue into the book
      have hq : (q.receive pane).2 = { q with pending := rest } := by
        simp [Subscriber.receive, hzero, hpending]
      have hreceipt : q.receipt? pane = some ⟨e, 0⟩ := by
        simp [receipt?, Subscriber.receive, hzero, hpending]
      rw [hq, hreceipt]
      rw [hpending, List.length_cons] at hroom
      refine ⟨?_, h.closed_eq, h.capacity_eq, Nat.le_of_succ_le hroom⟩
      have htally := h.tally
      rw [hpending, hzero] at htally
      simpa [Book.filled, Book.offered, Receipt.places, hzero] using htally

/-- **Each operation keeps the agreement** of a queue with its book. -/
theorem Settled.after {s : Stream} (hids : (s.subscribers.map (·.id)).Nodup)
    (hq : q ∈ s.subscribers) (h : q.Settled capacity b) (hpos : 0 < capacity) {op : Stream.Op}
    (hop : op ≠ .drop q.id) : (q.after s op).Settled capacity (b.enter s op q.id) := by
  rcases after_cases hids hq op b hop with
    ⟨hqueue, hbook⟩ | ⟨hqueue, hbook⟩ | ⟨hqueue, hbook⟩ | ⟨e, -, hqueue, hbook⟩ <;> rw [hqueue, hbook]
  · exact h
  · exact h.close
  · exact h.receive s.pane
  · exact h.take hpos e

end Subscriber

/-! ## §3 All queues and all books -/

/-- What was received, taken for itself, is in order: it holds what was offered and in that order,
    and a receipt that stands for lost events reports their number. -/
structure Book.Faithful (pane : Nat) (b : Book) : Prop where
  tally : ∃ rest, Tallies (b.filled ++ rest) b.offered
  reported : ∀ x ∈ b.received, 0 < x.lost → x.event = .fault pane (.truncated x.lost)

namespace Book

variable {pane : Nat} {b : Book}

/-- What waits for somebody was not received, and may be forgotten with the queue. -/
theorem Faithful.of_settled {capacity : Nat} {q : Subscriber} (h : q.Settled capacity b)
    (hreported : ∀ x ∈ b.received, 0 < x.lost → x.event = .fault pane (.truncated x.lost)) :
    b.Faithful pane where
  tally := ⟨_, by rw [← List.append_assoc]; exact h.tally⟩
  reported := hreported

/-- One more event on offer has not been received so far. -/
theorem Faithful.hear (h : b.Faithful pane) (e : Event) : (b.hear e).Faithful pane := by
  unfold Book.hear
  split
  · obtain ⟨rest, htally⟩ := h.tally
    -- a missing place fits any event
    refine ⟨⟨rest ++ [none], ?_⟩, h.reported⟩
    have hadded := htally.append (List.Forall₂.cons (fits_none e) List.Forall₂.nil)
    simpa [filled, offered] using hadded
  · exact h

/-- A receipt for lost events reports their number. -/
theorem event_of_receipt?_eq_some {q : Subscriber} {x : Receipt} (hx : q.receipt? pane = some x)
    (hlost : 0 < x.lost) : x.event = .fault pane (.truncated x.lost) := by
  unfold Subscriber.receipt? Subscriber.receive at hx
  by_cases hdropped : 0 < q.dropped
  · simp only [hdropped, if_true, Option.some.injEq] at hx
    rw [← hx]
  · -- with no loss to report the receipt is for an event that waited
    exfalso
    split at hx
    · rw [Option.some.injEq] at hx
      rw [← hx] at hlost
      exact hdropped hlost
    · exact absurd hx (by simp)

/-- **Each operation keeps a book faithful.** -/
theorem Faithful.enter {s : Stream} {capacity id : Nat} (h : b.Faithful s.pane)
    (hheld : ∀ q, s.subscriber? id = some q → q.Settled capacity b) (op : Stream.Op) :
    (b.enter s op id).Faithful s.pane := by
  rcases b.enter_cases s op id with ⟨e, -, heq⟩ | ⟨-, heq | heq | heq⟩ <;> rw [heq]
  · exact h.hear e
  · exact h
  · exact ⟨h.tally, h.reported⟩
  · cases hfind : s.subscriber? id with
    | none => simpa [Stream.receipt?, hfind] using h
    | some q =>
      have hreceipt : s.receipt? id = q.receipt? s.pane := by simp [Stream.receipt?, hfind]
      rw [hreceipt]
      refine .of_settled ((hheld q hfind).receive s.pane) fun x hx hlost => ?_
      rcases List.mem_append.mp hx with hx | hx
      · exact h.reported x hx hlost
      · exact event_of_receipt?_eq_some (by simpa using hx) hlost

end Book

namespace Ledger

/-- **Every queue agrees with a book**, and every book is faithful. -/
structure Settled (l : Ledger) : Prop where
  capacity_pos : 0 < l.stream.capacity
  ids : (l.stream.subscribers.map (·.id)).Nodup
  booked : ∀ q ∈ l.stream.subscribers,
    ∃ b, l.books q.id = some b ∧ q.Settled l.stream.capacity b
  faithful : ∀ id b, l.books id = some b → b.Faithful l.stream.pane

/-- Nobody is subscribed to a new stream. -/
theorem settled_new (pane : Nat) (limits : Limits) (capacity : Nat) :
    (new pane limits capacity).Settled where
  capacity_pos := Nat.le_max_right capacity 1
  ids := List.nodup_nil
  booked q hq := by cases hq
  faithful id b hb := by cases hb

variable {l : Ledger}

/-- The book on whoever holds a subscription agrees with the queue. -/
theorem Settled.of_subscriber? (h : l.Settled) {id : Nat} {q : Subscriber} {b : Book}
    (hq : l.stream.subscriber? id = some q) (hb : l.books id = some b) :
    q.Settled l.stream.capacity b := by
  obtain ⟨hmem, hid⟩ := Stream.mem_of_subscriber?_eq_some hq
  obtain ⟨b', hb', hsettled⟩ := h.booked q hmem
  rw [hid, hb, Option.some.injEq] at hb'
  rwa [hb']

/-- A new subscriber is offered what its queue holds from the start. -/
private theorem settled_enrol (s : Stream) (id : Nat) :
    (s.enrol id).Settled s.capacity (.opened s) := by
  unfold Stream.enrol Book.opened Stream.isFinished
  rw [s.snapshot_eq]
  cases hending : s.ending with
  | none =>
    refine ⟨?_, rfl, rfl, Nat.le_max_right _ _⟩
    simp [Book.filled, Book.offered]
  | some e =>
    refine ⟨?_, rfl, rfl, ?_⟩
    · simpa [Book.filled, Book.offered, Subscriber.finish] using
        tallies_map_some (s.scrollback.history s.pane ++ [e])
    · show (s.scrollback.history s.pane ++ [e]).length ≤ max _ (s.scrollback.history s.pane).length + 1
      rw [List.length_append, List.length_singleton]
      exact Nat.succ_le_succ (Nat.le_max_right _ _)

/-- A subscription under an identifier not used before. -/
theorem Settled.subscribe (h : l.Settled) {id : Nat} (hid : l.books id = none) :
    (l.step (.subscribe id)).Settled := by
  -- every subscriber has a book, so that nobody is subscribed under a fresh identifier
  have hfresh : ∀ q ∈ l.stream.subscribers, q.id ≠ id := by
    intro q hq heq
    obtain ⟨b, hb, -⟩ := h.booked q hq
    rw [heq, hid] at hb
    cases hb
  constructor
  case capacity_pos => rw [stream_subscribe hid]; exact h.capacity_pos
  case ids =>
    simp only [stream_subscribe hid, Stream.subscribe, List.map_append, List.map_cons,
      List.map_nil, Stream.id_enrol]
    refine List.Nodup.append h.ids (List.nodup_singleton id) ?_
    simpa using hfresh
  case booked =>
    intro q hq
    rw [stream_subscribe hid] at hq ⊢
    rcases List.mem_append.mp hq with hq | hq
    · rw [books_subscribe_of_ne l (hfresh q hq)]
      exact h.booked q hq
    · rw [List.mem_singleton.mp hq, Stream.id_enrol]
      exact ⟨.opened l.stream, books_subscribe_self hid, settled_enrol l.stream id⟩
  case faithful =>
    intro i b hb
    rw [stream_subscribe hid]
    by_cases hi : i = id
    · rw [hi, books_subscribe_self hid, Option.some.injEq] at hb
      rw [← hb]
      exact .of_settled (settled_enrol l.stream id) (by simp [Book.opened])
    · rw [books_subscribe_of_ne l hi] at hb
      exact h.faithful i b hb

/-- **Each operation keeps queues and books in agreement.** -/
theorem Settled.step (h : l.Settled) (op : Stream.Op) : (l.step op).Settled := by
  by_cases hop : ∃ id, op = .subscribe id
  · obtain ⟨id, rfl⟩ := hop
    cases hid : l.books id with
    | none => exact h.subscribe hid
    | some b => rwa [step_subscribe_of_some hid]
  · have hop : ∀ id, op ≠ .subscribe id := fun id heq => hop ⟨id, heq⟩
    have hsubs := Stream.subscribers_perform h.ids hop
    rw [step_of_ne_subscribe hop]
    constructor
    case capacity_pos => simpa using h.capacity_pos
    case ids =>
      -- a queue may go and none changes hands
      have hsame : (Subscriber.id ∘ fun q => q.after l.stream op) = Subscriber.id :=
        funext fun q => Subscriber.id_after l.stream op q
      rw [hsubs, List.map_map, hsame]
      exact h.ids.sublist (List.filter_sublist.map _)
    case booked =>
      -- a queue that is there now was there before, and its book has been kept along with it
      intro q hq
      rw [hsubs, List.mem_map] at hq
      obtain ⟨q₀, hq₀, rfl⟩ := hq
      obtain ⟨hmem, hkept⟩ := List.mem_filter.mp hq₀
      obtain ⟨b, hb, hsettled⟩ := h.booked q₀ hmem
      refine ⟨b.enter l.stream op q₀.id, by simp [hb], ?_⟩
      rw [Stream.capacity_perform]
      exact hsettled.after h.ids hmem h.capacity_pos (by simpa using hkept)
    case faithful =>
      intro id b hb
      obtain ⟨b₀, hb₀, rfl⟩ := Option.map_eq_some_iff.mp hb
      rw [Stream.pane_perform]
      exact (h.faithful id b₀ hb₀).enter (fun q hq => h.of_subscriber? hq hb₀) op

/-- Queues and books agree in every run. -/
theorem settled_run (pane : Nat) (limits : Limits) (capacity : Nat) (ops : List Stream.Op) :
    ((new pane limits capacity).run ops).Settled :=
  run_induction (fun _ op h => h.step op) (settled_new pane limits capacity) ops

end Ledger

end PaneMux
