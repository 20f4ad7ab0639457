import PaneMux.Terminal.Stream
import PaneMux.Proofs.Keyed
import Mathlib.Data.List.Forall2
import Mathlib.Logic.Function.Basic

/-!
# The Ledger of a Stream

A stream knows what waits in the queues of its subscribers, but not what they were offered and what
they took. The ledger keeps a book on each of them, from the operations alone, and never looks into
a queue except to note what its owner received. What the stream does is then stated as an agreement
between queues and books.

## Architecture

- **§1** operations: everything that happens to a stream, one at a time and in any order
- **§2** books: what a subscriber was offered (`Book.offered`) and what it received
- **§3** the ledger, and its runs from a new stream
- **§4** what one operation does to one queue

An identifier is given to one subscription only, so that a second `subscribe` under an identifier in
use is no operation at all and changes nothing.
-/

namespace PaneMux

/-! ## §1 Operations -/

/-- What can happen to a stream. -/
inductive Stream.Op where
  | output (now : Time.Instant) (data : Bytes)
  | resized (size : Geometry)
  | fault (fault : StreamFault)
  | finish (code : Option Int32) (killed : Bool)
  | subscribe (id : Nat)
  | unsubscribe (id : Nat)
  /-- the owner of a subscription gives it up -/
  | drop (id : Nat)
  | receive (id : Nat)
  | release
  deriving DecidableEq, Repr

/-- The subscriber that an operation is about, if it is about one alone. -/
def Stream.Op.addressee? : Stream.Op → Option Nat
  | .subscribe id | .unsubscribe id | .drop id | .receive id => some id
  | _ => none

namespace Stream

/-- The stream after an operation. -/
def perform (s : Stream) : Op → Stream
  | .output now data => (s.publishOutput now data).2
  | .resized size => s.publishResize size
  | .fault fault => s.publishFault fault
  | .finish code killed => (s.finish code killed).2
  | .subscribe id => s.subscribe id
  | .unsubscribe id => (s.unsubscribe id).2
  | .drop id => s.dropSubscription id
  | .receive id => (s.receive id).2
  | .release => s.release

/-- The event that an operation makes for everyone who is attached. After the end there is none, and
    empty output makes none. -/
def handedOut? (s : Stream) (op : Op) : Option Event :=
  if s.isFinished then none
  else match op with
    | .output _ data => if data.isEmpty then none else some (.output ⟨s.pane, s.nextSeq, data⟩)
    | .resized size => some (.resized s.pane size)
    | .fault fault => some (.fault s.pane fault)
    | .finish code killed => some (.exit s.pane s.nextSeq code killed)
    | _ => none

end Stream

/-! ## §2 Books -/

/-- An event as a subscriber received it. -/
structure Receipt where
  event : Event
  /-- the number of lost events that the queue reports by it, zero for an event that was offered -/
  lost : Nat := 0
  deriving DecidableEq, Repr

/-- The places in the sequence of offers that a receipt stands for: one for the event itself, or as
    many missing ones as it reports. -/
def Receipt.places (x : Receipt) : List (Option Event) :=
  if x.lost = 0 then [some x.event] else List.replicate x.lost none

/-- **All output remembered**, as a newcomer is told of it: a notice of how many chunks are gone, exactly
    if bytes of them are, and then an event for each chunk retained. -/
def Scrollback.history (pane : Nat) (b : Scrollback) : List Event :=
  (if 0 < b.truncation.bytes then [.fault pane (.truncated b.truncation.chunks)] else []) ++
    b.chunks.map .output

/-- The stream gives a newcomer all output remembered. -/
@[simp] theorem Stream.snapshot_eq (s : Stream) : s.snapshot = s.scrollback.history s.pane := by
  simp [snapshot, Scrollback.history, Truncation.isTruncated]

/-- What the owner of a queue receives when asking for an event now. -/
def Subscriber.receipt? (pane : Nat) (q : Subscriber) : Option Receipt :=
  match (q.receive pane).1 with
  | .event e => some ⟨e, q.dropped⟩
  | _ => none

/-- What the owner of a subscription receives when asking for an event now. -/
def Stream.receipt? (s : Stream) (id : Nat) : Option Receipt :=
  (s.subscriber? id).bind (·.receipt? s.pane)

/-- The book on one subscriber. -/
structure Book where
  /-- what it was given at the start: all output remembered, after a notice if some was gone -/
  opening : List Event
  /-- what it has been offered since -/
  since : List Event := []
  /-- it has neither left nor seen the end -/
  attached : Bool
  received : List Receipt := []
  /-- the stream remembered no output any more when it came -/
  afterRelease : Bool
  deriving DecidableEq, Repr

namespace Book

/-- Everything a subscriber was offered. -/
def offered (b : Book) : List Event := b.opening ++ b.since

/-- The book on a subscriber who comes now. After the end it is offered the end, and not attached. -/
def opened (s : Stream) : Book :=
  { opening := s.scrollback.history s.pane, since := s.ending.toList, attached := !s.isFinished,
    afterRelease := s.released }

/-- An event for everyone is offered to those who are attached. The end is the last one. -/
def hear (b : Book) (e : Event) : Book :=
  if b.attached then { b with since := b.since ++ [e], attached := !e.isExit } else b

/-- What an operation enters into the book on the subscriber `id`. -/
def enter (s : Stream) (op : Stream.Op) (id : Nat) (b : Book) : Book :=
  match op with
  | .unsubscribe i | .drop i => if i = id then { b with attached := false } else b
  | .receive i => if i = id then { b with received := b.received ++ (s.receipt? id).toList } else b
  | op => (s.handedOut? op).elim b b.hear

/-- **All that can be entered**: an event for everyone, or that the subscriber has left, or what it
    received, or nothing. -/
theorem enter_cases (s : Stream) (op : Stream.Op) (id : Nat) (b : Book) :
    (∃ e, s.handedOut? op = some e ∧ b.enter s op id = b.hear e) ∨
      (s.handedOut? op = none ∧
        (b.enter s op id = b ∨ b.enter s op id = { b with attached := false } ∨
          b.enter s op id = { b with received := b.received ++ (s.receipt? id).toList })) := by
  cases op with
  -- what is about one subscriber makes no event for everyone
  | unsubscribe i | drop i =>
    right
    by_cases hi : i = id <;> simp [enter, hi, Stream.handedOut?]
  | receive i =>
    right
    by_cases hi : i = id <;> simp [enter, hi, Stream.handedOut?]
  | output now data | resized size | fault fault | finish code killed | subscribe i | release =>
    simp only [enter]
    cases s.handedOut? _ with
    | none => exact .inr ⟨rfl, .inl rfl⟩
    | some e => exact .inl ⟨e, rfl, rfl⟩

/-- What a subscriber was given at the start does not change. -/
theorem opening_enter (s : Stream) (op : Stream.Op) (id : Nat) (b : Book) :
    (b.enter s op id).opening = b.opening := by
  rcases b.enter_cases s op id with ⟨e, -, heq⟩ | ⟨-, heq | heq | heq⟩ <;> rw [heq]
  unfold hear
  split <;> rfl

end Book

/-! ## §3 The ledger -/

/-- A stream with the books kept on its subscribers, past ones included. -/
structure Ledger where
  stream : Stream
  books : Nat → Option Book := fun _ => none
  /-- all output that was given a number -/
  outputs : List Chunk := []

/-- The chunk of output in an event. -/
def Event.chunk? : Event → Option Chunk
  | .output c => some c
  | _ => none

namespace Ledger

/-- A stream on which no book is kept yet. -/
def new (pane : Nat) (limits : Limits) (capacity : Nat) : Ledger :=
  { stream := .new pane limits capacity }

/-- One operation, and what it enters. -/
def step (l : Ledger) (op : Stream.Op) : Ledger :=
  match op with
  | .subscribe id =>
    match l.books id with
    | some _ => l
    | none =>
      { l with
        stream := l.stream.subscribe id
        books := Function.update l.books id (some (.opened l.stream)) }
  | op =>
    { stream := l.stream.perform op
      books := fun id => (l.books id).map (.enter l.stream op id)
      outputs := l.outputs ++ ((l.stream.handedOut? op).bind Event.chunk?).toList }

/-- Operations one after the other. -/
def run (l : Ledger) (ops : List Stream.Op) : Ledger := ops.foldl step l

@[simp] theorem run_nil (l : Ledger) : l.run [] = l := rfl

@[simp] theorem run_cons (l : Ledger) (op : Stream.Op) (ops : List Stream.Op) :
    l.run (op :: ops) = (l.step op).run ops := rfl

/-- **What every operation keeps, every run keeps.** -/
theorem run_induction {P : Ledger → Prop} (hstep : ∀ l op, P l → P (l.step op)) {l : Ledger}
    (h : P l) (ops : List Stream.Op) : P (l.run ops) := by
  induction ops generalizing l with
  | nil => exact h
  | cons op ops ih => exact ih (hstep l op h)

/-- A subscription under an identifier in use is none. -/
theorem step_subscribe_of_some {l : Ledger} {id : Nat} {b : Book} (h : l.books id = some b) :
    l.step (.subscribe id) = l := by
  simp [step, h]

theorem stream_subscribe {l : Ledger} {id : Nat} (h : l.books id = none) :
    (l.step (.subscribe id)).stream = l.stream.subscribe id := by
  simp [step, h]

/-- A book is opened on a new subscriber. -/
theorem books_subscribe_self {l : Ledger} {id : Nat} (h : l.books id = none) :
    (l.step (.subscribe id)).books id = some (.opened l.stream) := by
  simp [step, h]

/-- The books on the others stay as they are. -/
theorem books_subscribe_of_ne (l : Ledger) {i id : Nat} (hi : i ≠ id) :
    (l.step (.subscribe id)).books i = l.books i := by
  cases hid : l.books id with
  | some b => rw [step_subscribe_of_some hid]
  | none => simp [step, hid, Function.update_of_ne hi]

/-- Output is entered as it is handed out. -/
theorem outputs_step (l : Ledger) (op : Stream.Op) :
    (l.step op).outputs = l.outputs ++ ((l.stream.handedOut? op).bind Event.chunk?).toList := by
  cases op
  case subscribe id => cases hid : l.books id <;> simp [step, hid, Stream.handedOut?]
  all_goals rfl

/-- Any operation but `subscribe` acts on the stream and on each book by itself. -/
theorem step_of_ne_subscribe {op : Stream.Op} (h : ∀ id, op ≠ .subscribe id) (l : Ledger) :
    l.step op =
      { stream := l.stream.perform op
        books := fun id => (l.books id).map (.enter l.stream op id)
        outputs := l.outputs ++ ((l.stream.handedOut? op).bind Event.chunk?).toList } := by
  cases op
  case subscribe id => exact absurd rfl (h id)
  all_goals rfl

end Ledger

/-! ## §4 One queue -/

/-- A receipt is what the stream delivers. -/
theorem Stream.receive_fst_eq_event_iff {s : Stream} {id : Nat} {e : Event} :
    (s.receive id).1 = .event e ↔ (s.receipt? id).map (·.event) = some e := by
  unfold Stream.receive Stream.receipt?
  cases s.subscriber? id with
  | none => simp
  | some q =>
    -- both are told by what the queue of the owner gives
    simp only [Option.bind_some, Subscriber.receipt?]
    split <;> simp_all

namespace Subscriber

/-- Takes an event as it is handed out: the end closes the queue. -/
def take (q : Subscriber) (e : Event) : Subscriber := if e.isExit then q.finish e else q.push e

/-- The queue of a subscriber after an operation that it outlives. -/
def after (s : Stream) (op : Stream.Op) (q : Subscriber) : Subscriber :=
  match op with
  | .unsubscribe i => if i = q.id then q.close else q
  | .drop _ => q
  | .receive i => if i = q.id then (q.receive s.pane).2 else q
  | op => (s.handedOut? op).elim q q.take

/-- A closed queue takes nothing. -/
theorem take_of_closed {q : Subscriber} (h : q.closed = true) (e : Event) : q.take e = q := by
  simp [take, finish, push, h]

/-- The end always finds room. -/
theorem take_exit {q : Subscriber} (h : q.closed = false) {e : Event} (he : e.isExit = true) :
    q.take e = { q with pending := q.pending ++ [e], closed := true } := by
  simp [take, he, finish, h]

theorem take_of_room {q : Subscriber} (h : q.closed = false) {e : Event} (he : e.isExit = false)
    (hroom : q.pending.length < q.capacity) :
    q.take e = { q with pending := q.pending ++ [e] } := by
  simp [take, he, push, h, Nat.not_le_of_lt hroom]

/-- A full queue loses its oldest event. -/
theorem take_of_full {q : Subscriber} (h : q.closed = false) {e x : Event} {rest : List Event}
    (he : e.isExit = false) (hfull : q.capacity ≤ q.pending.length)
    (hpending : q.pending = x :: rest) :
    q.take e = { q with pending := rest ++ [e], dropped := q.dropped + 1 } := by
  rw [take, he, push, h, if_pos hfull, hpending]
  rfl

@[simp] theorem id_push (q : Subscriber) (e : Event) : (q.push e).id = q.id := by
  unfold push
  split
  · rfl
  · split <;> rfl

@[simp] theorem id_finish (q : Subscriber) (e : Event) : (q.finish e).id = q.id := by
  unfold finish
  split <;> rfl

@[simp] theorem id_close (q : Subscriber) : q.close.id = q.id := rfl

@[simp] theorem id_receive (pane : Nat) (q : Subscriber) : (q.receive pane).2.id = q.id := by
  unfold receive
  split
  · rfl
  · split <;> rfl

@[simp] theorem id_take (q : Subscriber) (e : Event) : (q.take e).id = q.id := by
  unfold take
  split <;> simp

/-- A queue stays that of its subscriber. -/
@[simp] theorem id_after (s : Stream) (op : Stream.Op) (q : Subscriber) :
    (q.after s op).id = q.id := by
  unfold after
  split
  · split <;> rfl
  · rfl
  · split <;> simp
  · cases s.handedOut? _ <;> simp

end Subscriber

namespace Stream

@[simp] theorem id_enrol (s : Stream) (id : Nat) : (s.enrol id).id = id := by
  unfold enrol
  split <;> simp

/-- The subscriber under an identifier is found in the list of subscribers. -/
theorem mem_of_subscriber?_eq_some {s : Stream} {id : Nat} {q : Subscriber}
    (h : s.subscriber? id = some q) : q ∈ s.subscribers ∧ q.id = id :=
  Keyed.mem_of_find? h

/-- Where no two subscribers share an identifier, each is found under its own. -/
theorem subscriber?_eq_some {s : Stream} (hids : (s.subscribers.map (·.id)).Nodup)
    {q : Subscriber} (hq : q ∈ s.subscribers) : s.subscriber? q.id = some q :=
  Keyed.find?_eq_some hids hq

end Stream

/-- **What an operation does to a queue that outlives it, and to the book on its owner**: nothing, or it
    closes them, or the owner receives, or both hear an event for everyone. -/
theorem Subscriber.after_cases {s : Stream} (hids : (s.subscribers.map (·.id)).Nodup)
    {q : Subscriber} (hq : q ∈ s.subscribers) (op : Stream.Op) (b : Book) (hop : op ≠ .drop q.id) :
    (q.after s op = q ∧ b.enter s op q.id = b) ∨
      (q.after s op = q.close ∧ b.enter s op q.id = { b with attached := false }) ∨
      (q.after s op = (q.receive s.pane).2 ∧
        b.enter s op q.id = { b with received := b.received ++ (q.receipt? s.pane).toList }) ∨
      ∃ e, s.handedOut? op = some e ∧ q.after s op = q.take e ∧ b.enter s op q.id = b.hear e := by
  cases op with
  | unsubscribe i =>
    by_cases hi : i = q.id
    · exact .inr (.inl (by simp [after, Book.enter, hi]))
    · exact .inl (by simp [after, Book.enter, hi])
  | drop i =>
    have hi : i ≠ q.id := fun hi => hop (by rw [hi])
    exact .inl (by simp [after, Book.enter, hi])
  | receive i =>
    by_cases hi : i = q.id
    · -- this is the queue that is asked, since nobody else has its identifier
      have hreceipt : s.receipt? q.id = q.receipt? s.pane := by
        rw [Stream.receipt?, Stream.subscriber?_eq_some hids hq, Option.bind_some]
      exact .inr (.inr (.inl (by simp [after, Book.enter, hi, hreceipt])))
    · exact .inl (by simp [after, Book.enter, hi])
  | output now data | resized size | fault fault | finish code killed | subscribe id | release =>
    simp only [after, Book.enter]
    cases s.handedOut? _ with
    | none => exact .inl ⟨rfl, rfl⟩
    | some e => exact .inr (.inr (.inr ⟨e, rfl, rfl, rfl⟩))

namespace Stream

/-- **What makes an event for everyone**, and which one: output that is not empty, a resize, a fault
    and the end, as long as the stream has not ended. -/
theorem handedOut?_eq_some_cases {s : Stream} {op : Op} {e : Event}
    (he : s.handedOut? op = some e) :
    s.isFinished = false ∧
      ((∃ now data, op = .output now data ∧ data ≠ [] ∧
          e = .output ⟨s.pane, s.nextSeq, data⟩) ∨
        (∃ size, op = .resized size ∧ e = .resized s.pane size) ∨
        (∃ fault, op = .fault fault ∧ e = .fault s.pane fault) ∨
        ∃ code killed, op = .finish code killed ∧ e = .exit s.pane s.nextSeq code killed) := by
  unfold handedOut? at he
  cases hfin : s.isFinished with
  | true => simp [hfin] at he
  | false =>
    refine ⟨rfl, ?_⟩
    simp only [hfin, Bool.false_eq_true, if_false] at he
    -- operation by operation: four of them make an event
    cases op with
    | output now data =>
      by_cases hdata : data.isEmpty = true
      · simp [hdata] at he
      · simp only [hdata, Bool.false_eq_true, if_false, Option.some.injEq] at he
        exact .inl ⟨now, data, rfl, by simpa using hdata, he.symm⟩
    | resized size => exact .inr (.inl ⟨size, rfl, (Option.some.inj he).symm⟩)
    | fault fault => exact .inr (.inr (.inl ⟨fault, rfl, (Option.some.inj he).symm⟩))
    | finish code killed =>
      exact .inr (.inr (.inr ⟨code, killed, rfl, (Option.some.inj he).symm⟩))
    | _ => simp at he

/-- Empty output changes nothing, and after the end nothing for everyone does. -/
theorem perform_eq_self {s : Stream} {op : Op} (he : s.handedOut? op = none)
    (hop : op.addressee? = none) (hrelease : op ≠ .release) : s.perform op = s := by
  unfold handedOut? at he
  cases op with
  | output now data =>
    by_cases hfin : s.isFinished = true
    · simp [perform, publishOutput, hfin]
    · have hdata : data.isEmpty = true := by simpa [hfin] using he
      simp [perform, publishOutput, hdata]
  | resized size | fault fault | finish code killed =>
    have hfin : s.isFinished = true := by simpa using he
    simp [perform, publishResize, publishFault, broadcast, finish, hfin]
  | release => exact absurd rfl hrelease
  | _ => simp [Op.addressee?] at hop

/-- An event for everyone reaches every queue. -/
theorem subscribers_perform_of_handedOut? {s : Stream} {op : Op} {e : Event}
    (he : s.handedOut? op = some e) : (s.perform op).subscribers = s.subscribers.map (·.take e) := by
  obtain ⟨hfin, ⟨now, data, rfl, hdata, rfl⟩ | ⟨size, rfl, rfl⟩ | ⟨fault, rfl, rfl⟩ |
    ⟨code, killed, rfl, rfl⟩⟩ := handedOut?_eq_some_cases he
  · simp [perform, publishOutput, hfin, hdata, offer, Subscriber.take, Event.isExit]
  · simp [perform, publishResize, broadcast, hfin, offer, Subscriber.take, Event.isExit]
  · simp [perform, publishFault, broadcast, hfin, offer, Subscriber.take, Event.isExit]
  · simp [perform, finish, hfin, Subscriber.take, Event.isExit]

/-- No operation changes whose stream it is, or how much fits into a queue. -/
theorem pane_capacity_perform (s : Stream) (op : Op) :
    (s.perform op).pane = s.pane ∧ (s.perform op).capacity = s.capacity := by
  cases op with
  | output now data => simp only [perform, publishOutput]; split <;> exact ⟨rfl, rfl⟩
  | resized size | fault fault =>
    simp only [perform, publishResize, publishFault, broadcast]; split <;> exact ⟨rfl, rfl⟩
  | finish code killed => simp only [perform, finish]; split <;> exact ⟨rfl, rfl⟩
  | unsubscribe id => simp only [perform, unsubscribe]; split <;> exact ⟨rfl, rfl⟩
  | receive id => simp only [perform, receive]; split <;> exact ⟨rfl, rfl⟩
  | subscribe id | drop id | release => exact ⟨rfl, rfl⟩

@[simp] theorem pane_perform (s : Stream) (op : Op) : (s.perform op).pane = s.pane :=
  (pane_capacity_perform s op).1

@[simp] theorem capacity_perform (s : Stream) (op : Op) :
    (s.perform op).capacity = s.capacity :=
  (pane_capacity_perform s op).2

/-- What is for everyone reaches every queue, and nothing else does. -/
theorem subscribers_perform_of_addressee?_eq_none {s : Stream} {op : Op}
    (hop : op.addressee? = none) :
    (s.perform op).subscribers = s.subscribers.map fun q => (s.handedOut? op).elim q q.take := by
  cases he : s.handedOut? op with
  | some e => exact subscribers_perform_of_handedOut? he
  | none =>
    simp only [Option.elim_none, List.map_id']
    by_cases hrelease : op = .release
    · rw [hrelease]
      rfl
    · rw [perform_eq_self he hop hrelease]

/-- A change of the queue under an identifier that nobody has is none. -/
private theorem map_ite_eq_self {s : Stream} {id : Nat} (hfind : s.subscriber? id = none)
    (f : Subscriber → Subscriber) :
    (s.subscribers.map fun q => if id = q.id then f q else q) = s.subscribers := by
  have hnone : ∀ q ∈ s.subscribers, q.id ≠ id := by simpa [subscriber?] using hfind
  calc (s.subscribers.map fun q => if id = q.id then f q else q)
      = s.subscribers.map fun q => q :=
        List.map_congr_left fun q hq => if_neg fun h => hnone q hq h.symm
    _ = s.subscribers := List.map_id' _

/-- **Every operation but `subscribe` acts on each queue by itself**, and only giving a
    subscription up takes a queue away. -/
theorem subscribers_perform {s : Stream} (hids : (s.subscribers.map (·.id)).Nodup) {op : Op}
    (hop : ∀ id, op ≠ .subscribe id) :
    (s.perform op).subscribers =
      (s.subscribers.filter fun q => op ≠ .drop q.id).map (·.after s op) := by
  cases op with
  | subscribe id => exact absurd rfl (hop id)
  | unsubscribe id =>
    simp only [ne_eq, reduceCtorEq, not_false_eq_true, decide_true, List.filter_true]
    cases hfind : s.subscriber? id with
    | some q => simp [perform, unsubscribe, hfind, modify, Subscriber.after, eq_comm]
    | none =>
      simp only [perform, unsubscribe, hfind]
      exact (map_ite_eq_self hfind Subscriber.close).symm
  | drop id =>
    -- the only operation that takes a queue away
    simp only [perform, dropSubscription, Subscriber.after, ne_eq, Op.drop.injEq, List.map_id']
    refine List.filter_congr fun q _ => ?_
    simp [eq_comm (a := q.id)]
  | receive id =>
    simp only [ne_eq, reduceCtorEq, not_false_eq_true, decide_true, List.filter_true]
    cases hfind : s.subscriber? id with
    | some q =>
      obtain ⟨hq, hid⟩ := mem_of_subscriber?_eq_some hfind
      simp only [perform, receive, hfind, modify]
      refine List.map_congr_left fun q' hq' => ?_
      -- the only queue under this identifier is the one that was asked
      by_cases h : q'.id = id
      · have hsame : q' = q := List.inj_on_of_nodup_map hids hq' hq (h.trans hid.symm)
        simp [Subscriber.after, hsame, hid]
      · simp [Subscriber.after, h, Ne.symm h]
    | none =>
      simp only [perform, receive, hfind]
      exact (map_ite_eq_self hfind fun q => (q.receive s.pane).2).symm
  | output now data | resized size | fault fault | finish code killed | release =>
    simp only [ne_eq, reduceCtorEq, not_false_eq_true, decide_true, List.filter_true]
    exact subscribers_perform_of_addressee?_eq_none rfl

end Stream

namespace Ledger

/-- No operation changes whose stream it is, or how much fits into a queue. -/
theorem pane_capacity_step (l : Ledger) (op : Stream.Op) :
    (l.step op).stream.pane = l.stream.pane ∧
      (l.step op).stream.capacity = l.stream.capacity := by
  by_cases hop : ∃ id, op = .subscribe id
  · obtain ⟨id, rfl⟩ := hop
    cases hid : l.books id with
    | some b => rw [step_subscribe_of_some hid]; exact ⟨rfl, rfl⟩
    | none => rw [stream_subscribe hid]; exact ⟨rfl, rfl⟩
  · rw [step_of_ne_subscribe fun id heq => hop ⟨id, heq⟩]
    exact Stream.pane_capacity_perform l.stream op

theorem pane_capacity_run (l : Ledger) (ops : List Stream.Op) :
    (l.run ops).stream.pane = l.stream.pane ∧
      (l.run ops).stream.capacity = l.stream.capacity := by
  refine run_induction (P := fun l' => l'.stream.pane = l.stream.pane ∧
    l'.stream.capacity = l.stream.capacity) (fun l' op h => ?_) ⟨rfl, rfl⟩ ops
  obtain ⟨hpane, hcapacity⟩ := pane_capacity_step l' op
  exact ⟨hpane.trans h.1, hcapacity.trans h.2⟩

end Ledger

end PaneMux
