import PaneMux.Terminal.Event

/-!
# Streams

A pane's stream numbers its output, remembers it, and hands every event to each subscriber through a
queue of its own. The process that writes never waits for a subscriber: a full queue loses its
oldest event, and its owner is told how many were lost before the next event it receives.

## Main definitions

- `Subscriber` : a subscriber's queue, with `receive` for its owner
- `Stream.publishOutput`, `Stream.publishResize`, `Stream.publishFault` : live events
- `Stream.subscribe` : a new subscriber, who first receives all output still remembered
- `Stream.finish` : the end, delivered to everyone once and last

Operations on different subscribers touch nothing in common, and no operation on a subscriber
touches the sequence or the scrollback.
-/

namespace PaneMux

/-! ## §1 Subscribers -/

/-- A subscriber's queue. It is open exactly while the subscriber is attached to the stream. -/
structure Subscriber where
  id : Nat
  capacity : Nat
  /-- events waiting to be received, oldest first -/
  pending : List Event := []
  /-- events lost since the last one received -/
  dropped : Nat := 0
  closed : Bool := false
  deriving DecidableEq, Repr

namespace Subscriber

/-- Takes a live event. A full queue loses its oldest event first. -/
def push (q : Subscriber) (e : Event) : Subscriber :=
  if q.closed then q
  else if q.capacity ≤ q.pending.length then
    { q with pending := q.pending.drop 1 ++ [e], dropped := q.dropped + 1 }
  else { q with pending := q.pending ++ [e] }

/-- Takes the last event and closes. It always fits. -/
def finish (q : Subscriber) (e : Event) : Subscriber :=
  if q.closed then q else { q with pending := q.pending ++ [e], closed := true }

/-- Takes no more events. -/
def close (q : Subscriber) : Subscriber := { q with closed := true }

/-- The answer to a subscriber who asks for an event. -/
inductive Delivery where
  | event (e : Event)
  /-- nothing yet -/
  | empty
  /-- nothing any more -/
  | closed
  deriving DecidableEq, Repr

/-- Gives the next event. A loss is reported before anything that came after it. -/
def receive (pane : Nat) (q : Subscriber) : Delivery × Subscriber :=
  if 0 < q.dropped then
    (.event (.fault pane (.truncated q.dropped)), { q with dropped := 0 })
  else
    match q.pending with
    | e :: rest => (.event e, { q with pending := rest })
    | [] => (if q.closed then .closed else .empty, q)

end Subscriber

/-! ## §2 The stream -/

/-- The stream of a pane. -/
structure Stream where
  pane : Nat
  /-- events a subscriber may have waiting -/
  capacity : Nat
  nextSeq : Nat := 1
  scrollback : Scrollback
  /-- every subscription whose owner still holds it, oldest first -/
  subscribers : List Subscriber := []
  /-- the exit event, once the process has ended -/
  ending : Option Event := none
  lastOutput : Option Time.Instant := none
  /-- output is no longer remembered -/
  released : Bool := false
  deriving DecidableEq, Repr

namespace Stream

/-- The stream of a new pane. -/
def new (pane : Nat) (limits : Limits) (capacity : Nat) : Stream :=
  { pane, capacity := max capacity 1, scrollback := .empty limits }

/-- The process has ended. -/
def isFinished (s : Stream) : Bool := s.ending.isSome

/-- Hands an event to every attached subscriber. -/
def offer (s : Stream) (e : Event) : Stream :=
  { s with subscribers := s.subscribers.map (·.push e) }

/-- Numbers, remembers and hands out a piece of output. The number is given back; empty output and
    output after the end get none and change nothing. -/
def publishOutput (s : Stream) (now : Time.Instant) (data : Bytes) : Option Nat × Stream :=
  if data.isEmpty || s.isFinished then (none, s)
  else
    let chunk : Chunk := ⟨s.pane, s.nextSeq, data⟩
    let scrollback := if s.released then s.scrollback else s.scrollback.push chunk
    let s := { s with nextSeq := s.nextSeq + 1, scrollback, lastOutput := some now }
    (some chunk.seq, s.offer (.output chunk))

/-- Hands out an event without a number; nothing happens after the end. -/
def broadcast (s : Stream) (e : Event) : Stream :=
  if s.isFinished then s else s.offer e

/-- Tells of a resize that has taken effect. -/
def publishResize (s : Stream) (g : Geometry) : Stream := s.broadcast (.resized s.pane g)

/-- Tells of a fault. -/
def publishFault (s : Stream) (f : StreamFault) : Stream := s.broadcast (.fault s.pane f)

/-- Ends the stream. Only the first end counts. -/
def finish (s : Stream) (code : Option Int32) (killed : Bool) : Bool × Stream :=
  if s.isFinished then (false, s)
  else
    let e := Event.exit s.pane s.nextSeq code killed
    (true, { s with
      nextSeq := s.nextSeq + 1
      ending := some e
      subscribers := s.subscribers.map (·.finish e) })

/-- What a new subscriber is given first: a notice when older output is gone, then all that is
    remembered. -/
def snapshot (s : Stream) : List Event :=
  let notice :=
    if s.scrollback.truncation.isTruncated then
      [Event.fault s.pane (.truncated s.scrollback.truncation.chunks)]
    else []
  notice ++ s.scrollback.chunks.map .output

/-- The queue of a new subscriber. The snapshot goes in whole, whatever the capacity. -/
def enrol (s : Stream) (id : Nat) : Subscriber :=
  let q : Subscriber := { id, capacity := s.capacity, pending := s.snapshot }
  match s.ending with
  | some e => q.finish e
  | none => q

/-- A new subscriber under an identifier not used before. -/
def subscribe (s : Stream) (id : Nat) : Stream :=
  { s with subscribers := s.subscribers ++ [s.enrol id] }

/-- The subscription with an identifier, if its owner still holds it. -/
def subscriber? (s : Stream) (id : Nat) : Option Subscriber :=
  s.subscribers.find? (·.id = id)

/-- Changes one subscription. -/
def modify (s : Stream) (id : Nat) (f : Subscriber → Subscriber) : Stream :=
  { s with subscribers := s.subscribers.map fun q => if q.id = id then f q else q }

/-- Detaches a subscriber; its owner keeps the queue. Tells whether it was attached. -/
def unsubscribe (s : Stream) (id : Nat) : Bool × Stream :=
  match s.subscriber? id with
  | some q => (!q.closed, s.modify id .close)
  | none => (false, s)

/-- The owner gives a subscription up. -/
def dropSubscription (s : Stream) (id : Nat) : Stream :=
  { s with subscribers := s.subscribers.filter (·.id ≠ id) }

/-- The owner of a subscription asks for an event. A subscription nobody holds is closed. -/
def receive (s : Stream) (id : Nat) : Subscriber.Delivery × Stream :=
  match s.subscriber? id with
  | some q =>
    let (d, q') := q.receive s.pane
    (d, s.modify id fun _ => q')
  | none => (.closed, s)

/-- Everything the owner of a subscription can receive now, oldest first. One event is a report of
    loss at most, so one more than are pending is enough. -/
def drain (s : Stream) (id : Nat) : List Event × Stream :=
  go ((s.subscriber? id).elim 0 (·.pending.length + 1)) s
where
  go : Nat → Stream → List Event × Stream
  | 0, s => ([], s)
  | n + 1, s =>
    match s.receive id with
    | (.event e, s) => let (es, s) := go n s; (e :: es, s)
    | (_, s) => ([], s)

/-- The number of attached subscribers. -/
def subscriberCount (s : Stream) : Nat := (s.subscribers.filter (!·.closed)).length

/-- Forgets the output and remembers no more of it. -/
def release (s : Stream) : Stream :=
  { s with scrollback := s.scrollback.clear, released := true }

/-- The last lines remembered. -/
def tailLines (s : Stream) (n : Nat) : Bytes := s.scrollback.tailLines n

/-- The remembered lines that contain a text. -/
def search (s : Stream) (needle : String) : List LineMatch := s.scrollback.search needle

end Stream

end PaneMux
