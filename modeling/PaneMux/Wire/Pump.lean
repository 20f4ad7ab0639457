import PaneMux.Terminal.Stream

/-!
# Pumps

A pump carries the events of one subscription to a connection. The connection's queue is bounded; a
pump that finds it full holds on to one event and stops pulling, and its subscription loses events
until there is room again, without an effect on anyone else.

A subscription waits until the client has been told of it, so that no event of it comes before that.

## Architecture

- **§1** the queue of a connection
- **§2** one pump
- **§3** the pumps of a connection
-/

namespace PaneMux

/-! ## §1 The queue of a connection -/

/-- A bounded queue of messages. -/
structure Channel (α : Type) where
  capacity : Nat
  /-- oldest first -/
  items : List α := []
  /-- nobody takes from it any more -/
  closed : Bool := false
  deriving Repr

namespace Channel

/-- There is room for a message. -/
def hasRoom {α : Type} (c : Channel α) : Bool := c.items.length < c.capacity

/-- Adds a message. -/
def push {α : Type} (c : Channel α) (a : α) : Channel α := { c with items := c.items ++ [a] }

/-- Takes the oldest message. -/
def pop? {α : Type} (c : Channel α) : Option (α × Channel α) :=
  match c.items with
  | a :: rest => some (a, { c with items := rest })
  | [] => none

end Channel

/-- Messages that can carry an event of a subscription. -/
class Carries (α : Type) where
  carry : Nat → Event → α

instance : Carries Carried := ⟨Prod.mk⟩

/-! ## §2 One pump -/

/-- A pump. -/
structure Pump where
  subscription : Nat
  /-- the stream it draws from, by a number its owner gives -/
  source : Nat
  /-- an event for which there is no room yet -/
  held : Option Event := none
  finished : Bool := false
  deriving DecidableEq, Repr

namespace Pump

variable {α : Type} [Carries α]

/-- Ends a pump and gives its subscription up. -/
def finish (p : Pump) (s : Stream) : Pump × Stream :=
  ({ p with held := none, finished := true }, s.dropSubscription p.subscription)

/-- Hands an event to the queue: it goes in, or is held while there is no room. A closed queue and the
    last event end the pump. -/
def offer (p : Pump) (e : Event) (c : Channel α) (s : Stream) : Pump × Channel α × Stream :=
  if c.closed then
    let (p, s) := p.finish s
    (p, c, s)
  else if c.hasRoom then
    let c := c.push (Carries.carry p.subscription e)
    if e.isExit then
      let (p, s) := p.finish s
      (p, c, s)
    else ({ p with held := none }, c, s)
  else ({ p with held := some e }, c, s)

/-- One step; nothing when the pump has to wait or has ended. -/
def step (p : Pump) (c : Channel α) (s : Stream) : Option (Pump × Channel α × Stream) :=
  if p.finished then none
  else
    match p.held with
    | some e => if c.closed || c.hasRoom then some (p.offer e c s) else none
    | none =>
      match s.receive p.subscription with
      | (.event e, s) => some (p.offer e c s)
      | (.empty, _) => none
      | (.closed, s) =>
        let (p, s) := p.finish s
        some (p, c, s)

/-- Runs until the pump has to wait or has ended. Beyond what is pending there are a held event, a
    report of loss and the end. -/
def run (p : Pump) (c : Channel α) (s : Stream) : Pump × Channel α × Stream :=
  go ((s.subscriber? p.subscription).elim 0 (·.pending.length) + 3) p c s
where
  go : Nat → Pump → Channel α → Stream → Pump × Channel α × Stream
  | 0, p, c, s => (p, c, s)
  | n + 1, p, c, s =>
    match p.step c s with
    | some (p, c, s) => go n p c s
    | none => (p, c, s)

end Pump

/-! ## §3 The pumps of a connection -/

/-- What pumps draw from: streams by their numbers. -/
class Streams (σ : Type) where
  stream? : σ → Nat → Option Stream
  withStream : σ → Nat → Stream → σ

instance : Streams (List Stream) where
  stream? ss n := ss[n]?
  withStream ss n s := ss.set n s

/-- Gives the subscription of a pump up. -/
def Pump.giveUp {σ : Type} [Streams σ] (p : Pump) (streams : σ) : σ :=
  match Streams.stream? streams p.source with
  | some s => Streams.withStream streams p.source (s.dropSubscription p.subscription)
  | none => streams

/-- The pumps of a connection. -/
structure Pumps where
  /-- subscriptions the client has not been told of yet, oldest first -/
  pending : List Pump := []
  /-- pumps that have been started; a finished one stays until others are started -/
  started : List Pump := []
  deriving DecidableEq, Repr

namespace Pumps

variable {σ : Type} [Streams σ]

/-- Queues a subscription. -/
def queue (ps : Pumps) (source subscription : Nat) : Pumps :=
  { ps with pending := ps.pending ++ [{ subscription, source }] }

/-- Starts what is queued. -/
def launch (ps : Pumps) : Pumps :=
  if ps.pending.isEmpty then ps
  else { pending := [], started := ps.started.filter (!·.finished) ++ ps.pending }

/-- Takes a pump off a list. -/
def without (id : Nat) (ps : List Pump) : List Pump := ps.filter (·.subscription ≠ id)

/-- Stops a pump and gives its subscription up. Tells whether it was known; one that has finished is
    known until others are started. -/
def stop (ps : Pumps) (id : Nat) (streams : σ) : Bool × Pumps × σ :=
  match ps.pending.find? (·.subscription = id) with
  | some p => (true, { ps with pending := without id ps.pending }, p.giveUp streams)
  | none =>
    match ps.started.find? (·.subscription = id) with
    | some p =>
      (true, { ps with started := without id ps.started },
        if p.finished then streams else p.giveUp streams)
    | none => (false, ps, streams)

/-- Everything whose subscription is still held. -/
def live (ps : Pumps) : List Pump := ps.pending ++ ps.started.filter (!·.finished)

/-- Stops every pump. -/
def stopAll (ps : Pumps) (streams : σ) : Pumps × σ :=
  ({}, ps.live.foldl (fun s p => p.giveUp s) streams)

/-- The number of subscriptions still held. -/
def length (ps : Pumps) : Nat := ps.live.length

end Pumps

end PaneMux
