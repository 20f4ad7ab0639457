import PaneMux.Wire.Pump

/-!
# Connections

A connection has the pumps of its subscriptions and the bounded queue in which their events wait for
the client.

## Main definitions

- `Connection.settle` : every pump runs until it has to wait
- `Connection.take` : the client takes messages
- `Connection.receive` : it takes all there are
-/

namespace PaneMux

/-- The messages that may wait for a client. -/
def outboundQueue : Nat := 256

/-- A connection. -/
structure Connection where
  pumps : Pumps := {}
  channel : Channel Carried := { capacity := outboundQueue }
  /-- the connection itself may put messages into the queue -/
  sending : Bool := true

/-- Why a client gets no message. -/
inductive Shortage where
  /-- nothing yet -/
  | empty
  /-- nothing any more -/
  | closed
  deriving DecidableEq, Repr

namespace Connection

variable {σ : Type} [Streams σ]

/-- Starts what is queued, if messages may be sent. -/
def launch (c : Connection) : Connection :=
  if c.sending then { c with pumps := c.pumps.launch } else c

/-- One pump runs until it has to wait. -/
def runOne (c : Connection) (p : Pump) (streams : σ) : Connection × σ :=
  match Streams.stream? streams p.source with
  | none => (c, streams)
  | some s =>
    let (q, channel, s) := p.run c.channel s
    let started := c.pumps.started.map fun u => if u.subscription = q.subscription then q else u
    ({ c with channel, pumps := { c.pumps with started } }, Streams.withStream streams p.source s)

/-- Every pump runs until it has to wait. -/
def settle (c : Connection) (streams : σ) : Connection × σ :=
  c.pumps.started.foldl (fun s p => s.1.runOne p s.2) (c, streams)

/-- Stops a pump. Tells whether it was known. -/
def stop (c : Connection) (id : Nat) (streams : σ) : Bool × Connection × σ :=
  let (known, pumps, streams) := c.pumps.stop id streams
  (known, { c with pumps }, streams)

/-- Stops every pump. -/
def stopAll (c : Connection) (streams : σ) : Connection × σ :=
  let (pumps, streams) := c.pumps.stopAll streams
  ({ c with pumps }, streams)

/-- Nobody takes messages any more. -/
def close (c : Connection) : Connection :=
  { c with channel := { c.channel with closed := true, items := [] } }

/-- Somebody may still put messages into the queue. -/
def hasSenders (c : Connection) : Bool := c.sending || c.pumps.started.any (!·.finished)

/-- The client takes some messages, with the pumps running before each. Tells what there are too few
    of them for. -/
def take : Nat → Connection → σ → List Carried × Option Shortage × Connection × σ
  | 0, c, streams => ([], none, c, streams)
  | n + 1, c, streams =>
    if c.channel.closed then ([], none, c, streams)
    else
      let (c, streams) := c.settle streams
      match c.channel.pop? with
      | some (m, channel) =>
        let (ms, short, c, streams) := take n { c with channel } streams
        (m :: ms, short, c, streams)
      | none => ([], some (if c.hasSenders then .empty else .closed), c, streams)

/-- As many messages as there can be: those in the queue, and for each pump those pending, a held one, a
    report of loss and the end. -/
def backlog (c : Connection) (streams : σ) : Nat :=
  let pendingOf (p : Pump) : Nat :=
    (((Streams.stream? streams p.source).bind (·.subscriber? p.subscription)).elim 0
      (·.pending.length)) + 3
  c.channel.items.length + (c.pumps.started.map pendingOf).foldr (· + ·) 0

/-- The client takes all the messages that there are. -/
def receive (c : Connection) (streams : σ) : List Carried × Connection × σ :=
  let (ms, _, c, streams) := take (c.backlog streams) c streams
  (ms, c, streams)

end Connection

end PaneMux
