import PaneMux.Daemon.Service
import PaneMux.Host.Hosted
import PaneMux.Wire.Connection

/-!
# The server

A daemon on its host, with the clients that are connected to it. Requests of one client are answered in
the order in which they come; the events of a subscription follow the response that tells of it.

## Main definitions

- `Server.request` : a client sends a line
- `Server.receive` : a client takes the events that wait for it
- `Server.hangUp` : a client goes away
- `Server.tick` : a millisecond passes
-/

namespace PaneMux

instance : HoldsRegistry Daemon where
  registry d := d.registry
  withRegistry d r := d.withRegistry r

/-- A daemon with its clients. -/
structure Server where
  hosted : Hosted Daemon
  /-- connections, by the number of the client -/
  connections : List (Nat × Connection) := []

namespace Server

/-- The connection of a client, which begins when it is first used. -/
def connection (s : Server) (client : Nat) : Connection :=
  ((s.connections.find? (·.1 = client)).map (·.2)).getD {}

/-- Changes the connection of a client. -/
def withConnection (s : Server) (client : Nat) (c : Connection) : Server :=
  { s with connections := (client, c) :: s.connections.filter (·.1 ≠ client) }

/-- Answers a line of a client. Subscriptions begin once the client has been told of them. -/
def answer (s : Server) (client : Nat) (line : String) : Response × Server :=
  let c := s.connection client
  let machine := s.hosted.machine
  let ((response, pumps), hosted) := s.hosted.act fun now d =>
    let (response, served) := d.answer machine now c.pumps line
    ((response, served.pumps), served.daemon)
  (response, { s with hosted }.withConnection client { c with pumps }.launch)

/-- A client sends a line. A blank one gets no response. -/
def request (s : Server) (client : Nat) (line : String) : Option Response × Server :=
  if Daemon.isBlankLine line then (none, s)
  else
    let (response, s) := s.answer client line
    (some response, s)

/-- A client takes the events that wait for it. -/
def receive (s : Server) (client : Nat) : List Carried × Server :=
  let (ms, c, daemon) := (s.connection client).receive s.hosted.subject
  (ms, { s with hosted := { s.hosted with subject := daemon } }.withConnection client c)

/-- A client goes away, and its subscriptions with it. -/
def hangUp (s : Server) (client : Nat) : Server :=
  let (_, daemon) := (s.connection client).stopAll s.hosted.subject
  { hosted := { s.hosted with subject := daemon }
    connections := s.connections.filter (·.1 ≠ client) }

/-- A millisecond passes. -/
def tick (s : Server) : Server := { s with hosted := s.hosted.tick }

end Server

end PaneMux
