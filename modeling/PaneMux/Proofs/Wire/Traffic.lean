import PaneMux.Daemon.Service
import PaneMux.Proofs.Registry.Effects
import PaneMux.Proofs.Stream.Ledger

/-!
# The Traffic of a Connection

Several tasks put lines into the queue of one connection. Its request loop answers a line, waits for room
for the response, and then starts what the client has subscribed to; each pump waits for an event, then
for room, and holds on to the event in between. They take their turns in any order, the queue is emptied
at the other end or breaks, subscriptions are ended, and everything else in the daemon goes on.

## Architecture

- **§1** one pump, in two steps: it pulls an event, and it puts it into the queue
- **§2** the streams of a daemon
- **§3** a connection with its tasks (`Traffic`), and the moves of each of them (`Traffic.Move`)
- **§4** identifiers of subscriptions are never given out again, whatever the daemon does
- **§5** what answering a line does to the pumps of its connection (`Daemon.follows_answer`)
- **§6** what a move can do, once for all proofs about moves (`Traffic.moved_step`)
-/

namespace PaneMux

/-- The queue of a connection carries responses as well as events. -/
instance : Carries Outbound := ⟨.event⟩

/-- The event that is delivered, if there is one. -/
def Subscriber.Delivery.event? : Subscriber.Delivery → Option Event
  | .event e => some e
  | _ => none

/-! ## §1 One pump -/

namespace Pump

variable {α : Type} [Carries α]

/-- A pump that holds nothing takes the next event of its subscription, or ends with it. There is no
    such step while the subscription has none. -/
def pull (p : Pump) (s : Stream) : Option (Pump × Stream) :=
  if p.finished || p.held.isSome then none
  else
    match s.receive p.subscription with
    | (.event e, s) => some ({ p with held := some e }, s)
    | (.empty, _) => none
    | (.closed, s) => some (p.finish s)

/-- A pump puts what it holds into the queue. There is no such step while the queue is full. -/
def put (p : Pump) (c : Channel α) (s : Stream) : Option (Pump × Channel α × Stream) :=
  match p.held with
  | none => none
  | some e => if !p.finished && (c.closed || c.hasRoom) then some (p.offer e c s) else none

/-- It makes no difference to an event that is offered whether the pump has held it before. -/
theorem offer_held (p : Pump) (e : Event) (c : Channel α) (s : Stream) :
    { p with held := some e }.offer e c s = p.offer e c s := rfl

/-- **A step of a pump** puts what it holds, or pulls and puts if there is room. -/
theorem step_eq (p : Pump) (c : Channel α) (s : Stream) :
    p.step c s =
      if p.held.isSome then p.put c s
      else (p.pull s).map fun x => (x.1.put c x.2).getD (x.1, c, x.2) := by
  cases hfinished : p.finished with
  | true => cases hheld : p.held <;> simp [step, put, pull, hfinished, hheld]
  | false =>
    cases hheld : p.held with
    | some e => simp [step, put, hfinished, hheld]
    | none =>
      cases hreceive : s.receive p.subscription with
      | mk delivery s' =>
        cases delivery with
        | empty => simp [step, pull, hfinished, hheld, hreceive]
        | closed => simp [step, pull, put, finish, hfinished, hheld, hreceive]
        | event e =>
          by_cases hroom : c.closed || c.hasRoom
          · simp [step, pull, put, hfinished, hheld, hreceive, hroom, ← offer_held p]
          · rw [Bool.not_eq_true, Bool.or_eq_false_iff] at hroom
            simp [step, pull, put, offer, hfinished, hheld, hreceive, hroom]

end Pump

/-! ## §2 The streams of a daemon -/

namespace Daemon

variable {d : Daemon} {n : Nat} {stream stream' : Stream}

/-- A stream is found under its pane. -/
theorem pane_of_stream?_eq_some (h : Streams.stream? d n = some stream) : stream.pane = n := by
  obtain ⟨t, hfind, rfl⟩ := Option.map_eq_some_iff.mp h
  exact (Keyed.mem_of_find? hfind).2

/-- **A stream that is put back is found in its place**, and every other one in its own. -/
theorem stream?_withStream (h : Streams.stream? d n = some stream) (hpane : stream'.pane = n) :
    Streams.stream? (Streams.withStream d n stream') n = some stream' ∧
      ∀ i ≠ n, Streams.stream? (Streams.withStream d n stream') i = Streams.stream? d i := by
  -- to put a stream into a terminal does not change of which pane that is
  have hsame : ∀ i t, (if Terminal.pane t = n then { t with stream := stream' } else t).pane = i ↔
      t.pane = i := by
    intro i t
    by_cases ht : t.pane = n
    · rw [if_pos ht, ht]
      exact hpane ▸ Iff.rfl
    · rw [if_neg ht]
  have hfind : ∀ i, (Streams.withStream d n stream').registry.panes.terminal? i =
      (d.registry.panes.terminal? i).map fun t =>
        if t.pane = n then { t with stream := stream' } else t := by
    intro i
    show List.find? _ (List.map _ _) = _
    rw [List.find?_map]
    simp only [Function.comp_def, hsame]
    rfl
  constructor
  · obtain ⟨t, ht, -⟩ := Option.map_eq_some_iff.mp h
    show Option.map _ ((Streams.withStream d n stream').registry.panes.terminal? n) = _
    rw [hfind, ht, Option.map_some, Option.map_some, if_pos (Keyed.mem_of_find? ht).2]
  · intro i hi
    show Option.map _ ((Streams.withStream d n stream').registry.panes.terminal? i) =
      Option.map _ (d.registry.panes.terminal? i)
    rw [hfind, Option.map_map]
    refine Option.map_congr fun t ht => ?_
    rw [Function.comp_apply, if_neg]
    rw [(Keyed.mem_of_find? ht).2]
    exact hi

def nextSubscription (d : Daemon) : Nat := d.registry.panes.nextSubscription

/-- To put a stream back has no effect on the numbers of subscriptions. -/
@[simp] theorem nextSubscription_withStream (d : Daemon) (n : Nat) (stream : Stream) :
    (Streams.withStream d n stream).nextSubscription = d.nextSubscription := rfl

/-- To give a subscription up has no effect on the numbers of others. -/
@[simp] theorem nextSubscription_giveUp (p : Pump) (d : Daemon) :
    (p.giveUp d).nextSubscription = d.nextSubscription := by
  unfold Pump.giveUp
  split <;> rfl

@[simp] theorem nextSubscription_stopAll (pumps : Pumps) (d : Daemon) :
    (pumps.stopAll d).2.nextSubscription = d.nextSubscription := by
  show (pumps.live.foldl (fun d p => p.giveUp d) d).nextSubscription = _
  induction pumps.live generalizing d with
  | nil => rfl
  | cons p ps ih => rw [List.foldl_cons, ih, nextSubscription_giveUp]

end Daemon

/-! ## §3 All tasks -/

/-- Where the request loop of a connection is. -/
inductive RequestLoop where
  | reading
  /-- it waits for room for a response -/
  | responding (r : Response)
  | launching
  | ended

/-- A connection with its tasks, and with all that has gone through it. -/
structure Traffic where
  daemon : Daemon
  queue : Channel Outbound
  pumps : Pumps := {}
  /-- pumps that have been stopped but have not noticed it -/
  leaving : List Pump := []
  loop : RequestLoop := .reading
  /-- every line that was put into the queue, oldest first -/
  lines : List Outbound := []
  /-- every event that a stream delivered to a pump, oldest first -/
  yielded : List Carried := []

namespace Traffic

/-- A new connection, with room for some lines. -/
def new (daemon : Daemon) (capacity : Nat) : Traffic := { daemon, queue := { capacity } }

/-- The pumps that may make steps. -/
def running (s : Traffic) : List Pump := s.pumps.started ++ s.leaving

/-- The pump of a subscription, with the stream that it draws from. -/
def pump? (s : Traffic) (subscription : Nat) : Option (Pump × Stream) :=
  (s.running.find? (·.subscription = subscription)).bind fun p =>
    (Streams.stream? s.daemon p.source).map (p, ·)

/-- Puts a pump in the place of the one it has come of, and its stream back into the daemon. -/
def withPump (s : Traffic) (q : Pump) (stream : Stream) : Traffic :=
  let change (ps : List Pump) : List Pump :=
    ps.map fun p => if p.subscription = q.subscription then q else p
  { s with
    daemon := Streams.withStream s.daemon q.source stream
    pumps := { s.pumps with started := change s.pumps.started }
    leaving := change s.leaving }

/-- The request loop ends, and with it every pump as soon as it notices. -/
def finish (s : Traffic) : Traffic :=
  let (pumps, daemon) := s.pumps.stopAll s.daemon
  { s with
    daemon, pumps
    leaving := s.pumps.started ++ s.leaving
    loop := .ended }

/-- **A move of one of the tasks.** -/
inductive Move where
  /-- the loop reads a line and answers it -/
  | handle (m : Machine) (now : Time.Moment) (line : String)
  /-- the response goes into the queue -/
  | respond
  /-- what has been subscribed to is started -/
  | launch
  /-- the client is gone, or the daemon ends -/
  | hangUp
  | pull (subscription : Nat)
  | put (subscription : Nat)
  /-- a pump notices that it has been stopped -/
  | leave (subscription : Nat)
  /-- the oldest line is written to the client -/
  | take
  /-- nothing can be written to the client any more -/
  | fail
  /-- the daemon does something else, for other clients, for processes or with time: they write to the
      streams, and a pump that has been stopped may find its subscription given up or not -/
  | elsewhere (daemon : Daemon)

/-- A connection after a move. A move that cannot be made changes nothing. -/
def step (s : Traffic) : Move → Traffic
  | .handle m now line =>
    match s.loop with
    | .reading =>
      if Daemon.isBlankLine line then s
      else
        let (r, served) := s.daemon.answer m now s.pumps line
        -- a pump that the line has stopped goes on until it notices
        { s with
          daemon := served.daemon
          pumps := served.pumps
          leaving := s.pumps.started.filter (· ∉ served.pumps.started) ++ s.leaving
          loop := .responding r }
    | _ => s
  | .respond =>
    match s.loop with
    | .responding r =>
      -- where nobody takes lines any more, nothing more is read either
      if s.queue.closed then s.finish
      else if s.queue.hasRoom then
        { s with
          queue := s.queue.push (.response r)
          lines := s.lines ++ [.response r]
          loop := .launching }
      else s
    | _ => s
  | .launch =>
    match s.loop with
    | .launching => { s with pumps := s.pumps.launch, loop := .reading }
    | _ => s
  | .hangUp => s.finish
  | .pull subscription =>
    match s.pump? subscription with
    | none => s
    | some (p, stream) =>
      match p.pull stream with
      | none => s
      | some (q, stream') =>
        -- what the stream yields is told by the stream, not by the pump
        { s.withPump q stream' with
          yielded := s.yielded ++ (stream.receive subscription).1.event?.toList.map (subscription, ·) }
  | .put subscription =>
    match s.pump? subscription with
    | none => s
    | some (p, stream) =>
      match p.put s.queue stream with
      | none => s
      | some (q, queue, stream') =>
        -- a closed queue is as it was, and nothing has been put into it
        { s.withPump q stream' with
          queue
          lines := s.lines ++ queue.items.drop s.queue.items.length }
  | .leave subscription => { s with leaving := Pumps.without subscription s.leaving }
  | .take =>
    match s.queue.pop? with
    | some (_, queue) => { s with queue }
    | none => s
  | .fail => { s with queue := { s.queue with items := [], closed := true } }
  | .elsewhere daemon =>
    -- no action of the daemon takes back the number of a subscription (§4)
    if s.daemon.nextSubscription ≤ daemon.nextSubscription then { s with daemon } else s

def run (s : Traffic) (moves : List Move) : Traffic := moves.foldl step s

@[simp] theorem run_append (s : Traffic) (earlier later : List Move) :
    s.run (earlier ++ later) = (s.run earlier).run later :=
  List.foldl_append

end Traffic

/-! ## §4 Identifiers of subscriptions -/

theorem through_nextSubscription :
    Panes.Through fun p p' => p.nextSubscription ≤ p'.nextSubscription where
  refl _ := Nat.le_refl _
  trans := Nat.le_trans
  emit _ _ := Nat.le_refl _
  close p uptime how id := by
    cases hfind : p.find? id with
    | none => simp [Panes.close, hfind]
    | some r => exact Nat.le_of_eq (congrArg Prod.snd (p.aside_close hfind uptime how)).symm

namespace Registry

/-- **No action takes back** the number of a subscription. -/
theorem nextSubscription_le_perform (r : Registry) (act : Act) :
    r.panes.nextSubscription ≤ (r.perform act).panes.nextSubscription := by
  refine through_nextSubscription.perform ?_
  -- of the actions that may do something to what is aside, one subscribes, and it counts up
  by_cases haside : act.tellsAside = true
  · cases act with
    | subscribe id =>
      simp only [Act.operate, Panes.subscribe]
      split
      · exact Nat.le_refl _
      · exact Nat.le_succ _
    | setAgentStatus now key status =>
      simp only [Act.operate, setAgentStatus]
      split <;> exact Nat.le_refl _
    | output _ _ _ => exact Nat.le_refl _
    | ended now pane code =>
      simp only [Act.operate, Panes.onExit]
      split
      · exact Nat.le_refl _
      · split <;> exact Nat.le_refl _
    | _ => cases haside
  · have := r.aside_operate (Bool.not_eq_true _ ▸ haside)
    exact Nat.le_of_eq (Panes.nextSubscription_eq_of_aside this).symm

end Registry

/-! ## §5 Pumps and answers -/

namespace Daemon

namespace Served

/-- **How the pumps may be after a command**: some have been stopped, or one waits that has not been there
    before, under a number that has not been given out before. -/
structure Follows (s s' : Served) : Prop where
  next_le : s.daemon.nextSubscription ≤ s'.daemon.nextSubscription
  started : ∃ kept : Pump → Bool, s'.pumps.started = s.pumps.started.filter kept
  pending : s'.pumps.pending.Sublist s.pumps.pending ∨
    s.daemon.nextSubscription < s'.daemon.nextSubscription ∧
      ∃ pane, s'.pumps.pending = s.pumps.pending ++ [⟨s.daemon.nextSubscription, pane, none, false⟩]

variable (s : Served)

/-- Most commands do nothing to them. -/
theorem follows_of_pumps_eq {s s' : Served} (hpumps : s'.pumps = s.pumps)
    (hnext : s.daemon.nextSubscription ≤ s'.daemon.nextSubscription) : s.Follows s' :=
  ⟨hnext, ⟨fun _ => true, by simp [hpumps]⟩, .inl (hpumps ▸ .refl _)⟩

theorem follows_refl : s.Follows s := follows_of_pumps_eq rfl (Nat.le_refl _)

theorem follows_onRegistry {α : Type} (encode : α → Json)
    {f : Registry → Except RequestError α × Registry} (act : Registry.Act)
    (hf : (f s.daemon.registry).2 = s.daemon.registry.perform act) :
    s.Follows (s.onRegistry encode f).2 := by
  refine follows_of_pumps_eq rfl ?_
  have hle := s.daemon.registry.nextSubscription_le_perform act
  rwa [← hf] at hle

theorem follows_setSetting (key value : String) : s.Follows (s.setSetting key value).2 := by
  unfold setSetting
  split
  · exact s.follows_refl
  · split
    · exact s.follows_refl
    · exact follows_of_pumps_eq rfl (Nat.le_refl _)

theorem follows_subscribe (pane : Nat) : s.Follows (s.subscribe pane).2 := by
  have hsubscribe : s.daemon.registry.subscribe pane =
      ((s.daemon.registry.panes.subscribe pane).1,
        { s.daemon.registry with panes := (s.daemon.registry.panes.subscribe pane).2 }) := rfl
  unfold subscribe
  rw [hsubscribe]
  unfold Panes.subscribe
  cases s.daemon.registry.panes.terminal pane with
  | error e => exact follows_of_pumps_eq rfl (Nat.le_refl _)
  | ok t =>
    exact {
      next_le := Nat.le_succ _
      started := ⟨fun _ => true, by simp [Pumps.queue]⟩
      pending := .inr ⟨Nat.lt_succ_self _, pane, rfl⟩ }

theorem follows_unsubscribe (subscription : Nat) : s.Follows (s.unsubscribe subscription).2 := by
  unfold unsubscribe Pumps.stop
  -- one that waits is looked for first, then one that has been started
  cases s.pumps.pending.find? (·.subscription = subscription) with
  | some p =>
    exact {
      next_le := Nat.le_of_eq (nextSubscription_giveUp p s.daemon).symm
      started := ⟨fun _ => true, by simp⟩
      pending := .inl List.filter_sublist }
  | none =>
    cases s.pumps.started.find? (·.subscription = subscription) with
    | none => exact s.follows_refl
    | some p =>
      refine ⟨?_, ⟨_, rfl⟩, .inl (.refl _)⟩
      dsimp only
      split
      · exact Nat.le_refl _
      · exact Nat.le_of_eq (nextSubscription_giveUp p s.daemon).symm

theorem follows_run (m : Machine) (now : Time.Moment) (c : Command) :
    s.Follows (s.run m now c).2 := by
  cases c with
  -- reading changes nothing
  | listSessions | getSession | listPanes | getPane | getOutput | searchOutput | paneMetrics
  | latestMetrics | systemMetrics | getStatus | listStatuses | getSettings | sessionHistory
  | paneHistory => exact s.follows_refl
  -- most others are an action of the registry each
  | createSession name => exact s.follows_onRegistry _ (.createSession now.wall name) rfl
  | renameSession id name => exact s.follows_onRegistry _ (.renameSession id name) rfl
  | closeSession id => exact s.follows_onRegistry _ (.closeSession now.uptime id) rfl
  | createPane session kind o => exact s.follows_onRegistry _ (.createPane now session kind o) rfl
  | createTerminal session o =>
    exact s.follows_onRegistry _ (.createTerminal m.spawn now session o) rfl
  | closePane id => exact s.follows_onRegistry _ (.closePane now.uptime .graceful id) rfl
  | focusPane id => exact s.follows_onRegistry _ (.focusPane now.wall id) rfl
  | renamePane id title => exact s.follows_onRegistry _ (.renamePane now.wall id title) rfl
  | resizePane id size => exact s.follows_onRegistry _ (.resizePane now .graceful id size) rfl
  | sendInput id data => exact s.follows_onRegistry _ (.sendInput now.wall id data) rfl
  | setStatus key status => exact s.follows_onRegistry _ (.setAgentStatus now key status) rfl
  | setSetting key value => exact s.follows_setSetting key value
  | subscribe id => exact s.follows_subscribe id
  | unsubscribe subscription => exact s.follows_unsubscribe subscription

end Served

/-- **Every line** leaves the pumps as a command may leave them. -/
theorem follows_answer (d : Daemon) (m : Machine) (now : Time.Moment) (pumps : Pumps)
    (line : String) : Served.Follows ⟨d, pumps⟩ (d.answer m now pumps line).2 := by
  unfold answer
  split
  · exact Served.follows_refl _
  · split
    · exact Served.follows_refl _
    · rename_i c _
      -- to record is to write to the store
      obtain ⟨hnext, hstarted, hpending⟩ := Served.follows_run ⟨d, pumps⟩ m now c
      exact ⟨hnext, hstarted, hpending⟩

/-- **A subscription is answered** with its number, which is the next one. -/
theorem answer_subscribe {d : Daemon} {line : String} {request : Request} {pane subscription : Nat}
    (hparse : Request.parse line = .ok request)
    (hdecode : Command.decode request.op request.args = .ok (.subscribe pane))
    (hsubscribe : (d.registry.subscribe pane).1 = .ok subscription) (m : Machine)
    (now : Time.Moment) (pumps : Pumps) :
    (d.answer m now pumps line).1 =
        .success request.id
          (.obj [("subscription", .nat subscription), ("pane_id", .nat pane)]) ∧
      subscription = d.nextSubscription := by
  simp only [answer, hparse, hdecode]
  have hrun : ((Served.mk d pumps).run m now (.subscribe pane)).1 =
      .ok (.obj [("subscription", .nat subscription), ("pane_id", .nat pane)]) := by
    simp only [Served.run, Served.subscribe]
    split <;> rename_i hout <;> simp_all
  refine ⟨by rw [hrun]; rfl, ?_⟩
  have hsame : (d.registry.subscribe pane).1 = (d.registry.panes.subscribe pane).1 := rfl
  rw [hsame, Panes.subscribe] at hsubscribe
  split at hsubscribe
  · cases hsubscribe
  · exact (Except.ok.inj hsubscribe).symm

end Daemon

/-! ## §6 What a move can do -/

namespace Traffic

/-- **Where one move can lead.** -/
inductive Moved (s : Traffic) : Traffic → Prop where
  | still : Moved s s
  | answered (r : Response) {served : Daemon.Served} (hloop : s.loop = .reading)
      (hserved : Daemon.Served.Follows ⟨s.daemon, s.pumps⟩ served) :
      Moved s { s with
        daemon := served.daemon
        pumps := served.pumps
        leaving := s.pumps.started.filter (· ∉ served.pumps.started) ++ s.leaving
        loop := .responding r }
  | responded {r : Response} (hloop : s.loop = .responding r) :
      Moved s { s with
        queue := s.queue.push (.response r)
        lines := s.lines ++ [.response r]
        loop := .launching }
  | launched (hloop : s.loop = .launching) :
      Moved s { s with pumps := s.pumps.launch, loop := .reading }
  | finished : Moved s s.finish
  | pulled {p q : Pump} {stream stream' : Stream} (hp : p ∈ s.running)
      (hpull : p.pull stream = some (q, stream')) :
      Moved s { s.withPump q stream' with
        yielded := s.yielded ++
          (stream.receive p.subscription).1.event?.toList.map (p.subscription, ·) }
  | put {p q : Pump} {queue : Channel Outbound} {stream stream' : Stream} (hp : p ∈ s.running)
      (hput : p.put s.queue stream = some (q, queue, stream')) :
      Moved s { s.withPump q stream' with
        queue, lines := s.lines ++ queue.items.drop s.queue.items.length }
  | left (n : Nat) : Moved s { s with leaving := Pumps.without n s.leaving }
  | drained {queue : Channel Outbound} (hqueue : queue.items <:+ s.queue.items) :
      Moved s { s with queue }
  | elsewhere {daemon : Daemon} (hdaemon : s.daemon.nextSubscription ≤ daemon.nextSubscription) :
      Moved s { s with daemon }

/-- The pump of a subscription is one of those that may make steps. -/
theorem mem_running_of_pump? {s : Traffic} {n : Nat} {p : Pump} {stream : Stream}
    (h : s.pump? n = some (p, stream)) :
    p ∈ s.running ∧ p.subscription = n ∧ Streams.stream? s.daemon p.source = some stream := by
  obtain ⟨p', hfind, hstream⟩ := Option.bind_eq_some_iff.mp h
  obtain ⟨stream', hstream, heq⟩ := Option.map_eq_some_iff.mp hstream
  cases heq
  obtain ⟨hp, hn⟩ := Keyed.mem_of_find? hfind
  exact ⟨hp, hn, hstream⟩

theorem moved_step (s : Traffic) (move : Move) : s.Moved (s.step move) := by
  cases move with
  | handle m now line =>
    simp only [step]
    split
    · rename_i hloop
      split
      · exact .still
      · exact .answered _ hloop (s.daemon.follows_answer m now s.pumps line)
    · exact .still
  | respond =>
    simp only [step]
    split
    · rename_i hloop
      split
      · exact .finished
      · split
        · exact .responded hloop
        · exact .still
    · exact .still
  | launch =>
    simp only [step]
    split
    · rename_i hloop
      exact .launched hloop
    · exact .still
  | hangUp => exact .finished
  | pull n =>
    simp only [step]
    split
    · exact .still
    · rename_i p stream hpump
      obtain ⟨hp, rfl, -⟩ := mem_running_of_pump? hpump
      split
      · exact .still
      · rename_i hpull
        exact .pulled hp hpull
  | put n =>
    simp only [step]
    split
    · exact .still
    · rename_i p stream hpump
      obtain ⟨hp, -⟩ := mem_running_of_pump? hpump
      split
      · exact .still
      · rename_i hput
        exact .put hp hput
  | leave n => exact .left n
  | take =>
    simp only [step]
    split
    · rename_i queue hpop
      refine .drained ?_
      unfold Channel.pop? at hpop
      split at hpop
      · rename_i heq
        cases hpop
        exact heq ▸ List.suffix_cons _ _
      · cases hpop
    · exact .still
  | fail => exact .drained List.nil_suffix
  | elsewhere daemon =>
    simp only [step]
    split
    · rename_i hdaemon
      exact .elsewhere hdaemon
    · exact .still

/-- **What every move keeps, every run keeps.** -/
theorem run_induction {P : Traffic → Prop} (hmoved : ∀ {s s'}, s.Moved s' → P s → P s')
    {s : Traffic} (h : P s) (moves : List Move) : P (s.run moves) := by
  induction moves generalizing s with
  | nil => exact h
  | cons move moves ih => exact ih (hmoved (s.moved_step move) h)

end Traffic

end PaneMux
