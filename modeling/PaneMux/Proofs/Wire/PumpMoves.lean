import PaneMux.Proofs.Wire.Traffic

/-!
# The Moves of a Pump

A pump makes its steps in two moves, and other tasks may come in between. This file says what each move
does to the pump, to the stream that it draws from and to the queue that it puts lines into: to pull takes
one event off the subscription and holds it, to put makes it the next line. A pump that nobody interrupts
does nothing else.

## Architecture

- **§1** what it takes for a pump to pull and to put
- **§2** `Traffic.Has`: a pump with its stream and its queue, and what its moves make of them
- **§3** `Traffic.Takes` and `Traffic.Hands`: an event on its way from the subscription to the lines
- **§4** `Pump.step` and `Pump.run` are sequences of such moves
-/

namespace PaneMux

/-! ## §1 Pulling and putting -/

namespace Pump

variable {p q : Pump} {s s' : Stream}

/-- **To pull** is to take an event off the subscription and to hold it, or to end with the subscription. -/
theorem pull_cases (h : p.pull s = some (q, s')) :
    p.finished = false ∧ p.held = none ∧
      ((∃ e, s.receive p.subscription = (.event e, s') ∧ q = { p with held := some e }) ∨
        (s.receive p.subscription).1 = .closed ∧ q = { p with held := none, finished := true } ∧
          s' = (s.receive p.subscription).2.dropSubscription p.subscription) := by
  unfold pull at h
  split at h
  · cases h
  · rename_i hidle
    simp only [Bool.or_eq_true, not_or, Bool.not_eq_true, Option.isSome_eq_false_iff,
      Option.isNone_iff_eq_none] at hidle
    -- by what the subscription delivers; there is no such step where that is nothing yet
    split at h <;> rename_i hreceive <;> cases h
    · exact ⟨hidle.1, hidle.2, .inl ⟨_, hreceive, rfl⟩⟩
    · exact ⟨hidle.1, hidle.2, .inr ⟨by rw [hreceive], rfl, by rw [hreceive]⟩⟩

/-- **To put** is to make what is held the next line, and to end with an exit. It is in vain where the queue
    is closed, and then the pump is at its end. -/
theorem put_cases {c c' : Channel Outbound} (h : p.put c s = some (q, c', s')) :
    p.finished = false ∧ ∃ e, p.held = some e ∧
      (c' = c ∧ q = { p with held := none, finished := true } ∧
          s' = s.dropSubscription p.subscription ∨
        c' = c.push (.event p.subscription e) ∧ q = { p with held := none, finished := e.isExit } ∧
          s' = if e.isExit then s.dropSubscription p.subscription else s) := by
  unfold put at h
  split at h
  · cases h
  · rename_i e hheld
    split at h
    · rename_i hready
      simp only [Bool.and_eq_true, Bool.not_eq_true', Bool.or_eq_true] at hready
      obtain ⟨hfinished, hroom⟩ := hready
      refine ⟨hfinished, e, hheld, ?_⟩
      have hoffer := Option.some.inj h
      unfold offer at hoffer
      -- a closed queue ends the pump; with room in an open one, only an exit does
      by_cases hclosed : c.closed = true
      · rw [if_pos hclosed] at hoffer
        cases hoffer
        exact .inl ⟨rfl, rfl, rfl⟩
      · rw [if_neg hclosed, if_pos (hroom.resolve_left hclosed)] at hoffer
        right
        split at hoffer <;> rename_i hexit <;> cases hoffer
        · exact ⟨rfl, by rw [hexit], by rw [if_pos hexit]⟩
        · rw [Bool.not_eq_true] at hexit
          exact ⟨rfl, by rw [hexit, ← hfinished], by rw [hexit]; rfl⟩
    · cases h

/-- Pulling leaves a pump with its subscription, and the stream with its pane. -/
theorem pull_same (h : p.pull s = some (q, s')) :
    q.subscription = p.subscription ∧ q.source = p.source ∧ s'.pane = s.pane := by
  have hreceive : (s.receive p.subscription).2.pane = s.pane :=
    s.pane_perform (.receive p.subscription)
  obtain ⟨-, -, ⟨e, heq, rfl⟩ | ⟨-, rfl, rfl⟩⟩ := pull_cases h
  · rw [heq] at hreceive
    exact ⟨rfl, rfl, hreceive⟩
  · exact ⟨rfl, rfl, hreceive⟩

/-- And so does putting. -/
theorem put_same {c c' : Channel Outbound} (h : p.put c s = some (q, c', s')) :
    q.subscription = p.subscription ∧ q.source = p.source ∧ s'.pane = s.pane := by
  obtain ⟨-, e, -, ⟨-, rfl, rfl⟩ | ⟨-, rfl, rfl⟩⟩ := put_cases h
  · exact ⟨rfl, rfl, rfl⟩
  · exact ⟨rfl, rfl, by split <;> rfl⟩

end Pump

/-! ## §2 A pump in its place -/

namespace Traffic

/-- **A pump is there**, alone for its subscription, with the queue that it puts lines into and the stream
    that it draws from. -/
structure Has (s : Traffic) (p : Pump) (queue : Channel Outbound) (stream : Stream) : Prop where
  running : p ∈ s.running
  alone : ∀ p' ∈ s.running, p'.subscription = p.subscription → p' = p
  queue_eq : s.queue = queue
  stream_eq : Streams.stream? s.daemon p.source = some stream

variable {s t : Traffic} {p q : Pump} {queue queue' : Channel Outbound} {stream stream' : Stream}

theorem mem_running_withPump {p q : Pump} (stream : Stream)
    (h : p ∈ (s.withPump q stream).running) :
    p = q ∨ p ∈ s.running ∧ p.subscription ≠ q.subscription := by
  simp only [running, withPump, ← List.map_append, List.mem_map] at h
  obtain ⟨p', hp', rfl⟩ := h
  by_cases hsame : p'.subscription = q.subscription
  · exact .inl (if_pos hsame)
  · rw [if_neg hsame]
    exact .inr ⟨hp', hsame⟩

namespace Has

theorem pump?_eq (h : s.Has p queue stream) : s.pump? p.subscription = some (p, stream) := by
  have hfind : s.running.find? (·.subscription = p.subscription) = some p := by
    cases hfind : s.running.find? (·.subscription = p.subscription) with
    | none => exact absurd (List.find?_eq_none.mp hfind p h.running) (by simp)
    | some p' =>
      obtain ⟨hp', hn⟩ := Keyed.mem_of_find? hfind
      rw [h.alone p' hp' hn]
  simp [pump?, hfind, h.stream_eq]

/-- The stream that a pump draws from is found where it is put back, and the others are not touched. -/
theorem stream?_withPump (h : s.Has p queue stream) (hsource : q.source = p.source)
    (hpane : stream'.pane = stream.pane) :
    Streams.stream? (s.withPump q stream').daemon q.source = some stream' ∧
      ∀ i ≠ p.source,
        Streams.stream? (s.withPump q stream').daemon i = Streams.stream? s.daemon i := by
  rw [← hsource]
  have hstream := hsource.symm ▸ h.stream_eq
  exact Daemon.stream?_withStream hstream (hpane.trans (Daemon.pane_of_stream?_eq_some hstream))

/-- What a pump becomes is there in its place. -/
theorem withPump (h : s.Has p queue stream) (hq : q.subscription = p.subscription)
    (hsource : q.source = p.source) (hpane : stream'.pane = stream.pane) (queue' : Channel Outbound)
    (lines : List Outbound) (yielded : List Carried) :
    { s.withPump q stream' with queue := queue', lines, yielded }.Has q queue' stream' where
  running := by
    have hmem := List.mem_map_of_mem
      (f := fun p => if p.subscription = q.subscription then q else p) h.running
    rw [if_pos hq.symm] at hmem
    simpa only [Traffic.running, Traffic.withPump, List.map_append] using hmem
  alone p' hp' hn := (mem_running_withPump stream' hp').resolve_right fun h => h.2 hn
  queue_eq := rfl
  stream_eq := (h.stream?_withPump hsource hpane).1

/-- A pump that can pull does so when it is its turn. -/
theorem step_pull_eq (h : s.Has p queue stream) (hpull : p.pull stream = some (q, stream')) :
    s.step (.pull p.subscription) = { s.withPump q stream' with
      yielded := s.yielded ++
        (stream.receive p.subscription).1.event?.toList.map (p.subscription, ·) } := by
  simp only [step, h.pump?_eq, hpull]

theorem step_pull (h : s.Has p queue stream) (hpull : p.pull stream = some (q, stream')) :
    (s.step (.pull p.subscription)).Has q queue stream' := by
  obtain ⟨hq, hsource, hpane⟩ := Pump.pull_same hpull
  rw [h.step_pull_eq hpull]
  exact h.queue_eq ▸ h.withPump hq hsource hpane s.queue s.lines _

/-- A pump that can put does so when it is its turn. -/
theorem step_put_eq (h : s.Has p queue stream) (hput : p.put queue stream = some (q, queue', stream')) :
    s.step (.put p.subscription) = { s.withPump q stream' with
      queue := queue', lines := s.lines ++ queue'.items.drop queue.items.length } := by
  simp only [step, h.pump?_eq, h.queue_eq, hput]

theorem step_put (h : s.Has p queue stream) (hput : p.put queue stream = some (q, queue', stream')) :
    (s.step (.put p.subscription)).Has q queue' stream' := by
  obtain ⟨hq, hsource, hpane⟩ := Pump.put_same hput
  rw [h.step_put_eq hput]
  exact h.withPump hq hsource hpane queue' _ s.yielded

end Has

/-! ## §3 An event on its way -/

/-- **A pump takes an event** off its subscription: it holds that event, the stream is as the delivery
    has left it, and no other is touched. -/
structure Takes (s t : Traffic) (p : Pump) (e : Event) (left : Stream) : Prop where
  has : t.Has { p with held := some e } s.queue left
  others : ∀ i ≠ p.source, Streams.stream? t.daemon i = Streams.stream? s.daemon i
  yielded_eq : t.yielded = s.yielded ++ [(p.subscription, e)]
  lines_eq : t.lines = s.lines

/-- **A pump hands an event on**: it is the next line, and the pump holds nothing any more. With an exit it
    gives its subscription up, and otherwise leaves the stream alone. -/
structure Hands (s t : Traffic) (p : Pump) (e : Event) (stream : Stream) : Prop where
  has : t.Has { p with held := none, finished := e.isExit }
    (s.queue.push (.event p.subscription e))
    (if e.isExit then stream.dropSubscription p.subscription else stream)
  others : ∀ i ≠ p.source, Streams.stream? t.daemon i = Streams.stream? s.daemon i
  yielded_eq : t.yielded = s.yielded
  lines_eq : t.lines = s.lines ++ [.event p.subscription e]

namespace Has

/-- **A pump that holds nothing takes the next event** of its subscription. -/
theorem takes (h : s.Has p queue stream) (hfinished : p.finished = false) (hheld : p.held = none)
    {e : Event} {left : Stream} (hreceive : stream.receive p.subscription = (.event e, left)) :
    s.Takes (s.step (.pull p.subscription)) p e left := by
  have hpull : p.pull stream = some ({ p with held := some e }, left) := by
    simp [Pump.pull, hfinished, hheld, hreceive]
  have heq := h.step_pull_eq hpull
  exact {
    has := h.queue_eq ▸ h.step_pull hpull
    others := by
      rw [heq]
      exact (h.stream?_withPump rfl (Pump.pull_same hpull).2.2).2
    yielded_eq := by
      rw [heq, hreceive]
      rfl
    lines_eq := by
      rw [heq]
      rfl }

/-- **A pump hands on what it holds** as soon as there is room. -/
theorem hands (h : s.Has p queue stream) (hfinished : p.finished = false) {e : Event}
    (hheld : p.held = some e) (hclosed : queue.closed = false) (hroom : queue.hasRoom = true) :
    s.Hands (s.step (.put p.subscription)) p e stream := by
  have hput : p.put queue stream = some ({ p with held := none, finished := e.isExit },
      queue.push (.event p.subscription e),
      if e.isExit then stream.dropSubscription p.subscription else stream) := by
    cases hexit : e.isExit <;>
      simp [Pump.put, Pump.offer, Pump.finish, hheld, hfinished, hclosed, hroom, hexit, Carries.carry]
  have heq := h.step_put_eq hput
  exact {
    has := h.queue_eq ▸ h.step_put hput
    others := by
      rw [heq]
      exact (h.stream?_withPump rfl (Pump.put_same hput).2.2).2
    yielded_eq := by
      rw [heq]
      rfl
    lines_eq := by
      rw [heq]
      simp [Channel.push] }

end Has

/-! ## §4 A pump that nobody interrupts -/

/-- The moves of one pump. -/
def Move.isOf (n : Nat) (move : Move) : Prop := move = .pull n ∨ move = .put n

namespace Has

/-- **A step of a pump is one of its moves, or two.** -/
theorem step (h : s.Has p queue stream) (hstep : p.step queue stream = some (q, queue', stream')) :
    ∃ moves : List Move, (∀ move ∈ moves, move.isOf p.subscription) ∧
      q.subscription = p.subscription ∧ (s.run moves).Has q queue' stream' := by
  rw [Pump.step_eq] at hstep
  by_cases hheld : p.held.isSome = true
  · rw [if_pos hheld] at hstep
    exact ⟨[.put p.subscription], by simp [Move.isOf], (Pump.put_same hstep).1, h.step_put hstep⟩
  · rw [if_neg hheld] at hstep
    obtain ⟨⟨q₁, stream₁⟩, hpull, hrest⟩ := Option.map_eq_some_iff.mp hstep
    obtain ⟨hq₁, -⟩ := Pump.pull_same hpull
    have h₁ := h.step_pull hpull
    cases hput : q₁.put queue stream₁ with
    | none =>
      rw [hput] at hrest
      cases hrest
      exact ⟨[.pull p.subscription], by simp [Move.isOf], hq₁, h₁⟩
    | some x =>
      rw [hput] at hrest
      cases hrest
      have h₂ := h₁.step_put hput
      rw [hq₁] at h₂
      exact ⟨[.pull p.subscription, .put p.subscription], by simp [Move.isOf],
        (Pump.put_same hput).1.trans hq₁, h₂⟩

/-- **A pump that runs makes its moves** one after the other, until it has to wait or has ended. -/
theorem run (h : s.Has p queue stream) :
    ∃ moves : List Move, (∀ move ∈ moves, move.isOf p.subscription) ∧
      (s.run moves).Has (p.run queue stream).1 (p.run queue stream).2.1 (p.run queue stream).2.2 := by
  unfold Pump.run
  generalize (stream.subscriber? p.subscription).elim 0 (·.pending.length) + 3 = n
  induction n generalizing s p queue stream with
  | zero => exact ⟨[], by simp, h⟩
  | succ n ih =>
    unfold Pump.run.go
    cases hstep : p.step queue stream with
    | none => exact ⟨[], by simp, h⟩
    | some x =>
      obtain ⟨q, queue', stream'⟩ := x
      obtain ⟨first, hfirst, hq, h'⟩ := h.step hstep
      obtain ⟨rest, hrest, hlast⟩ := ih h'
      refine ⟨first ++ rest, fun move hmove => ?_, ?_⟩
      · exact (List.mem_append.mp hmove).elim (hfirst move) (hq ▸ hrest move)
      · rw [run_append]
        exact hlast

end Has

end Traffic

end PaneMux
