import PaneMux.Proofs.Scrollback.Account
import PaneMux.Proofs.Stream.Accounting

/-!
# Gaps in the Sequence

Output and the end of a process carry consecutive numbers. What a subscriber receives may skip some
of them, because output was gone when it came or because its queue overflowed, but never silently:
wherever a number is missing, a notice of loss was received in its place.

## Architecture

- **§1** `Ledger.Numbered`: the numbers of all output, and what the scrollback holds of it
- **§2** `Book.Consecutive`: the offers made to one subscriber carry consecutive numbers
- **§3** the law, from the exact accounting of losses: what is missing between two receipts was
  offered between them, and only a report of loss stands for what was offered and is missing
-/

namespace PaneMux

namespace Ledger

/-! ## §1 The numbers of all output -/

/-- **All output is numbered** from one on without a gap, the end comes next, and until the stream is
    released its scrollback has been pushed every piece of it. -/
structure Numbered (limits : Limits) (l : Ledger) : Prop where
  seqs : l.outputs.map Chunk.seq = List.range' 1 l.outputs.length
  solid : ∀ c ∈ l.outputs, c.data ≠ []
  nextSeq_eq : l.stream.nextSeq = l.outputs.length + 1 + if l.stream.isFinished then 1 else 0
  ending : ∀ e ∈ l.stream.ending, e.seq? = some (l.outputs.length + 1)
  remembered : l.stream.released = false →
    l.stream.scrollback = l.outputs.foldl Scrollback.push (.empty limits)
  forgotten : l.stream.released = true → l.stream.scrollback.chunks = []

theorem numbered_new (pane : Nat) (limits : Limits) (capacity : Nat) :
    (new pane limits capacity).Numbered limits where
  seqs := rfl
  solid c hc := by cases hc
  nextSeq_eq := rfl
  ending e he := by cases he
  remembered _ := rfl
  forgotten h := by cases h

variable {limits : Limits} {l : Ledger}

/-- The numbering is a matter of the output and of four fields of the stream. -/
theorem Numbered.of_eq (h : l.Numbered limits) {l' : Ledger} (houtputs : l'.outputs = l.outputs)
    (hnext : l'.stream.nextSeq = l.stream.nextSeq) (hending : l'.stream.ending = l.stream.ending)
    (hscrollback : l'.stream.scrollback = l.stream.scrollback)
    (hreleased : l'.stream.released = l.stream.released) : l'.Numbered limits where
  seqs := by rw [houtputs]; exact h.seqs
  solid := by rw [houtputs]; exact h.solid
  nextSeq_eq := by
    rw [houtputs, hnext, Stream.isFinished, hending]
    exact h.nextSeq_eq
  ending := by rw [houtputs, hending]; exact h.ending
  remembered := by rw [houtputs, hscrollback, hreleased]; exact h.remembered
  forgotten := by rw [hscrollback, hreleased]; exact h.forgotten

/-- A piece of output takes the next number, and is remembered. -/
theorem Numbered.output (h : l.Numbered limits) (now : Time.Instant) (data : Bytes) :
    (l.step (.output now data)).Numbered limits := by
  by_cases hnone : (data.isEmpty || l.stream.isFinished) = true
  · -- empty output, and output after the end, leaves no trace
    have hstream : l.stream.publishOutput now data = (none, l.stream) := by
      simp only [Stream.publishOutput, hnone, if_true]
    have hhanded : l.stream.handedOut? (.output now data) = none := by
      rcases Bool.or_eq_true _ _ |>.mp hnone with hempty | hfin
      · simp [Stream.handedOut?, hempty]
      · simp [Stream.handedOut?, hfin]
    refine h.of_eq ?_ ?_ ?_ ?_ ?_ <;> simp [step, Stream.perform, hstream, hhanded]
  · obtain ⟨hdata, hfin⟩ : data.isEmpty = false ∧ l.stream.isFinished = false := by
      simpa using hnone
    -- the end has no number yet, and the next one belongs to this piece
    have hnext : l.stream.nextSeq = l.outputs.length + 1 := by simpa [hfin] using h.nextSeq_eq
    have hending : l.stream.ending = none := by simpa [Stream.isFinished] using hfin
    have hhanded : l.stream.handedOut? (.output now data) =
        some (.output ⟨l.stream.pane, l.stream.nextSeq, data⟩) := by
      simp [Stream.handedOut?, hfin, hdata]
    have houtputs : (l.step (.output now data)).outputs =
        l.outputs ++ [⟨l.stream.pane, l.stream.nextSeq, data⟩] := by
      simp [step, hhanded, Event.chunk?]
    have hstream : (l.step (.output now data)).stream =
        (l.stream.publishOutput now data).2 := rfl
    simp only [Stream.publishOutput, hdata, hfin, Bool.or_self, Bool.false_eq_true, if_false,
      Stream.offer] at hstream
    constructor
    case seqs =>
      rw [houtputs, List.map_append, h.seqs, List.length_append, List.length_singleton,
        List.range'_1_concat]
      simp [hnext, Nat.add_comm]
    case solid =>
      intro c hc
      rw [houtputs] at hc
      rcases List.mem_append.mp hc with hc | hc
      · exact h.solid c hc
      · rw [List.mem_singleton.mp hc]
        simpa using hdata
    case nextSeq_eq => rw [houtputs, hstream]; simp [hnext, Stream.isFinished, hending]
    case ending => rw [hstream]; simp [hending]
    case remembered =>
      rw [houtputs, hstream]
      intro hreleased
      simp only at hreleased
      simp [hreleased, h.remembered hreleased]
    case forgotten =>
      rw [hstream]
      intro hreleased
      simp only at hreleased
      simpa [hreleased] using h.forgotten hreleased

/-- The end takes the number after the last output. -/
theorem Numbered.finish (h : l.Numbered limits) (code : Option Int32) (killed : Bool) :
    (l.step (.finish code killed)).Numbered limits := by
  cases hfin : l.stream.isFinished with
  | true =>
    refine h.of_eq ?_ ?_ ?_ ?_ ?_ <;>
      simp [step, Stream.perform, Stream.finish, Stream.handedOut?, hfin]
  | false =>
    -- the first end takes the next number, and no output does any more
    have hnext : l.stream.nextSeq = l.outputs.length + 1 := by simpa [hfin] using h.nextSeq_eq
    have hhanded : l.stream.handedOut? (.finish code killed) =
        some (.exit l.stream.pane l.stream.nextSeq code killed) := by
      simp [Stream.handedOut?, hfin]
    have houtputs : (l.step (.finish code killed)).outputs = l.outputs := by
      simp [step, hhanded, Event.chunk?]
    have hstream : (l.step (.finish code killed)).stream =
        (l.stream.finish code killed).2 := rfl
    simp only [Stream.finish, hfin, Bool.false_eq_true, if_false] at hstream
    constructor
    case seqs => rw [houtputs]; exact h.seqs
    case solid => rw [houtputs]; exact h.solid
    case nextSeq_eq => rw [houtputs, hstream]; simp [hnext, Stream.isFinished]
    case ending => rw [houtputs, hstream]; simp [hnext, Event.seq?]
    case remembered => rw [houtputs, hstream]; exact h.remembered
    case forgotten => rw [hstream]; exact h.forgotten

/-- Releasing forgets all output, but not how much there was. -/
theorem Numbered.release (h : l.Numbered limits) : (l.step .release).Numbered limits := by
  have houtputs : (l.step .release).outputs = l.outputs := by
    simp [outputs_step, Stream.handedOut?]
  have hstream : (l.step .release).stream = l.stream.release := rfl
  constructor
  case seqs => rw [houtputs]; exact h.seqs
  case solid => rw [houtputs]; exact h.solid
  case nextSeq_eq => rw [houtputs, hstream]; exact h.nextSeq_eq
  case ending => rw [houtputs, hstream]; exact h.ending
  case remembered => rw [hstream]; simp [Stream.release]
  case forgotten => exact fun _ => rfl

/-- **Each operation keeps the numbering.** -/
theorem Numbered.step (h : l.Numbered limits) (op : Stream.Op) : (l.step op).Numbered limits := by
  cases op with
  | output now data => exact h.output now data
  | finish code killed => exact h.finish code killed
  | release => exact h.release
  | subscribe id =>
    cases hid : l.books id with
    | some b => rwa [step_subscribe_of_some hid]
    | none =>
      refine h.of_eq (by simp [outputs_step, Stream.handedOut?]) ?_ ?_ ?_ ?_ <;>
        rw [stream_subscribe hid] <;> rfl
  | resized size | fault fault =>
    cases hfin : l.stream.isFinished <;> refine h.of_eq ?_ ?_ ?_ ?_ ?_ <;>
      simp [Ledger.step, Stream.perform, Stream.publishResize, Stream.publishFault,
        Stream.broadcast, Stream.offer, Stream.handedOut?, Event.chunk?, hfin]
  | unsubscribe id | receive id =>
    cases hid : l.stream.subscriber? id <;> refine h.of_eq ?_ ?_ ?_ ?_ ?_ <;>
      simp [Ledger.step, Stream.perform, Stream.unsubscribe, Stream.receive, Stream.modify,
        Stream.handedOut?, hid]
  | drop id =>
    refine h.of_eq ?_ rfl rfl rfl rfl
    simp [outputs_step, Stream.handedOut?]

/-- What is remembered is the newest output, all of it but the first `gone` pieces. Before the release
    a loss shows in the scrollback. -/
theorem Numbered.map_seq_chunks (h : l.Numbered limits) :
    ∃ gone, gone ≤ l.outputs.length ∧
      l.stream.scrollback.chunks.map Chunk.seq =
        List.range' (gone + 1) (l.outputs.length - gone) ∧
      (l.stream.released = false → 0 < gone → 0 < l.stream.scrollback.truncation.bytes) := by
  cases hreleased : l.stream.released with
  | true => exact ⟨l.outputs.length, Nat.le_refl _, by simp [h.forgotten hreleased], by simp⟩
  | false =>
    -- every piece was pushed and none was empty: the account of the scrollback applies
    have hsolid : Scrollback.solid l.outputs = l.outputs := by
      refine List.filter_eq_self.mpr fun c hc => ?_
      simpa using h.solid c hc
    have hacc := (Scrollback.accounts_foldl_push_empty limits l.outputs).1
    rw [← h.remembered hreleased, hsolid] at hacc
    obtain ⟨cut, hkept⟩ := hacc.kept
    refine ⟨l.stream.scrollback.truncation.chunks, ?_, ?_, fun _ hpos => ?_⟩
    · have := hacc.counted
      omega
    · rw [hkept, Scrollback.map_seq_cutHead, List.map_drop, h.seqs, List.drop_range', Nat.mul_one,
        Nat.add_comm]
    · have := hacc.chunks_le_bytes
      omega

end Ledger

/-! ## §2 The numbers offered to one subscriber -/

/-- **The offers to a subscriber carry consecutive numbers**, for one who is attached up to the next
    number of the stream. They begin at one or with a notice of loss, if the subscriber came while
    output was remembered. -/
def Book.Consecutive (s : Stream) (b : Book) : Prop :=
  ∃ first count, b.offered.filterMap Event.seq? = List.range' first count ∧
    (b.attached = true → first + count = s.nextSeq) ∧
    (b.afterRelease = false →
      first = 1 ∨ ∃ lost rest, b.offered = .fault s.pane (.truncated lost) :: rest)

namespace Stream

/-- An event for everyone takes the next number or has none. -/
theorem seq?_of_handedOut? {s : Stream} {op : Op} {e : Event} (he : s.handedOut? op = some e) :
    (e.seq? = some s.nextSeq ∧ (s.perform op).nextSeq = s.nextSeq + 1) ∨
      (e.seq? = none ∧ (s.perform op).nextSeq = s.nextSeq) := by
  obtain ⟨hfin, ⟨now, data, rfl, hdata, rfl⟩ | ⟨size, rfl, rfl⟩ | ⟨fault, rfl, rfl⟩ |
    ⟨code, killed, rfl, rfl⟩⟩ := handedOut?_eq_some_cases he
  · left; simp [perform, publishOutput, hfin, hdata, offer, Event.seq?]
  · right; simp [perform, publishResize, broadcast, hfin, offer, Event.seq?]
  · right; simp [perform, publishFault, broadcast, hfin, offer, Event.seq?]
  · left; simp [perform, finish, hfin, Event.seq?]

/-- No number is taken where no event is made. -/
theorem nextSeq_perform_of_handedOut?_eq_none {s : Stream} {op : Op}
    (he : s.handedOut? op = none) : (s.perform op).nextSeq = s.nextSeq := by
  cases op with
  | unsubscribe id => simp only [perform, unsubscribe]; split <;> rfl
  | receive id => simp only [perform, receive]; split <;> rfl
  | subscribe id | drop id | release => rfl
  | output now data | resized size | fault fault | finish code killed =>
    rw [perform_eq_self he rfl (by simp)]

end Stream

namespace Book

variable {s : Stream} {b : Book}

/-- An event for everyone keeps the numbers consecutive. -/
theorem Consecutive.hear (h : b.Consecutive s) {op : Stream.Op} {e : Event}
    (he : s.handedOut? op = some e) : (b.hear e).Consecutive (s.perform op) := by
  obtain ⟨first, count, hseqs, hnext, hstart⟩ := h
  cases hattached : b.attached with
  | false =>
    -- whoever has left is offered nothing more
    have hb : b.hear e = b := by simp [Book.hear, hattached]
    rw [hb]
    exact ⟨first, count, hseqs, by simp [hattached], by simpa using hstart⟩
  | true =>
    have hoffered : (b.hear e).offered = b.offered ++ [e] := by
      simp [Book.hear, hattached, offered]
    have hafter : (b.hear e).afterRelease = b.afterRelease := by simp [Book.hear, hattached]
    have hstart' : (b.hear e).afterRelease = false →
        first = 1 ∨ ∃ lost rest, (b.hear e).offered = .fault s.pane (.truncated lost) :: rest := by
      rw [hoffered, hafter]
      intro hb
      rcases hstart hb with hfirst | ⟨lost, rest, hrest⟩
      · exact .inl hfirst
      · exact .inr ⟨lost, rest ++ [e], by rw [hrest]; rfl⟩
    have hnext := hnext hattached
    -- what is offered next either has the next number or has none
    rcases Stream.seq?_of_handedOut? he with ⟨hseq, hnext'⟩ | ⟨hseq, hnext'⟩
    · refine ⟨first, count + 1, ?_, fun _ => by omega, by simpa using hstart'⟩
      simp [hoffered, List.filterMap_append, hseqs, hseq, List.range'_1_concat, hnext]
    · refine ⟨first, count, ?_, fun _ => by omega, by simpa using hstart'⟩
      simp [hoffered, List.filterMap_append, hseqs, hseq]

/-- **Each operation keeps the numbers consecutive.** -/
theorem Consecutive.enter (h : b.Consecutive s) (op : Stream.Op) (id : Nat) :
    (b.enter s op id).Consecutive (s.perform op) := by
  rcases b.enter_cases s op id with ⟨e, he, heq⟩ | ⟨he, hentered⟩
  · rw [heq]
    exact h.hear he
  · -- with no event for everyone no number is taken
    have h' : b.Consecutive (s.perform op) := by
      simpa [Consecutive, Stream.nextSeq_perform_of_handedOut?_eq_none he] using h
    rcases hentered with heq | heq | heq <;> rw [heq]
    · exact h'
    · obtain ⟨first, count, hseqs, -, hstart⟩ := h'
      exact ⟨first, count, hseqs, by simp, hstart⟩
    · exact h'

end Book

namespace Ledger

variable {limits : Limits} {l : Ledger}

/-- A new subscriber is offered all that is remembered, and then the end. -/
theorem Numbered.consecutive_opened (h : l.Numbered limits) :
    (Book.opened l.stream).Consecutive l.stream := by
  obtain ⟨gone, hgone, hchunks, hnotice⟩ := h.map_seq_chunks
  have hhistory : (l.stream.scrollback.history l.stream.pane).filterMap Event.seq? =
      List.range' (gone + 1) (l.outputs.length - gone) := by
    have houtput : (Event.seq? ∘ Event.output) = fun c => some c.seq := rfl
    rw [← hchunks, Scrollback.history, List.filterMap_append, List.filterMap_map, houtput,
      List.filterMap_eq_map']
    split <;> simp [Event.seq?]
  have hstart : (Book.opened l.stream).afterRelease = false → gone + 1 = 1 ∨
      ∃ lost rest, (Book.opened l.stream).offered =
        .fault l.stream.pane (.truncated lost) :: rest := by
    intro hreleased
    rcases Nat.eq_zero_or_pos gone with hzero | hpos
    · exact .inl (by omega)
    · right
      simp [Book.opened, Book.offered, Scrollback.history, hnotice hreleased hpos]
  have hnext := h.nextSeq_eq
  -- after the end the newcomer is given the end as well, and it has the next number
  cases hending : l.stream.ending with
  | none =>
    refine ⟨gone + 1, l.outputs.length - gone, ?_, fun _ => ?_, hstart⟩
    · simpa [Book.offered, Book.opened, hending] using hhistory
    · simp only [Stream.isFinished, hending, Option.isSome_none, Bool.false_eq_true,
        if_false] at hnext
      omega
  | some e =>
    refine ⟨gone + 1, l.outputs.length - gone + 1, ?_, fun hattached => ?_, hstart⟩
    · have hseq := h.ending e hending
      have hlast : gone + 1 + (l.outputs.length - gone) = l.outputs.length + 1 := by omega
      simp [Book.offered, Book.opened, hending, List.filterMap_append, hhistory, hseq,
        List.range'_1_concat, hlast]
    · simp [Book.opened, Stream.isFinished, hending] at hattached

/-- **Output is numbered, and so are the offers** to every subscriber. -/
structure Sequenced (limits : Limits) (l : Ledger) : Prop where
  numbered : l.Numbered limits
  consecutive : ∀ id b, l.books id = some b → b.Consecutive l.stream

/-- **Each operation keeps the sequence.** -/
theorem Sequenced.step (h : l.Sequenced limits) (op : Stream.Op) :
    (l.step op).Sequenced limits := by
  refine ⟨h.numbered.step op, fun id b hb => ?_⟩
  by_cases hop : ∃ i, op = .subscribe i
  · obtain ⟨i, rfl⟩ := hop
    cases hi : l.books i with
    | some b' =>
      rw [step_subscribe_of_some hi] at hb ⊢
      exact h.consecutive id b hb
    | none =>
      rw [stream_subscribe hi]
      -- the newcomer's book has just been opened, and the others stay
      by_cases hid : id = i
      · rw [hid, books_subscribe_self hi, Option.some.injEq] at hb
        rw [← hb]
        exact h.numbered.consecutive_opened
      · rw [books_subscribe_of_ne l hid] at hb
        exact h.consecutive id b hb
  · rw [step_of_ne_subscribe fun i heq => hop ⟨i, heq⟩] at hb ⊢
    obtain ⟨b', hb', rfl⟩ := Option.map_eq_some_iff.mp hb
    exact (h.consecutive id b' hb').enter op id

/-- The sequence is kept in every run. -/
theorem sequenced_run (pane : Nat) (limits : Limits) (capacity : Nat) (ops : List Stream.Op) :
    ((new pane limits capacity).run ops).Sequenced limits :=
  run_induction (P := Sequenced limits) (fun _ op h => h.step op)
    ⟨numbered_new pane limits capacity, fun _ _ hb => nomatch hb⟩ ops

end Ledger

/-! ## §3 The law -/

/-- Receipts that stand for themselves alone. -/
theorem Receipt.flatMap_places_of_lost_eq_zero {xs : List Receipt} (h : ∀ x ∈ xs, x.lost = 0) :
    xs.flatMap Receipt.places = (xs.map (·.event)).map some := by
  induction xs with
  | nil => rfl
  | cons x xs ih =>
    rw [List.flatMap_cons, ih fun y hy => h y (List.mem_cons_of_mem x hy), places,
      if_pos (h x List.mem_cons_self)]
    rfl

/-- Two members of a range with others between them are that far apart. -/
private theorem eq_add_length_of_range'_eq {first count m n : Nat} {before between after : List Nat}
    (h : List.range' first count = before ++ m :: (between ++ n :: after)) :
    n = m + 1 + between.length := by
  have hm : (List.range' first count)[before.length]? = some m := by rw [h]; simp
  have hn : (List.range' first count)[before.length + (between.length + 1)]? = some n := by
    rw [h]
    simp
  obtain ⟨_, hm⟩ := List.getElem?_eq_some_iff.mp hm
  obtain ⟨_, hn⟩ := List.getElem?_eq_some_iff.mp hn
  rw [List.getElem_range'] at hm hn
  omega

namespace Book

variable {pane : Nat} {s : Stream} {b : Book}

/-- An event with a number is never a report of loss. -/
theorem Faithful.lost_eq_zero (h : b.Faithful pane) {x : Receipt} (hx : x ∈ b.received) {n : Nat}
    (hseq : x.event.seq? = some n) : x.lost = 0 := by
  by_contra hlost
  rw [h.reported x hx (Nat.pos_of_ne_zero hlost)] at hseq
  cases hseq

/-- Where nothing was lost, what was received is what was offered. -/
theorem map_event_eq_of_tallies {xs : List Receipt} {es : List Event}
    (h : Tallies (xs.flatMap Receipt.places) es) (hlost : ∀ x ∈ xs, x.lost = 0) :
    xs.map (·.event) = es := by
  rw [Receipt.flatMap_places_of_lost_eq_zero hlost] at h
  exact h.eq_of_map_some

/-- **Numbers rise, and by one unless a loss was reported in between.** -/
theorem Faithful.gap_announced (h : b.Faithful pane) (hc : b.Consecutive s)
    {before between after : List Receipt} {x y : Receipt} {m n : Nat}
    (hb : b.received = before ++ x :: (between ++ y :: after)) (hx : x.event.seq? = some m)
    (hy : y.event.seq? = some n) (hbetween : ∀ z ∈ between, z.event.seq? = none) :
    m < n ∧ (m + 1 < n → ∃ z ∈ between, 0 < z.lost) := by
  obtain ⟨first, count, hseqs, -, -⟩ := hc
  obtain ⟨rest, htally⟩ := h.tally
  have hxlost : x.lost = 0 := h.lost_eq_zero (by simp [hb]) hx
  have hylost : y.lost = 0 := h.lost_eq_zero (by simp [hb]) hy
  -- what was offered falls into the parts before, between and after the two
  have hfilled : b.filled ++ rest = before.flatMap Receipt.places ++ (some x.event ::
      (between.flatMap Receipt.places ++ (some y.event ::
        (after.flatMap Receipt.places ++ rest)))) := by
    simp [filled, hb, Receipt.places, hxlost, hylost]
  rw [hfilled] at htally
  obtain ⟨es₁, es₂, hoffered, -, hlater⟩ := htally.split_some
  obtain ⟨es₃, es₄, rfl, hinner, -⟩ := hlater.split_some
  rw [hoffered] at hseqs
  simp only [List.filterMap_append, List.filterMap_cons, hx, hy] at hseqs
  have hn := eq_add_length_of_range'_eq hseqs.symm
  refine ⟨by omega, fun hgap => ?_⟩
  -- with nothing lost the offers between the two are the receipts between them, without numbers
  by_contra hnone
  have hlost : ∀ z ∈ between, z.lost = 0 := fun z hz =>
    Nat.eq_zero_of_not_pos fun hpos => hnone ⟨z, hz, hpos⟩
  have hempty : es₃.filterMap Event.seq? = [] := by
    rw [← map_event_eq_of_tallies hinner hlost, List.filterMap_map]
    exact List.filterMap_eq_nil_iff.mpr hbetween
  rw [hempty, List.length_nil] at hn
  omega

/-- **A start that was missed is announced** before the first number. -/
theorem Faithful.start_announced (h : b.Faithful s.pane) (hc : b.Consecutive s)
    (hafter : b.afterRelease = false) {before after : List Receipt} {y : Receipt} {n : Nat}
    (hb : b.received = before ++ y :: after) (hy : y.event.seq? = some n)
    (hbefore : ∀ z ∈ before, z.event.seq? = none) (hn : n ≠ 1) :
    ∃ z ∈ before, ∃ lost, z.event = .fault s.pane (.truncated lost) := by
  by_contra hnone
  have hlost : ∀ z ∈ before, z.lost = 0 := fun z hz =>
    Nat.eq_zero_of_not_pos fun hpos =>
      hnone ⟨z, hz, z.lost, h.reported z (by simp [hb, hz]) hpos⟩
  have hylost : y.lost = 0 := h.lost_eq_zero (by simp [hb]) hy
  obtain ⟨first, count, hseqs, -, hstart⟩ := hc
  obtain ⟨rest, htally⟩ := h.tally
  have hfilled : b.filled ++ rest = before.flatMap Receipt.places ++
      (some y.event :: (after.flatMap Receipt.places ++ rest)) := by
    simp [filled, hb, Receipt.places, hylost]
  rw [hfilled] at htally
  obtain ⟨es₁, es₂, hoffered, hearlier, -⟩ := htally.split_some
  -- nothing was lost so far: the first offers are the first receipts
  rw [← map_event_eq_of_tallies hearlier hlost] at hoffered
  rcases hstart hafter with rfl | ⟨lost, rest', hnotice⟩
  · -- the offers begin at one, and the first with a number is the one received
    have hempty : (before.map (·.event)).filterMap Event.seq? = [] := by
      rw [List.filterMap_map]
      exact List.filterMap_eq_nil_iff.mpr hbefore
    rw [hoffered, List.filterMap_append, hempty, List.nil_append, List.filterMap_cons, hy] at hseqs
    obtain ⟨hone, -⟩ := List.range'_eq_cons_iff.mp hseqs.symm
    exact hn hone.symm
  · -- the offers begin with a notice, and so do the receipts
    rw [hnotice] at hoffered
    cases before with
    | nil =>
      obtain ⟨heq, -⟩ := List.cons.inj hoffered
      rw [← heq] at hy
      cases hy
    | cons z before =>
      obtain ⟨heq, -⟩ := List.cons.inj hoffered
      exact hnone ⟨z, List.mem_cons_self, lost, heq.symm⟩

end Book

namespace Ledger

/-- **Gaps are announced**: in every run and for every subscriber, the numbers of two events received
    one after the other rise, and where they rise by more than one a report of loss was received in
    between. Nobody who comes before the release misses the beginning without a notice. -/
theorem gaps_announced (pane : Nat) (limits : Limits) (capacity : Nat) (ops : List Stream.Op)
    (id : Nat) (b : Book) (hb : ((new pane limits capacity).run ops).books id = some b) :
    (∀ before between after x y m n, b.received = before ++ x :: (between ++ y :: after) →
      x.event.seq? = some m → y.event.seq? = some n → (∀ z ∈ between, z.event.seq? = none) →
      m < n ∧ (m + 1 < n →
        ∃ z ∈ between, 0 < z.lost ∧ z.event = .fault pane (.truncated z.lost))) ∧
    (b.afterRelease = false → ∀ before after y n, b.received = before ++ y :: after →
      y.event.seq? = some n → (∀ z ∈ before, z.event.seq? = none) → n ≠ 1 →
      ∃ z ∈ before, ∃ lost, z.event = .fault pane (.truncated lost)) := by
  have hpane : ((new pane limits capacity).run ops).stream.pane = pane := (pane_capacity_run _ ops).1
  have hfaithful := (settled_run pane limits capacity ops).faithful id b hb
  have hconsecutive := (sequenced_run pane limits capacity ops).consecutive id b hb
  constructor
  · intro before between after x y m n hreceived hx hy hbetween
    obtain ⟨hlt, hgap⟩ := hfaithful.gap_announced hconsecutive hreceived hx hy hbetween
    refine ⟨hlt, fun h => ?_⟩
    obtain ⟨z, hz, hlost⟩ := hgap h
    have hreported := hfaithful.reported z (by simp [hreceived, hz]) hlost
    exact ⟨z, hz, hlost, by rw [hreported, hpane]⟩
  · intro hafter before after y n hreceived hy hbefore hn
    have hstart := hfaithful.start_announced hconsecutive hafter hreceived hy hbefore hn
    rwa [hpane] at hstart

/-- A subscriber who comes too late for the first piece of output and is too slow for the third is
    told so both times. -/
theorem gaps_announced_late_and_slow :
    let ops : List Stream.Op := [.output ⟨0, 0⟩ [65], .output ⟨0, 0⟩ [66], .subscribe 4,
      .receive 4, .receive 4, .output ⟨0, 0⟩ [67], .output ⟨0, 0⟩ [68], .receive 4, .receive 4]
    let late : Receipt := ⟨.fault 7 (.truncated 1), 0⟩
    let slow : Receipt := ⟨.fault 7 (.truncated 1), 1⟩
    let b : Book := {
      opening := [.fault 7 (.truncated 1), .output ⟨7, 2, [66]⟩]
      since := [.output ⟨7, 3, [67]⟩, .output ⟨7, 4, [68]⟩]
      attached := true
      received := [late, ⟨.output ⟨7, 2, [66]⟩, 0⟩, slow, ⟨.output ⟨7, 4, [68]⟩, 0⟩]
      afterRelease := false }
    ((new 7 ⟨1, 1⟩ 1).run ops).books 4 = some b ∧
      (∃ z ∈ [slow], 0 < z.lost ∧ z.event = .fault 7 (.truncated z.lost)) ∧
      ∃ z ∈ [late], ∃ lost, z.event = .fault 7 (.truncated lost) := by
  intro ops late slow b
  obtain ⟨hgap, hstart⟩ := gaps_announced 7 ⟨1, 1⟩ 1 ops 4 b rfl
  refine ⟨rfl, ?_, ?_⟩
  · exact (hgap [late] [slow] [] _ _ 2 4 rfl rfl rfl (by decide)).2 (by decide)
  · exact hstart rfl [late] _ _ 2 rfl rfl (by decide) (by decide)

end Ledger

end PaneMux
