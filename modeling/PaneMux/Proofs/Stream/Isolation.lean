import PaneMux.Proofs.Stream.Answers

/-!
# Isolation of Subscribers

What a subscriber receives, and when, is a matter of what is published and of what it does itself.
Other subscribers may come and go, take everything or nothing: a run in which all they do is left out
answers everybody else the same. The clock does not matter either.

## Architecture

- **§1** what one subscriber has a part in (`Stream.Op.seenBy`), and what it sees (`Ledger.seen`)
- **§2** `Ledger.Alike`: two ledgers that one subscriber cannot tell apart, kept by what it has no part
  in on one side alone, and by what it has a part in on both sides
- **§3** the law, for two runs
-/

namespace PaneMux

/-! ## §1 One subscriber's part -/

/-- An operation without the time at which it happens. -/
def Stream.Op.timeless : Stream.Op → Stream.Op
  | .output _ data => .output ⟨0, 0⟩ data
  | op => op

/-- An operation as a subscriber may notice it: whatever concerns the stream or itself, without the
    time, and nothing of what concerns another subscriber. -/
def Stream.Op.seenBy (id : Nat) (op : Stream.Op) : Option Stream.Op :=
  if op.addressee?.all (· = id) then some op.timeless else none

/-- What has been seen is seen as it is. -/
theorem Stream.Op.seenBy_seenBy {id : Nat} {op op' : Stream.Op} (h : op.seenBy id = some op') :
    op'.seenBy id = some op' := by
  obtain ⟨haddressee, rfl⟩ : op.addressee?.all (· = id) = true ∧ op.timeless = op' := by
    simpa [seenBy] using h
  have hsame : op.timeless.addressee? = op.addressee? := by cases op <;> rfl
  have htwice : op.timeless.timeless = op.timeless := by cases op <;> rfl
  rw [seenBy, hsame, if_pos haddressee, htwice]

/-- What a run shows to a subscriber: the answers to everything it may notice, those to whoever
    publishes included, and how much waits for it each time. -/
def Ledger.seen (id : Nat) (l : Ledger) : List Stream.Op → List (Stream.Answer × Option Nat)
  | [] => []
  | op :: ops =>
    let rest := (l.step op).seen id ops
    match op.seenBy id with
    | some _ =>
      (l.stream.answer op, ((l.step op).stream.subscriber? id).map (·.pending.length)) :: rest
    | none => rest

namespace Stream

/-- The clock is no matter of what is common to all. -/
theorem shared_perform (s : Stream) (op : Op) :
    (s.perform op).shared = (s.shared.perform op.timeless).shared := by
  have hfin : s.shared.isFinished = s.isFinished := rfl
  cases op with
  | output now data =>
    by_cases hnone : (data.isEmpty || s.isFinished) = true
    · simp only [perform, Op.timeless, publishOutput, hfin, hnone, if_true]
      rfl
    · simp only [perform, Op.timeless, publishOutput, hfin, hnone]
      rfl
  | resized size | fault fault =>
    cases hended : s.isFinished
    all_goals
      simp only [perform, Op.timeless, publishResize, publishFault, broadcast, hfin, hended]
      rfl
  | finish code killed =>
    cases hended : s.isFinished
    all_goals
      simp only [perform, Op.timeless, finish, hfin, hended]
      rfl
  | release => rfl
  | subscribe id | unsubscribe id | drop id | receive id =>
    exact (shared_perform_of_addressee? rfl s).trans
      (shared_perform_of_addressee? rfl s.shared).symm

theorem eq_of_shared_eq {s s' : Stream} (h : s.shared = s'.shared) :
    s.pane = s'.pane ∧ s.nextSeq = s'.nextSeq ∧ s.isFinished = s'.isFinished := by
  refine ⟨?_, ?_, ?_⟩
  · show s.shared.pane = s'.shared.pane
    rw [h]
  · show s.shared.nextSeq = s'.shared.nextSeq
    rw [h]
  · show s.shared.isFinished = s'.shared.isFinished
    rw [h]

theorem handedOut?_congr {s s' : Stream} (h : s.shared = s'.shared) (op : Op) :
    s.handedOut? op = s'.handedOut? op.timeless := by
  obtain ⟨hpane, hnext, hfin⟩ := eq_of_shared_eq h
  cases op <;> simp only [handedOut?, Op.timeless, hpane, hnext, hfin]

/-- What is answered is a matter of what is common to all and of the queue that is asked. -/
theorem answer_congr {s s' : Stream} (hshared : s.shared = s'.shared) {op : Op}
    (hqueue : ∀ id ∈ op.addressee?, s.subscriber? id = s'.subscriber? id) :
    s.answer op = s'.answer op.timeless := by
  obtain ⟨hpane, hnext, hfin⟩ := eq_of_shared_eq hshared
  cases op with
  | output now data =>
    simp only [answer, Op.timeless, publishOutput, hfin]
    split <;> simp [hnext]
  | finish code killed =>
    simp only [answer, Op.timeless, finish, hfin]
    split <;> rfl
  | unsubscribe id =>
    simp only [answer, Op.timeless, unsubscribe, hqueue id rfl]
    split <;> rfl
  | receive id =>
    simp only [answer, Op.timeless, receive, hqueue id rfl, hpane]
    split <;> rfl
  | resized size | fault fault | subscribe id | drop id | release => rfl

end Stream

/-- What a newcomer is offered is a matter of what is common to all. -/
theorem Book.opened_congr {s s' : Stream} (hshared : s.shared = s'.shared) :
    Book.opened s = Book.opened s' := by
  show Book.opened s.shared = Book.opened s'.shared
  rw [hshared]

theorem Stream.enrol_congr {s s' : Stream} (hshared : s.shared = s'.shared) (id : Nat) :
    s.enrol id = s'.enrol id := by
  show s.shared.enrol id = s'.shared.enrol id
  rw [hshared]

/-- What is entered is a matter of what is common to all and of the queue of the subscriber. -/
theorem Book.enter_congr {s s' : Stream} (hshared : s.shared = s'.shared) {id : Nat}
    (hqueue : s.subscriber? id = s'.subscriber? id) (op : Stream.Op) :
    Book.enter s op id = Book.enter s' op.timeless id := by
  obtain ⟨hpane, -, -⟩ := Stream.eq_of_shared_eq hshared
  have hreceipt : s.receipt? id = s'.receipt? id := by
    rw [Stream.receipt?, Stream.receipt?, hqueue, hpane]
  funext b
  cases op with
  | unsubscribe i | drop i => rfl
  | receive i => simp only [Book.enter, Stream.Op.timeless, hreceipt]
  | output now data | resized size | fault fault | finish code killed | subscribe i | release =>
    exact congrArg (fun e? : Option Event => e?.elim b b.hear) (Stream.handedOut?_congr hshared _)

/-- What a queue takes is a matter of what is common to all. -/
theorem Subscriber.after_congr {s s' : Stream} (hshared : s.shared = s'.shared) (op : Stream.Op) :
    Subscriber.after s op = Subscriber.after s' op.timeless := by
  obtain ⟨hpane, -, -⟩ := Stream.eq_of_shared_eq hshared
  funext q
  cases op with
  | unsubscribe i | drop i => rfl
  | receive i => simp only [Subscriber.after, Stream.Op.timeless, hpane]
  | output now data | resized size | fault fault | finish code killed | subscribe i | release =>
    exact congrArg (fun e? : Option Event => e?.elim q q.take) (Stream.handedOut?_congr hshared _)

/-! ## §2 Ledgers alike -/

namespace Ledger

/-- **A subscriber cannot tell two ledgers apart**: they share what is common to all, and its own queue
    and book. -/
structure Alike (id : Nat) (l l' : Ledger) : Prop where
  shared : l.stream.shared = l'.stream.shared
  queue : l.stream.subscriber? id = l'.stream.subscriber? id
  book : l.books id = l'.books id

variable {id : Nat} {l l' : Ledger}

/-- **What a subscriber has no part in may happen on one side alone.** -/
theorem Alike.step_left (h : l.Alike id l') (hs : l.Settled) {op : Stream.Op}
    (hop : op.seenBy id = none) : (l.step op).Alike id l' := by
  -- the operation concerns somebody else
  obtain ⟨i, hi, hne⟩ : ∃ i, op.addressee? = some i ∧ i ≠ id := by
    unfold Stream.Op.seenBy at hop
    cases haddressee : op.addressee? with
    | none => simp [haddressee] at hop
    | some i => exact ⟨i, rfl, by simpa [haddressee] using hop⟩
  have hbook : Book.enter l.stream op id = fun b => b := by
    funext b
    cases op <;> simp_all [Stream.Op.addressee?, Book.enter, Stream.handedOut?]
  have hqueue : ∀ q : Subscriber, q.id = id → q.after l.stream op = q := by
    intro q hq
    cases op <;> simp_all [Stream.Op.addressee?, Subscriber.after, Stream.handedOut?]
  rcases hs.step_cases op id with ⟨rfl, -⟩ | ⟨-, hbook', hqueue'⟩
  · exact absurd (Option.some.inj hi).symm hne
  · constructor
    case shared => rw [shared_step, Stream.shared_perform_of_addressee? hi, h.shared]
    case queue =>
      have hdrop : op ≠ .drop id := by
        rintro rfl
        exact hne (Option.some.inj hi).symm
      rw [hqueue', if_neg hdrop, ← h.queue]
      cases hq : l.stream.subscriber? id with
      | none => rfl
      | some q => simp [hqueue q (Stream.mem_of_subscriber?_eq_some hq).2]
    case book => rw [hbook', hbook, Option.map_id', h.book]

/-- **What a subscriber has a part in happens on both sides alike**, and is answered alike. -/
theorem Alike.step_both (h : l.Alike id l') (hs : l.Settled) (hs' : l'.Settled)
    {op op' : Stream.Op} (hop : op.seenBy id = some op') :
    (l.step op).Alike id (l'.step op') ∧ l.stream.answer op = l'.stream.answer op' := by
  obtain ⟨haddressee, rfl⟩ : (∀ i ∈ op.addressee?, i = id) ∧ op.timeless = op' := by
    simpa [Stream.Op.seenBy, Option.all_eq_true] using hop
  have hsubscribe : op.timeless = .subscribe id ↔ op = .subscribe id := by
    cases op <;> simp [Stream.Op.timeless]
  have hdrop : op.timeless = .drop id ↔ op = .drop id := by
    cases op <;> simp [Stream.Op.timeless]
  have hshared : (l.step op).stream.shared = (l'.step op.timeless).stream.shared := by
    rw [shared_step, shared_step, Stream.shared_perform, Stream.shared_perform l'.stream, h.shared]
    cases op <;> rfl
  refine ⟨?_, Stream.answer_congr h.shared fun i hi => haddressee i hi ▸ h.queue⟩
  rcases hs.step_cases op id with ⟨hcomes, hnone, -, hbook, hqueue⟩ | ⟨hheld, hbook, hqueue⟩ <;>
    rcases hs'.step_cases op.timeless id with
      ⟨hcomes', hnone', -, hbook', hqueue'⟩ | ⟨hheld', hbook', hqueue'⟩
  · -- it comes on both sides
    refine ⟨hshared, ?_, ?_⟩
    · rw [hqueue, hqueue', Stream.enrol_congr h.shared]
    · rw [hbook, hbook', Book.opened_congr h.shared]
  · exact absurd (h.book ▸ hnone) (hheld' (hsubscribe.mpr hcomes))
  · exact absurd (h.book.symm ▸ hnone') (hheld (hsubscribe.mp hcomes'))
  · -- it has been there on both sides, or on none
    refine ⟨hshared, ?_, ?_⟩
    · simp only [hqueue, hqueue', hdrop, h.queue, Subscriber.after_congr h.shared op]
    · rw [hbook, hbook', h.book, Book.enter_congr h.shared h.queue op]

/-- **A run shows a subscriber just what it has a part in.** -/
theorem Alike.run_filterMap (h : l.Alike id l') (hs : l.Settled) (hs' : l'.Settled)
    (ops : List Stream.Op) :
    (l.run ops).Alike id (l'.run (ops.filterMap (·.seenBy id))) ∧
      l.seen id ops = l'.seen id (ops.filterMap (·.seenBy id)) := by
  induction ops generalizing l l' with
  | nil => exact ⟨h, rfl⟩
  | cons op ops ih =>
    cases hop : op.seenBy id with
    | none =>
      rw [List.filterMap_cons_none hop, run_cons, seen, hop]
      exact ih (h.step_left hs hop) (hs.step op) hs'
    | some op' =>
      obtain ⟨hstep, hanswer⟩ := h.step_both hs hs' hop
      obtain ⟨hrun, hseen⟩ := ih hstep (hs.step op) (hs'.step op')
      rw [List.filterMap_cons_some hop, run_cons, run_cons]
      refine ⟨hrun, ?_⟩
      simp only [seen, hop, Stream.Op.seenBy_seenBy hop, hanswer, hstep.queue, hseen]

end Ledger

/-! ## §3 Two runs -/

namespace Ledger

/-- The numbers given to output are among the answers that everybody sees. -/
theorem filterMap_number?_seen (id : Nat) (l : Ledger) (ops : List Stream.Op) :
    (l.seen id ops).filterMap (·.1.number?) = l.numbers ops := by
  induction ops generalizing l with
  | nil => rfl
  | cons op ops ih =>
    have htail : l.numbers (op :: ops) =
        (l.stream.answer op).number?.toList ++ (l.step op).numbers ops := by
      cases hnumber : (l.stream.answer op).number? <;> simp [numbers, answers, hnumber]
    rw [htail, ← ih (l.step op)]
    cases hop : op.seenBy id with
    | some op' =>
      cases hnumber : (l.stream.answer op).number? <;> simp [seen, hop, hnumber]
    | none =>
      -- what is not seen is about one subscriber, and gives no number
      have hnumber : (l.stream.answer op).number? = none := by
        cases op <;> simp_all [Stream.Op.seenBy, Stream.Op.addressee?, Stream.answer,
          Stream.Answer.number?]
      simp [seen, hop, hnumber]

/-- **Subscribers are isolated**: two runs on streams with the same limits and capacity that contain the
    same publishing, the same release and the same operations of one subscriber, in the same order,
    answer these alike, whatever other subscribers do and whenever all this happens. The subscriber
    receives the same and has the same waiting, and output is given the same numbers. -/
theorem subscribers_isolated (pane : Nat) (limits : Limits) (capacity id : Nat)
    (ops ops' : List Stream.Op)
    (hseen : ops.filterMap (·.seenBy id) = ops'.filterMap (·.seenBy id)) :
    let start := new pane limits capacity
    start.seen id ops = start.seen id ops' ∧
      (start.run ops).stream.subscriber? id = (start.run ops').stream.subscriber? id ∧
      (start.run ops).books id = (start.run ops').books id ∧
      start.numbers ops = start.numbers ops' := by
  intro start
  have hs : start.Settled := settled_new pane limits capacity
  have hself : start.Alike id start := ⟨rfl, rfl, rfl⟩
  -- both runs are compared with the one in which others do nothing
  obtain ⟨halike, hanswers⟩ := hself.run_filterMap hs hs ops
  obtain ⟨halike', hanswers'⟩ := hself.run_filterMap hs hs ops'
  rw [← hseen] at halike' hanswers'
  have hsame : start.seen id ops = start.seen id ops' := hanswers.trans hanswers'.symm
  refine ⟨hsame, halike.queue.trans halike'.queue.symm, halike.book.trans halike'.book.symm, ?_⟩
  rw [← filterMap_number?_seen id start ops, ← filterMap_number?_seen id start ops', hsame]

/-- A second subscriber that stalls with room for two, and loses output, takes nothing away from one
    that keeps up: it receives what it would receive alone. -/
theorem subscribers_isolated_stalled :
    let alone : List Stream.Op := [.subscribe 4, .output ⟨0, 0⟩ [65], .receive 4,
      .output ⟨0, 0⟩ [66], .output ⟨0, 0⟩ [67], .receive 4, .receive 4, .finish none true]
    let beside : List Stream.Op := [.subscribe 9, .subscribe 4, .output ⟨1, 0⟩ [65], .receive 4,
      .output ⟨2, 0⟩ [66], .output ⟨3, 0⟩ [67], .receive 4, .unsubscribe 9, .receive 4, .drop 9,
      .finish none true]
    let start := new 7 {} 2
    alone.filterMap (·.seenBy 4) = beside.filterMap (·.seenBy 4) ∧
      (start.run beside).books 9 ≠ (start.run alone).books 9 ∧
      start.seen 4 alone = start.seen 4 beside ∧ start.numbers beside = [1, 2, 3] := by
  intro alone beside start
  have hsame := subscribers_isolated 7 {} 2 4 alone beside rfl
  have hother : ((start.run beside).books 9).isSome ≠ ((start.run alone).books 9).isSome := by decide
  refine ⟨rfl, fun h => hother (congrArg Option.isSome h), hsame.1, ?_⟩
  rw [← hsame.2.2.2]
  rfl

end Ledger

end PaneMux
