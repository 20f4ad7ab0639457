import PaneMux.Proofs.Stream.Accounting

/-!
# Answers of a Stream

What the operations of a run tell those who perform them, one after the other, and what becomes of the
queue of a single subscriber meanwhile. The numbers given to output are those of the output in the
ledger, so that counting answers is counting output.

## Architecture

- **§1** `Ledger.answers`, and the numbers among them
- **§2** `Stream.shared`: what is common to all subscribers
- **§3** one subscriber: what an operation does to its queue and enters into its book
-/

namespace PaneMux

/-! ## §1 Answers -/

/-- What is told to whoever performs an operation. -/
inductive Stream.Answer where
  /-- the number given to output, if it was accepted -/
  | number (seq : Option Nat)
  /-- whether the end was the first one -/
  | ended (first : Bool)
  /-- whether the subscriber was attached -/
  | detached (was : Bool)
  | delivered (d : Subscriber.Delivery)
  | done
  deriving DecidableEq, Repr

/-- The number given to output that was accepted. -/
def Stream.Answer.number? : Stream.Answer → Option Nat
  | .number seq => seq
  | _ => none

/-- The answer to an operation. -/
def Stream.answer (s : Stream) : Op → Answer
  | .output now data => .number (s.publishOutput now data).1
  | .finish code killed => .ended (s.finish code killed).1
  | .unsubscribe id => .detached (s.unsubscribe id).1
  | .receive id => .delivered (s.receive id).1
  | .resized _ | .fault _ | .subscribe _ | .drop _ | .release => .done

namespace Ledger

/-- The operations of a run, each with its answer. -/
def answers (l : Ledger) : List Stream.Op → List (Stream.Op × Stream.Answer)
  | [] => []
  | op :: ops => (op, l.stream.answer op) :: (l.step op).answers ops

/-- The numbers given to the output accepted in a run. -/
def numbers (l : Ledger) (ops : List Stream.Op) : List Nat :=
  (l.answers ops).filterMap (·.2.number?)

end Ledger

/-! ## §2 What is common to all subscribers -/

namespace Stream

/-- A stream without its subscribers, and without a look at the clock. -/
def shared (s : Stream) : Stream := { s with subscribers := [], lastOutput := none }

/-- **No operation on a subscriber touches what is common to all.** -/
theorem shared_perform_of_addressee? {op : Op} {id : Nat} (hop : op.addressee? = some id)
    (s : Stream) : (s.perform op).shared = s.shared := by
  cases op with
  | subscribe i | drop i => rfl
  | unsubscribe i => simp only [perform, unsubscribe]; split <;> rfl
  | receive i => simp only [perform, receive]; split <;> rfl
  | output now data | resized size | fault fault | finish code killed | release => cases hop

end Stream

namespace Ledger

/-- What is common to all is no matter of who subscribes. -/
theorem shared_step (l : Ledger) (op : Stream.Op) :
    (l.step op).stream.shared = (l.stream.perform op).shared := by
  by_cases hop : ∃ i, op = .subscribe i
  · obtain ⟨i, rfl⟩ := hop
    cases hi : l.books i with
    | some b => rw [step_subscribe_of_some hi]; rfl
    | none => rw [stream_subscribe hi]; rfl
  · rw [step_of_ne_subscribe fun i heq => hop ⟨i, heq⟩]

end Ledger

/-! ## §3 One subscriber -/

namespace Stream

variable {s : Stream}

/-- **An operation acts on the queue of a subscriber by itself**, and only giving the subscription up
    takes it away. -/
theorem subscriber?_perform (hids : (s.subscribers.map (·.id)).Nodup) {op : Op}
    (hop : ∀ i, op ≠ .subscribe i) (id : Nat) :
    (s.perform op).subscriber? id =
      if op = .drop id then none else (s.subscriber? id).map (·.after s op) := by
  rw [subscriber?, subscribers_perform hids hop, List.find?_map, List.find?_filter]
  simp only [Function.comp_def, Subscriber.id_after]
  by_cases hdrop : op = .drop id
  · -- whoever is under this identifier has just gone
    rw [if_pos hdrop, List.find?_eq_none.mpr]
    · rfl
    · intro q _ hq
      simp only [hdrop, ne_eq, Op.drop.injEq, decide_not, Bool.not_eq_true', decide_eq_false_iff_not,
        decide_eq_true_eq] at hq
      exact hq.1 hq.2.symm
  · rw [if_neg hdrop, subscriber?]
    congr 2
    funext q
    by_cases hq : q.id = id
    · simp [hq, hdrop]
    · simp [hq]

/-- A newcomer stands behind those who are there. -/
theorem subscriber?_subscribe (s : Stream) (i id : Nat) :
    (s.subscribe i).subscriber? id =
      (s.subscriber? id).or (if i = id then some (s.enrol i) else none) := by
  unfold subscriber? subscribe
  rw [List.find?_append]
  congr 1
  by_cases hi : i = id <;> simp [hi]

end Stream

namespace Ledger

variable {l : Ledger}

theorem Settled.run (h : l.Settled) (ops : List Stream.Op) : (l.run ops).Settled :=
  run_induction (fun _ op h => h.step op) h ops

/-- Nobody is subscribed under an identifier without a book. -/
theorem Settled.subscriber?_eq_none (h : l.Settled) {id : Nat} (hid : l.books id = none) :
    l.stream.subscriber? id = none := by
  cases hq : l.stream.subscriber? id with
  | none => rfl
  | some q =>
    obtain ⟨hmem, hqid⟩ := Stream.mem_of_subscriber?_eq_some hq
    obtain ⟨b, hb, -⟩ := h.booked q hmem
    rw [hqid, hid] at hb
    cases hb

/-- **What an operation means for one identifier**: a subscriber comes under it, or what is kept under
    it goes on, the queue and the book each by itself. -/
theorem Settled.step_cases (h : l.Settled) (op : Stream.Op) (id : Nat) :
    (op = .subscribe id ∧ l.books id = none ∧ (l.step op).stream = l.stream.subscribe id ∧
        (l.step op).books id = some (.opened l.stream) ∧
        (l.step op).stream.subscriber? id = some (l.stream.enrol id)) ∨
      ((op = .subscribe id → l.books id ≠ none) ∧
        (l.step op).books id = (l.books id).map (.enter l.stream op id) ∧
        (l.step op).stream.subscriber? id =
          if op = .drop id then none else (l.stream.subscriber? id).map (·.after l.stream op)) := by
  by_cases hop : ∃ i, op = .subscribe i
  · obtain ⟨i, rfl⟩ := hop
    -- for all but the newcomer this is no operation
    have hself : Book.enter l.stream (.subscribe i) id = fun b => b := by
      funext b
      simp [Book.enter, Stream.handedOut?]
    have hafter : Subscriber.after l.stream (.subscribe i) = fun q => q := by
      funext q
      simp [Subscriber.after, Stream.handedOut?]
    cases hi : l.books i with
    | some b =>
      right
      rw [step_subscribe_of_some hi]
      refine ⟨fun hop => ?_, by simp [hself], by simp [hafter]⟩
      rw [← Stream.Op.subscribe.inj hop, hi]
      exact Option.some_ne_none b
    | none =>
      by_cases hid : i = id
      · left
        subst hid
        refine ⟨rfl, hi, stream_subscribe hi, books_subscribe_self hi, ?_⟩
        rw [stream_subscribe hi, Stream.subscriber?_subscribe, h.subscriber?_eq_none hi]
        simp
      · right
        rw [stream_subscribe hi, Stream.subscriber?_subscribe, books_subscribe_of_ne l (Ne.symm hid)]
        simp [hself, hafter, hid]
  · have hop : ∀ i, op ≠ .subscribe i := fun i heq => hop ⟨i, heq⟩
    right
    rw [step_of_ne_subscribe hop]
    exact ⟨fun heq => absurd heq (hop id), rfl, Stream.subscriber?_perform h.ids hop id⟩

end Ledger

end PaneMux
