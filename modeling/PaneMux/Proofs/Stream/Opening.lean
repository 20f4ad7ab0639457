import Mathlib.Data.List.Induction
import PaneMux.Proofs.Stream.Ending

/-!
# The Opening of a Subscription

A new subscriber is given all output still remembered, however little fits into its queue, and what is
published from then on comes behind it in the same queue. There the opening is not safe: a live event
that finds the queue full displaces the oldest event waiting, which is one of the opening as long as the
subscriber has not read it.

This file says how much of the opening a subscriber is sure to get. Nothing is lost while nothing is
published, and nothing is lost while the opening and the live events fit into the queue together. Beyond
that the newest live events are safe, as many as fit, and the opening is not.

## Architecture

- **§1** `Subscriber.contents`: what waits, as receipts to come, and `drain`, which hands them over
- **§2** `Book.live`: the events since the opening that need room
- **§3** `Subscriber.Served`: what a queue still holds; kept by each operation on it
- **§4** `Subscriber.KeepsUp`: a queue that has not been full so far
- **§5** the law
-/

namespace PaneMux

/-! ## §1 Draining -/

namespace Subscriber

variable {q : Subscriber} {pane : Nat}

/-- What the owner of a queue is about to receive: a report, if something is lost, and what waits. -/
def contents (pane : Nat) (q : Subscriber) : List Receipt :=
  (if 0 < q.dropped then [⟨.fault pane (.truncated q.dropped), q.dropped⟩] else []) ++
    q.pending.map fun e => ⟨e, 0⟩

/-- One is received after the other. -/
theorem receive_of_contents_cons {x : Receipt} {xs : List Receipt} (h : q.contents pane = x :: xs) :
    ∃ q', q.receive pane = (.event x.event, q') ∧ q'.contents pane = xs ∧ q'.id = q.id := by
  unfold contents at h
  by_cases hdropped : 0 < q.dropped
  · obtain ⟨rfl, rfl⟩ : ⟨.fault pane (.truncated q.dropped), q.dropped⟩ = x ∧
        q.pending.map (fun e => ⟨e, 0⟩) = xs := by simpa [hdropped] using h
    exact ⟨{ q with dropped := 0 }, by simp [receive, hdropped], by simp [contents], rfl⟩
  · cases hpending : q.pending with
    | nil => simp [hdropped, hpending] at h
    | cons e rest =>
      obtain ⟨rfl, rfl⟩ : (⟨e, 0⟩ : Receipt) = x ∧ rest.map (fun e => ⟨e, 0⟩) = xs := by
        simpa [hdropped, hpending] using h
      exact ⟨{ q with pending := rest }, by simp [receive, hdropped, hpending],
        by simp [contents, hdropped], rfl⟩

/-- Then there is nothing more. -/
theorem receive_of_contents_nil (h : q.contents pane = []) :
    q.receive pane = (if q.closed then .closed else .empty, q) := by
  unfold contents at h
  obtain ⟨hdropped, hpending⟩ : q.dropped = 0 ∧ q.pending = [] := by simpa using h
  simp [receive, hdropped, hpending]

/-- A receipt is for the first of them. -/
theorem receipt?_eq_head? (pane : Nat) (q : Subscriber) :
    q.receipt? pane = (q.contents pane).head? := by
  unfold receipt? receive contents
  by_cases hdropped : 0 < q.dropped
  · simp [hdropped]
  · cases hpending : q.pending <;> cases hclosed : q.closed <;>
      simp [Nat.eq_zero_of_not_pos hdropped]

/-- Where nothing is lost nothing is reported. -/
theorem lost_eq_zero_of_mem_contents (hdropped : q.dropped = 0) {x : Receipt}
    (hx : x ∈ q.contents pane) : x.lost = 0 := by
  rw [contents, hdropped] at hx
  obtain ⟨e, -, rfl⟩ : ∃ e ∈ q.pending, (⟨e, 0⟩ : Receipt) = x := by simpa using hx
  rfl

theorem dropped_receive (hdropped : q.dropped = 0) (pane : Nat) : (q.receive pane).2.dropped = 0 := by
  unfold receive
  cases q.pending <;> simp [hdropped]

theorem length_pending_receive (pane : Nat) (q : Subscriber) :
    (q.receive pane).2.pending.length ≤ q.pending.length := by
  unfold receive
  split
  · exact Nat.le_refl _
  · split <;> simp_all

/-- What has been received and what is about to be fill the places of a queue. -/
theorem flatMap_places_contents (pane : Nat) (q : Subscriber) (b : Book) :
    (b.received ++ q.contents pane).flatMap Receipt.places = q.places b := by
  have hpending : (q.pending.map fun e => (⟨e, 0⟩ : Receipt)).flatMap Receipt.places =
      q.pending.map some := by
    rw [Receipt.flatMap_places_of_lost_eq_zero (by simp)]
    simp
  rw [List.flatMap_append, contents, List.flatMap_append, hpending, places, Book.filled,
    List.append_assoc]
  by_cases hdropped : 0 < q.dropped
  · simp [hdropped, Receipt.places, Nat.pos_iff_ne_zero.mp hdropped]
  · simp [Nat.eq_zero_of_not_pos hdropped]

end Subscriber

namespace Stream

variable {s : Stream} {id : Nat} {q : Subscriber}

/-- A subscription that is changed keeps its identifier. -/
theorem subscriber?_modify (s : Stream) {f : Subscriber → Subscriber}
    (hf : ∀ q, q.id = id → (f q).id = id) :
    (s.modify id f).subscriber? id = (s.subscriber? id).map f := by
  unfold subscriber? modify
  have hsame : ((fun q => decide (q.id = id)) ∘ fun q => if q.id = id then f q else q) =
      fun q : Subscriber => decide (q.id = id) := by
    funext q
    by_cases hq : q.id = id <;> simp [hq, hf]
  rw [List.find?_map, hsame]
  refine Option.map_congr fun q hq => ?_
  have hqid : q.id = id := by simpa using List.find?_some hq
  rw [if_pos hqid]

/-- **Draining hands over all that waits.** -/
theorem drain_fst (hq : s.subscriber? id = some q) :
    (s.drain id).1 = (q.contents s.pane).map (·.event) := by
  have hgo : ∀ n {s : Stream} {q : Subscriber}, s.subscriber? id = some q →
      (q.contents s.pane).length ≤ n →
        (drain.go id n s).1 = (q.contents s.pane).map (·.event) := by
    intro n
    induction n with
    | zero =>
      intro s q _ hn
      rw [List.length_eq_zero_iff.mp (Nat.le_zero.mp hn)]
      rfl
    | succ n ih =>
      intro s q hq hn
      cases hcontents : q.contents s.pane with
      | nil =>
        have hreceive := Subscriber.receive_of_contents_nil hcontents
        cases hclosed : q.closed <;> simp [drain.go, receive, hq, hreceive, hclosed]
      | cons x xs =>
        obtain ⟨q', hreceive, hrest, hid⟩ := Subscriber.receive_of_contents_cons hcontents
        have hqid : q'.id = id := hid.trans (mem_of_subscriber?_eq_some hq).2
        have hq' : (s.modify id fun _ => q').subscriber? id = some q' := by
          rw [subscriber?_modify s fun _ _ => hqid, hq]
          rfl
        have hlength : (q'.contents (s.modify id fun _ => q').pane).length ≤ n := by
          show (q'.contents s.pane).length ≤ n
          rw [hcontents] at hn
          rw [hrest]
          exact Nat.le_of_succ_le_succ hn
        have hnext : (drain.go id n (s.modify id fun _ => q')).1 = xs.map (·.event) := by
          rw [ih hq' hlength]
          show (q'.contents s.pane).map _ = _
          rw [hrest]
        simp [drain.go, receive, hq, hreceive, hnext]
  rw [drain, hq]
  refine hgo _ hq ?_
  unfold Subscriber.contents
  split <;> simp

end Stream

/-! ## §2 Live events -/

namespace Book

variable {b : Book}

/-- What was offered since the opening and needs room. The end needs none. -/
def live (b : Book) : List Event := b.since.filter (!·.isExit)

/-- An event for everyone is live unless it is the end. -/
theorem live_concat (b : Book) {e : Event} (hexit : e.isExit = false) :
    ({ b with since := b.since ++ [e] } : Book).live = b.live ++ [e] := by
  simp [live, hexit]

theorem live_end (b : Book) {e : Event} (hexit : e.isExit = true) :
    ({ b with since := b.since ++ [e], attached := false } : Book).live = b.live := by
  simp [live, hexit]

end Book

/-! ## §3 What a queue still holds -/

/-- **What a subscriber is sure to get** of the opening, and of the live events since. -/
structure Subscriber.Served (capacity : Nat) (q : Subscriber) (b : Book) : Prop where
  /-- nothing was the end so far -/
  running : b.attached = true → b.live = b.since
  /-- as long as nothing is read, one event is lost for each that is too many -/
  unread : b.received = [] →
    q.dropped = b.opening.length + b.live.length - max capacity b.opening.length
  /-- the newest events of all are the live ones, and none of them is lost before the opening is -/
  newest : b.live.length ≤ capacity → ∃ front, q.places b = front ++ b.since.map some

namespace Subscriber

variable {capacity : Nat} {q : Subscriber} {b : Book}

/-- A newcomer has all of the opening waiting. -/
theorem served_enrol {s : Stream} (hending : ∀ e ∈ s.ending, e.isExit = true) (id : Nat) :
    (s.enrol id).Served s.capacity (.opened s) := by
  have hnone : 0 = (s.scrollback.history s.pane).length -
      max s.capacity (s.scrollback.history s.pane).length :=
    (Nat.sub_eq_zero_of_le (Nat.le_max_right _ _)).symm
  cases hs : s.ending with
  | none =>
    have hlive : (Book.opened s).live = [] := by simp [Book.opened, Book.live, hs]
    refine ⟨fun _ => ?_, fun _ => ?_, fun _ => ⟨(s.scrollback.history s.pane).map some, ?_⟩⟩
    · rw [hlive]
      simp [Book.opened, hs]
    · rw [hlive, Stream.enrol, hs]
      exact hnone
    · simp [Stream.enrol, Book.opened, places, Book.filled, hs]
  | some e =>
    have hlive : (Book.opened s).live = [] := by simp [Book.opened, Book.live, hs, hending e hs]
    refine ⟨fun hattached => ?_, fun _ => ?_, fun _ => ⟨(s.scrollback.history s.pane).map some, ?_⟩⟩
    · simp [Book.opened, Stream.isFinished, hs] at hattached
    · rw [hlive, Stream.enrol, hs]
      exact hnone
    · simp [Stream.enrol, finish, Book.opened, places, Book.filled, hs]

/-- Every place is that of an offer. -/
theorem Settled.length_eq (h : q.Settled capacity b) :
    b.filled.length + q.dropped + q.pending.length = b.opening.length + b.since.length := by
  have := h.tally.length_eq
  simpa [Book.offered, Nat.add_assoc] using this

/-- An event that finds room takes the last place. -/
theorem places_append (q : Subscriber) (b : Book) (e : Event) (closed attached : Bool) :
    ({ q with pending := q.pending ++ [e], closed } : Subscriber).places
        { b with since := b.since ++ [e], attached } = q.places b ++ [some e] := by
  simp [places, Book.filled]

/-- If fewer live events than events wait, the oldest of these is not live. -/
theorem Served.since_suffix (h : q.Served capacity b) (hfits : b.since.length < capacity)
    (hlive : b.live = b.since) {x : Event} {rest : List Event} (hpending : q.pending = x :: rest)
    (hfull : capacity ≤ q.pending.length) : b.since.map some <:+ rest.map some := by
  obtain ⟨front, hfront⟩ := h.newest (hlive ▸ Nat.le_of_lt hfits)
  have hplaces : front ++ b.since.map some =
      (b.filled ++ List.replicate q.dropped none ++ [some x]) ++ rest.map some := by
    rw [← hfront, places, hpending]
    simp
  rw [hpending, List.length_cons] at hfull
  refine List.suffix_of_suffix_length_le (hplaces ▸ List.suffix_append _ _)
    (List.suffix_append _ _) ?_
  rw [List.length_map, List.length_map]
  omega

/-- While nothing is read, one more live event is too many as soon as the queue is full. -/
theorem Served.unread_succ (h : q.Served capacity b) (hs : q.Settled capacity b)
    (hattached : b.attached = true) (hreceived : b.received = []) :
    b.opening.length + (b.since.length + 1) - max capacity b.opening.length =
      q.dropped + if capacity ≤ q.pending.length then 1 else 0 := by
  have hless := h.unread hreceived
  rw [h.running hattached] at hless
  -- what is offered waits or is lost
  have hall : q.dropped + q.pending.length = b.opening.length + b.since.length := by
    rw [← hs.length_eq, Book.filled, hreceived]
    simp
  split <;> omega

/-- **An event for everyone takes a live event away only if there are too many of them.** -/
theorem Served.take (h : q.Served capacity b) (hs : q.Settled capacity b) (hpos : 0 < capacity)
    (e : Event) : (q.take e).Served capacity (b.hear e) := by
  rcases hs.take_cases hpos e with ⟨-, hqueue, hbook⟩ | ⟨hattached, hexit, hqueue, hbook⟩ |
    ⟨hattached, hexit, hroom, hqueue, hbook⟩ |
    ⟨hattached, hexit, hfull, ⟨x, rest, hpending, hqueue⟩, hbook⟩ <;>
    rw [hqueue, hbook]
  · exact h
  · refine ⟨nofun, ?_, fun hfits => ?_⟩
    · rw [b.live_end hexit]
      exact h.unread
    · obtain ⟨front, hfront⟩ := h.newest (b.live_end hexit ▸ hfits)
      exact ⟨front, by rw [places_append, hfront]; simp⟩
  · have hlive : b.live = b.since := h.running hattached
    constructor
    case running => intro _; rw [b.live_concat hexit, hlive]
    case unread =>
      intro hreceived
      rw [b.live_concat hexit, hlive, List.length_append, List.length_singleton]
      simpa [Nat.not_le_of_lt hroom] using (h.unread_succ hs hattached hreceived).symm
    case newest =>
      intro hfits
      rw [b.live_concat hexit, List.length_append] at hfits
      obtain ⟨front, hfront⟩ := h.newest (Nat.le_of_add_right_le hfits)
      exact ⟨front, by rw [places_append, hfront]; simp⟩
  · have hlive : b.live = b.since := h.running hattached
    constructor
    case running => intro _; rw [b.live_concat hexit, hlive]
    case unread =>
      intro hreceived
      rw [b.live_concat hexit, hlive, List.length_append, List.length_singleton]
      simpa [hfull] using (h.unread_succ hs hattached hreceived).symm
    case newest =>
      intro hfits
      rw [b.live_concat hexit, List.length_append, hlive] at hfits
      obtain ⟨between, hbetween⟩ := h.since_suffix hfits hlive hpending hfull
      refine ⟨b.filled ++ List.replicate (q.dropped + 1) none ++ between, ?_⟩
      simp [places, Book.filled, ← hbetween]

/-- Receiving takes nothing away. -/
theorem Served.receive (h : q.Served capacity b) (pane : Nat) :
    (q.receive pane).2.Served capacity
      { b with received := b.received ++ (q.receipt? pane).toList } := by
  refine ⟨h.running, fun hreceived => ?_, fun hfits => ?_⟩
  · obtain ⟨hbefore, hnone⟩ := List.append_eq_nil_iff.mp hreceived
    -- there was nothing to receive
    have hcontents : q.contents pane = [] := by
      simpa [receipt?_eq_head?] using hnone
    rw [receive_of_contents_nil hcontents]
    exact h.unread hbefore
  · rw [places_receive]
    exact h.newest hfits

end Subscriber

/-! ## §4 Keeping up -/

/-- **Nothing is lost as long as the live events fit in**, beside `early` events that waited before the
    first of them. -/
structure Subscriber.KeepsUp (capacity early : Nat) (q : Subscriber) (b : Book) : Prop where
  waiting : q.pending.length ≤ early + b.since.length
  whole : b.live = [] ∨ early + b.live.length ≤ capacity →
    q.dropped = 0 ∧ ∀ x ∈ b.received, x.lost = 0

namespace Subscriber

variable {capacity early : Nat} {q : Subscriber} {b : Book}

/-- A queue in which nothing is lost loses nothing to an event for everyone that fits in. -/
theorem KeepsUp.take (h : q.KeepsUp capacity early b) (hr : q.Served capacity b)
    (hs : q.Settled capacity b) (hpos : 0 < capacity) (e : Event) :
    (q.take e).KeepsUp capacity early (b.hear e) := by
  have hwaiting := h.waiting
  rcases hs.take_cases hpos e with ⟨-, hqueue, hbook⟩ | ⟨hattached, hexit, hqueue, hbook⟩ |
    ⟨hattached, hexit, hroom, hqueue, hbook⟩ |
    ⟨hattached, hexit, hfull, ⟨x, rest, hpending, hqueue⟩, hbook⟩ <;>
    rw [hqueue, hbook]
  · exact h
  · refine ⟨by simp only [List.length_append, List.length_singleton]; omega, ?_⟩
    rw [b.live_end hexit]
    exact h.whole
  · refine ⟨by simp only [List.length_append, List.length_singleton]; omega, fun hfits => ?_⟩
    refine h.whole (.inr ?_)
    have hfits : early + (b.live.length + 1) ≤ capacity := by
      simpa [b.live_concat hexit] using hfits
    omega
  · rw [hpending, List.length_cons] at hwaiting
    refine ⟨by simp only [List.length_append, List.length_singleton]; omega, fun hfits => ?_⟩
    -- a full queue does not hold as little as that
    exfalso
    have hfits : early + (b.since.length + 1) ≤ capacity := by
      simpa [b.live_concat hexit, hr.running hattached] using hfits
    rw [hpending, List.length_cons] at hfull
    omega

/-- Receiving without a loss leaves no loss. -/
theorem KeepsUp.receive (h : q.KeepsUp capacity early b) (pane : Nat) :
    (q.receive pane).2.KeepsUp capacity early
      { b with received := b.received ++ (q.receipt? pane).toList } := by
  refine ⟨Nat.le_trans (q.length_pending_receive pane) h.waiting, fun hfits => ?_⟩
  obtain ⟨hdropped, hlost⟩ := h.whole hfits
  refine ⟨dropped_receive hdropped pane, fun x hx => ?_⟩
  rcases List.mem_append.mp hx with hx | hx
  · exact hlost x hx
  · rw [receipt?_eq_head?, Option.mem_toList] at hx
    exact lost_eq_zero_of_mem_contents hdropped (List.mem_of_head? hx)

end Subscriber

/-- What a subscriber may count on, who was given an opening. -/
structure Subscriber.Entitled (opening : List Event) (capacity early : Nat) (q : Subscriber)
    (b : Book) : Prop where
  opening_eq : b.opening = opening
  served : q.Served capacity b
  keepsUp : q.KeepsUp capacity early b

namespace Subscriber

variable {capacity early : Nat} {opening : List Event} {q : Subscriber} {b : Book}

/-- A newcomer may count on all of the opening, and on what fits in beside it. -/
theorem entitled_enrol {s : Stream} (hending : ∀ e ∈ s.ending, e.isExit = true) (id : Nat) :
    (s.enrol id).Entitled (s.scrollback.history s.pane) s.capacity
      (s.scrollback.history s.pane).length (.opened s) := by
  refine ⟨rfl, served_enrol hending id, ?_⟩
  cases hs : s.ending with
  | none => exact ⟨by simp [Stream.enrol, hs], fun _ => by simp [Stream.enrol, Book.opened, hs]⟩
  | some e =>
    exact ⟨by simp [Stream.enrol, finish, Book.opened, hs],
      fun _ => by simp [Stream.enrol, finish, Book.opened, hs]⟩

/-- **Each operation gives a subscriber what it may count on.** -/
theorem Entitled.after {s : Stream} (hids : (s.subscribers.map (·.id)).Nodup)
    (hq : q ∈ s.subscribers) (h : q.Entitled opening capacity early b) (hs : q.Settled capacity b)
    (hpos : 0 < capacity) {op : Stream.Op} (hop : op ≠ .drop q.id) :
    (q.after s op).Entitled opening capacity early (b.enter s op q.id) := by
  obtain ⟨hopening, hserved, hkeeps⟩ := h
  refine ⟨(Book.opening_enter s op q.id b).trans hopening, ?_, ?_⟩ <;>
    rcases after_cases hids hq op b hop with
      ⟨hqueue, hbook⟩ | ⟨hqueue, hbook⟩ | ⟨hqueue, hbook⟩ | ⟨e, -, hqueue, hbook⟩ <;>
    rw [hqueue, hbook]
  · exact hserved
  · exact ⟨nofun, hserved.unread, hserved.newest⟩
  · exact hserved.receive s.pane
  · exact hserved.take hs hpos e
  · exact hkeeps
  · exact ⟨hkeeps.waiting, hkeeps.whole⟩
  · exact hkeeps.receive s.pane
  · exact hkeeps.take hserved hs hpos e

end Subscriber

/-! ## §5 The law -/

namespace Receipt

/-- Receipts that stand for events in the last places are the last receipts. -/
theorem suffix_of_flatMap_places {xs : List Receipt} {front : List (Option Event)} {es : List Event}
    (h : xs.flatMap places = front ++ es.map some) : es <:+ xs.map (·.event) := by
  -- from the last receipt to the first
  induction xs using List.reverseRecOn generalizing es with
  | nil =>
    have hes : es = [] := by simpa using (List.append_eq_nil_iff.mp h.symm).2
    rw [hes]
    exact List.nil_suffix
  | append_singleton xs x ih =>
    rcases List.eq_nil_or_concat es with rfl | ⟨es, e, rfl⟩
    · exact List.nil_suffix
    · have hlast : xs.flatMap places ++ x.places = (front ++ es.map some) ++ [some e] := by
        simpa using h
      obtain ⟨-, rfl, hfront⟩ := of_append_places_eq hlast
      obtain ⟨earlier, hearlier⟩ := ih hfront
      exact ⟨earlier, by simp [← hearlier]⟩

end Receipt

namespace Subscriber

variable {capacity : Nat} {q : Subscriber} {b : Book}

/-- Without a loss everything that was offered is received, or waits. -/
theorem Settled.received_append_contents (h : q.Settled capacity b) (hdropped : q.dropped = 0)
    (hlost : ∀ x ∈ b.received, x.lost = 0) (pane : Nat) :
    (b.received ++ q.contents pane).map (·.event) = b.offered := by
  refine Book.map_event_eq_of_tallies ?_ fun x hx => ?_
  · rw [flatMap_places_contents]
    exact h.tally
  · rcases List.mem_append.mp hx with hx | hx
    · exact hlost x hx
    · exact lost_eq_zero_of_mem_contents hdropped hx

/-- Whoever has not received anything is about to be told how many are lost, and to receive the others. -/
theorem Settled.contents_of_unread (h : q.Settled capacity b) (hreceived : b.received = [])
    (pane : Nat) :
    (q.contents pane).map (·.event) =
      (if q.dropped = 0 then [] else [.fault pane (.truncated q.dropped)]) ++
        b.offered.drop q.dropped := by
  have htally := h.tally
  rw [Book.filled, hreceived, List.flatMap_nil, List.nil_append] at htally
  have hpending : q.pending = b.offered.drop q.dropped := by
    have hrest := List.forall₂_drop q.dropped htally
    rw [List.drop_left' List.length_replicate] at hrest
    exact Tallies.eq_of_map_some hrest
  have hwaiting : (q.pending.map fun e => (⟨e, 0⟩ : Receipt)).map (·.event) = q.pending := by
    rw [List.map_map]
    exact List.map_id' _
  rw [← hpending, contents, List.map_append, hwaiting]
  by_cases hdropped : q.dropped = 0
  · simp [hdropped]
  · simp [hdropped, Nat.pos_of_ne_zero hdropped]

variable {early : Nat} {opening : List Event} (h : q.Entitled opening capacity early b)

include h

/-- What fits in arrives, with all of the opening. -/
theorem Entitled.whole (hs : q.Settled capacity b)
    (hfits : b.live = [] ∨ early + b.live.length ≤ capacity) (pane : Nat) :
    (b.received ++ q.contents pane).map (·.event) = opening ++ b.since := by
  obtain ⟨hdropped, hlost⟩ := h.keepsUp.whole hfits
  rw [hs.received_append_contents hdropped hlost, Book.offered, h.opening_eq]

/-- Live events that fit in by themselves arrive last of all. -/
theorem Entitled.newest (hfits : b.live.length ≤ capacity) (pane : Nat) :
    b.since <:+ (b.received ++ q.contents pane).map (·.event) := by
  obtain ⟨front, hfront⟩ := h.served.newest hfits
  rw [← flatMap_places_contents pane] at hfront
  exact Receipt.suffix_of_flatMap_places hfront

/-- Of what is too much the beginning is lost, if nothing has been read. -/
theorem Entitled.unread (hs : q.Settled capacity b) (hreceived : b.received = []) (pane : Nat) :
    let lost := opening.length + b.live.length - max capacity opening.length
    (q.contents pane).map (·.event) =
      (if lost = 0 then [] else [.fault pane (.truncated lost)]) ++
        (opening ++ b.since).drop lost := by
  have hlost := h.served.unread hreceived
  rw [h.opening_eq] at hlost
  rw [hs.contents_of_unread hreceived, Book.offered, h.opening_eq, hlost]

end Subscriber

namespace Ledger

variable {l : Ledger} {id capacity : Nat}

/-- The end of a process is what a stream ends with. -/
theorem isExit_of_ending_run (pane : Nat) (limits : Limits) (capacity : Nat) (ops : List Stream.Op) :
    ∀ e ∈ ((new pane limits capacity).run ops).stream.ending, e.isExit = true := by
  refine run_induction (P := fun l => ∀ e ∈ l.stream.ending, e.isExit = true) (fun l op h => ?_)
    (by simp [new, Stream.new]) ops
  rw [ending_step]
  cases hending : l.stream.ending with
  | some exit =>
    rw [Stream.ending_perform hending, ← hending]
    exact h
  | none =>
    have hfin : l.stream.isFinished = false := by simp [Stream.isFinished, hending]
    rw [Stream.ending_perform_of_running hfin]
    exact fun e he => (Option.filter_eq_some_iff.mp he).2

/-- **A subscriber is served** from the opening on, as long as it holds its subscription. -/
structure Serves (opening : List Event) (capacity early id : Nat) (l : Ledger) : Prop where
  settled : l.Settled
  capacity_eq : l.stream.capacity = capacity
  booked : ∃ b, l.books id = some b
  entitled : ∀ b q, l.books id = some b → l.stream.subscriber? id = some q →
    q.Entitled opening capacity early b

section Serving

variable {opening : List Event} {early : Nat}

theorem Serves.settled_queue (h : l.Serves opening capacity early id) {b : Book} {q : Subscriber}
    (hb : l.books id = some b) (hq : l.stream.subscriber? id = some q) : q.Settled capacity b :=
  h.capacity_eq ▸ h.settled.of_subscriber? hq hb

/-- A newcomer is served from what is remembered on. -/
theorem serves_subscribe (hs : l.Settled) (hid : l.books id = none)
    (hending : ∀ e ∈ l.stream.ending, e.isExit = true) :
    (l.step (.subscribe id)).Serves (l.stream.scrollback.history l.stream.pane) l.stream.capacity
      (l.stream.scrollback.history l.stream.pane).length id := by
  rcases hs.step_cases (.subscribe id) id with ⟨-, -, -, hbook, hqueue⟩ | ⟨hheld, -⟩
  · refine ⟨hs.step _, (pane_capacity_step l _).2, ⟨_, hbook⟩, fun b q hb hq => ?_⟩
    rw [hbook, Option.some.injEq] at hb
    rw [hqueue, Option.some.injEq] at hq
    rw [← hb, ← hq]
    exact Subscriber.entitled_enrol hending id
  · exact absurd hid (hheld rfl)

/-- **Each operation serves whoever is served.** -/
theorem Serves.step (h : l.Serves opening capacity early id) (op : Stream.Op) :
    (l.step op).Serves opening capacity early id := by
  obtain ⟨b₀, hb₀⟩ := h.booked
  rcases h.settled.step_cases op id with ⟨-, hnone, -⟩ | ⟨-, hbook, hqueue⟩
  · rw [hnone] at hb₀
    cases hb₀
  · rw [hb₀, Option.map_some] at hbook
    refine ⟨h.settled.step op, (pane_capacity_step l op).2.trans h.capacity_eq, ⟨_, hbook⟩,
      fun b q hb hq => ?_⟩
    rw [hbook, Option.some.injEq] at hb
    rw [hqueue] at hq
    split at hq
    · cases hq
    case isFalse hop =>
      obtain ⟨q₀, hq₀, rfl⟩ := Option.map_eq_some_iff.mp hq
      obtain ⟨hmem, rfl⟩ := Stream.mem_of_subscriber?_eq_some hq₀
      exact hb ▸ (h.entitled b₀ q₀ hb₀ hq₀).after h.settled.ids hmem (h.settled_queue hb₀ hq₀)
        (h.capacity_eq ▸ h.settled.capacity_pos) hop

theorem Serves.run (h : l.Serves opening capacity early id) (ops : List Stream.Op) :
    (l.run ops).Serves opening capacity early id :=
  run_induction (fun _ op h => h.step op) h ops

/-- Before the first live event it is enough to look at what waits. -/
theorem Serves.of_waiting (h : l.Serves opening capacity early id) {b : Book} {q : Subscriber}
    (hb : l.books id = some b) (hq : l.stream.subscriber? id = some q) (hlive : b.live = []) :
    l.Serves opening capacity q.pending.length id := by
  refine ⟨h.settled, h.capacity_eq, h.booked, fun b' q' hb' hq' => ?_⟩
  obtain rfl : b = b' := Option.some.inj (hb.symm.trans hb')
  obtain rfl : q = q' := Option.some.inj (hq.symm.trans hq')
  obtain ⟨hopening, hserved, hkeeps⟩ := h.entitled b q hb hq
  exact ⟨hopening, hserved, Nat.le_add_right _ _, fun _ => hkeeps.whole (.inl hlive)⟩

end Serving

/-- **How much of the opening arrives**: let a subscriber come to any stream, with any number of chunks
    remembered, and hold its subscription. What it has received by any later moment, and would receive by
    draining its queue then, is the whole opening and everything since, if nothing live was published
    since, or no more than fits into the queue together with the opening, or with what was waiting at
    some moment before the first live event. If the live events alone fit, they are the last things to
    arrive, and none of them is missing. Whoever has read nothing yet misses one event of the beginning
    for each that is too many, and is told how many these are. -/
theorem opening_and_live (pane : Nat) (limits : Limits) (capacity : Nat)
    (before after : List Stream.Op) (id : Nat) (q : Subscriber)
    (hnew : ((new pane limits capacity).run before).books id = none)
    (hq : ((new pane limits capacity).run
      (before ++ .subscribe id :: after)).stream.subscriber? id = some q) :
    let opening := ((new pane limits capacity).run before).stream.scrollback.history pane
    let room := max 1 capacity
    let since := fun ops => (new pane limits capacity).run (before ++ .subscribe id :: ops)
    ∃ b, (since after).books id = some b ∧ b.opening = opening ∧
      let drained := ((since after).stream.drain id).1
      let got := b.received.map (·.event) ++ drained
      (b.live = [] ∨ opening.length + b.live.length ≤ room → got = opening ++ b.since) ∧
      (∀ early late q₁ b₁, after = early ++ late → (since early).stream.subscriber? id = some q₁ →
        (since early).books id = some b₁ → b₁.live = [] →
          q₁.pending.length + b.live.length ≤ room → got = opening ++ b.since) ∧
      (b.live.length ≤ room → b.since <:+ got) ∧
      (b.received = [] →
        let lost := opening.length + b.live.length - max room opening.length
        drained = (if lost = 0 then [] else [.fault pane (.truncated lost)]) ++
          (opening ++ b.since).drop lost) := by
  intro opening room since
  have hsince : ∀ ops ops', since (ops ++ ops') = (since ops).run ops' := fun ops ops' => by
    simp [since, run]
  have hserves : ∀ ops, (since ops).Serves opening room opening.length id := by
    intro ops
    have hfirst := serves_subscribe (settled_run pane limits capacity before) hnew
      (isExit_of_ending_run pane limits capacity before)
    have hroom : ((new pane limits capacity).run before).stream.capacity = room :=
      (pane_capacity_run _ before).2.trans (Nat.max_comm capacity 1)
    rw [hroom, (pane_capacity_run _ before).1] at hfirst
    have hrun : since ops =
        (((new pane limits capacity).run before).step (.subscribe id)).run ops := by
      simp [since, run]
    rw [hrun]
    exact hfirst.run ops
  obtain ⟨b, hb⟩ := (hserves after).booked
  have hentitled := (hserves after).entitled b q hb hq
  have hsettled := (hserves after).settled_queue hb hq
  have hdrained : ((since after).stream.drain id).1 = (q.contents pane).map (·.event) := by
    rw [Stream.drain_fst hq, (pane_capacity_run _ _).1]
    rfl
  refine ⟨b, hb, hentitled.opening_eq, ?_⟩
  simp only [hdrained, ← List.map_append]
  refine ⟨fun hfits => hentitled.whole hsettled hfits pane, ?_,
    fun hfits => hentitled.newest hfits pane,
    fun hreceived => hentitled.unread hsettled hreceived pane⟩
  rintro early late q₁ b₁ rfl hq₁ hb₁ hlive hfits
  -- the rest of the run is served with what waits at that moment
  have hlate := ((hserves early).of_waiting hb₁ hq₁ hlive).run late
  rw [← hsince] at hlate
  exact (hlate.entitled b q hb hq).whole hsettled (.inr hfits) pane

/-- With room for two, one live event displaces the first of three chunks remembered, and does not if the
    subscriber has read two of them before. -/
theorem opening_and_live_late :
    let before : List Stream.Op :=
      [.output ⟨0, 0⟩ [65], .output ⟨0, 0⟩ [66], .output ⟨0, 0⟩ [67]]
    let since := fun ops => (new 7 {} 2).run (before ++ .subscribe 4 :: ops)
    let idle : List Stream.Op := [.output ⟨0, 0⟩ [68]]
    let early : List Stream.Op := [.receive 4, .receive 4]
    let chunk := fun seq data => Event.output ⟨7, seq, [data]⟩
    ((new 7 {} 2).run before).books 4 = none ∧
      (since idle).stream.subscriber? 4 = some
        { id := 4, capacity := 2, dropped := 1, pending := [chunk 2 66, chunk 3 67, chunk 4 68] } ∧
      ((since idle).stream.drain 4).1 =
        [.fault 7 (.truncated 1), chunk 2 66, chunk 3 67, chunk 4 68] ∧
      (since (early ++ idle)).stream.subscriber? 4 = some
        { id := 4, capacity := 2, pending := [chunk 3 67, chunk 4 68] } ∧
      ∃ b, (since (early ++ idle)).books 4 = some b ∧
        b.received.map (·.event) ++ ((since (early ++ idle)).stream.drain 4).1 =
          [chunk 1 65, chunk 2 66, chunk 3 67, chunk 4 68] := by
  intro before since idle early chunk
  refine ⟨rfl, rfl, ?_, rfl, ?_⟩
  · obtain ⟨b, hb, -, -, -, -, hlost⟩ := opening_and_live 7 {} 2 before idle 4 _ rfl rfl
    obtain rfl := Option.some.inj hb
    exact hlost rfl
  · obtain ⟨b, hb, -, -, hkept, -⟩ := opening_and_live 7 {} 2 before (early ++ idle) 4 _ rfl rfl
    refine ⟨b, hb, ?_⟩
    obtain rfl := Option.some.inj hb
    exact hkept early idle _ _ rfl rfl rfl rfl (by decide)

/-- The opening is not always complete, although it goes into the queue whole: one live event, where two
    would fit, displaces a chunk that nobody has read. -/
theorem opening_displaced :
    let l := (new 7 {} 2).run [.output ⟨0, 0⟩ [65], .output ⟨0, 0⟩ [66], .output ⟨0, 0⟩ [67],
      .subscribe 4, .output ⟨0, 0⟩ [68]]
    ∃ b, l.books 4 = some b ∧ b.live.length ≤ max 1 2 ∧
      b.received.map (·.event) ++ (l.stream.drain 4).1 ≠ b.opening ++ b.since :=
  ⟨_, rfl, by decide, by decide⟩

end Ledger

end PaneMux
