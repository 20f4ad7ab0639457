import PaneMux.Terminal.Transcript
import PaneMux.Time.Wait
import PaneMux.Wire.Pump

/-!
# Inboxes

What a client has made of the events of all its subscriptions, and how it waits for more.
-/

namespace PaneMux

/-- Transcripts, by subscription. -/
abbrev Inbox := List (Nat × Transcript)

namespace Inbox

/-- The transcript of a subscription. -/
def get (b : Inbox) (subscription : Nat) : Transcript :=
  ((b.find? (·.1 = subscription)).map (·.2)).getD {}

/-- Changes the transcript of a subscription. -/
def put (b : Inbox) (subscription : Nat) (t : Transcript) : Inbox :=
  (subscription, t) :: b.filter (·.1 ≠ subscription)

/-- Adds events, oldest first. -/
def add (b : Inbox) (events : List Carried) : Inbox :=
  events.foldl (fun b e => b.put e.1 ((b.get e.1).add e.2)) b

/-- Reads what is wanted of a subscription, if it is there. -/
def read? (b : Inbox) (subscription : Nat) (w : Transcript.Wanted) :
    Option (Transcript.Reading × Inbox) :=
  ((b.get subscription).read? w).map fun r => (r.1, b.put subscription r.2)

variable {σ : Type}

/-- Receives events while time passes until what is wanted of a subscription is there, but no longer than
    some milliseconds. -/
def await (tick : σ → σ) (receive : σ → List Carried × σ) (subscription : Nat)
    (w : Transcript.Wanted) (patience : Nat) (b : Inbox) (s : σ) :
    Option Transcript.Reading × Inbox × σ :=
  let ask : Inbox × σ → Option Transcript.Reading × Inbox × σ := fun (b, s) =>
    let (events, s) := receive s
    let b := b.add events
    match b.read? subscription w with
    | some (r, b) => (some r, b, s)
    | none => (none, b, s)
  waitFor (fun p => (p.1, tick p.2)) ask patience (b, s)

end Inbox

end PaneMux
