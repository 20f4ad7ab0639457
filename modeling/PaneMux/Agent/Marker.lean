import PaneMux.Agent.Status
import PaneMux.Pattern.Basic

/-!
# Status markers

How an agent reports its status in its output: by a control sequence that a terminal does not show,
by a tag in plain text, or by whatever a configured pattern finds. The word in a marker names the
status; a marker with any other word is no report.

## Main definitions

- `Marker.matchAt?` : the marker at a place
- `Marker.occurrences` : its matches in a byte string, from left to right, without overlaps
- `Marker.report?` : the status that the last report in a byte string names
-/

namespace PaneMux

/-- A form of status report. -/
inductive Marker where
  /-- `ESC ] 7770;status=word`, ended by BEL or by `ESC \` -/
  | sequence
  /-- `[agent:word]` -/
  | tag
  | pattern (p : Pattern)
  deriving Repr

/-- A marker found in a byte string. -/
structure Occurrence where
  start : Nat
  length : Nat
  word : Option Bytes
  deriving DecidableEq, Repr

/-- The status an occurrence reports, if its word names one. -/
def Occurrence.status? (o : Occurrence) : Option AgentStatus :=
  o.word.bind AgentStatus.ofBytes?

namespace Marker

/-- The forms that are always known. -/
def builtIn : List Marker := [.sequence, .tag]

/-! ## §1 One match -/

/-- What is left of a byte string behind a beginning. -/
def after? : Bytes → Bytes → Option Bytes
  | [], rest => some rest
  | a :: start, b :: rest => if a = b then after? start rest else none
  | _ :: _, [] => none

/-- A lower case ASCII letter. -/
def isLower (b : UInt8) : Bool := 97 ≤ b && b ≤ 122

/-- The beginning of a control sequence. -/
def sequenceStart : Bytes := 27 :: Utf8.encode "]7770;status="

/-- The ends of a control sequence. -/
def sequenceEnds : List Bytes := [[7], [27, 92]]

/-- The beginning of a tag. -/
def tagStart : Bytes := Utf8.encode "[agent:"

/-- The end of a tag. -/
def tagEnd : Bytes := Utf8.encode "]"

/-- A match of `start`, a word of lower case letters, and one of some ends, at the beginning of a
    byte string. No end begins with a letter, so the word is all letters there are. -/
def framed? (start : Bytes) (ends : List Bytes) (rest : Bytes) : Option (Nat × Option Bytes) := do
  let inside ← after? start rest
  let word := inside.takeWhile isLower
  guard !word.isEmpty
  let close ← ends.find? fun e => e.isPrefixOf (inside.drop word.length)
  return (start.length + word.length + close.length, some word)

/-- The match of a marker at a place: the number of its bytes and its word. -/
def matchAt? (m : Marker) (previous : Option UInt8) (rest : Bytes) :
    Option (Nat × Option Bytes) :=
  match m with
  | .sequence => framed? sequenceStart sequenceEnds rest
  | .tag => framed? tagStart [tagEnd] rest
  | .pattern p => p.matchAt? previous rest

/-! ## §2 All matches -/

/-- Gathers matches from a place on, behind those already `found`, newest first. The next `skip`
    bytes belong to the last match. A match of no bytes has no word and is passed over. -/
def gather (m : Marker) (found : List Occurrence) (start skip : Nat) (previous : Option UInt8) :
    Bytes → List Occurrence
  | [] => found
  | b :: rest =>
    match skip with
    | skip + 1 => m.gather found (start + 1) skip (some b) rest
    | 0 =>
      match m.matchAt? previous (b :: rest) with
      | some (length + 1, word) =>
        m.gather (⟨start, length + 1, word⟩ :: found) (start + 1) length (some b) rest
      | _ => m.gather found (start + 1) 0 (some b) rest

/-- The matches in a byte string, from left to right. -/
def occurrences (m : Marker) (data : Bytes) : List Occurrence :=
  (m.gather [] 0 0 none data).reverse

/-! ## §3 The last report -/

/-- The reports of some markers in a byte string: where each starts and what it says. -/
def reports (markers : List Marker) (data : Bytes) : List (Nat × AgentStatus) :=
  markers.flatMap fun m =>
    (m.occurrences data).filterMap fun o => o.status?.map fun s => (o.start, s)

/-- The report that starts last; of several that start there, the last one listed. -/
def latest (rs : List (Nat × AgentStatus)) : Option (Nat × AgentStatus) :=
  rs.foldl (fun best r =>
    match best with
    | some b => if b.1 ≤ r.1 then some r else some b
    | none => some r) none

/-- The status that the last report in a byte string names. -/
def report? (markers : List Marker) (data : Bytes) : Option AgentStatus :=
  (latest (reports markers data)).map (·.2)

end Marker

end PaneMux
