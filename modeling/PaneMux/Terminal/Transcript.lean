import PaneMux.Terminal.Process

/-!
# Transcripts

What a subscriber makes of the events it receives: the pieces of output are joined, resizes and faults
are kept beside them, and the numbers tell whether anything is missing.

## Main definitions

- `Transcript.add` : another event
- `Transcript.read?` : read what is wanted, if it is there
-/

namespace PaneMux

/-- What a subscriber has made of its events. -/
structure Transcript where
  /-- output that has not been read -/
  output : Bytes := []
  /-- resizes that have not been read, oldest first -/
  sizes : List Geometry := []
  /-- faults that have not been read, oldest first -/
  faults : List StreamFault := []
  ending : Option ProcessExit := none
  /-- the number that comes next when nothing is missing -/
  nextSeq : Nat := 1
  gapFree : Bool := true
  deriving DecidableEq, Repr

namespace Transcript

/-- Looks at the number of an event. -/
def count (t : Transcript) (e : Event) : Transcript :=
  match e.seq? with
  | none => t
  | some n => { t with nextSeq := n + 1, gapFree := t.gapFree && n == t.nextSeq }

/-- Adds an event. -/
def add (t : Transcript) (e : Event) : Transcript :=
  let t := t.count e
  match e with
  | .output c => { t with output := t.output ++ c.data }
  | .exit _ _ code killed => { t with ending := some ⟨code, killed⟩ }
  | .fault _ f => { t with faults := t.faults ++ [f] }
  | .resized _ g => { t with sizes := t.sizes ++ [g] }

/-- Adds events, oldest first. -/
def addAll (t : Transcript) (es : List Event) : Transcript := es.foldl add t

/-- Bytes up to the end of the first place at which a text stands in them, and the rest. -/
def splitAfter? (text : Bytes) : Bytes → Option (Bytes × Bytes)
  | [] => if text.isEmpty then some ([], []) else none
  | b :: rest =>
    if text.isPrefixOf (b :: rest) then some (text, (b :: rest).drop text.length)
    else (splitAfter? text rest).map fun s => (b :: s.1, s.2)

/-- What a reader wants. -/
inductive Wanted where
  /-- output up to a text -/
  | through (text : Bytes)
  /-- the next resize -/
  | size
  /-- all there is, once the process has ended -/
  | everything
  deriving DecidableEq, Repr

/-- What a reader gets. -/
inductive Reading where
  | output (data : Bytes)
  | size (size : Geometry)
  /-- what was left when the process ended -/
  | rest (t : Transcript)
  deriving DecidableEq, Repr

/-- Reads all that is left. The end stays known. -/
def readRest (t : Transcript) : Reading × Transcript :=
  (.rest t, { t with output := [], sizes := [], faults := [] })

/-- Reads what is wanted; what there will not be any more gives way to all that is left, and nothing is
    read while it may still come. -/
def read? (t : Transcript) (w : Wanted) : Option (Reading × Transcript) :=
  let found : Option (Reading × Transcript) := match w with
    | .through text =>
      (splitAfter? text t.output).map fun (read, output) => (.output read, { t with output })
    | .size =>
      match t.sizes with
      | [] => none
      | g :: sizes => some (.size g, { t with sizes })
    | .everything => none
  found.or (if t.ending.isSome then some t.readRest else none)

end Transcript

end PaneMux
