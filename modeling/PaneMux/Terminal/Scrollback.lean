import PaneMux.Text.Utf8

/-!
# Scrollback

The output a pane still remembers: its newest chunks, bounded by a number of lines and a number of
bytes, whichever is reached first. Whole chunks leave at the old end. The newest chunk always
stays; when it does not fit on its own, its head is cut off. What left is counted, so that a late
reader can be told that history is missing.

## Main definitions

- `Scrollback.push` : remember one more chunk
- `Scrollback.toBytes` : everything still remembered, as one byte string
- `Scrollback.tailLines` : the last lines of it
- `Scrollback.search` : the lines that contain a text, by their number since the pane started
-/

namespace PaneMux

/-- One piece of a pane's output. -/
structure Chunk where
  pane : Nat
  /-- the place in the pane's sequence, from one on -/
  seq : Nat
  data : Bytes
  deriving DecidableEq, Repr

/-- The number of line ends in a byte string. -/
def newlines (data : Bytes) : Nat := data.count newline

/-- How much a scrollback may hold. -/
structure Limits where
  maxLines : Nat := 10000
  maxBytes : Nat := 8388608
  deriving DecidableEq, Repr

/-- The limits as they are used: a limit of zero counts as one. -/
def Limits.atLeastOne (l : Limits) : Limits := ⟨max l.maxLines 1, max l.maxBytes 1⟩

/-- How much has left a scrollback. -/
structure Truncation where
  chunks : Nat := 0
  bytes : Nat := 0
  lines : Nat := 0
  deriving DecidableEq, Repr

/-- Something has been lost. -/
def Truncation.isTruncated (t : Truncation) : Bool := 0 < t.bytes

/-- A line found by a search. -/
structure LineMatch where
  /-- the number of the line since the pane started, from zero on -/
  line : Nat
  text : String
  deriving DecidableEq, Repr

/-- The remembered output of a pane. `lines` and `bytes` count what is held. -/
structure Scrollback where
  limits : Limits
  /-- oldest first -/
  chunks : List Chunk := []
  lines : Nat := 0
  bytes : Nat := 0
  truncation : Truncation := {}
  deriving DecidableEq, Repr

namespace Scrollback

/-! ## §1 Growing and shrinking -/

/-- An empty scrollback. -/
def empty (limits : Limits) : Scrollback := { limits := limits.atLeastOne }

/-- More is held than a limit allows. -/
def overLimit (b : Scrollback) : Bool :=
  b.limits.maxLines < b.lines || b.limits.maxBytes < b.bytes

/-- Lets the oldest chunk go. -/
def dropOldest (b : Scrollback) (old : Chunk) (rest : List Chunk) : Scrollback :=
  { b with
    chunks := rest
    lines := b.lines - newlines old.data
    bytes := b.bytes - old.data.length
    truncation :=
      { chunks := b.truncation.chunks + 1
        bytes := b.truncation.bytes + old.data.length
        lines := b.truncation.lines + newlines old.data } }

/-- Lets the oldest of the given chunks go while a limit is exceeded, all but the last of them. -/
def evictFrom (b : Scrollback) : List Chunk → Scrollback
  | old :: next :: rest =>
    if b.overLimit then (b.dropOldest old (next :: rest)).evictFrom (next :: rest) else b
  | _ => b

/-- The number of bytes up to and including the `n`-th line end, zero when there are fewer. -/
def afterNewline (n : Nat) (data : Bytes) : Nat := go n 0 data
where
  /-- `passed` bytes have been counted already -/
  go : Nat → Nat → Bytes → Nat
  | 0, _, _ => 0
  | _, _, [] => 0
  | n + 1, passed, c :: rest =>
    if c = newline then
      if n = 0 then passed + 1 else go n (passed + 1) rest
    else go (n + 1) (passed + 1) rest

/-- How much of the head of the only chunk has to go: all lines over the limit, and at least as
    many bytes as are over theirs. -/
def excess (b : Scrollback) (data : Bytes) : Nat :=
  max (afterNewline (b.lines - b.limits.maxLines) data) (data.length - b.limits.maxBytes)

/-- Cuts the head off the only chunk. -/
def trim (b : Scrollback) : Scrollback :=
  match b.chunks with
  | [] => b
  | c :: rest =>
    let cut := b.excess c.data
    let cutLines := newlines (c.data.take cut)
    { b with
      chunks := { c with data := c.data.drop cut } :: rest
      lines := b.lines - cutLines
      bytes := b.bytes - cut
      truncation :=
        { b.truncation with
          bytes := b.truncation.bytes + cut
          lines := b.truncation.lines + cutLines } }

/-- Puts a chunk at the new end, without regard to the limits. -/
def append (b : Scrollback) (c : Chunk) : Scrollback :=
  { b with
    chunks := b.chunks ++ [c]
    lines := b.lines + newlines c.data
    bytes := b.bytes + c.data.length }

/-- Brings the scrollback back within its limits. -/
def shrink (b : Scrollback) : Scrollback :=
  let b := b.evictFrom b.chunks
  if b.overLimit then b.trim else b

/-- Remembers one more chunk. An empty one leaves no trace. -/
def push (b : Scrollback) (c : Chunk) : Scrollback :=
  if c.data.isEmpty then b else (b.append c).shrink

/-- Forgets everything held, without counting it as lost. -/
def clear (b : Scrollback) : Scrollback :=
  { b with chunks := [], lines := 0, bytes := 0 }

/-! ## §2 Reading -/

/-- Everything held, oldest byte first. -/
def toBytes (b : Scrollback) : Bytes := b.chunks.flatMap Chunk.data

/-- Collects bytes from the newest on, up to but not including the `n`-th line end from there. -/
def lastLines : Nat → Bytes → Bytes → Bytes
  | _, tail, [] => tail
  | n, tail, c :: older =>
    if c = newline then
      match n with
      | 0 | 1 => tail
      | n + 2 => lastLines (n + 1) (c :: tail) older
    else lastLines n (c :: tail) older

/-- The last `n` lines of a byte string. A line end at the very end closes the last line and does
    not begin another. -/
def tailOf (n : Nat) (all : Bytes) : Bytes :=
  if n = 0 then []
  else match all.reverse with
    | [] => []
    | c :: older => if c = newline then lastLines n [c] older else lastLines n [] (c :: older)

/-- The last `n` lines held, an unfinished one included. -/
def tailLines (b : Scrollback) (n : Nat) : Bytes := tailOf n b.toBytes

/-- Splits a text at its line ends. `line` holds the characters of the line so far, and `lines` the
    lines before it, both newest first. -/
def splitLines (lines : List (List Char)) (line : List Char) : List Char → List (List Char)
  | [] => (line.reverse :: lines).reverse
  | c :: rest =>
    if c = '\n' then splitLines (line.reverse :: lines) [] rest
    else splitLines lines (c :: line) rest

/-- The needle occurs in the line. -/
def occursIn (needle : List Char) : List Char → Bool
  | [] => needle.isEmpty
  | c :: rest => needle.isPrefixOf (c :: rest) || occursIn needle rest

/-- A line without the carriage returns at its end. -/
def dropReturns (line : List Char) : List Char :=
  (line.reverse.dropWhile (· = '\r')).reverse

/-- The lines held that contain a text, numbered from `first` on. -/
def matchesFrom (needle : List Char) : Nat → List (List Char) → List LineMatch
  | _, [] => []
  | n, line :: rest =>
    if occursIn needle line then
      { line := n, text := String.ofList (dropReturns line) } :: matchesFrom needle (n + 1) rest
    else matchesFrom needle (n + 1) rest

/-- The lines held that contain a text. The empty text is found nowhere. -/
def search (b : Scrollback) (needle : String) : List LineMatch :=
  if needle.isEmpty then []
  else
    matchesFrom needle.toList b.truncation.lines
      (splitLines [] [] (Utf8.decodeChars b.toBytes))

/-- The number of chunks held. -/
def length (b : Scrollback) : Nat := b.chunks.length

end Scrollback

end PaneMux
