import PaneMux.Terminal.Geometry
import PaneMux.Text.Utf8

/-!
# The line discipline

What stands between the two ends of a terminal: it echoes what is typed, lets lines be edited before
they are read, turns some keys into signals, and ends written lines with a return.

## Main definitions

- `Tty.key`, `Tty.type` : what becomes of typed bytes
- `Tty.write` : what becomes of written bytes
- `Tty.read?` : what a program gets when it reads
-/

namespace PaneMux

/-- A signal that reaches the processes of a terminal. -/
inductive Signal where
  | hangUp
  | interrupt
  | quit
  | kill
  | terminate
  /-- any other, by its number -/
  | other (number : Nat)
  deriving DecidableEq, Repr

namespace Signal

/-- The signals that have names here. -/
def named : List (String × Nat × Signal) :=
  [("HUP", 1, .hangUp), ("INT", 2, .interrupt), ("QUIT", 3, .quit), ("KILL", 9, .kill),
    ("USR1", 10, .other 10), ("USR2", 12, .other 12), ("PIPE", 13, .other 13),
    ("ALRM", 14, .other 14), ("TERM", 15, .terminate), ("CHLD", 17, .other 17),
    ("CONT", 18, .other 18), ("URG", 23, .other 23), ("WINCH", 28, .other 28)]

/-- The number of a signal. -/
def number : Signal → Nat
  | .hangUp => 1
  | .interrupt => 2
  | .quit => 3
  | .kill => 9
  | .terminate => 15
  | .other n => n

/-- The size of the terminal has changed. -/
def resized : Signal := .other 28

/-- A process that has not said what to do about the signal takes no notice of it. -/
def isHarmless : Signal → Bool
  | .other n => n = 17 || n = 18 || n = 23 || n = 28
  | _ => false

/-- The signal with a number. -/
def ofNumber (n : Nat) : Signal :=
  match named.find? (·.2.1 = n) with
  | some s => s.2.2
  | none => .other n

/-- The signal with a name, which may begin with `SIG`. -/
def ofName? (name : String) : Option Signal :=
  (named.find? fun s => s.1 = name ∨ "SIG" ++ s.1 = name).map (·.2.2)

end Signal

/-- How a terminal treats what is typed and what is written. -/
structure TtyModes where
  echo : Bool := true
  /-- input is read by the line, and lines can be edited -/
  canonical : Bool := true
  /-- keys send signals -/
  signals : Bool := true
  /-- a typed return counts as a newline -/
  returnIsNewline : Bool := true
  /-- a newline is written with a return in front of it -/
  returnBeforeNewline : Bool := true
  deriving DecidableEq, Repr

/-- A terminal as the system keeps it. -/
structure Tty where
  modes : TtyModes := {}
  size : Geometry := {}
  /-- the line being edited -/
  line : Bytes := []
  /-- what can be read, piece by piece; an empty piece is the end of the input -/
  ready : List Bytes := []
  /-- the column in which the next byte is written -/
  column : Nat := 0
  /-- the column in which the edited line begins -/
  lineStart : Nat := 0
  /-- the next key is taken as it is -/
  literal : Bool := false
  deriving DecidableEq, Repr

namespace Tty

/-! ## §1 Writing -/

/-- The column after a byte has been shown. -/
def columnAfter (column : Nat) (b : UInt8) : Nat :=
  if b = 13 then 0
  else if b = 8 then column - 1
  else if b = 9 then (column / 8 + 1) * 8
  else if b < 32 ∨ b = 127 then column
  else column + 1

/-- Writes bytes: what is shown. -/
def write (t : Tty) (data : Bytes) : Bytes × Tty :=
  let shown :=
    if t.modes.returnBeforeNewline then data.flatMap fun b => if b = newline then [13, newline] else [b]
    else data
  (shown, { t with column := shown.foldl columnAfter t.column })

/-! ## §2 Echo -/

/-- A control character other than a tab or a newline is shown by two characters. -/
def isControl (b : UInt8) : Bool := (b < 32 && b != 9 && b != newline) || b == 127

/-- How a typed byte is shown. -/
def spell (b : UInt8) : Bytes := if isControl b then [94, b ^^^ 64] else [b]

/-- Shows bytes if typed bytes are shown. -/
def echo (t : Tty) (data : Bytes) : Bytes × Tty := if t.modes.echo then t.write data else ([], t)

/-- How many columns bytes take, of which none is a tab. -/
def widthOf (data : Bytes) : Nat := (data.map fun b => (spell b).length).foldr (· + ·) 0

/-- How many columns the tab at the end of a line takes. -/
def tabWidth (t : Tty) (before : Bytes) : Nat :=
  let part := before.reverse.takeWhile (· ≠ 9)
  let width := widthOf part + (if part.length = before.length then t.lineStart else 0)
  8 - width % 8

/-- One column back, a blank over what was there, and back again. -/
def rubout : Bytes := [8, 32, 8]

/-- Takes the last byte off the line. -/
def erase (t : Tty) : Bytes × Tty :=
  match t.line.getLast? with
  | none => ([], t)
  | some b =>
    let before := t.line.dropLast
    let marks :=
      if b = 9 then List.replicate (t.tabWidth before) 8
      else (List.replicate (spell b).length rubout).flatten
    let (shown, t') := t.echo marks
    (shown, { t' with line := before })

/-- Takes bytes off the line: as many as `n`, and no more once `stop` says so of what has been passed
    and what comes next. -/
def eraseWhile (n : Nat) (go : Bool → UInt8 → Bool) (passed : Bool) (t : Tty) : Bytes × Tty :=
  match n, t.line.getLast? with
  | 0, _ | _, none => ([], t)
  | n + 1, some b =>
    if go passed b then
      let (shown, t) := t.erase
      let (more, t) := eraseWhile n go (passed || isWord b) t
      (shown ++ more, t)
    else ([], t)
where
  isWord (b : UInt8) : Bool :=
    (48 ≤ b && b ≤ 57) || (65 ≤ b && b ≤ 90) || (97 ≤ b && b ≤ 122) || b = 95

/-! ## §3 Typing -/

/-- The most bytes a line can have. -/
def maxLine : Nat := 4096

/-- Puts a byte at the end of the line. In a full line it takes the place of the last one. -/
def append (t : Tty) (b : UInt8) : Tty :=
  let line := if maxLine ≤ t.line.length then t.line.dropLast else t.line
  { t with line := line ++ [b] }

/-- Lets the line be read. -/
def complete (t : Tty) : Tty :=
  { t with line := [], ready := t.ready ++ [t.line], lineStart := t.column }

/-- Takes a byte that is no more than itself. -/
def plain (t : Tty) (b : UInt8) : Bytes × Tty :=
  let start := if t.line.isEmpty then t.column else t.lineStart
  let (shown, t) := t.echo (spell b)
  if t.modes.canonical then (shown, { t with lineStart := start }.append b)
  else (shown, { t with ready := t.ready ++ [[b]] })

/-- Takes a key that edits or ends the line, or else is no more than itself. -/
def edit (t : Tty) (b : UInt8) : Bytes × Tty :=
  if b = newline then
    let (shown, t) := t.echo [newline]
    (shown, (t.append newline).complete)
  else if b = 4 then ([], t.complete)
  else if b = 127 then t.erase
  else if b = 21 then eraseWhile t.line.length (fun _ _ => true) false t
  else if b = 23 then
    eraseWhile t.line.length (fun passed b => eraseWhile.isWord b || !passed) false t
  else if b = 22 then
    let (shown, t) := t.echo [94, 8]
    (shown, { t with literal := true })
  else if b = 18 then
    let (shown, t) := t.echo (spell b ++ [newline] ++ t.line.flatMap spell)
    (shown, t)
  else t.plain b

/-- The signal that a key sends. -/
def signalOf? (b : UInt8) : Option Signal :=
  if b = 3 then some .interrupt else if b = 28 then some .quit else none

/-- Takes one typed byte: what is shown, and the signal that it sends. A signal empties the queues. -/
def key (t : Tty) (b : UInt8) : Bytes × Option Signal × Tty :=
  if t.literal then
    let (shown, t) := { t with literal := false }.plain b
    (shown, none, t)
  else
    match (if t.modes.signals then signalOf? b else none) with
    | some s =>
      let (shown, t) := t.echo (spell b)
      (shown, some s, { t with line := [], ready := [] })
    | none =>
      let b := if b = 13 ∧ t.modes.returnIsNewline then newline else b
      let (shown, t) := if t.modes.canonical then t.edit b else t.plain b
      (shown, none, t)

/-- Takes typed bytes: what is shown, and the signals that they send. -/
def type (t : Tty) : Bytes → Bytes × List Signal × Tty
  | [] => ([], [], t)
  | b :: rest =>
    let (shown, signal, t) := t.key b
    let (more, signals, t) := t.type rest
    (shown ++ more, signal.toList ++ signals, t)

/-! ## §4 Reading -/

/-- Reads at most `n` bytes: one piece, or all there is when input is not read by the line. An empty
    result is the end of the input; there is none while there is nothing to read. -/
def read? (n : Nat) (t : Tty) : Option (Bytes × Tty) :=
  if t.modes.canonical then
    match t.ready with
    | [] => none
    | piece :: rest =>
      some (piece.take n, { t with ready := if piece.length ≤ n then rest else piece.drop n :: rest })
  else
    match t.ready.flatten with
    | [] => none
    | all => some (all.take n, { t with ready := if all.length ≤ n then [] else [all.drop n] })

/-- Changes the modes. What is in the edited line can be read at once when lines are no longer
    edited. -/
def setModes (t : Tty) (modes : TtyModes) : Tty :=
  if t.modes.canonical ∧ !modes.canonical ∧ !t.line.isEmpty then { t.complete with modes }
  else { t with modes }

end Tty

end PaneMux
