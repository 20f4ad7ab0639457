import PaneMux.Host.Process.Basic

/-!
# Programs

What a process does that is no shell: it copies, cuts or counts its input, sleeps, reads a line, or looks
at its terminal. All of it is done in pieces, so that it can wait.

## Main definitions

- `Process.work` : the next piece of some work
- `Process.stty` : show or change the terminal
- `Process.program?` : begin a program by its name
-/

namespace PaneMux

open Script (Scope)

namespace Process

/-! ## §1 Input -/

/-- Takes input, at most `n` bytes. Nothing is taken while the terminal has nothing to give. -/
def take? (p : Process) (n : Nat) : Option (Bytes × Process) :=
  match p.descriptors.input with
  | .bytes rest =>
    some (rest.take n, { p with descriptors := { p.descriptors with input := .bytes (rest.drop n) } })
  | .terminal => (p.tty.read? n).map fun (data, tty) => (data, { p with tty })

/-- The bytes that a program takes at a time. -/
def blockSize : Nat := 4096

/-! ## §2 Work -/

/-- The first lines of some bytes, and how many lines are still missing. -/
def firstLines (n : Nat) : Bytes → Bytes × Nat
  | [] => ([], n)
  | b :: rest =>
    match n with
    | 0 => ([], 0)
    | n + 1 =>
      let (bs, left) := firstLines (if b = newline then n else n + 1) rest
      (b :: bs, left)

/-- A byte between words. -/
def isGap (b : UInt8) : Bool := b = 32 || (9 ≤ b && b ≤ 13)

/-- Counts the words that begin in some bytes. -/
def countWords (words : Nat) (inWord : Bool) : Bytes → Nat × Bool
  | [] => (words, inWord)
  | b :: rest =>
    if isGap b then countWords words false rest
    else countWords (if inWord then words else words + 1) true rest

/-- What a count tells: one number alone, or several in columns. -/
def countLine (asked : List Char) (lines words bytes : Nat) : String :=
  let wanted := if asked.isEmpty then ['l', 'w', 'c'] else asked
  let numbers := [('l', lines), ('w', words), ('c', bytes)].filterMap fun (c, n) =>
    if wanted.contains c then some (Text.decimal n) else none
  match numbers with
  | [n] => n
  | ns => " ".intercalate (ns.map fun n => String.ofList (List.replicate (7 - n.length) ' ') ++ n)

/-- Bytes without the unprotected blanks that they begin with. -/
def dropBlanks (blanks : Bytes) (got : List (UInt8 × Bool)) : List (UInt8 × Bool) :=
  got.dropWhile fun b => blanks.contains b.1 && !b.2

/-- Gives variables the words of a line; the last one has all that is left. -/
def assignWords (s : Scope) (blanks : Bytes) : List String → List (UInt8 × Bool) → Scope
  | [], _ => s
  | [name], got =>
    let all := dropBlanks blanks got
    s.assign name ((dropBlanks blanks all.reverse).reverse.map (·.1))
  | name :: rest, got =>
    let got := dropBlanks blanks got
    let (word, got) := got.span fun b => !(blanks.contains b.1 && !b.2)
    assignWords (s.assign name (word.map (·.1))) blanks rest got

/-- The blanks that words are told apart by. -/
def usualBlanks : Bytes := [32, 9, newline]

/-- A frame of work ends. -/
def finish (p : Process) (status : Nat) : Process := { p.done status with frames := p.frames.drop 1 }

/-- A frame of work goes on. -/
def goOn (p : Process) (w : Work) : Process := { p with frames := .work w :: p.frames.drop 1 }

/-- Does some work. -/
def work (now : Nat) (p : Process) : Work → Process
  | .sleep until_ => if until_ ≤ now then p.finish 0 else { p with waiting := .time until_ }
  | .copy =>
    match p.take? blockSize with
    | none => { p with waiting := .input }
    | some ([], p) => p.finish 0
    | some (data, p) => p.say data
  | .head lines left =>
    if left = 0 then p.finish 0
    else
      match p.take? (if lines then blockSize else min left blockSize) with
      | none => { p with waiting := .input }
      | some ([], p) => p.finish 0
      | some (data, p) =>
        if lines then
          let (data, left) := firstLines left data
          (p.say data).goOn (.head true left)
        else (p.say data).goOn (.head false (left - data.length))
  | .count asked lines words bytes inWord =>
    match p.take? blockSize with
    | none => { p with waiting := .input }
    | some ([], p) =>
      (p.say (Utf8.encode (countLine asked lines words bytes) ++ [newline])).finish 0
    | some (data, p) =>
      let (words, inWord) := countWords words inWord data
      p.goOn (.count asked (lines + data.count newline) words (bytes + data.length) inWord)
  | .read raw names blanks got escaped =>
    let store (p : Process) : Process :=
      { p with scope := assignWords p.scope blanks names got.reverse }
    match p.take? 1 with
    | none => { p with waiting := .input }
    | some ([], p) => (store p).finish 1
    | some (b :: _, p) =>
      if escaped then p.goOn (.read raw names blanks (if b = newline then got else (b, true) :: got) false)
      else if b = newline then (store p).finish 0
      else if b = 92 ∧ !raw then p.goOn (.read raw names blanks got true)
      else p.goOn (.read raw names blanks ((b, false) :: got) false)

/-- Changes the modes of a terminal by the names of the changes. -/
def ttyModes (m : TtyModes) : List String → TtyModes
  | [] => m
  | name :: rest =>
    let on := !name.startsWith "-"
    match (if on then name else (name.drop 1).toString) with
    | "echo" => ttyModes { m with echo := on } rest
    | "icanon" => ttyModes { m with canonical := on } rest
    | "isig" => ttyModes { m with signals := on } rest
    | "icrnl" => ttyModes { m with returnIsNewline := on } rest
    | "onlcr" | "opost" => ttyModes { m with returnBeforeNewline := on } rest
    | "raw" =>
      ttyModes { m with
        canonical := !on
        signals := !on
        returnIsNewline := !on
        returnBeforeNewline := !on } rest
    | "cooked" =>
      ttyModes { m with
        canonical := on
        signals := on
        returnIsNewline := on
        returnBeforeNewline := on } rest
    | "sane" => ttyModes {} rest
    | _ => ttyModes m rest

/-- Shows or changes the terminal. -/
def stty (p : Process) (args : List String) : Process :=
  match p.descriptors.input with
  | .bytes _ => (p.complain "stty: 'standard input': Inappropriate ioctl for device").done 1
  | .terminal =>
    if args = ["size"] then
      (p.say (Utf8.encode (toString p.tty.size.rows ++ " " ++ toString p.tty.size.cols) ++
        [newline])).done 0
    else { p with tty := p.tty.setModes (ttyModes p.tty.modes args) }.done 0

/-- A time in seconds, which may have a fraction and a unit, in milliseconds. -/
def duration? (s : String) : Option Nat :=
  let (number, unit) := s.toList.span fun c => c.isDigit || c = '.'
  let (whole, fraction) := number.span (· ≠ '.')
  let factor : Option Nat := match unit with
    | [] | ['s'] => some 1000
    | ['m'] => some 60000
    | ['h'] => some 3600000
    | _ => none
  match factor, number with
  | none, _ | _, [] => none
  | some factor, _ =>
    let digits := fraction.drop 1
    let value := ((String.ofList (whole ++ digits)).toNat?.getD 0) * factor
    let scale := Nat.pow 10 digits.length
    some ((value + scale - 1) / scale)

/-- The number behind a letter, in the same word or in the next one. -/
def countOption (letter : Char) : List String → Option Nat
  | [] => none
  | a :: rest =>
    match a.toList with
    | ['-', c] => if c = letter then rest.head?.bind String.toNat? else countOption letter rest
    | '-' :: c :: n => if c = letter then (String.ofList n).toNat? else countOption letter rest
    | _ => countOption letter rest

/-- The lines that `head` shows when it is told nothing else. -/
def headLines : Nat := 10

/-! ## §3 Programs by name -/

/-- Starts a program by its name, if there is such a program. -/
def program? (now : Nat) (p : Process) (name : String) (args : List String) : Option Process :=
  match name with
  | "cat" =>
    match args.filter (· ≠ "/dev/null") with
    | [] => if args.isEmpty then some (p.push [.work .copy]) else some (p.done 0)
    | rest =>
      match rest.find? (· ≠ "-") with
      | none => some (p.push [.work .copy])
      | some path => some ((p.complain ("cat: " ++ path ++ ": No such file or directory")).done 1)
  | "head" =>
    match countOption 'c' args, countOption 'n' args with
    | some n, _ => some (p.push [.work (.head false n)])
    | none, n => some (p.push [.work (.head true (n.getD headLines))])
  | "wc" =>
    let asked := (args.filter (·.startsWith "-")).flatMap fun a => a.toList.drop 1
    some (p.push [.work (.count asked 0 0 0 false)])
  | "sleep" =>
    match args.mapM duration? with
    | some (t :: ts) => some (p.push [.work (.sleep (now + (t :: ts).foldr (· + ·) 0))])
    | _ => some ((p.complain "sleep: missing operand").done 1)
  | "stty" => some (p.stty args)
  | _ => none

end Process

end PaneMux
