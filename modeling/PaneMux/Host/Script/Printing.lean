import PaneMux.Host.Script.Expansion

/-!
# Printing

How a shell writes its arguments: as they stand, with escapes, or by a format that is used again as
long as arguments are left.

## Main definitions

- `Script.unescape` : a text with its escapes put in
- `Script.printf` : arguments written by a format
-/

namespace PaneMux.Script

/-- The value of an octal digit. -/
def octal? (b : UInt8) : Option Nat := if 48 ≤ b ∧ b ≤ 55 then some (b.toNat - 48) else none

/-- Reads at most `n` octal digits. -/
def octal (n value : Nat) : Bytes → Nat × Bytes
  | [] => (value, [])
  | b :: rest =>
    match n, octal? b with
    | n + 1, some d => octal n (8 * value + d) rest
    | _, _ => (value, b :: rest)

/-- The byte that a letter behind a backslash stands for. -/
def escape? (b : UInt8) : Option UInt8 :=
  ([(92, 92), (97, 7), (98, 8), (102, 12), (110, 10), (114, 13), (116, 9), (118, 11), (34, 34)].find?
    (·.1 = b)).map (·.2)

/-- One escape behind its backslash: what it stands for, and the rest. `zero` tells that a zero is
    not counted among the three digits of a number. -/
def unescapeOne (zero : Bool) : Bytes → Bytes × Bytes
  | [] => ([92], [])
  | b :: rest =>
    if (octal? b).isSome then
      let (n, rest) := if zero ∧ b = 48 then octal 3 0 rest else octal 3 0 (b :: rest)
      ([UInt8.ofNat n], rest)
    else
      match escape? b with
      | some c => ([c], rest)
      | none => ([92, b], rest)

/-- A text with its escapes put in, and whether it says that nothing is to follow. -/
def unescapeFrom (fuel : Nat) : Bytes → Bytes × Bool
  | [] => ([], false)
  | b :: rest =>
    match fuel with
    | 0 => ([], false)
    | fuel + 1 =>
      if b = 92 then
        if rest.head? = some 99 then ([], true)
        else
          let (c, rest) := unescapeOne true rest
          let (cs, stop) := unescapeFrom fuel rest
          (c ++ cs, stop)
      else
        let (cs, stop) := unescapeFrom fuel rest
        (b :: cs, stop)

/-- A text with its escapes put in, and whether it says that nothing is to follow. -/
def unescape (data : Bytes) : Bytes × Bool := unescapeFrom (data.length + 1) data

/-- Words with blanks between them, and a newline unless `-n` comes first. -/
def echo (args : List Bytes) : Bytes :=
  let (args, newlines) :=
    if args.head? = some (Utf8.encode "-n") then (args.drop 1, []) else (args, [newline])
  let (text, stop) := unescape (args.intersperse [32]).flatten
  text ++ if stop then [] else newlines

/-- How a value is laid out. -/
structure Layout where
  left : Bool := false
  zeros : Bool := false
  plus : Bool := false
  width : Nat := 0
  digits : Option Nat := none

/-- Reads decimal digits. -/
def digitsOf (b : Bytes) : Nat × Bytes :=
  let (ds, rest) := b.span fun b => 48 ≤ b && b ≤ 57
  (ds.foldl (fun n d => 10 * n + (d.toNat - 48)) 0, rest)

/-- Reads the signs in front of a width. -/
def flags (l : Layout) : Bytes → Layout × Bytes
  | 45 :: rest => flags { l with left := true } rest
  | 48 :: rest => flags { l with zeros := true } rest
  | 43 :: rest => flags { l with plus := true } rest
  | rest => (l, rest)

/-- Reads how a value is laid out. -/
def layout (b : Bytes) : Layout × Bytes :=
  let (l, b) := flags {} b
  let (width, b) := digitsOf b
  match b with
  | 46 :: rest =>
    let (digits, rest) := digitsOf rest
    ({ l with width, digits := some digits }, rest)
  | _ => ({ l with width }, b)

/-- Fills a value up to its width. -/
def Layout.fill (l : Layout) (value : Bytes) : Bytes :=
  let missing := List.replicate (l.width - value.length) (32 : UInt8)
  if l.left then value ++ missing else missing ++ value

/-- A number in a base, laid out. -/
def Layout.integer (l : Layout) (base : Nat) (n : Int) : Bytes :=
  let digits := Utf8.encode (String.ofList (Nat.toDigits base n.natAbs))
  let sign : Bytes := if n < 0 then [45] else if l.plus then [43] else []
  let least := (l.digits.getD 1).max (if l.zeros ∧ !l.left ∧ l.digits.isNone then l.width - sign.length else 0)
  l.fill (sign ++ List.replicate (least - digits.length) 48 ++ digits)

/-- Writes one value by the letter of its form. -/
def Layout.value (l : Layout) (form : UInt8) (arg : Bytes) : Bytes × Bool :=
  let cut (b : Bytes) : Bytes := l.digits.elim b fun n => b.take n
  let n := Scope.number arg
  if form = 115 then (l.fill (cut arg), false)
  else if form = 98 then
    let (text, stop) := unescape arg
    (l.fill (cut text), stop)
  else if form = 99 then (l.fill (arg.take 1), false)
  else if form = 120 then (l.integer 16 n, false)
  else if form = 111 then (l.integer 8 n, false)
  else (l.integer 10 n, false)

/-- Goes through a format once: what it writes, the arguments that are left, whether it took any, and
    whether nothing is to follow. -/
def formatOnce (fuel : Nat) (args : List Bytes) (took : Bool) :
    Bytes → Bytes × List Bytes × Bool × Bool
  | [] => ([], args, took, false)
  | b :: rest =>
    match fuel with
    | 0 => ([], args, took, false)
    | fuel + 1 =>
      if b = 92 then
        let (c, rest) := unescapeOne false rest
        let (cs, more) := formatOnce fuel args took rest
        (c ++ cs, more)
      else if b = 37 then
        match layout rest with
        | (_, 37 :: rest) =>
          let (cs, more) := formatOnce fuel args took rest
          (37 :: cs, more)
        | (l, form :: rest) =>
          let (text, stop) := l.value form (args.headD [])
          if stop then (text, args.drop 1, true, true)
          else
            let (cs, more) := formatOnce fuel (args.drop 1) true rest
            (text ++ cs, more)
        | (_, []) => ([37], args, took, false)
      else
        let (cs, more) := formatOnce fuel args took rest
        (b :: cs, more)

/-- Goes through a format until no arguments are left. -/
def formatAll (rounds : Nat) (form : Bytes) (args : List Bytes) : Bytes :=
  match rounds with
  | 0 => []
  | rounds + 1 =>
    let (text, rest, took, stop) := formatOnce (form.length + 1) args false form
    if stop ∨ !took ∨ rest.isEmpty then text else text ++ formatAll rounds form rest

/-- Arguments written by a format. -/
def printf : List Bytes → Bytes
  | [] => []
  | form :: args => formatAll (args.length + 1) form args

end PaneMux.Script
