import PaneMux.Host.Script.Basic

/-!
# Reading scripts

A script is read in two steps: its characters make words and operators, and these make commands. A
word is only then the name of a construct when it stands where a command begins and nothing in it is
quoted.

## Main definitions

- `Script.tokens?` : the words and operators of a text
- `Script.parse?` : the command that a text stands for
-/

namespace PaneMux.Script

/-! ## §1 Words and operators -/

/-- A word or an operator. -/
inductive Token where
  | word (w : Word)
  | op (s : String)
  deriving DecidableEq, Repr

/-- A word that is being read, its parts newest first, and the text that goes on, newest first. -/
structure Draft where
  pieces : List Piece := []
  text : List Char := []
  quoted : Bool := false
  /-- there is a word, though it may be empty -/
  begun : Bool := false
  deriving Repr

namespace Draft

/-- Ends the text that goes on. -/
def close (d : Draft) : Draft :=
  if d.text.isEmpty ∧ !d.quoted then d
  else
    { d with
      pieces := .text (String.ofList d.text.reverse) d.quoted :: d.pieces
      text := [] }

/-- Goes on with text that is quoted, or is not. -/
def mode (d : Draft) (quoted : Bool) : Draft := { d.close with quoted, begun := true }

/-- Adds a character. -/
def push (d : Draft) (c : Char) : Draft := { d with text := c :: d.text, begun := true }

/-- Adds a part. -/
def add (d : Draft) (p : Piece) : Draft :=
  let d' := if d.text.isEmpty then d else d.close
  { d' with pieces := p :: d'.pieces, begun := true }

/-- The word, if there is one. -/
def tokens (d : Draft) : List Token :=
  if d.begun then [.word ({ d.close with quoted := false }).pieces.reverse] else []

/-- What stands in front of an operator: the number of a descriptor, or a word of its own. -/
def beforeOperator (d : Draft) (c : Char) (done : List Token) : List Char × List Token :=
  if (c = '<' ∨ c = '>') ∧ d.pieces.isEmpty ∧ !d.text.isEmpty ∧ d.text.all Char.isDigit then
    (d.text.reverse, done)
  else ([], done ++ d.tokens)

end Draft

/-- A character of a name. -/
def isNameChar (c : Char) : Bool := c.isAlphanum || c = '_'

/-- A parameter that has a single character for its name. -/
def isSpecial (c : Char) : Bool := ['?', '$', '#', '@', '*', '!'].contains c || c.isDigit

/-- The text up to a pair of closing parentheses, and the rest. -/
def upToClose (depth : Nat) (text : List Char) : List Char → Option (List Char × List Char)
  | [] => none
  | ')' :: ')' :: rest =>
    if depth = 0 then some (text.reverse, rest) else upToClose (depth - 1) (')' :: text) (')' :: rest)
  | '(' :: rest => upToClose (depth + 1) ('(' :: text) rest
  | ')' :: rest => upToClose (depth - 1) (')' :: text) rest
  | c :: rest => upToClose depth (c :: text) rest
termination_by cs => cs.length

/-- The text up to the parenthesis that closes a script, and the rest. Parentheses between quotes do not
    count. -/
def upToEnd (depth : Nat) (quote : Option Char) (text : List Char) :
    List Char → Option (List Char × List Char)
  | [] => none
  | '\\' :: c :: rest => upToEnd depth quote (c :: '\\' :: text) rest
  | c :: rest =>
    match quote with
    | some q => upToEnd depth (if c = q then none else some q) (c :: text) rest
    | none =>
      if c = ')' ∧ depth = 0 then some (text.reverse, rest)
      else
        let depth := if c = '(' then depth + 1 else if c = ')' then depth - 1 else depth
        upToEnd depth (if c = '\'' ∨ c = '"' then some c else none) (c :: text) rest

/-- What stands in for a variable, behind its name. -/
def substitute? : List Char → Option (Option Substitute)
  | [] => some none
  | [':'] => none
  | c :: rest =>
    let (emptyIsMissing, c, rest) := if c = ':' then (true, rest.headD c, rest.drop 1) else (false, c, rest)
    if c = '-' ∨ c = '+' then some (some ⟨emptyIsMissing, c = '+', String.ofList rest⟩) else none

/-- The part that begins with a dollar sign, and the rest; nothing if the sign stands for itself. -/
def dollar? (quoted : Bool) : List Char → Option (Piece × List Char)
  | '(' :: '(' :: rest =>
    (upToClose 0 [] rest).map fun (sum, rest) => (.sum (String.ofList sum) quoted, rest)
  | '(' :: rest =>
    (upToEnd 0 none [] rest).map fun (script, rest) => (.output (String.ofList script) quoted, rest)
  | '\x7b' :: '#' :: rest =>
    match rest.span (· ≠ '\x7d') with
    | (name, _ :: rest) => some (.length (String.ofList name), rest)
    | _ => none
  | '\x7b' :: rest =>
    match rest.span (· ≠ '\x7d') with
    | (c :: inside, _ :: rest) =>
      let (name, other) := inside.span isNameChar
      (substitute? other).map fun u => (.variable (String.ofList (c :: name)) u quoted, rest)
    | _ => none
  | c :: rest =>
    if c.isAlpha ∨ c = '_' then
      let (name, rest) := (c :: rest).span isNameChar
      some (.variable (String.ofList name) none quoted, rest)
    else if isSpecial c then some (.variable (String.singleton c) none quoted, rest)
    else none
  | [] => none

/-- The script between two backquotes, and the rest. -/
def backquoted? (script : List Char) : List Char → Option (List Char × List Char)
  | [] => none
  | '\x60' :: rest => some (script.reverse, rest)
  | '\\' :: c :: rest =>
    backquoted? (if c = '\x60' ∨ c = '\\' ∨ c = '$' then c :: script else c :: '\\' :: script) rest
  | c :: rest => backquoted? (c :: script) rest

/-- Operators of two characters. -/
def longOperators : List (Char × Char) := [('&', '&'), ('|', '|'), ('>', '&'), ('<', '&'), ('>', '>'), (';', ';')]

/-- A character that is an operator or begins one. -/
def isOperator (c : Char) : Bool := [';', '&', '|', '(', ')', '<', '>', '\n'].contains c

/-- Where the reader is. -/
inductive Within where
  | plain
  | single
  | double
  deriving DecidableEq, Repr

/-- Reads words and operators, of which `fuel` is the number of characters. -/
def scan (fuel : Nat) (w : Within) (d : Draft) (done : List Token) : List Char → Option (List Token)
  | [] => if w = .plain then some (done ++ d.tokens) else none
  | c :: rest =>
    match fuel with
    | 0 => none
    | fuel + 1 =>
      match w with
      | .single =>
        if c = '\'' then scan fuel .plain (d.mode false) done rest else scan fuel .single (d.push c) done rest
      | .double =>
        match c, rest with
        | '"', _ => scan fuel .plain (d.mode false) done rest
        | '\\', x :: more =>
          if ['"', '\\', '$', '\x60'].contains x then scan fuel .double (d.push x) done more
          else if x = '\n' then scan fuel .double d done more
          else scan fuel .double (d.push c) done rest
        | '$', _ =>
          match dollar? true rest with
          | some (p, more) => scan fuel .double (d.add p) done more
          | none => scan fuel .double (d.push c) done rest
        | '\x60', _ => do
          let (script, more) ← backquoted? [] rest
          scan fuel .double (d.add (.output (String.ofList script) true)) done more
        | _, _ => scan fuel .double (d.push c) done rest
      | .plain =>
        match c, rest with
        | '\'', _ => scan fuel .single (d.mode true) done rest
        | '"', _ => scan fuel .double (d.mode true) done rest
        | '\\', '\n' :: more => scan fuel .plain d done more
        | '\\', x :: more => scan fuel .plain (((d.mode true).push x).mode false) done more
        | '$', _ =>
          match dollar? false rest with
          | some (p, more) => scan fuel .plain (d.add p) done more
          | none => scan fuel .plain (d.push c) done rest
        | '\x60', _ => do
          let (script, more) ← backquoted? [] rest
          scan fuel .plain (d.add (.output (String.ofList script) false)) done more
        | '#', _ =>
          if d.begun then scan fuel .plain (d.push c) done rest
          else scan fuel .plain d done (rest.dropWhile (· ≠ '\n'))
        | _, _ =>
          if c = ' ' ∨ c = '\t' then scan fuel .plain {} (done ++ d.tokens) rest
          else if isOperator c then
            let (digits, done) := d.beforeOperator c done
            match rest with
            | x :: more =>
              if longOperators.contains (c, x) then
                scan fuel .plain {} (done ++ [.op (String.ofList (digits ++ [c, x]))]) more
              else scan fuel .plain {} (done ++ [.op (String.ofList (digits ++ [c]))]) rest
            | [] => scan fuel .plain {} (done ++ [.op (String.ofList (digits ++ [c]))]) rest
          else scan fuel .plain (d.push c) done rest

/-- The words and operators of a text. -/
def tokens? (s : String) : Option (List Token) := scan (s.length + 1) .plain {} [] s.toList

/-! ## §2 Commands -/

/-- The name of a construct, if a token is one. -/
def keyword? : Token → Option String
  | .word [.text s false] => some s
  | _ => none

/-- The words at which a list of commands ends. -/
def closers : List String := ["then", "else", "elif", "fi", "do", "done", "esac", "\x7d"]

/-- Skips ends of lines. -/
def skipLines : List Token → List Token
  | .op "\n" :: rest => skipLines rest
  | ts => ts

/-- Takes a token that has to come next. -/
def expect (s : String) : List Token → Option (List Token)
  | t :: rest => if keyword? t = some s ∨ t = .op s then some rest else none
  | [] => none

/-- The redirection that comes next, if one does. -/
def redirect? : List Token → Option (Redirect × List Token)
  | .op o :: .word w :: rest =>
    let (digits, sign) := o.toList.span Char.isDigit
    let usual := if sign.head? = some '<' then 0 else 1
    (target sign w).map fun t => (⟨((String.ofList digits).toNat?).getD usual, t⟩, rest)
  | _ => none
where
  /-- What an operator and the word behind it say. -/
  target (sign : List Char) (w : Word) : Option Target :=
    match sign with
    | ['>'] | ['<'] | ['>', '>'] => some (.file w)
    | ['>', '&'] | ['<', '&'] =>
      match w with
      | [.text n false] => n.toNat?.map .sameAs
      | _ => none
    | _ => none

/-- The name and the value of a word that gives a variable a value. -/
def assignment? : Word → Option (String × Word)
  | .text s false :: rest =>
    match s.toList.span isNameChar with
    | (c :: name, '=' :: value) =>
      if c.isDigit then none
      else some (String.ofList (c :: name), .text (String.ofList value) false :: rest)
    | _ => none
  | _ => none

/-- A simple command as far as it has been read. -/
structure SimpleDraft where
  given : List (String × Word) := []
  words : List Word := []
  redirects : List Redirect := []

/-- Reads a simple command. -/
def simple (d : SimpleDraft) (fuel : Nat) (ts : List Token) : SimpleDraft × List Token :=
  match fuel with
  | 0 => (d, ts)
  | fuel + 1 =>
    match redirect? ts with
    | some (r, rest) => simple { d with redirects := d.redirects ++ [r] } fuel rest
    | none =>
      match ts with
      | .word w :: rest =>
        match (if d.words.isEmpty then assignment? w else none) with
        | some g => simple { d with given := d.given ++ [g] } fuel rest
        | none => simple { d with words := d.words ++ [w] } fuel rest
      | _ => (d, ts)

/-- Reads the redirections behind a command. -/
def withRedirects (c : Command) (fuel : Nat) (rs : List Redirect) (ts : List Token) :
    Command × List Token :=
  match fuel, redirect? ts with
  | fuel + 1, some (r, rest) => withRedirects c fuel (rs ++ [r]) rest
  | _, _ => (if rs.isEmpty then c else .redirected c rs, ts)

/-- The words that a variable goes through. -/
def items (words : List Word) : List Token → List Word × List Token
  | .word w :: rest => items (words ++ [w]) rest
  | ts => (words, ts)

/-- The patterns up to a closing parenthesis. -/
def patterns? (ps : List Word) : List Token → Option (List Word × List Token)
  | .op "(" :: rest => if ps.isEmpty then patterns? ps rest else none
  | .word w :: .op "|" :: rest => patterns? (ps ++ [w]) rest
  | .word w :: .op ")" :: rest => some (ps ++ [w], rest)
  | _ => none

/-- Skips one end of a command. -/
def separator : List Token → List Token
  | .op ";" :: rest => rest
  | ts => ts

mutual

/-- Reads commands up to the end of a list. -/
def list (fuel : Nat) (ts : List Token) : Option (Command × List Token) :=
  match fuel with
  | 0 => none
  | fuel + 1 =>
    match skipLines ts with
    | [] => some (.nothing, [])
    | t :: rest =>
      if t = .op ")" ∨ t = .op ";;" ∨ (keyword? t).any closers.contains then some (.nothing, t :: rest)
      else do
        let (first, rest) ← andOr fuel (t :: rest)
        match rest with
        | .op ";" :: rest | .op "\n" :: rest | .op "&" :: rest =>
          let (next, rest) ← list fuel rest
          return (.sequence first next, rest)
        | _ => return (first, rest)

/-- Reads commands that depend on how others end. -/
def andOr (fuel : Nat) (ts : List Token) : Option (Command × List Token) :=
  match fuel with
  | 0 => none
  | fuel + 1 => do
    let (first, rest) ← pipeline fuel ts
    chain fuel first rest

/-- Goes on with commands that depend on how others end. -/
def chain (fuel : Nat) (first : Command) (ts : List Token) : Option (Command × List Token) :=
  match fuel with
  | 0 => none
  | fuel + 1 =>
    match ts with
    | .op "&&" :: rest => do
      let (next, rest) ← pipeline fuel (skipLines rest)
      chain fuel (.andThen first next) rest
    | .op "||" :: rest => do
      let (next, rest) ← pipeline fuel (skipLines rest)
      chain fuel (.orElse first next) rest
    | _ => some (first, ts)

/-- Reads commands that hand their output on. -/
def pipeline (fuel : Nat) (ts : List Token) : Option (Command × List Token) :=
  match fuel with
  | 0 => none
  | fuel + 1 =>
    match ts with
    | .word [.text "!" false] :: rest => do
      let (c, rest) ← pipeline fuel rest
      return (.negate c, rest)
    | _ => do
      let (first, rest) ← command fuel ts
      match rest with
      | .op "|" :: rest =>
        let (next, rest) ← pipeline fuel (skipLines rest)
        return (.pipe first next, rest)
      | _ => return (first, rest)

/-- Reads one command. -/
def command (fuel : Nat) (ts : List Token) : Option (Command × List Token) :=
  match fuel with
  | 0 => none
  | fuel + 1 =>
    match ts with
    | .op "(" :: rest => do
      let (c, rest) ← list fuel rest
      let rest ← expect ")" rest
      return withRedirects (.inner c) fuel [] rest
    | .word [.text "\x7b" false] :: rest => do
      let (c, rest) ← list fuel rest
      let rest ← expect "\x7d" rest
      return withRedirects c fuel [] rest
    | .word [.text "while" false] :: rest => loop fuel false rest
    | .word [.text "until" false] :: rest => loop fuel true rest
    | .word [.text "if" false] :: rest => do
      let (c, rest) ← branches fuel rest
      return withRedirects c fuel [] rest
    | .word [.text "for" false] :: .word [.text name false] :: rest => do
      let rest ← expect "in" rest
      let (words, rest) := items [] rest
      let rest ← expect "do" (skipLines (separator rest))
      let (body, rest) ← list fuel rest
      let rest ← expect "done" rest
      return withRedirects (.forEach name words body) fuel [] rest
    | .word [.text "case" false] :: .word w :: rest => do
      let rest ← expect "in" (skipLines rest)
      let (c, rest) ← arms fuel w rest
      return withRedirects c fuel [] rest
    | _ =>
      let (d, rest) := simple {} (ts.length + 1) ts
      if d.given.isEmpty ∧ d.words.isEmpty ∧ d.redirects.isEmpty then none
      else some (.simple d.given d.words d.redirects, rest)

/-- Reads the rest of a loop. -/
def loop (fuel : Nat) (untilFails : Bool) (ts : List Token) : Option (Command × List Token) :=
  match fuel with
  | 0 => none
  | fuel + 1 => do
    let (condition, rest) ← list fuel ts
    let rest ← expect "do" rest
    let (body, rest) ← list fuel rest
    let rest ← expect "done" rest
    return withRedirects (.repeat_ untilFails condition body) fuel [] rest

/-- Reads the patterns for a word, each with what is done when it matches. -/
def arms (fuel : Nat) (w : Word) (ts : List Token) : Option (Command × List Token) :=
  match fuel with
  | 0 => none
  | fuel + 1 =>
    match skipLines ts with
    | .word [.text "esac" false] :: rest => some (.nothing, rest)
    | ts => do
      let (patterns, rest) ← patterns? [] ts
      let (yes, rest) ← list fuel rest
      match rest with
      | .op ";;" :: rest =>
        let (no, rest) ← arms fuel w rest
        return (.matching w patterns yes no, rest)
      | rest =>
        let rest ← expect "esac" rest
        return (.matching w patterns yes .nothing, rest)

/-- Reads a condition and what hangs on it. -/
def branches (fuel : Nat) (ts : List Token) : Option (Command × List Token) :=
  match fuel with
  | 0 => none
  | fuel + 1 => do
    let (condition, rest) ← list fuel ts
    let rest ← expect "then" rest
    let (yes, rest) ← list fuel rest
    match rest with
    | .word [.text "elif" false] :: rest =>
      let (no, rest) ← branches fuel rest
      return (.branch condition yes no, rest)
    | .word [.text "else" false] :: rest =>
      let (no, rest) ← list fuel rest
      let rest ← expect "fi" rest
      return (.branch condition yes no, rest)
    | _ =>
      let rest ← expect "fi" rest
      return (.branch condition yes .nothing, rest)

end

/-- The command that a text stands for. -/
def parse? (s : String) : Option Command := do
  let ts ← tokens? s
  let (c, rest) ← list (8 * ts.length + 8) ts
  if rest.isEmpty then some c else none

end PaneMux.Script
