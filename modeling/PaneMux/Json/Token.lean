import PaneMux.Json.Number
import PaneMux.Text.Hex

/-!
# JSON tokens

The lexical layer: how a token is spelled, and the machine that finds the tokens of a text one
character at a time. A number or a word ends where a character comes that cannot belong to it;
whether it is a good number or word is left to the reader.
-/

namespace PaneMux.Json

open PaneMux.Text

/-- A lexical unit. -/
inductive Token where
  | openArr
  | closeArr
  | openObj
  | closeObj
  | comma
  | colon
  | str (s : List Char)
  | number (cs : List Char)
  | word (cs : List Char)
  deriving DecidableEq, Repr

/-! ## §1 Spelling -/

/-- A control character by its number. -/
def controlEscape (n : Nat) : List Char :=
  let digits := hexDigits n
  ['\\', 'u'] ++ List.replicate (4 - digits.length) '0' ++ digits

/-- One character inside a string: only quotes, backslashes and controls are escaped. -/
def escapeChar (c : Char) : List Char :=
  match c with
  | '"' => ['\\', '"']
  | '\\' => ['\\', '\\']
  | '\n' => ['\\', 'n']
  | '\r' => ['\\', 'r']
  | '\t' => ['\\', 't']
  | c =>
    if c.toNat = 8 then ['\\', 'b']
    else if c.toNat = 12 then ['\\', 'f']
    else if c.toNat < 32 then controlEscape c.toNat
    else [c]

/-- The characters of a token. -/
def Token.spell : Token → List Char
  | .openArr => ['[']
  | .closeArr => [']']
  | .openObj => ['\x7b']
  | .closeObj => ['\x7d']
  | .comma => [',']
  | .colon => [':']
  | .str s => '"' :: (s.flatMap escapeChar ++ ['"'])
  | .number cs => cs
  | .word cs => cs

/-! ## §2 The machine -/

/-- Where the machine is. Text gathered so far is kept newest character first. -/
inductive LexState where
  | between
  | word (cs : List Char)
  | number (cs : List Char)
  | string (cs : List Char)
  /-- after a backslash; `high` is the first half of a surrogate pair still open -/
  | escape (cs : List Char) (high : Option Nat)
  /-- inside the four digits of a code unit: digits left, value so far -/
  | unit (cs : List Char) (high : Option Nat) (left : Nat) (value : Nat)
  /-- after the first half of a surrogate pair -/
  | half (cs : List Char) (high : Nat)
  deriving DecidableEq, Repr

/-- The machine: where it is, and the tokens found so far, newest first. -/
structure Lexer where
  state : LexState := .between
  tokens : List Token := []
  deriving DecidableEq, Repr

/-- The white space of the format. -/
def isSpace (c : Char) : Bool := c == ' ' || c == '\n' || c == '\t' || c == '\r'

/-- A character of a number. -/
def isNumberChar (c : Char) : Bool :=
  c.isDigit || c == '-' || c == '+' || c == '.' || c == 'e' || c == 'E'

/-- A character of a word. -/
def isWordChar (c : Char) : Bool := 'a' ≤ c && c ≤ 'z'

/-- The first half of a surrogate pair. -/
def isHighSurrogate (n : Nat) : Bool := 0xD800 ≤ n && n ≤ 0xDBFF

/-- The second half of a surrogate pair. -/
def isLowSurrogate (n : Nat) : Bool := 0xDC00 ≤ n && n ≤ 0xDFFF

/-- Takes a character between two tokens. -/
def Lexer.begin (tokens : List Token) (c : Char) : Option Lexer :=
  if isSpace c then some { tokens }
  else match c with
    | '[' => some { tokens := .openArr :: tokens }
    | ']' => some { tokens := .closeArr :: tokens }
    | '\x7b' => some { tokens := .openObj :: tokens }
    | '\x7d' => some { tokens := .closeObj :: tokens }
    | ',' => some { tokens := .comma :: tokens }
    | ':' => some { tokens := .colon :: tokens }
    | '"' => some { state := .string [], tokens }
    | c =>
      if c.isDigit || c == '-' then some { state := .number [c], tokens }
      else if isWordChar c then some { state := .word [c], tokens }
      else none

/-- The character a letter behind a backslash stands for. -/
def unescape? : Char → Option Char
  | '"' => some '"'
  | '\\' => some '\\'
  | '/' => some '/'
  | 'b' => some (Char.ofNat 8)
  | 'f' => some (Char.ofNat 12)
  | 'n' => some '\n'
  | 'r' => some '\r'
  | 't' => some '\t'
  | _ => none

/-- Ends the four digits of a code unit. The halves of a surrogate pair must come in order and
    next to each other. -/
def LexState.endUnit (cs : List Char) (high : Option Nat) (n : Nat) : Option LexState :=
  match high with
  | none =>
    if isHighSurrogate n then some (.half cs n)
    else if isLowSurrogate n then none
    else some (.string (Char.ofNat n :: cs))
  | some h =>
    if isLowSurrogate n then
      some (.string (Char.ofNat (0x10000 + (h - 0xD800) * 0x400 + (n - 0xDC00)) :: cs))
    else none

/-- Takes one character; nothing when no token can hold it here. -/
def Lexer.feed (l : Lexer) (c : Char) : Option Lexer :=
  match l.state with
  | .between => Lexer.begin l.tokens c
  | .word cs =>
    if isWordChar c then some { l with state := .word (c :: cs) }
    else Lexer.begin (.word cs.reverse :: l.tokens) c
  | .number cs =>
    if isNumberChar c then some { l with state := .number (c :: cs) }
    else Lexer.begin (.number cs.reverse :: l.tokens) c
  | .string cs =>
    if c = '"' then some { tokens := .str cs.reverse :: l.tokens }
    else if c = '\\' then some { l with state := .escape cs none }
    else if c.toNat < 32 then none
    else some { l with state := .string (c :: cs) }
  | .escape cs none =>
    if c = 'u' then some { l with state := .unit cs none 4 0 }
    else (unescape? c).map fun u => { l with state := .string (u :: cs) }
  | .escape cs (some h) =>
    if c = 'u' then some { l with state := .unit cs (some h) 4 0 } else none
  | .unit cs high left value =>
    (hexValue? c).bind fun d =>
      let n := value * 16 + d
      if left ≤ 1 then (LexState.endUnit cs high n).map fun s => { l with state := s }
      else some { l with state := .unit cs high (left - 1) n }
  | .half cs h =>
    if c = '\\' then some { l with state := .escape cs (some h) } else none

/-- Takes a whole text. -/
def Lexer.run : Lexer → List Char → Option Lexer
  | l, [] => some l
  | l, c :: cs => (l.feed c).bind fun l => l.run cs

/-- The tokens, once the text has ended; nothing inside an unfinished string. -/
def Lexer.finish (l : Lexer) : Option (List Token) :=
  match l.state with
  | .between => some l.tokens.reverse
  | .word cs => some (.word cs.reverse :: l.tokens).reverse
  | .number cs => some (.number cs.reverse :: l.tokens).reverse
  | _ => none

/-- The tokens of a text. -/
def tokenize? (cs : List Char) : Option (List Token) :=
  (Lexer.run {} cs).bind Lexer.finish

end PaneMux.Json
