/-!
# UTF-8

Text as bytes and bytes as text. Encoding is exact. Decoding never fails: bytes that are no
character become the replacement character, one for each *maximal* run that could still have begun
a character, so that a reader of terminal output always gets a text.

## Main definitions

- `Utf8.encode` : the bytes of a text
- `Utf8.Decoder` : the decoder as a machine that takes one byte at a time
- `Utf8.decodeLossy` : the machine run over a whole byte string
- `Utf8.decode?` : the text of a byte string that is entirely UTF-8
- `Utf8.front?` : the first character of a byte string
-/

namespace PaneMux

/-- A byte string, oldest byte first. -/
abbrev Bytes := List UInt8

/-- The line feed that ends a line of output. -/
def newline : UInt8 := 10

namespace Utf8

/-! ## §1 Encoding -/

/-- The bytes of a text, character by character. -/
def encode (s : String) : Bytes :=
  s.toList.flatMap String.utf8EncodeChar

/-! ## §2 The decoding machine -/

/-- A character that has begun: how many bytes it still needs, the range the next one must fall
    into, and the bits gathered so far. The range is narrower than `80..BF` right after a lead
    byte that would otherwise allow an overlong form, a surrogate or a value past the last
    character. -/
structure Pending where
  owed : Nat
  low : UInt8
  high : UInt8
  bits : Nat
  deriving DecidableEq, Repr

/-- What a byte means between two characters. -/
inductive Lead where
  /-- a whole character of one byte -/
  | single (c : Char)
  /-- the first byte of a longer character -/
  | opens (p : Pending)
  /-- no character starts with this byte -/
  | invalid

/-- The character of a code point, or the replacement character for a number that is none. -/
def scalar (n : Nat) : Char :=
  if n.isValidChar then Char.ofNat n else '\uFFFD'

/-- Reads a byte that stands between two characters. -/
def lead (b : UInt8) : Lead :=
  if b ≤ 0x7F then .single (scalar b.toNat)
  else if b < 0xC2 then .invalid
  else if b ≤ 0xDF then .opens ⟨1, 0x80, 0xBF, b.toNat - 0xC0⟩
  else if b = 0xE0 then .opens ⟨2, 0xA0, 0xBF, 0⟩
  else if b = 0xED then .opens ⟨2, 0x80, 0x9F, 0xD⟩
  else if b ≤ 0xEF then .opens ⟨2, 0x80, 0xBF, b.toNat - 0xE0⟩
  else if b = 0xF0 then .opens ⟨3, 0x90, 0xBF, 0⟩
  else if b ≤ 0xF3 then .opens ⟨3, 0x80, 0xBF, b.toNat - 0xF0⟩
  else if b = 0xF4 then .opens ⟨3, 0x80, 0x8F, 4⟩
  else .invalid

/-- The decoder between two bytes: the character it is inside of, if any, and the text read so
    far, newest character first. -/
structure Decoder where
  pending : Option Pending := none
  text : List Char := []
  deriving DecidableEq, Repr

namespace Decoder

/-- Takes a byte between two characters. -/
def begin (text : List Char) (b : UInt8) : Decoder :=
  match lead b with
  | .single c => { text := c :: text }
  | .opens p => { pending := some p, text }
  | .invalid => { text := '\uFFFD' :: text }

/-- Takes one byte. A byte that cannot go on with the pending character ends it as invalid and is
    then read as the start of the next one. -/
def feed (d : Decoder) (b : UInt8) : Decoder :=
  match d.pending with
  | none => begin d.text b
  | some p =>
    if p.low ≤ b ∧ b ≤ p.high then
      let bits := p.bits * 64 + b.toNat % 64
      match p.owed with
      | 0 | 1 => { text := scalar bits :: d.text }
      | owed + 2 => { d with pending := some ⟨owed + 1, 0x80, 0xBF, bits⟩ }
    else
      begin ('\uFFFD' :: d.text) b

/-- The text, once no more bytes come. A character cut short counts as invalid. -/
def finish (d : Decoder) : List Char :=
  match d.pending with
  | none => d.text.reverse
  | some _ => ('\uFFFD' :: d.text).reverse

end Decoder

/-! ## §3 Decoding -/

/-- The characters of a byte string, with invalid parts replaced. -/
def decodeChars (bytes : Bytes) : List Char :=
  (bytes.foldl Decoder.feed {}).finish

/-- The text of a byte string, with invalid parts replaced. -/
def decodeLossy (bytes : Bytes) : String :=
  String.ofList (decodeChars bytes)

/-- The text of a byte string that is UTF-8 throughout. It is exactly then that writing the
    decoded text gives the bytes back: a replacement is longer than any single byte it stands for,
    and the three bytes of the replacement character itself are valid. -/
def decode? (bytes : Bytes) : Option String :=
  let text := decodeLossy bytes
  if encode text = bytes then some text else none

/-- The rest of a character that has begun, `passed` bytes of which have been read. -/
def continueChar? (p : Pending) (passed : Nat) : Bytes → Option (Char × Nat)
  | [] => none
  | b :: rest =>
    if p.low ≤ b ∧ b ≤ p.high then
      let bits := p.bits * 64 + b.toNat % 64
      match p.owed with
      | 0 | 1 => some (scalar bits, passed + 1)
      | owed + 2 => continueChar? ⟨owed + 1, 0x80, 0xBF, bits⟩ (passed + 1) rest
    else none

/-- The character a byte string begins with and the number of its bytes. -/
def front? : Bytes → Option (Char × Nat)
  | [] => none
  | b :: rest =>
    match lead b with
    | .single c => some (c, 1)
    | .opens p => continueChar? p 1 rest
    | .invalid => none

/-- The number of bytes a text takes. -/
def length (s : String) : Nat :=
  s.utf8ByteSize

/-- A newline between two characters decodes to itself. -/
theorem Decoder.feed_newline (text : List Char) :
    Decoder.feed { text } newline = { text := '\n' :: text } := by
  rfl

end Utf8

end PaneMux
