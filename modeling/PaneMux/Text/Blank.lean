/-!
# Blank characters

The characters that count as white space in text given by people: the whole Unicode class, not
only its ASCII part. Settings are trimmed with it, and a request line of blanks alone is skipped.
-/

namespace PaneMux.Text

/-- The Unicode white space characters. -/
def isBlank (c : Char) : Bool :=
  let n := c.toNat
  (0x9 ≤ n && n ≤ 0xD) || n == 0x20 || n == 0x85 || n == 0xA0 || n == 0x1680 ||
    (0x2000 ≤ n && n ≤ 0x200A) || n == 0x2028 || n == 0x2029 || n == 0x202F || n == 0x205F ||
    n == 0x3000

/-- A list of characters without its blanks at both ends. -/
def trimChars (cs : List Char) : List Char :=
  ((cs.dropWhile isBlank).reverse.dropWhile isBlank).reverse

/-- A text without its blanks at both ends. -/
def trim (s : String) : String :=
  String.ofList (trimChars s.toList)

end PaneMux.Text
