import PaneMux.Text.Hex
import PaneMux.Text.Printable

/-!
# Quoted text

How a diagnostic shows a text it did not understand: between double quotes, with the quote and the
backslash escaped, the usual controls by their letters, and every other character that cannot be
shown as its code point in braces.
-/

namespace PaneMux.Text

/-- One character inside a quoted text. -/
def quoteChar (c : Char) : List Char :=
  match c with
  | '"' => ['\\', '"']
  | '\\' => ['\\', '\\']
  | '\n' => ['\\', 'n']
  | '\r' => ['\\', 'r']
  | '\t' => ['\\', 't']
  | c =>
    if c = Char.ofNat 0 then ['\\', '0']
    else if isPrintable c then [c]
    else ['\\', 'u', '\x7b'] ++ hexDigits c.toNat ++ ['\x7d']

/-- A text between quotes, with what cannot be shown escaped. -/
def quoted (s : String) : String :=
  String.ofList ('"' :: (s.toList.flatMap quoteChar ++ ['"']))

end PaneMux.Text
