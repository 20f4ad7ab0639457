import PaneMux.Json.Token

/-!
# Writing JSON

The compact form, which goes over the wire as one line, and the indented form shown to people.
Both write members in the order in which the value holds them.
-/

namespace PaneMux.Json

/-! ## §1 Compact form -/

mutual

/-- The tokens of a value. -/
def tokens : Json → List Token
  | .null => [.word ['n', 'u', 'l', 'l']]
  | .bool true => [.word ['t', 'r', 'u', 'e']]
  | .bool false => [.word ['f', 'a', 'l', 's', 'e']]
  | .int n => [.number (toString n).toList]
  | .real (.finite s m e) => [.number (Binary64.finite s m e).text]
  -- there is no literal for it
  | .real (.infinite _) => [.word ['n', 'u', 'l', 'l']]
  | .str s => [.str s.toList]
  | .arr [] => [.openArr, .closeArr]
  | .arr (j :: rest) => .openArr :: (tokens j ++ itemTokens rest)
  | .obj [] => [.openObj, .closeObj]
  | .obj ((k, v) :: rest) =>
    .openObj :: .str k.toList :: .colon :: (tokens v ++ memberTokens rest)

/-- The tokens of further items, up to the end of the array. -/
def itemTokens : List Json → List Token
  | [] => [.closeArr]
  | j :: rest => .comma :: (tokens j ++ itemTokens rest)

/-- The tokens of further members, up to the end of the object. -/
def memberTokens : List (String × Json) → List Token
  | [] => [.closeObj]
  | (k, v) :: rest => .comma :: .str k.toList :: .colon :: (tokens v ++ memberTokens rest)

end

/-- A value on one line, without blanks. -/
def compact (j : Json) : String :=
  String.ofList ((tokens j).flatMap Token.spell)

/-! ## §2 Indented form -/

/-- The start of a line at a nesting level. -/
def lineStart (level : Nat) : List Char :=
  '\n' :: List.replicate (2 * level) ' '

mutual

/-- A value whose lines start at a nesting level. Empty arrays and objects stay on one line. -/
def indented (level : Nat) : Json → List Char
  | .arr [] => ['[', ']']
  | .arr (j :: rest) =>
    '[' :: (lineStart (level + 1) ++ indented (level + 1) j ++ indentedItems (level + 1) rest ++
      lineStart level ++ [']'])
  | .obj [] => ['\x7b', '\x7d']
  | .obj ((k, v) :: rest) =>
    '\x7b' :: (lineStart (level + 1) ++ (Token.str k.toList).spell ++ ':' :: ' ' ::
      indented (level + 1) v ++ indentedMembers (level + 1) rest ++ lineStart level ++ ['\x7d'])
  | .null => (tokens .null).flatMap Token.spell
  | .bool b => (tokens (.bool b)).flatMap Token.spell
  | .int n => (tokens (.int n)).flatMap Token.spell
  | .real x => (tokens (.real x)).flatMap Token.spell
  | .str s => (tokens (.str s)).flatMap Token.spell

/-- Further items, each on a line of its own. -/
def indentedItems (level : Nat) : List Json → List Char
  | [] => []
  | j :: rest => ',' :: (lineStart level ++ indented level j ++ indentedItems level rest)

/-- Further members, each on a line of its own. -/
def indentedMembers (level : Nat) : List (String × Json) → List Char
  | [] => []
  | (k, v) :: rest =>
    ',' :: (lineStart level ++ (Token.str k.toList).spell ++ ':' :: ' ' ::
      indented level v ++ indentedMembers level rest)

end

/-- A value over several lines, two blanks to a level. -/
def pretty (j : Json) : String :=
  String.ofList (indented 0 j)

end PaneMux.Json
