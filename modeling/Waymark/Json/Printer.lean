import Waymark.Json.Basic

/-!
# Writing JSON

`Json.compact` writes a value without blanks. `Json.pretty` writes one item or member a line,
indented by two blanks a level, with nothing between the brackets of an empty list or object.
-/

namespace Waymark.Json

/-- A hexadecimal digit in lower case. -/
def hexDigit (n : Nat) : Char := Nat.digitChar n

/-- The characters of one character of a text: the quotation mark, the backslash and the controls
are escaped, and nothing else. -/
def escapedChar (c : Char) : List Char :=
  match c with
  | '"' => ['\\', '"']
  | '\\' => ['\\', '\\']
  | '\n' => ['\\', 'n']
  | '\r' => ['\\', 'r']
  | '\t' => ['\\', 't']
  | c =>
    if c.toNat = 8 then ['\\', 'b']
    else if c.toNat = 12 then ['\\', 'f']
    else if c.toNat < 32 then
      ['\\', 'u', '0', '0', hexDigit (c.toNat / 16), hexDigit (c.toNat % 16)]
    else [c]

/-- The characters of a text between quotation marks. -/
def stringChars (s : String) : List Char := '"' :: (s.toList.flatMap escapedChar ++ ['"'])

/-- The characters of a value that is neither a list nor an object. -/
def scalarChars : Json → List Char
  | .null => "null".toList
  | .bool true => "true".toList
  | .bool false => "false".toList
  | .number n => n.chars
  | .string s => stringChars s
  | .array _ => []
  | .object _ => []

mutual

/-- The characters of a value, without blanks. -/
def compactChars : Json → List Char
  | .array items => '[' :: (compactItems items ++ [']'])
  | .object members => '\x7b' :: (compactMembers members ++ ['\x7d'])
  | v => scalarChars v

/-- The characters of the items of a list, with commas between them. -/
def compactItems : List Json → List Char
  | [] => []
  | v :: rest => compactChars v ++ compactMore rest

/-- The characters of items, with a comma before each. -/
def compactMore : List Json → List Char
  | [] => []
  | v :: rest => ',' :: (compactChars v ++ compactMore rest)

/-- The characters of the members of an object, with commas between them. -/
def compactMembers : List (String × Json) → List Char
  | [] => []
  | (key, v) :: rest => stringChars key ++ ':' :: (compactChars v ++ compactMoreMembers rest)

/-- The characters of members, with a comma before each. -/
def compactMoreMembers : List (String × Json) → List Char
  | [] => []
  | (key, v) :: rest =>
    ',' :: (stringChars key ++ ':' :: (compactChars v ++ compactMoreMembers rest))

end

/-- A new line indented by `level` levels. -/
def newLine (level : Nat) : List Char := '\n' :: List.replicate (2 * level) ' '

mutual

/-- The characters of a value with one item or member a line, at a level of indentation. -/
def prettyChars (level : Nat) : Json → List Char
  | .array [] => ['[', ']']
  | .array (v :: rest) =>
    '[' :: (newLine (level + 1) ++ prettyChars (level + 1) v ++ prettyMore level rest ++
      newLine level ++ [']'])
  | .object [] => ['\x7b', '\x7d']
  | .object ((key, v) :: rest) =>
    '\x7b' :: (newLine (level + 1) ++ stringChars key ++ ':' :: ' ' :: prettyChars (level + 1) v ++
      prettyMoreMembers level rest ++ newLine level ++ ['\x7d'])
  | v => scalarChars v

/-- The characters of further items of a list at a level, each after a comma and on its line. -/
def prettyMore (level : Nat) : List Json → List Char
  | [] => []
  | v :: rest =>
    ',' :: (newLine (level + 1) ++ prettyChars (level + 1) v ++ prettyMore level rest)

/-- The characters of further members of an object at a level, each after a comma and on its
line. -/
def prettyMoreMembers (level : Nat) : List (String × Json) → List Char
  | [] => []
  | (key, v) :: rest =>
    ',' :: (newLine (level + 1) ++ stringChars key ++ ':' :: ' ' :: prettyChars (level + 1) v ++
      prettyMoreMembers level rest)

end

/-- The text of a value, without blanks. -/
def compact (v : Json) : String := String.ofList (compactChars v)

/-- The text of a value, with one item or member a line. -/
def pretty (v : Json) : String := String.ofList (prettyChars 0 v)

end Waymark.Json
