import Waymark.Text.Printable

/-!
# Quoted text

The form in which a message shows a text that it found: between quotation marks, with the marks,
the backslash and the common controls escaped by one letter, and every other character that would
not show on its own escaped by its number.
-/

namespace Waymark.Text

/-- The hexadecimal digits of a number, in lower case and without leading zeros. -/
def hexChars (n : Nat) : List Char := Nat.toDigits 16 n

/-- The characters that stand for one character of a quoted text. -/
def quotedChar (c : Char) : List Char :=
  match c with
  | '"' => ['\\', '"']
  | '\\' => ['\\', '\\']
  | '\n' => ['\\', 'n']
  | '\r' => ['\\', 'r']
  | '\t' => ['\\', 't']
  | c =>
    if c.toNat = 0 then ['\\', '0']
    else if 32 ≤ c.toNat ∧ c.toNat < 127 then [c]
    else if isHidden c || isExtender c then '\\' :: 'u' :: '\x7b' :: (hexChars c.toNat ++ ['\x7d'])
    else [c]

/-- A text between quotation marks. -/
def quoted (s : String) : String :=
  String.ofList ('"' :: (s.toList.flatMap quotedChar ++ ['"']))

end Waymark.Text
