/-!
# Blanks

The characters that count as blank around typed text are those with the Unicode property
`White_Space`. `trim` removes them at both ends of a text.
-/

namespace Waymark.Text

/-- Whether a character has the property `White_Space`. -/
def isBlank (c : Char) : Bool :=
  let n := c.toNat
  (9 ≤ n && n ≤ 13) || n == 0x20 || n == 0x85 || n == 0xA0 || n == 0x1680 ||
    (0x2000 ≤ n && n ≤ 0x200A) || n == 0x2028 || n == 0x2029 || n == 0x202F || n == 0x205F ||
    n == 0x3000

/-- A list of characters without those at its two ends that satisfy `p`. -/
def strip (p : Char → Bool) (cs : List Char) : List Char :=
  ((cs.dropWhile p).reverse.dropWhile p).reverse

/-- A text without the blanks at its two ends. -/
def trim (s : String) : String := String.ofList (strip isBlank s.toList)

/-- Whether a text has nothing but blanks. -/
def allBlank (s : String) : Bool := s.toList.all isBlank

/-- A text with its ASCII letters in lower case. It is compared with words of ASCII letters only:
the one other character whose lower case is an ASCII letter is the Kelvin sign, and no such word
has a `k`. -/
def lower (s : String) : String := String.ofList (s.toList.map Char.toLower)

/-- The two parts of a text around its first `sep`, if it has one. -/
def cutAt? (sep : Char) (s : String) : Option (String × String) :=
  let (before, rest) := s.toList.span (· != sep)
  match rest with
  | [] => none
  | _ :: after => some (String.ofList before, String.ofList after)

end Waymark.Text
