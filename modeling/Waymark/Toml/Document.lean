import Waymark.Toml.Basic
import Waymark.Toml.Text

/-!
# Writing TOML

A document is a list of sections, and a section a list of entries with texts and numbers for
values. Sections are parted by a blank line.
-/

namespace Waymark.Toml

open Decimal

/-- A section of a document: its name and its entries. -/
structure Part where
  /-- The name of the section. -/
  name : String
  /-- The entries in order. -/
  entries : List (String × Scalar)

/-- A document: its sections in order. -/
abbrev Document := List Part

/-- A float with at least one digit after the point, and never with a power of ten. -/
def floatChars (x : Float) : List Char :=
  match Shape.ofFloat x with
  | .notANumber => ['n', 'a', 'n']
  | .infinite negative => if negative then ['-', 'i', 'n', 'f'] else ['i', 'n', 'f']
  | .finite negative v =>
    let n := v.numeral negative
    { n with fraction := if n.fraction.isEmpty then [.zero] else n.fraction : Numeral }.chars

/-- An integer. -/
def integerChars (n : Int) : List Char :=
  (if n < 0 then ['-'] else []) ++ digitChars (digitsOf n.natAbs)

/-- The characters of a text or a number. -/
def Scalar.chars : Scalar → List Char
  | .string text => stringChars text.toList
  | .integer n => integerChars n
  | .float x => floatChars x

/-- The line of an entry. -/
def entryChars (e : String × Scalar) : List Char :=
  e.1.toList ++ [' ', '=', ' '] ++ e.2.chars ++ ['\n']

/-- The lines of a section. -/
def Part.chars (p : Part) : List Char :=
  '[' :: (p.name.toList ++ [']', '\n'] ++ p.entries.flatMap entryChars)

/-- The characters of a document. -/
def documentChars : Document → List Char
  | [] => []
  | [p] => p.chars
  | p :: rest => p.chars ++ '\n' :: documentChars rest

/-- The text of a document. -/
def Document.text (d : Document) : String := String.ofList (documentChars d)

end Waymark.Toml
