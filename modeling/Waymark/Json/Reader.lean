import Waymark.Json.Basic

/-!
# Reading JSON

Every reader takes the characters ahead and gives what it read with the characters that are left,
or nothing when the text is not JSON. A reader of values has a limit on the nesting of lists and
objects. Texts are read in two passes: `pieces` takes the escapes apart, and `joinPieces` puts the
two halves of a character beyond the basic plane together.
-/

namespace Waymark.Json

open Decimal

/-- Whether a character may stand between the parts of a JSON text. -/
def isSpace (c : Char) : Bool := c == ' ' || c == '\t' || c == '\n' || c == '\r'

/-- The text after its leading blanks. -/
def skipSpace (cs : List Char) : List Char := cs.dropWhile isSpace

/-- One unit of a text between quotation marks. -/
inductive Piece where
  /-- A character, itself or by a one-letter escape. -/
  | char (c : Char)
  /-- A unit of sixteen bits, by its number. -/
  | code (n : Nat)

/-- The value of a hexadecimal digit in either case. -/
def hexValue? (c : Char) : Option Nat :=
  let n := c.toNat
  if 48 ≤ n ∧ n < 58 then some (n - 48)
  else if 97 ≤ n ∧ n < 103 then some (n - 87)
  else if 65 ≤ n ∧ n < 71 then some (n - 55)
  else none

/-- The value of four hexadecimal digits. -/
def hexUnit? (a b c d : Char) : Option Nat := do
  let a ← hexValue? a
  let b ← hexValue? b
  let c ← hexValue? c
  let d ← hexValue? d
  return ((a * 16 + b) * 16 + c) * 16 + d

/-- The character of a one-letter escape. -/
def escape? (c : Char) : Option Char :=
  match c with
  | '"' => some '"'
  | '\\' => some '\\'
  | '/' => some '/'
  | 'b' => some (Char.ofNat 8)
  | 'f' => some (Char.ofNat 12)
  | 'n' => some '\n'
  | 'r' => some '\r'
  | 't' => some '\t'
  | _ => none

/-- Reads the units of a text up to and with its closing quotation mark. -/
def pieces : List Char → Option (List Piece × List Char)
  | [] => none
  | '"' :: rest => some ([], rest)
  | '\\' :: 'u' :: a :: b :: c :: d :: rest => do
    let n ← hexUnit? a b c d
    let (ps, rest) ← pieces rest
    return (.code n :: ps, rest)
  | '\\' :: e :: rest => do
    let c ← escape? e
    let (ps, rest) ← pieces rest
    return (.char c :: ps, rest)
  | c :: rest =>
    if c.toNat < 32 ∨ c = '\\' then none
    else do
      let (ps, rest) ← pieces rest
      return (.char c :: ps, rest)

/-- What is done about half of a character that stands alone. -/
inductive Halves where
  /-- The text is refused. -/
  | refused
  /-- A replacement character stands in for it; for texts that are only skipped. -/
  | replaced
deriving DecidableEq

/-- The character that stands in for a lone half, if one may. -/
def Halves.char? : Halves → Option Char
  | .refused => none
  | .replaced => some (Char.ofNat 0xFFFD)

/-- Puts the characters of a text together from its units. -/
def joinPieces (halves : Halves) : List Piece → Option (List Char)
  | [] => some []
  | .char c :: rest => (joinPieces halves rest).map (c :: ·)
  | .code high :: .code low :: rest =>
    if 0xD800 ≤ high ∧ high < 0xDC00 ∧ 0xDC00 ≤ low ∧ low < 0xE000 then
      let c := Char.ofNat (0x10000 + (high - 0xD800) * 0x400 + (low - 0xDC00))
      (joinPieces halves rest).map (c :: ·)
    else if 0xD800 ≤ high ∧ high < 0xE000 then do
      let c ← halves.char?
      let cs ← joinPieces halves (.code low :: rest)
      return c :: cs
    else (joinPieces halves (.code low :: rest)).map (Char.ofNat high :: ·)
  | .code n :: rest => do
    let c ← if 0xD800 ≤ n ∧ n < 0xE000 then halves.char? else some (Char.ofNat n)
    let cs ← joinPieces halves rest
    return c :: cs

/-- Reads a text after its opening quotation mark. -/
def stringBody (halves : Halves) (cs : List Char) : Option (String × List Char) := do
  let (ps, rest) ← pieces cs
  let body ← joinPieces halves ps
  return (String.ofList body, rest)

/-- Reads the digits of a power of ten with an optional sign. -/
def power (cs : List Char) : Option (Int × List Char) :=
  let (negative, body) := match cs with
    | '+' :: rest => (false, rest)
    | '-' :: rest => (true, rest)
    | _ => (false, cs)
  match takeDigits body with
  | ([], _) => none
  | (ds, rest) =>
    let n := Int.ofNat (valueOf ds)
    some (if negative then -n else n, rest)

/-- Reads the point and the digits after it, if there is a point. -/
def fractionPart (cs : List Char) : Option (List Digit × List Char) :=
  match cs with
  | '.' :: rest => match takeDigits rest with
    | ([], _) => none
    | (ds, rest) => some (ds, rest)
  | _ => some ([], cs)

/-- Reads the power of ten, if there is one. -/
def exponentPart (cs : List Char) : Option (Option Int × List Char) :=
  match cs with
  | c :: rest =>
    if c = 'e' ∨ c = 'E' then (power rest).map fun (e, rest) => (some e, rest)
    else some (none, cs)
  | [] => some (none, [])

/-- Reads a number: digits without leading zeros, then an optional fraction and power of ten. -/
def numeral (cs : List Char) : Option (Numeral × List Char) := do
  let (negative, body) := match cs with
    | '-' :: rest => (true, rest)
    | _ => (false, cs)
  let (whole, rest) := takeDigits body
  match whole with
  | [] => none
  | first :: more =>
    if first = .zero ∧ more ≠ [] then none
    else
      let (fraction, rest) ← fractionPart rest
      let (exponent, rest) ← exponentPart rest
      return (⟨negative, whole, fraction, exponent⟩, rest)

/-- Reads a value that is neither a list nor an object. -/
def scalar (halves : Halves) (cs : List Char) : Option (Json × List Char) :=
  match cs with
  | '"' :: rest => (stringBody halves rest).map fun (s, rest) => (.string s, rest)
  | 'n' :: 'u' :: 'l' :: 'l' :: rest => some (.null, rest)
  | 't' :: 'r' :: 'u' :: 'e' :: rest => some (.bool true, rest)
  | 'f' :: 'a' :: 'l' :: 's' :: 'e' :: rest => some (.bool false, rest)
  | _ => (numeral cs).map fun (n, rest) => (.number n, rest)

/-- Reads at least one part with `part`, commas between the parts, up to and with `close`; `fuel`
bounds the number of parts. -/
def parts {α : Type} (part : List Char → Option (α × List Char)) (close : Char) :
    Nat → List Char → Option (List α × List Char)
  | 0, _ => none
  | fuel + 1, cs => do
    let (x, rest) ← part cs
    match skipSpace rest with
    | [] => none
    | c :: rest =>
      if c = close then return ([x], rest)
      else if c = ',' then
        let (xs, rest) ← parts part close fuel rest
        return (x :: xs, rest)
      else none

/-- Reads what stands between an opening bracket and `close`: nothing, or parts. -/
def enclosed {α : Type} (part : List Char → Option (α × List Char)) (close : Char)
    (cs : List Char) : Option (List α × List Char) :=
  match skipSpace cs with
  | [] => none
  | c :: rest => if c = close then some ([], rest) else parts part close (rest.length + 1) (c :: rest)

/-- Reads a name with the colon after it. -/
def name (halves : Halves) (cs : List Char) : Option (String × List Char) :=
  match skipSpace cs with
  | '"' :: rest => do
    let (key, rest) ← stringBody halves rest
    match skipSpace rest with
    | ':' :: rest => return (key, rest)
    | _ => none
  | _ => none

/-- Reads a member of an object with `value`. -/
def member (halves : Halves) (value : List Char → Option (Json × List Char)) (cs : List Char) :
    Option ((String × Json) × List Char) := do
  let (key, rest) ← name halves cs
  let (v, rest) ← value rest
  return ((key, v), rest)

/-- Reads a value with at most `depth` levels of lists and objects. -/
def value (halves : Halves) : Nat → List Char → Option (Json × List Char)
  | 0, cs => scalar halves (skipSpace cs)
  | depth + 1, cs =>
    match skipSpace cs with
    | '[' :: rest =>
      (enclosed (value halves depth) ']' rest).map fun (items, rest) => (.array items, rest)
    | '\x7b' :: rest =>
      (enclosed (member halves (value halves depth)) '\x7d' rest).map fun (members, rest) =>
        (.object members, rest)
    | cs => scalar halves cs

/-- Reads a whole text as one value with at most `depth` levels of lists and objects. -/
def read? (depth : Nat) (text : String) : Option Json :=
  match value .refused depth text.toList with
  | some (v, rest) => if skipSpace rest = [] then some v else none
  | none => none

end Waymark.Json
