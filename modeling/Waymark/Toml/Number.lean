import Waymark.Toml.Basic

/-!
# Numbers and dates in TOML

Digits may have single underscores between them. An integer has a sign and no leading zeros, or is
written to the base two, eight or sixteen, and fits into 64 bits with a sign. A float is an
integer with a fraction or a power of ten, or one of the words `inf` and `nan`. Of dates and times
only the form is of interest.
-/

namespace Waymark.Toml

open Decimal

/-- Reads further digits to a base, each with an optional underscore in front of it, by the value
of a digit. -/
def moreDigits {δ : Type} (digit? : Char → Option δ) : List Char → List δ × List Char
  | [] => ([], [])
  | '_' :: c :: rest =>
    match digit? c with
    | some d => let (ds, rest) := moreDigits digit? rest; (d :: ds, rest)
    | none => ([], '_' :: c :: rest)
  | c :: rest =>
    match digit? c with
    | some d => let (ds, rest) := moreDigits digit? rest; (d :: ds, rest)
    | none => ([], c :: rest)

/-- Reads at least one digit. -/
def someDigits {δ : Type} (digit? : Char → Option δ) (cs : List Char) :
    Option (List δ × List Char) :=
  match cs with
  | [] => none
  | c :: rest => (digit? c).map fun d =>
    let (ds, rest) := moreDigits digit? rest
    (d :: ds, rest)

/-- Reads a sign, if there is one; a minus sign gives true. -/
def sign (cs : List Char) : Bool × List Char :=
  match cs with
  | '+' :: rest => (false, rest)
  | '-' :: rest => (true, rest)
  | _ => (false, cs)

/-- Reads a zero, or digits that do not begin with a zero. -/
def wholeDigits (cs : List Char) : Option (List Digit × List Char) :=
  match cs with
  | '0' :: rest => some ([.zero], rest)
  | _ => someDigits Digit.ofChar? cs

/-- Reads the power of ten after its letter, if the letter is there. -/
def powerPart (cs : List Char) : Option (Option Int × List Char) :=
  match cs with
  | c :: rest =>
    if c = 'e' ∨ c = 'E' then
      let (negative, rest) := sign rest
      (someDigits Digit.ofChar? rest).map fun (ds, rest) =>
        let n := Int.ofNat (valueOf ds)
        (some (if negative then -n else n), rest)
    else some (none, cs)
  | [] => some (none, [])

/-- Reads the fraction, if there is one. -/
def fractionPart (cs : List Char) : Option (List Digit × List Char) :=
  match cs with
  | '.' :: rest => someDigits Digit.ofChar? rest
  | _ => some ([], cs)

/-- Reads a float that is written in digits. A number too large for a double is refused if it is
positive and taken as infinity if it is negative. -/
def decimalFloat? (cs : List Char) : Option (Float × List Char) := do
  let (negative, rest) := sign cs
  let (whole, rest) ← wholeDigits rest
  let (fraction, rest) ← fractionPart rest
  let (exponent, rest) ← powerPart rest
  if fraction.isEmpty && exponent.isNone then none
  else
    let n : Numeral := ⟨negative, whole, fraction, exponent⟩
    let x := n.toFloat
    if x.isInf && !negative then none else some (x, rest)

/-- Reads a float that is written as a word. -/
def wordFloat? (cs : List Char) : Option (Float × List Char) :=
  let (negative, rest) := sign cs
  match rest with
  | 'i' :: 'n' :: 'f' :: rest => some ((Shape.infinite negative).toFloat, rest)
  | 'n' :: 'a' :: 'n' :: rest => some (Shape.notANumber.toFloat, rest)
  | _ => none

/-- The value of a digit below a base. -/
def baseDigit? (base : Nat) (c : Char) : Option Nat :=
  let n := c.toNat
  let value :=
    if 48 ≤ n ∧ n < 58 then n - 48
    else if 97 ≤ n ∧ n < 103 then n - 87
    else if 65 ≤ n ∧ n < 71 then n - 55
    else 16
  if value < base then some value else none

/-- Reads digits to a base after its sign. -/
def basedInteger? (base : Nat) (cs : List Char) : Option (Int × List Char) := do
  let (ds, rest) ← someDigits (baseDigit? base) cs
  let n := ds.foldl (fun n d => base * n + d) 0
  if n < 1 <<< 63 then some (Int.ofNat n, rest) else none

/-- Reads an integer. -/
def integer? (cs : List Char) : Option (Int × List Char) :=
  match cs with
  | '0' :: 'x' :: rest => basedInteger? 16 rest
  | '0' :: 'o' :: rest => basedInteger? 8 rest
  | '0' :: 'b' :: rest => basedInteger? 2 rest
  | _ => do
    let (negative, rest) := sign cs
    let (ds, rest) ← wholeDigits rest
    let n := valueOf ds
    if negative then if n ≤ 1 <<< 63 then some (-Int.ofNat n, rest) else none
    else if n < 1 <<< 63 then some (Int.ofNat n, rest) else none

/-- Reads `count` digits as a number. -/
def fixedDigits (count : Nat) (cs : List Char) : Option (Nat × List Char) := do
  let ds ← (cs.take count).mapM Digit.ofChar?
  if ds.length = count then some (valueOf ds, cs.drop count) else none

/-- Reads a given character. -/
def expect (c : Char) (cs : List Char) : Option (List Char) :=
  match cs with
  | [] => none
  | d :: rest => if c = d then some rest else none

/-- The number of days of a month. -/
def daysOf (year month : Nat) : Nat :=
  if month = 2 then
    if year % 4 = 0 ∧ (year % 100 ≠ 0 ∨ year % 400 = 0) then 29 else 28
  else if month = 4 ∨ month = 6 ∨ month = 9 ∨ month = 11 then 30
  else 31

/-- Reads a date and gives the text after it. -/
def date? (cs : List Char) : Option (List Char) := do
  let (year, rest) ← fixedDigits 4 cs
  let rest ← expect '-' rest
  let (month, rest) ← fixedDigits 2 rest
  let rest ← expect '-' rest
  let (day, rest) ← fixedDigits 2 rest
  if 1 ≤ month ∧ month ≤ 12 ∧ 1 ≤ day ∧ day ≤ daysOf year month then some rest else none

/-- Reads a time and gives the text after it. -/
def time? (cs : List Char) : Option (List Char) := do
  let (hour, rest) ← fixedDigits 2 cs
  let rest ← expect ':' rest
  let (minute, rest) ← fixedDigits 2 rest
  let rest ← expect ':' rest
  let (second, rest) ← fixedDigits 2 rest
  if 23 < hour ∨ 59 < minute ∨ 60 < second then none
  else match rest with
    | '.' :: afterPoint => match takeDigits afterPoint with
      | ([], _) => none
      | (_, rest) => some rest
    | _ => some rest

/-- Reads a distance from universal time and gives the text after it. -/
def offset? (cs : List Char) : Option (List Char) :=
  match cs with
  | [] => none
  | c :: rest =>
    if c = 'Z' ∨ c = 'z' then some rest
    else if c = '+' ∨ c = '-' then do
      let (hour, rest) ← fixedDigits 2 rest
      let rest ← expect ':' rest
      let (minute, rest) ← fixedDigits 2 rest
      if hour ≤ 23 ∧ minute ≤ 59 then some rest else none
    else none

/-- Reads a time with an optional distance from universal time, after the sign that parts it from
a date. -/
def timeOfDate? (cs : List Char) : Option (List Char) :=
  match cs with
  | [] => none
  | c :: rest =>
    if c = 'T' ∨ c = 't' ∨ c = ' ' then
      (time? rest).map fun rest => (offset? rest).getD rest
    else none

/-- Reads a date, a time, or a date with a time, and gives the text after it. -/
def dateTime? (cs : List Char) : Option (List Char) :=
  match date? cs with
  | some rest => some ((timeOfDate? rest).getD rest)
  | none => time? cs

/-- Reads a date, a float or an integer. -/
def number? (cs : List Char) : Option (Value × List Char) :=
  match dateTime? cs with
  | some rest => some (.dateTime, rest)
  | none => match decimalFloat? cs with
    | some (x, rest) => some (.scalar (.float x), rest)
    | none => match wordFloat? cs with
      | some (x, rest) => some (.scalar (.float x), rest)
      | none => (integer? cs).map fun (n, rest) => (.scalar (.integer n), rest)

end Waymark.Toml
