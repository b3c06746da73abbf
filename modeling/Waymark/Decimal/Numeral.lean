import Waymark.Decimal.Shortest

/-!
# Numerals

A numeral is a number as it is written: sign, digits before and after the point, and a power of
ten. `Numeral.toFloat` reads one with correct rounding and `Numeral.quick?` with the rounding of
double arithmetic. `floatText` is the positional form in which numbers stand in messages and
labels; `Numeral.ofFloat?` is the form with an exponent for very large and very small numbers, in
which they stand in documents. `readFloat?` reads the numbers people type.
-/

namespace Waymark.Decimal

/-- A number as it is written. -/
structure Numeral where
  /-- Whether it has a minus sign. -/
  negative : Bool
  /-- The digits before the point. -/
  whole : List Digit
  /-- The digits after the point. -/
  fraction : List Digit
  /-- The power of ten, if one is written. -/
  exponent : Option Int
deriving DecidableEq, Repr

namespace Numeral

/-- The decimal that a numeral without its sign writes. -/
def scientific (n : Numeral) : Scientific :=
  ⟨valueOf (n.whole ++ n.fraction), n.exponent.getD 0 - n.fraction.length⟩

/-- The double nearest to a numeral. -/
def toFloat (n : Numeral) : Float := (Shape.finite n.negative n.scientific.nearest).toFloat

/-- The characters of a power of ten, the sign always written. -/
def exponentChars (e : Int) : List Char :=
  'e' :: (if 0 ≤ e then '+' else '-') :: digitChars (digitsOf e.natAbs)

/-- The characters of a numeral: the point only with digits after it, the power only if there is
one. -/
def chars (n : Numeral) : List Char :=
  (if n.negative then ['-'] else []) ++ digitChars n.whole ++
    (match n.fraction with
      | [] => []
      | ds => '.' :: digitChars ds) ++
    (match n.exponent with
      | none => []
      | some e => exponentChars e)

/-- The text of a numeral. -/
def text (n : Numeral) : String := String.ofList n.chars

end Numeral

/-- The digits of a decimal before and after the point, with at least one before it. -/
def positional (d : Scientific) : List Digit × List Digit :=
  let ds := digitsOf d.digits
  match d.exponent with
  | .ofNat zeros => (ds ++ List.replicate zeros .zero, [])
  | .negSucc n =>
    let places := n + 1
    let padded := List.replicate (places + 1 - ds.length) .zero ++ ds
    (padded.take (padded.length - places), padded.drop (padded.length - places))

/-- A magnitude with the fewest digits that read back, without a power of ten. -/
def Magnitude.numeral (negative : Bool) (v : Magnitude) : Numeral :=
  if v.mantissa = 0 then ⟨negative, [.zero], [], none⟩
  else
    let (whole, fraction) := positional (v.shortest .up)
    ⟨negative, whole, fraction, none⟩

/-- A double in messages and labels: the fewest digits that read back, an exact tie between two
such decimals going up; never a power of ten, no point for a whole number, and the sign of zero
kept. -/
def floatText (x : Float) : String :=
  match Shape.ofFloat x with
  | .notANumber => "NaN"
  | .infinite negative => if negative then "-inf" else "inf"
  | .finite negative v => (v.numeral negative).text

/-- A finite double in documents: the fewest digits that read back, an exact tie going to the even
digit; positional from `10 ^ (-5)` to below `10 ^ 16`, then with at least one digit after the
point, and with a signed power of ten elsewhere. -/
def Numeral.ofFloat? (x : Float) : Option Numeral :=
  match Shape.ofFloat x with
  | .notANumber | .infinite _ => none
  | .finite negative v =>
    if v.mantissa = 0 then some ⟨negative, [.zero], [.zero], none⟩
    else
      let d := v.shortest .even
      let ds := digitsOf d.digits
      let leading := d.exponent + ds.length - 1
      if -5 ≤ leading ∧ leading < 16 then
        let (whole, fraction) := positional d
        some ⟨negative, whole, if fraction.isEmpty then [.zero] else fraction, none⟩
      else some ⟨negative, ds.take 1, ds.drop 1, some leading⟩

/-- The significand that keeps the leading digits of a numeral as long as they fit into 64 bits,
and the number of digits that it left out. -/
def Numeral.significand (limit : Nat) (ds : List Digit) (start : Nat) : Nat × Nat :=
  match ds with
  | [] => (start, 0)
  | d :: rest =>
    let next := 10 * start + d.val
    if next < limit then Numeral.significand limit rest next else (start, ds.length)

/-- Multiplies or divides by a power of ten in double arithmetic, in steps of at most `10 ^ 308`;
`none` when the product overflows. Three steps down take every significand to zero. -/
def scaleByTen (x : Float) (exponent : Int) : Nat → Option Float
  | 0 => some x
  | fuel + 1 =>
    if exponent.natAbs ≤ 308 then
      let power := Float.ofScientific 1 false exponent.natAbs
      if 0 ≤ exponent then
        let product := x * power
        if product.isInf then none else some product
      else some (x / power)
    else if x == 0.0 then some x
    else if 0 ≤ exponent then none
    else scaleByTen (x / Float.ofScientific 1 false 308) (exponent + 308) fuel

/-- The double of a numeral by one rounding of its significand and one of the scaling, which for
long numerals may miss the nearest double; `none` when it is too large. -/
def Numeral.quick? (n : Numeral) : Option Float :=
  let (whole, dropped) := Numeral.significand (1 <<< 64) n.whole 0
  let (digits, ignored) := Numeral.significand (1 <<< 64) n.fraction whole
  let kept := n.fraction.length - ignored
  let exponent : Int := n.exponent.getD 0 + dropped - kept
  match scaleByTen (UInt64.ofNat digits).toFloat exponent 4 with
  | some x => some (if n.negative then -x else x)
  | none => none

/-- Reads the digits of a power of ten, with an optional sign, up to the end of the text. -/
def readPower? (cs : List Char) : Option Int :=
  match cs with
  | '+' :: ds => (readNat? ds).map Int.ofNat
  | '-' :: ds => (readNat? ds).map fun n => -Int.ofNat n
  | ds => (readNat? ds).map Int.ofNat

/-- Reads an unsigned number: digits with an optional point among, before or after them, and an
optional power of ten. -/
def readNumeral? (negative : Bool) (cs : List Char) : Option Numeral :=
  let (whole, afterWhole) := takeDigits cs
  let (fraction, rest) := match afterWhole with
    | '.' :: afterPoint => takeDigits afterPoint
    | _ => ([], afterWhole)
  if whole.isEmpty && fraction.isEmpty then none
  else match rest with
    | [] => some ⟨negative, whole, fraction, none⟩
    | c :: power =>
      if c = 'e' ∨ c = 'E' then
        (readPower? power).map fun e => ⟨negative, whole, fraction, some e⟩
      else none

/-- Reads a number as people type it: an optional sign, then a numeral, or `inf`, `infinity` or
`nan` in letters of any case. The whole text must be the number. -/
def readFloat? (text : String) : Option Float :=
  let (negative, body) := match text.toList with
    | '+' :: cs => (false, cs)
    | '-' :: cs => (true, cs)
    | cs => (false, cs)
  let word := String.ofList (body.map Char.toLower)
  if word = "inf" ∨ word = "infinity" then some (Shape.infinite negative).toFloat
  else if word = "nan" then some Shape.notANumber.toFloat
  else (readNumeral? negative body).map Numeral.toFloat

end Waymark.Decimal
