import Waymark.Decimal.Digit
import Waymark.Decimal.Magnitude

/-!
# Shortest decimals

Around every magnitude lies the interval of the reals that round to it. `shortest` finds the
coarsest grid of multiples of a power of ten with a point in that interval and, on that grid, the
point nearest to the magnitude; a `Tie` says which of two equally near points is taken. The
other direction, `Scientific.nearest`, rounds any decimal to the nearest magnitude.
-/

namespace Waymark.Decimal

/-- The decimal `digits · 10 ^ exponent`. -/
structure Scientific where
  /-- The digits, as one number. -/
  digits : Nat
  /-- The power of ten they are multiplied by. -/
  exponent : Int
deriving DecidableEq, Repr

namespace Scientific

/-- The numerator of a decimal as a fraction of natural numbers. -/
def numerator (d : Scientific) : Nat := d.digits * Nat.pow 10 d.exponent.toNat

/-- The denominator of a decimal as a fraction of natural numbers. -/
def denominator (d : Scientific) : Nat := Nat.pow 10 (-d.exponent).toNat

/-- The magnitude nearest to a decimal. Decimals outside of `10 ^ (-330)` to `10 ^ 310` are
settled by the number of their digits: they are far below half of the least magnitude, or far
above the largest. -/
def nearest (d : Scientific) : Magnitude :=
  let top := (digitsOf d.digits).length + d.exponent
  if d.digits = 0 ∨ top < -330 then .zero
  else if 310 < top then ⟨1 <<< 52, 2047⟩
  else .nearest d.numerator d.denominator

end Scientific

namespace Magnitude

/-- Whether a decimal rounds to a magnitude. The interval runs from half a unit below to half a
unit above, a quarter below where the next lower magnitude is nearer, and has its ends iff the
mantissa is even. Both sides are compared in quarters of `2 ^ scale / 2 ^ 1075`. -/
def covers (v : Magnitude) (d : Scientific) : Bool :=
  let point := d.numerator <<< 1077
  let unit := d.denominator <<< v.scale
  let low := (4 * v.mantissa - if v.mantissa = 1 <<< 52 ∧ 1 < v.scale then 1 else 2) * unit
  let high := (4 * v.mantissa + 2) * unit
  if v.mantissa % 2 = 0 then low ≤ point && point ≤ high else low < point && point < high

end Magnitude

/-- Which of two equally near decimals is taken. -/
inductive Tie where
  /-- The larger one. -/
  | up
  /-- The one with the even last digit. -/
  | even
deriving DecidableEq, Repr

namespace Magnitude

/-- The multiple of `10 ^ exponent` that writes a magnitude: its lower or its upper neighbour on
that grid, if one rounds back to it, and the nearer one if both do. -/
def onGrid (tie : Tie) (v : Magnitude) (exponent : Int) : Option Scientific :=
  let one : Scientific := ⟨1, exponent⟩
  let value := v.mantissa <<< v.scale * one.denominator
  let unit := one.numerator <<< 1075
  let low := value / unit
  let below : Scientific := ⟨low, exponent⟩
  let above : Scientific := ⟨low + 1, exponent⟩
  let upward := match compare (2 * value) ((2 * low + 1) * unit) with
    | .lt => false
    | .gt => true
    | .eq => match tie with
      | .up => true
      | .even => low % 2 == 1
  match v.covers below, v.covers above with
  | true, true => some (if upward then above else below)
  | true, false => some below
  | false, true => some above
  | false, false => none

/-- The magnitude as a decimal with all its digits. -/
def exact (v : Magnitude) : Scientific := ⟨v.mantissa <<< v.scale * Nat.pow 5 1075, -1075⟩

/-- Tries `fuel` grids from `10 ^ exponent` downward. -/
def shortestFrom (tie : Tie) (v : Magnitude) : Nat → Int → Scientific
  | 0, _ => v.exact
  | fuel + 1, exponent =>
    match v.onGrid tie exponent with
    | some d => d
    | none => shortestFrom tie v fuel (exponent - 1)

/-- The decimal with the fewest digits that rounds to a magnitude, and the nearest of those. The
search starts above the leading digit, and a grid eighteen digits finer has a hit. -/
def shortest (tie : Tie) (v : Magnitude) : Scientific :=
  let binary : Int := v.mantissa.log2 + v.scale - 1074
  v.shortestFrom tie 24 (binary * 30103 / 100000 + 2)

end Magnitude

end Waymark.Decimal
