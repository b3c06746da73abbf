/-!
# Doubles as integers

A finite double is, up to its sign, `mantissa · 2 ^ scale / 2 ^ 1075` with natural numbers
`mantissa < 2 ^ 53` and `1 ≤ scale ≤ 2046`. `Shape.ofFloat` takes a double apart and
`Shape.toFloat` puts it together, both through the bits. `Magnitude.nearest` rounds a quotient of
natural numbers to such a value, a half going to the even mantissa. All arithmetic is exact.
-/

namespace Waymark.Decimal

/-- The absolute value `mantissa · 2 ^ scale / 2 ^ 1075` of a finite double. -/
structure Magnitude where
  /-- The binary digits, the hidden one included. -/
  mantissa : Nat
  /-- The exponent field, where the two lowest fields (subnormal and least normal) are one. -/
  scale : Nat
deriving DecidableEq, Repr

namespace Magnitude

/-- Zero. -/
def zero : Magnitude := ⟨0, 1⟩

/-- The fields of a magnitude as one number: the order of the values is the order of these. -/
def toBits (v : Magnitude) : Nat := (v.scale - 1) <<< 52 + v.mantissa

/-- The magnitude whose fields are `bits`, which lie below `2047 · 2 ^ 52`. -/
def ofBits (bits : Nat) : Magnitude :=
  let field := bits >>> 52
  let fraction := bits % 1 <<< 52
  if field = 0 then ⟨fraction, 1⟩ else ⟨1 <<< 52 + fraction, field⟩

/-- Whether a magnitude is too large for a double. -/
def overflows (v : Magnitude) : Bool := decide (2047 <<< 52 ≤ v.toBits)

/-- The magnitude nearest to `num / den`, where a value half way between two takes the even
mantissa. `scale` is the least one at which the mantissa fits. -/
def nearest (num den : Nat) : Magnitude :=
  let scaled := num <<< 1075
  let scale := max 1 ((scaled / den).log2 - 52)
  let unit := den <<< scale
  let quotient := scaled / unit
  let remainder := scaled % unit
  let up := unit < 2 * remainder || (unit == 2 * remainder && quotient % 2 == 1)
  let mantissa := if up then quotient + 1 else quotient
  if mantissa = 1 <<< 53 then ⟨1 <<< 52, scale + 1⟩ else ⟨mantissa, scale⟩

end Magnitude

/-- What a double is. -/
inductive Shape where
  /-- Not a number. -/
  | notANumber
  /-- An infinity. -/
  | infinite (negative : Bool)
  /-- A number, with the sign kept also for zero. -/
  | finite (negative : Bool) (magnitude : Magnitude)
deriving DecidableEq, Repr

namespace Shape

/-- Takes a double apart. -/
def ofFloat (x : Float) : Shape :=
  let bits := x.toBits.toNat
  let negative := decide (1 <<< 63 ≤ bits)
  let fields := bits % 1 <<< 63
  if fields < 2047 <<< 52 then .finite negative (.ofBits fields)
  else if fields = 2047 <<< 52 then .infinite negative
  else .notANumber

/-- The double with a sign and the given fields. -/
def pack (negative : Bool) (fields : Nat) : Float :=
  Float.ofBits (UInt64.ofNat ((if negative then 1 <<< 63 else 0) + fields))

/-- Puts a double together; a magnitude too large for a double gives infinity. -/
def toFloat : Shape → Float
  | .notANumber => pack false (2047 <<< 52 + 1 <<< 51)
  | .infinite negative => pack negative (2047 <<< 52)
  | .finite negative v => pack negative (if v.overflows then 2047 <<< 52 else v.toBits)

end Shape

end Waymark.Decimal
