import Mathlib.Tactic.Linarith
import Waymark.Decimal.Shortest
import Waymark.Proofs.Decimal.Digits

/-!
# Decimals that round back

The shortest decimal of a magnitude lies in the interval of the numbers that round to it
(`covers_shortest`), and every decimal of that interval is rounded to it (`nearest_of_covers`).
Together, a magnitude that is written is read back. Only the value of a decimal counts for this, not
how its digits are parted from its power of ten (`Scientific.Same`).

A magnitude is rounded to at its own scale, unless it is the least of that scale and the number is
below it: then at the scale below, where it rounds up to a power of two.
-/

namespace Waymark.Decimal

namespace Scientific

/-- The denominator of a decimal is a power of ten. -/
theorem denominator_pos (d : Scientific) : 0 < d.denominator := Nat.pow_pos (by decide)

/-- A decimal with places after the point is its digits over a power of ten. -/
@[simp] theorem numerator_neg (digits places : Nat) :
    (⟨digits, -(places : Int)⟩ : Scientific).numerator = digits := by
  simp [numerator]

/-- The power of ten that the digits are over has as many zeros as there are places. -/
@[simp] theorem denominator_neg (digits places : Nat) :
    (⟨digits, -(places : Int)⟩ : Scientific).denominator = 10 ^ places := by
  simp [denominator]

end Scientific

namespace Magnitude

/-- The magnitudes of doubles: the mantissa has 53 bits, and fewer only at the least scale. -/
structure Regular (v : Magnitude) : Prop where
  /-- The mantissa fits. -/
  mantissa_lt : v.mantissa < 2 ^ 53
  /-- The scale is at least one. -/
  one_le_scale : 1 ≤ v.scale
  /-- The scale is that of a finite double. -/
  scale_le : v.scale ≤ 2046
  /-- The mantissa is full, or the scale is the least. -/
  full : v.scale = 1 ∨ 2 ^ 52 ≤ v.mantissa

/-- The scale at which a quotient is rounded: the least one at which its mantissa has 53 bits, or
one. -/
theorem scale_eq {num den t : Nat} (hden : 0 < den) (ht : 1 ≤ t)
    (hlow : t = 1 ∨ 2 ^ (52 + t) * den ≤ num) (hhigh : num < 2 ^ (53 + t) * den) :
    max 1 ((num / den).log2 - 52) = t := by
  have hlt : num / den < 2 ^ (53 + t) := (Nat.div_lt_iff_lt_mul hden).2 hhigh
  rcases Nat.eq_zero_or_pos (num / den) with hzero | hpos
  · have ht : t = 1 := by
      refine hlow.resolve_right fun h => ?_
      have := (Nat.le_div_iff_mul_le hden).2 h
      have := Nat.two_pow_pos (52 + t)
      omega
    rw [hzero, ht]
    rfl
  · have hlog : (num / den).log2 < 53 + t := (Nat.log2_lt (by omega)).2 hlt
    rcases hlow with rfl | hlow
    · omega
    · have hle : 52 + t ≤ (num / den).log2 :=
        (Nat.le_log2 (by omega)).2 ((Nat.le_div_iff_mul_le hden).2 hlow)
      omega

section Rounding

variable {num den S t : Nat}

/-- A quotient that is rounded at scale `t`, where it is `q` units and a rest. -/
theorem nearest_eq {q r : Nat} (hden : 0 < den) (hS : num * 2 ^ 1075 = S)
    (hscale : max 1 ((S / den).log2 - 52) = t) (hsplit : S = q * (den * 2 ^ t) + r)
    (hr : r < den * 2 ^ t) :
    nearest num den =
      let mantissa :=
        if den * 2 ^ t < 2 * r ∨ (den * 2 ^ t = 2 * r ∧ q % 2 = 1) then q + 1 else q
      if mantissa = 2 ^ 53 then ⟨2 ^ 52, t + 1⟩ else ⟨mantissa, t⟩ := by
  have hunit : 0 < den * 2 ^ t := Nat.mul_pos hden (Nat.two_pow_pos t)
  have hquotient : S / (den * 2 ^ t) = q := by
    rw [hsplit, Nat.mul_comm, Nat.mul_add_div hunit, Nat.div_eq_of_lt hr, Nat.add_zero]
  have hremainder : S % (den * 2 ^ t) = r := by
    rw [hsplit, Nat.mul_comm, Nat.mul_add_mod, Nat.mod_eq_of_lt hr]
  unfold nearest
  simp only [Nat.shiftLeft_eq, hS, hscale, hquotient, hremainder, Bool.or_eq_true,
    Bool.and_eq_true, decide_eq_true_eq, beq_iff_eq, Nat.one_mul]

/-- A quotient of at least `m` and less than `m + 1` units is rounded at the scale of the units, if
`m` is full. -/
theorem scale_of_units {m : Nat} (hden : 0 < den) (ht : 1 ≤ t) (hfull : t = 1 ∨ 2 ^ 52 ≤ m)
    (hm : m < 2 ^ 53) (hlow : m * (den * 2 ^ t) ≤ S) (hhigh : S < (m + 1) * (den * 2 ^ t)) :
    max 1 ((S / den).log2 - 52) = t := by
  have hpow (k : Nat) : 2 ^ (k + t) * den = 2 ^ k * (den * 2 ^ t) := by
    rw [Nat.pow_add]
    ring
  refine scale_eq hden ht (hfull.imp_right fun h => ?_) ?_
  · rw [hpow]
    exact (Nat.mul_le_mul_right _ h).trans hlow
  · rw [hpow]
    exact hhigh.trans_le (Nat.mul_le_mul_right _ hm)

/-- A quotient at most half a unit above `m` is rounded down to it. -/
theorem nearest_down {m : Nat} (hden : 0 < den) (hS : num * 2 ^ 1075 = S) (ht : 1 ≤ t)
    (hfull : t = 1 ∨ 2 ^ 52 ≤ m) (hm : m < 2 ^ 53) (hlow : m * (den * 2 ^ t) ≤ S)
    (hhalf : 2 * (S - m * (den * 2 ^ t)) ≤ den * 2 ^ t)
    (hodd : m % 2 = 1 → den * 2 ^ t ≠ 2 * (S - m * (den * 2 ^ t))) :
    nearest num den = ⟨m, t⟩ := by
  have hunit : 0 < den * 2 ^ t := Nat.mul_pos hden (Nat.two_pow_pos t)
  have hscale := scale_of_units hden ht hfull hm hlow (by rw [Nat.succ_mul]; omega)
  rw [nearest_eq hden hS hscale (q := m) (r := S - m * (den * 2 ^ t)) (by omega) (by omega)]
  have hdown : ¬ (den * 2 ^ t < 2 * (S - m * (den * 2 ^ t)) ∨
      (den * 2 ^ t = 2 * (S - m * (den * 2 ^ t)) ∧ m % 2 = 1)) := by
    rintro (h | ⟨h, hmod⟩)
    · omega
    · exact hodd hmod h
  simp only [if_neg hdown, if_neg hm.ne]

/-- A quotient at most half a unit below `m + 1` is rounded up to it, and to the next scale if that
is too large for its own. -/
theorem nearest_up {m : Nat} (hden : 0 < den) (hS : num * 2 ^ 1075 = S) (ht : 1 ≤ t)
    (hfull : t = 1 ∨ 2 ^ 52 ≤ m) (hm : m < 2 ^ 53) (hlow : m * (den * 2 ^ t) ≤ S)
    (hhigh : S < (m + 1) * (den * 2 ^ t)) (hhalf : den * 2 ^ t ≤ 2 * (S - m * (den * 2 ^ t)))
    (heven : m % 2 = 0 → den * 2 ^ t ≠ 2 * (S - m * (den * 2 ^ t))) :
    nearest num den = if m + 1 = 2 ^ 53 then ⟨2 ^ 52, t + 1⟩ else ⟨m + 1, t⟩ := by
  have hscale := scale_of_units hden ht hfull hm hlow hhigh
  rw [Nat.succ_mul] at hhigh
  rw [nearest_eq hden hS hscale (q := m) (r := S - m * (den * 2 ^ t)) (by omega) (by omega)]
  have hup : den * 2 ^ t < 2 * (S - m * (den * 2 ^ t)) ∨
      (den * 2 ^ t = 2 * (S - m * (den * 2 ^ t)) ∧ m % 2 = 1) := by
    rcases hhalf.lt_or_eq with h | h
    · exact .inl h
    · refine .inr ⟨h, ?_⟩
      have hodd : ¬ m % 2 = 0 := fun hmod => heven hmod h
      omega
  simp only [if_pos hup]

end Rounding

/-- How far the interval around a magnitude reaches below it, in quarters of a unit: half a unit, or
a quarter of one where the next lower magnitude is nearer. -/
def reach (v : Magnitude) : Nat := if v.mantissa = 2 ^ 52 ∧ 1 < v.scale then 1 else 2

/-- A quotient `S / U` of units is in the interval around a magnitude. An end of the interval belongs
to it only if the mantissa is even. -/
structure Around (v : Magnitude) (S U : Nat) : Prop where
  /-- It is not too far below. -/
  low : (4 * v.mantissa - v.reach) * U ≤ 4 * S
  /-- It is not too far above. -/
  high : 4 * S ≤ (4 * v.mantissa + 2) * U
  /-- The lower end belongs to the interval only if the mantissa is even. -/
  low_ne : v.mantissa % 2 = 1 → (4 * v.mantissa - v.reach) * U ≠ 4 * S
  /-- The upper end belongs to the interval only if the mantissa is even. -/
  high_ne : v.mantissa % 2 = 1 → 4 * S ≠ (4 * v.mantissa + 2) * U

/-- A quotient in the interval around a magnitude is rounded to it. -/
theorem nearest_of_around {v : Magnitude} (hv : v.Regular) (hpos : 0 < v.mantissa)
    {num den S : Nat} (hden : 0 < den) (hS : num * 2 ^ 1075 = S)
    (h : v.Around S (den * 2 ^ v.scale)) : nearest num den = v := by
  obtain ⟨m, s⟩ := v
  obtain ⟨hm, hs, -, hfull⟩ := hv
  obtain ⟨hlow, hhigh, hlow_ne, hhigh_ne⟩ := h
  simp only [reach] at hm hs hfull hpos hlow hhigh hlow_ne hhigh_ne ⊢
  have hfour (U : Nat) (k : Nat) : (4 * m + k) * U = 4 * (m * U) + k * U := by ring
  by_cases habove : m * (den * 2 ^ s) ≤ S
  · -- The number is not below the magnitude.
    rw [hfour] at hhigh hhigh_ne
    exact nearest_down hden hS hs hfull hm habove (by omega) fun hmod h => hhigh_ne hmod (by omega)
  · by_cases hleast : m = 2 ^ 52 ∧ 1 < s
    · -- The magnitude is the least of its scale, and the number is one of the scale below.
      obtain ⟨rfl, hlt⟩ := hleast
      obtain ⟨t, rfl⟩ : ∃ t, s = t + 1 := ⟨s - 1, by omega⟩
      have hdouble : den * 2 ^ (t + 1) = 2 * (den * 2 ^ t) := by
        rw [Nat.pow_succ]
        ring
      rw [if_pos ⟨rfl, hlt⟩, hdouble] at hlow
      rw [hdouble] at habove
      rw [nearest_up (m := 2 ^ 53 - 1) (t := t) hden hS (by omega) (.inr (by decide)) (by decide)
        (by omega) (by omega) (by omega) (fun hmod => absurd hmod (by decide)), if_pos (by decide)]
    · -- The magnitude has a neighbour one unit below.
      obtain ⟨k, rfl⟩ : ∃ k, m = k + 1 := ⟨m - 1, by omega⟩
      have hquarters (U : Nat) : (4 * (k + 1) - 2) * U = 4 * (k * U) + 2 * U := by
        rw [show 4 * (k + 1) - 2 = 4 * k + 2 by omega]
        ring
      rw [if_neg hleast, hquarters] at hlow hlow_ne
      have hhigh := Nat.lt_of_not_le habove
      rw [nearest_up hden hS hs (m := k) (by omega) (by omega) (by omega) hhigh (by omega)
        fun hmod h => hlow_ne (by omega) (by omega), if_neg hm.ne]

/-- A decimal rounds to a magnitude if it is in the interval around it. -/
theorem covers_iff {v : Magnitude} {d : Scientific} :
    v.covers d = true ↔ v.Around (d.numerator * 2 ^ 1075) (d.denominator * 2 ^ v.scale) := by
  have hshift (k : Nat) : d.numerator <<< (k + 2) = 4 * (d.numerator * 2 ^ k) := by
    rw [Nat.shiftLeft_add, Nat.shiftLeft_eq, Nat.shiftLeft_eq, Nat.mul_comm]
  have hpoint : d.numerator <<< 1077 = 4 * (d.numerator * 2 ^ 1075) := hshift 1075
  unfold covers
  simp only [hpoint, Nat.shiftLeft_eq, Nat.one_mul]
  change (if v.mantissa % 2 = 0 then
    decide ((4 * v.mantissa - v.reach) * (d.denominator * 2 ^ v.scale) ≤ _) && _
    else decide ((4 * v.mantissa - v.reach) * (d.denominator * 2 ^ v.scale) < _) && _) = true ↔ _
  by_cases heven : v.mantissa % 2 = 0
  · rw [if_pos heven, Bool.and_eq_true, decide_eq_true_eq, decide_eq_true_eq]
    have hnot : v.mantissa % 2 ≠ 1 := by rw [heven]; decide
    exact ⟨fun h => ⟨h.1, h.2, fun h => absurd h hnot, fun h => absurd h hnot⟩,
      fun h => ⟨h.low, h.high⟩⟩
  · rw [if_neg heven, Bool.and_eq_true, decide_eq_true_eq, decide_eq_true_eq]
    exact ⟨fun h => ⟨h.1.le, h.2.le, fun _ => h.1.ne, fun _ => h.2.ne⟩,
      fun h => ⟨lt_of_le_of_ne h.low (h.low_ne (Nat.mod_two_ne_zero.1 heven)),
        lt_of_le_of_ne h.high (h.high_ne (Nat.mod_two_ne_zero.1 heven))⟩⟩

/-- The multiple of a power of ten that writes a magnitude rounds to it. -/
theorem covers_of_onGrid {tie : Tie} {v : Magnitude} {exponent : Int} {d : Scientific}
    (h : v.onGrid tie exponent = some d) : v.covers d = true := by
  unfold onGrid at h
  extract_lets one value unit low below above upward at h
  cases hbelow : v.covers below <;> cases habove : v.covers above <;>
    simp only [hbelow, habove, Option.some.injEq, reduceCtorEq] at h
  · rw [← h]
    exact habove
  · rw [← h]
    exact hbelow
  · rw [← h]
    split
    · exact habove
    · exact hbelow

/-- A decimal that is the magnitude itself rounds to it. -/
theorem around_self {v : Magnitude} (hpos : 0 < v.mantissa) {U : Nat} (hU : 0 < U) :
    v.Around (v.mantissa * U) U := by
  have hlow : (4 * v.mantissa - v.reach) * U < 4 * (v.mantissa * U) := by
    have hreach : 1 ≤ v.reach := by
      unfold reach
      split <;> decide
    rw [← Nat.mul_assoc]
    exact Nat.mul_lt_mul_of_pos_right (by omega) hU
  have hhigh : 4 * (v.mantissa * U) < (4 * v.mantissa + 2) * U := by
    rw [← Nat.mul_assoc]
    exact Nat.mul_lt_mul_of_pos_right (by omega) hU
  exact ⟨hlow.le, hhigh.le, fun _ => hlow.ne, fun _ => hhigh.ne⟩

/-- A magnitude with all its digits rounds to itself. -/
theorem covers_exact {v : Magnitude} (hpos : 0 < v.mantissa) : v.covers v.exact = true := by
  have hplaces : (-1075 : Int) = -((1075 : Nat) : Int) := by decide
  rw [covers_iff, exact, hplaces]
  -- The power is too large to be computed, and any other would do.
  generalize 1075 = k
  have hten : 10 ^ k = 5 ^ k * 2 ^ k := by rw [← Nat.mul_pow]
  have hpoint : v.mantissa <<< v.scale * Nat.pow 5 k * 2 ^ k =
      v.mantissa * (10 ^ k * 2 ^ v.scale) := by
    rw [Nat.shiftLeft_eq, Nat.pow_eq, hten]
    ring
  rw [Scientific.numerator_neg, Scientific.denominator_neg, hpoint]
  exact around_self hpos (Nat.mul_pos (Nat.pow_pos (by decide)) (Nat.two_pow_pos _))

/-- The shortest decimal of a magnitude rounds to it. -/
theorem covers_shortest {v : Magnitude} (hpos : 0 < v.mantissa) (tie : Tie) :
    v.covers (v.shortest tie) = true := by
  have hfrom (fuel : Nat) (exponent : Int) :
      v.covers (v.shortestFrom tie fuel exponent) = true := by
    induction fuel generalizing exponent with
    | zero => exact covers_exact hpos
    | succ fuel ih =>
      unfold shortestFrom
      split
      · exact covers_of_onGrid (by assumption)
      · exact ih _
  exact hfrom _ _

end Magnitude

/-- A power of two is at most one of ten, by the excess of `10 ^ 28` over `2 ^ 93`. -/
theorem two_pow_le_ten_pow {a b r s : Nat} (k : Nat) (h : 2 ^ r ≤ 10 ^ s) (ha : a = 93 * k + r)
    (hb : b = 28 * k + s) : 2 ^ a ≤ 10 ^ b := by
  rw [ha, hb, Nat.pow_add, Nat.pow_add, Nat.pow_mul, Nat.pow_mul]
  exact Nat.mul_le_mul (Nat.pow_le_pow_left (by decide) k) h

namespace Magnitude.Around

variable {v : Magnitude} {num den : Nat}

/-- What rounds to a magnitude that is not zero is not far below the least of them. -/
theorem le_num (hv : v.Regular) (hpos : 0 < v.mantissa)
    (h : v.Around (num * 2 ^ 1075) (den * 2 ^ v.scale)) : den ≤ num * 10 ^ 324 := by
  have hlow := h.low
  have hten : 2 ^ 1075 ≤ 10 ^ 324 := two_pow_le_ten_pow 11 (r := 52) (s := 16) (by decide) rfl rfl
  revert hlow hten
  generalize 2 ^ 1075 = p
  generalize 10 ^ 324 = t
  intro hlow hten
  have hreach : v.reach ≤ 2 := by
    unfold reach
    split <;> decide
  have hscale : 2 ^ 1 ≤ 2 ^ v.scale := Nat.pow_le_pow_right (by decide) hv.one_le_scale
  have hunits : 2 * (den * 2) ≤ 4 * (num * p) :=
    calc 2 * (den * 2) ≤ (4 * v.mantissa - v.reach) * (den * 2 ^ v.scale) :=
          Nat.mul_le_mul (by omega) (Nat.mul_le_mul_left den hscale)
      _ ≤ 4 * (num * p) := hlow
  calc den ≤ num * p := by omega
    _ ≤ num * t := Nat.mul_le_mul_left num hten

/-- What rounds to a magnitude is not far above the largest of them. -/
theorem num_le (hv : v.Regular) (h : v.Around (num * 2 ^ 1075) (den * 2 ^ v.scale)) :
    num ≤ den * 10 ^ 309 := by
  have hhigh := h.high
  have hten : 2 ^ 1024 ≤ 10 ^ 309 := two_pow_le_ten_pow 11 (r := 1) (s := 1) (by decide) rfl rfl
  have hscale : 2 ^ v.scale ≤ 2 ^ 1022 * 2 ^ 1024 := by
    have hle := hv.scale_le
    obtain ⟨k, hk⟩ : ∃ k, 1022 + 1024 = v.scale + k := ⟨2046 - v.scale, by omega⟩
    rw [← Nat.pow_add, hk, Nat.pow_add]
    exact Nat.le_mul_of_pos_right _ (Nat.two_pow_pos k)
  have hsplit : 2 ^ 1075 = 2 ^ 53 * 2 ^ 1022 := by rw [← Nat.pow_add]
  have hone (k : Nat) : 0 < 2 ^ k := Nat.two_pow_pos k
  replace hone := hone 1022
  have hmantissa := hv.mantissa_lt
  rw [hsplit] at hhigh
  revert hhigh hten hscale hone
  generalize 2 ^ 1022 = p
  generalize 2 ^ 1024 = q
  generalize 10 ^ 309 = t
  intro hhigh hten hscale hone
  have hunits : num * (4 * 2 ^ 53 * p) ≤ den * q * (4 * 2 ^ 53 * p) :=
    calc num * (4 * 2 ^ 53 * p) = 4 * (num * (2 ^ 53 * p)) := by ring
      _ ≤ (4 * v.mantissa + 2) * (den * 2 ^ v.scale) := hhigh
      _ ≤ (4 * 2 ^ 53) * (den * (p * q)) :=
          Nat.mul_le_mul (by omega) (Nat.mul_le_mul_left den hscale)
      _ = den * q * (4 * 2 ^ 53 * p) := by ring
  calc num ≤ den * q := Nat.le_of_mul_le_mul_right hunits (Nat.mul_pos (by decide) hone)
    _ ≤ den * t := Nat.mul_le_mul_left den hten

end Magnitude.Around

namespace Scientific

/-- Two decimals have the same value. -/
def Same (d e : Scientific) : Prop := d.numerator * e.denominator = e.numerator * d.denominator

/-- Whether a decimal is in the interval around a magnitude depends on its value only. -/
theorem Same.around {d e : Scientific} (h : d.Same e) {v : Magnitude}
    (hd : v.Around (d.numerator * 2 ^ 1075) (d.denominator * 2 ^ v.scale)) :
    v.Around (e.numerator * 2 ^ 1075) (e.denominator * 2 ^ v.scale) := by
  have hpos := d.denominator_pos
  have hpos' := e.denominator_pos
  -- Both sides of every comparison are taken times the denominator of the other decimal.
  have hleft (k : Nat) : k * (e.denominator * 2 ^ v.scale) * d.denominator =
      k * (d.denominator * 2 ^ v.scale) * e.denominator := by ring
  have hright : 4 * (e.numerator * 2 ^ 1075) * d.denominator =
      4 * (d.numerator * 2 ^ 1075) * e.denominator := by
    unfold Same at h
    generalize 2 ^ 1075 = p
    calc 4 * (e.numerator * p) * d.denominator = 4 * p * (e.numerator * d.denominator) := by ring
      _ = 4 * p * (d.numerator * e.denominator) := by rw [h]
      _ = 4 * (d.numerator * p) * e.denominator := by ring
  refine ⟨?_, ?_, fun hmod heq => hd.low_ne hmod ?_, fun hmod heq => hd.high_ne hmod ?_⟩
  · refine Nat.le_of_mul_le_mul_right ?_ hpos
    rw [hleft, hright]
    exact Nat.mul_le_mul_right _ hd.low
  · refine Nat.le_of_mul_le_mul_right ?_ hpos
    rw [hleft, hright]
    exact Nat.mul_le_mul_right _ hd.high
  · refine Nat.eq_of_mul_eq_mul_right hpos' ?_
    rw [← hleft, ← hright, heq]
  · refine Nat.eq_of_mul_eq_mul_right hpos' ?_
    rw [← hleft, ← hright, heq]

/-- A decimal is below the power of ten above its leading digit. -/
theorem numerator_lt (d : Scientific) {a b : Nat}
    (h : (digitsOf d.digits).length + d.exponent + a ≤ b) :
    d.numerator * 10 ^ a < 10 ^ b * d.denominator := by
  have hlt := lt_pow_length d.digits
  unfold numerator denominator
  rw [Nat.pow_eq, Nat.pow_eq, ← Nat.pow_add, Nat.mul_assoc, ← Nat.pow_add]
  refine (Nat.mul_lt_mul_of_pos_right hlt (Nat.pow_pos (by decide))).trans_le ?_
  rw [← Nat.pow_add]
  exact Nat.pow_le_pow_right (by decide) (by omega)

/-- A decimal that is not zero is at least the power of ten of its leading digit. -/
theorem le_numerator (d : Scientific) (hpos : 0 < d.digits) {b : Nat}
    (h : b < (digitsOf d.digits).length + d.exponent) : d.denominator * 10 ^ b ≤ d.numerator := by
  have hle := pow_length_le hpos
  have hlength : 0 < (digitsOf d.digits).length := List.length_pos_iff.2 (digitsOf_ne_nil _)
  unfold numerator denominator
  rw [Nat.pow_eq, Nat.pow_eq, ← Nat.pow_add]
  refine le_trans ?_ (Nat.mul_le_mul_right _ hle)
  rw [← Nat.pow_add]
  exact Nat.pow_le_pow_right (by decide) (by omega)

/-- A decimal that rounds to a magnitude other than zero is not zero. -/
theorem digits_pos {v : Magnitude} (hv : v.Regular) (hpos : 0 < v.mantissa) {d : Scientific}
    (h : v.covers d = true) : 0 < d.digits := by
  have hlow := (Magnitude.covers_iff.1 h).le_num hv hpos
  have hden := d.denominator_pos
  refine Nat.pos_of_ne_zero fun hzero => ?_
  rw [numerator, hzero, Nat.zero_mul, Nat.zero_mul] at hlow
  omega

/-- A decimal in the interval around a magnitude is rounded to it. -/
theorem nearest_of_covers {v : Magnitude} (hv : v.Regular) (hpos : 0 < v.mantissa)
    {d : Scientific} (h : v.covers d = true) : d.nearest = v := by
  have haround := Magnitude.covers_iff.1 h
  have hlow := haround.le_num hv hpos
  have hhigh := haround.num_le hv
  have hden := d.denominator_pos
  have hdigits := digits_pos hv hpos h
  have hbelow : ¬ ((digitsOf d.digits).length + d.exponent < -330) := fun htop => by
    have hlt := d.numerator_lt (a := 324) (b := 0) (by omega)
    rw [Nat.pow_zero, Nat.one_mul] at hlt
    omega
  have habove : ¬ (310 < (digitsOf d.digits).length + d.exponent) := fun htop => by
    have hle := d.le_numerator hdigits (b := 309 + 1) (by omega)
    have hone (k : Nat) : 0 < d.denominator * 10 ^ k := Nat.mul_pos hden (Nat.pow_pos (by decide))
    replace hone := hone 309
    rw [pow_succ, ← Nat.mul_assoc] at hle
    omega
  have hcond : ¬ (d.digits = 0 ∨ (digitsOf d.digits).length + d.exponent < -330) := by
    rintro (hzero | htop)
    · omega
    · exact hbelow htop
  unfold nearest
  simp only [if_neg hcond, if_neg habove]
  exact Magnitude.nearest_of_around hv hpos hden rfl haround

end Scientific

end Waymark.Decimal
