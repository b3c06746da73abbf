import Mathlib
import Waymark.Proofs.Decimal.Doubles

/-!
# Numbers of a JSON text are finite

The double of a numeral is found by multiplying or dividing its significand by powers of ten in
double arithmetic (`Numeral.quick?`). A product that is too large is refused. A quotient cannot be
too large, since the significand has 64 bits: `ExponentLe` bounds the exponent of a double, and a
division by a power of ten does not raise it. So whatever double a numeral stands for is finite
(`Numeral.isFinite_of_quick?`).
-/

namespace Waymark.Decimal

open Float.Model (Format UnpackedFloat totalExponent)
open Float.Model.UnpackedFloat

/-! ### Rounding -/

/-- A shift to the right halves the mantissa. -/
theorem shiftRight_mantissa (em : ExtendedMantissa) (k : Nat) :
    (em >>> k).mantissa = em.mantissa / 2 ^ k := by
  induction k with
  | zero => simp [HShiftRight.hShiftRight, Nat.repeat]
  | succ k ih =>
    show (em >>> k).mantissa / 2 = _
    rw [ih, Nat.div_div_eq_div_mul, Nat.pow_succ]

/-- Rounding adds one to the mantissa at most. -/
theorem roundedMantissa_bounds (em : ExtendedMantissa) :
    em.mantissa ≤ em.roundedMantissa ∧ em.roundedMantissa ≤ em.mantissa + 1 := by
  obtain ⟨m, half, rest⟩ := em
  cases half <;> cases rest <;>
    simp only [ExtendedMantissa.roundedMantissa, ExtendedMantissa.accuracy,
      Accuracy.roundToNearestEven] <;> omega

/-- The exponent that a double of `binary64` is to have. -/
theorem targetExponent_eq (total : Int) :
    Format.binary64.targetExponent total = max (total - 53) (-1074) := rfl

/-- A number is put at the exponent that it is to have, or stays at a larger one. -/
theorem shiftToTargetExponent_snd (m : Nat) (e : Int) (a : Accuracy) :
    (shiftToTargetExponent .binary64 m e a).2 = max e (max (totalExponent m e - 53) (-1074)) := by
  show e + ((Format.binary64.targetExponent (totalExponent m e) - e).toNat : Int) = _
  rw [targetExponent_eq]
  omega

/-- What is put at the exponent that it is to have loses the last bits of its mantissa. -/
theorem shiftToTargetExponent_fst (m : Nat) (e : Int) (a : Accuracy) :
    (shiftToTargetExponent .binary64 m e a).1.mantissa =
      m / 2 ^ (max (totalExponent m e - 53) (-1074) - e).toNat := by
  have hmantissa : (ExtendedMantissa.ofMantissaAndAccuracy m a).mantissa = m := by
    rcases a with _ | (_ | _ | _) <;> rfl
  show (ExtendedMantissa.ofMantissaAndAccuracy m a >>>
    (Format.binary64.targetExponent (totalExponent m e) - e).toNat).mantissa = _
  rw [shiftRight_mantissa, hmantissa, targetExponent_eq]

/-- At the exponent that it is to have, a number has a mantissa of at most 53 bits. -/
theorem shiftToTargetExponent_lt (m : Nat) (e : Int) (a : Accuracy) :
    (shiftToTargetExponent .binary64 m e a).1.mantissa < 2 ^ 53 := by
  rw [shiftToTargetExponent_fst, totalExponent, Nat.div_lt_iff_lt_mul (Nat.two_pow_pos _),
    ← Nat.pow_add]
  exact Nat.lt_of_lt_of_le Nat.lt_log2_self (Nat.pow_le_pow_right (by decide) (by omega))

/-- A number that has 53 bits or more, and is not too small, keeps 53 of them. -/
theorem le_shiftToTargetExponent {m : Nat} {e : Int} (a : Accuracy) (hm : 2 ^ 52 ≤ m)
    (hlow : -1074 ≤ totalExponent m e - 53) :
    2 ^ 52 ≤ (shiftToTargetExponent .binary64 m e a).1.mantissa := by
  have hne : m ≠ 0 := by
    rintro rfl
    exact absurd hm (by decide)
  have hlog : 52 ≤ m.log2 := (Nat.le_log2 hne).2 hm
  have hshift : (max (totalExponent m e - 53) (-1074) - e).toNat + 52 = m.log2 := by
    unfold totalExponent at hlow ⊢
    omega
  rw [shiftToTargetExponent_fst, Nat.le_div_iff_mul_le (Nat.two_pow_pos _), ← Nat.pow_add,
    Nat.add_comm, hshift]
  exact Nat.log2_self_le hne

/-- A double is finite and has at most an exponent. -/
def ExponentLe (b : Int) : UnpackedFloat → Prop
  | .zero _ => True
  | .finite _ _ e _ => e ≤ b
  | .infinity _ | .notANumber => False

/-- Rounding may raise the exponent that a number is to have by one. -/
theorem exponentLe_round {b e : Int} {m : Nat} (sign : Sign) (a : Accuracy) (he : e < b)
    (htotal : totalExponent m e - 53 < b) (hlow : -1074 < b) :
    ExponentLe b (roundWithAccuracy .binary64 sign m e a) := by
  have hmantissa := shiftToTargetExponent_lt m e a
  have hexponent := shiftToTargetExponent_snd m e a
  unfold roundWithAccuracy
  generalize shiftToTargetExponent .binary64 m e a = first at hmantissa hexponent
  obtain ⟨em, e₁⟩ := first
  simp only at hmantissa hexponent ⊢
  -- The mantissa is rounded up to `2 ^ 53` at most, so that the second shift is by one at most.
  have hlog : em.roundedMantissa.log2 ≤ 53 := by
    have hround := (roundedMantissa_bounds em).2
    by_cases hzero : em.roundedMantissa = 0
    · rw [hzero]
      decide
    · exact Nat.le_of_lt_succ ((Nat.log2_lt hzero).2 (by omega))
  split
  · trivial
  · show (shiftToTargetExponent .binary64 em.roundedMantissa e₁ .exact).2 ≤ b
    rw [shiftToTargetExponent_snd, totalExponent]
    omega

/-- A double has a mantissa of 53 bits and at least an exponent. -/
def ExponentGe (b : Int) : UnpackedFloat → Prop
  | .finite _ m e _ => 2 ^ 52 ≤ m ∧ m < 2 ^ 53 ∧ b ≤ e
  | .zero _ | .infinity _ | .notANumber => False

/-- Rounding leaves 53 bits, and the exponent is at least what it is to be. -/
theorem exponentGe_round {b e : Int} {m : Nat} (sign : UnpackedFloat.Sign) (a : Accuracy)
    (hm : 2 ^ 52 ≤ m) (htotal : b ≤ totalExponent m e - 53) (hlow : -1074 ≤ b) :
    ExponentGe b (roundWithAccuracy .binary64 sign m e a) := by
  have hmantissa := le_shiftToTargetExponent a hm (Int.le_trans hlow htotal)
  have hexponent := shiftToTargetExponent_snd m e a
  unfold roundWithAccuracy
  generalize shiftToTargetExponent .binary64 m e a = first at hmantissa hexponent
  obtain ⟨em, e₁⟩ := first
  simp only at hmantissa hexponent ⊢
  have hrounded : 2 ^ 52 ≤ em.roundedMantissa :=
    Nat.le_trans hmantissa (roundedMantissa_bounds em).1
  have hlog : 52 ≤ em.roundedMantissa.log2 :=
    (Nat.le_log2 (by rintro hzero; rw [hzero] at hrounded; exact absurd hrounded (by decide))).2
      hrounded
  have hfinal := le_shiftToTargetExponent (e := e₁) .exact hrounded (by
    unfold totalExponent
    omega)
  split
  case isTrue hzero =>
    rw [hzero] at hfinal
    exact absurd hfinal (by decide)
  case isFalse =>
    refine ⟨hfinal, shiftToTargetExponent_lt _ _ _, ?_⟩
    rw [shiftToTargetExponent_snd]
    omega

/-! ### Packing -/

/-- A double whose exponent field is not that of the infinities is finite, and the field bounds its
exponent. -/
theorem exponentLe_packComponents {b : Int} {sign : Sign} {field : BitVec 11}
    {fraction : BitVec 52} (hfinite : field ≠ -1#11) (hfield : field.toNat ≤ b + 1075)
    (hlow : -1074 ≤ b) :
    ExponentLe b (unpack .binary64 (packComponents .binary64 sign field fraction)) := by
  unfold unpack
  simp only [unpackExponent_packComponents, unpackMantissa_packComponents, if_neg hfinite]
  split
  case isTrue hzero =>
    split
    · trivial
    · show (field.toNat : Int) - 1075 + 1 ≤ b
      rw [hzero]
      exact hlow
  case isFalse =>
    show (field.toNat : Int) - 1075 ≤ b
    omega

/-- What is packed is still finite and has no larger exponent, if doubles have that exponent. -/
theorem ExponentLe.pack {b : Int} {u : UnpackedFloat} (h : ExponentLe b u)
    (hlow : -1074 ≤ b) (hhigh : b ≤ 971) :
    ExponentLe b (Float.Model.pack u).unpack := by
  show ExponentLe b (unpack .binary64 (UnpackedFloat.pack .binary64 u))
  cases u with
  | infinity | notANumber => cases h
  | zero sign => exact exponentLe_packComponents (by decide) (by simpa using by omega) hlow
  | finite sign m e hm =>
    replace h : e ≤ b := h
    unfold UnpackedFloat.pack
    have hbiased : (e + 1023 + 52).toNat + 1 < 2048 := by omega
    have hfield : (BitVec.ofNat 11 (e + 1023 + 52).toNat).toNat = (e + 1023 + 52).toNat := by
      rw [BitVec.toNat_ofNat, Nat.mod_eq_of_lt (by omega)]
    simp only
    rw [if_neg (by show ¬ 2048 ≤ (e + 1023 + 52).toNat + 1; omega)]
    split
    · refine exponentLe_packComponents (fun hall => ?_) ?_ hlow
      · have hnat := congrArg BitVec.toNat hall
        have hlast : (-1#11).toNat = 2047 := by decide
        rw [hlast] at hnat
        have := hfield.symm.trans hnat
        omega
      · show ((BitVec.ofNat 11 (e + 1023 + 52).toNat).toNat : Int) ≤ b + 1075
        rw [hfield]
        omega
    · exact exponentLe_packComponents (by decide) (by simpa using by omega) hlow

/-- A double whose exponent field is neither that of the infinities nor that of the small numbers
has all its bits, and the field gives its exponent. -/
theorem exponentGe_packComponents {b : Int} {sign : Sign} {field : BitVec 11}
    {fraction : BitVec 52} (hfinite : field ≠ -1#11) (hnormal : field ≠ 0#11)
    (hfield : b + 1075 ≤ field.toNat) :
    ExponentGe b (unpack .binary64 (packComponents .binary64 sign field fraction)) := by
  unfold unpack
  simp only [unpackExponent_packComponents, unpackMantissa_packComponents, if_neg hfinite]
  split
  case isTrue hzero => exact absurd hzero hnormal
  case isFalse =>
    refine ⟨?_, BitVec.isLt (1#1 ++ fraction), ?_⟩
    · show 2 ^ 52 ≤ (1#1 ++ fraction).toNat
      rw [BitVec.toNat_append]
      exact Nat.left_le_or
    · show b ≤ (field.toNat : Int) - 1075
      omega

/-- What is packed still has all its bits and its exponent, if that is in the range of doubles. -/
theorem ExponentGe.pack {b : Int} {u : UnpackedFloat} (h : ExponentGe b u)
    (hrange : ExponentLe 971 u) (hlow : -1073 ≤ b) :
    ExponentGe b (Float.Model.pack u).unpack := by
  show ExponentGe b (unpack .binary64 (UnpackedFloat.pack .binary64 u))
  cases u with
  | infinity | notANumber | zero => cases h
  | finite sign m e hm =>
    obtain ⟨hmin, hmax, he⟩ := h
    replace hrange : e ≤ 971 := hrange
    have hlog : m.log2 = 52 := (Nat.log2_eq_iff hm.ne').2 ⟨hmin, hmax⟩
    have hfield : (BitVec.ofNat 11 (e + 1023 + 52).toNat).toNat = (e + 1023 + 52).toNat := by
      rw [BitVec.toNat_ofNat, Nat.mod_eq_of_lt (by omega)]
    have hne {field : BitVec 11} (h : (e + 1023 + 52).toNat ≠ field.toNat) :
        BitVec.ofNat 11 (e + 1023 + 52).toNat ≠ field :=
      fun heq => h (hfield.symm.trans (congrArg BitVec.toNat heq))
    have hlast : (-1#11).toNat = 2047 := by decide
    have hfirst : (0#11).toNat = 0 := by decide
    unfold UnpackedFloat.pack
    simp only
    rw [if_neg (by show ¬ 2048 ≤ (e + 1023 + 52).toNat + 1; omega), if_pos (by rw [hlog]; rfl)]
    refine exponentGe_packComponents (hne (by omega)) (hne (by omega)) ?_
    show b + 1075 ≤ ((BitVec.ofNat 11 (e + 1023 + 52).toNat).toNat : Int)
    rw [hfield]
    omega

/-- A double with a bound on its exponent is finite. -/
theorem ExponentLe.isFinite {b : Int} {u : UnpackedFloat} (h : ExponentLe b u) :
    u.isFinite = true := by
  cases u with
  | infinity | notANumber => cases h
  | zero | finite => rfl

/-- What is packed is finite or an infinity, if it was so before. -/
theorem isFinite_pack {u : UnpackedFloat} (h : u.isFinite = true)
    (hinf : (Float.Model.pack u).unpack.isInf = false) :
    (Float.Model.pack u).unpack.isFinite = true := by
  have hbound {b : Int} (h : ExponentLe b u) (hlow : -1074 ≤ b) (hhigh : b ≤ 971) :=
    (h.pack hlow hhigh).isFinite
  cases u with
  | infinity | notANumber => cases h
  | zero sign => exact hbound (b := 0) trivial (by decide) (by decide)
  | finite sign m e hm =>
    by_cases he : e ≤ 971
    · exact hbound (b := max e (-1074)) (Int.le_max_left _ _) (Int.le_max_right _ _) (by omega)
    · -- A larger exponent is packed as an infinity.
      have hpack : UnpackedFloat.pack .binary64 (.finite sign m e hm) =
          packedInfinity .binary64 sign := by
        unfold UnpackedFloat.pack
        exact if_pos (by show 2048 ≤ (e + 1023 + 52).toNat + 1; omega)
      have hinfinity : (Float.Model.pack (.finite sign m e hm)).unpack.isInf = true := by
        show (unpack .binary64 (UnpackedFloat.pack .binary64 (.finite sign m e hm))).isInf = true
        rw [hpack]
        cases sign <;> rfl
      rw [hinfinity] at hinf
      cases hinf

/-! ### Products and quotients -/

/-- The mantissa of a double has 53 bits, and its exponent is in range. -/
theorem unpack_bounds {w : BitVec 64} {sign : UnpackedFloat.Sign} {m : Nat} {e : Int} {hm : 0 < m}
    (h : unpack .binary64 w = .finite sign m e hm) : m.log2 ≤ 52 ∧ e ≤ 971 := by
  have hbounds : m < 2 ^ 53 ∧ e ≤ 971 := by
    unfold unpack at h
    dsimp only at h
    split at h
    · split at h <;> cases h
    case isFalse hfinite =>
    have hfield : (@unpackExponent .binary64 w).toNat ≠ 2047 := fun hall =>
      hfinite (BitVec.eq_of_toNat_eq hall)
    have hlt : (@unpackExponent .binary64 w).toNat < 2048 := BitVec.isLt _
    split at h
    case isTrue hzero =>
      split at h
      · cases h
      · cases h
        refine ⟨Nat.lt_trans (BitVec.isLt _) (by decide), ?_⟩
        show ((@unpackExponent .binary64 w).toNat : Int) - 1075 + 1 ≤ 971
        rw [hzero]
        decide
    case isFalse =>
      cases h
      refine ⟨BitVec.isLt (1#1 ++ @unpackMantissa .binary64 w), ?_⟩
      show ((@unpackExponent .binary64 w).toNat : Int) - 1075 ≤ 971
      omega
  exact ⟨Nat.le_of_lt_succ ((Nat.log2_lt hm.ne').2 hbounds.1), hbounds.2⟩

/-- A finite double is still finite with the other sign. -/
theorem isFinite_neg {x : Float} (hx : x.isFinite = true) : (-x).isFinite = true := by
  change x.toModel.unpack.isFinite = true at hx
  refine (ExponentLe.pack (b := 971) ?_ (by decide) (by decide)).isFinite
  cases hu : x.toModel.unpack with
  | infinity | notANumber => rw [hu] at hx; cases hx
  | zero => trivial
  | finite => exact (unpack_bounds hu).2

/-- A product of finite doubles is finite or an infinity. -/
theorem isFinite_mul {x y : Float} (hx : x.isFinite = true) (hy : y.isFinite = true)
    (h : (x * y).isInf = false) : (x * y).isFinite = true := by
  change x.toModel.unpack.isFinite = true at hx
  change y.toModel.unpack.isFinite = true at hy
  refine isFinite_pack ?_ h
  generalize x.toModel.unpack = u at hx
  generalize y.toModel.unpack = v at hy
  cases u with
  | infinity | notANumber => cases hx
  | zero =>
    cases v with
    | infinity | notANumber => cases hy
    | zero | finite => rfl
  | finite s₁ m₁ e₁ =>
    cases v with
    | infinity | notANumber => cases hy
    | zero => rfl
    | finite s₂ m₂ e₂ =>
      exact (exponentLe_round (b := max (max (e₁ + e₂) (totalExponent (m₁ * m₂) (e₁ + e₂))) 0 + 1)
        (s₁ * s₂) .exact (by omega) (by omega) (by omega)).isFinite

/-- A quotient is no longer than the difference of the lengths says. -/
theorem log2_div_le (m : Nat) {n : Nat} (hn : 0 < n) (shift : Nat) (hq : (m <<< shift) / n ≠ 0) :
    ((m <<< shift) / n).log2 + n.log2 ≤ m.log2 + shift := by
  have hm : m < 2 ^ (m.log2 + 1) := Nat.lt_log2_self
  have hlow : 2 ^ n.log2 ≤ n := Nat.log2_self_le hn.ne'
  have hquotient : 2 ^ ((m <<< shift) / n).log2 ≤ (m <<< shift) / n := Nat.log2_self_le hq
  have hlt : 2 ^ (((m <<< shift) / n).log2 + n.log2) < 2 ^ (m.log2 + 1 + shift) := by
    calc 2 ^ (((m <<< shift) / n).log2 + n.log2)
        = 2 ^ ((m <<< shift) / n).log2 * 2 ^ n.log2 := Nat.pow_add _ _ _
      _ ≤ (m <<< shift) / n * n := Nat.mul_le_mul hquotient hlow
      _ ≤ m <<< shift := Nat.div_mul_le_self _ _
      _ < 2 ^ (m.log2 + 1 + shift) := by
        rw [Nat.shiftLeft_eq, Nat.pow_add]
        exact Nat.mul_lt_mul_of_pos_right hm (Nat.two_pow_pos _)
  have := (Nat.pow_lt_pow_iff_right (by decide)).1 hlt
  omega

/-- A double that is two or more. -/
def IsTwo (u : UnpackedFloat) : Bool :=
  match u with
  | .finite _ m e _ => decide (2 ≤ totalExponent m e)
  | _ => false

/-- The division by two or more does not raise the exponent. -/
theorem exponentLe_div {x y : Float} {b : Int} (hx : ExponentLe b x.toModel.unpack)
    (hy : IsTwo y.toModel.unpack = true) (hlow : -1074 < b) (hhigh : b ≤ 971) :
    ExponentLe b (x / y).toModel.unpack := by
  refine ExponentLe.pack ?_ (Int.le_of_lt hlow) hhigh
  cases hu : x.toModel.unpack with
  | infinity | notANumber => rw [hu] at hx; cases hx
  | zero =>
    cases hv : y.toModel.unpack with
    | infinity | notANumber | zero => rw [hv] at hy; cases hy
    | finite => trivial
  | finite s₁ m₁ e₁ hm₁ =>
    cases hv : y.toModel.unpack with
    | infinity | notANumber | zero => rw [hv] at hy; cases hy
    | finite s₂ m₂ e₂ hm₂ =>
      rw [hu] at hx
      rw [hv] at hy
      replace hx : e₁ ≤ b := hx
      replace hy : 2 ≤ totalExponent m₂ e₂ := of_decide_eq_true hy
      have hlog := (unpack_bounds hu).1
      show ExponentLe b (roundWithAccuracy .binary64 (s₁ / s₂)
        (divCore .binary64 m₁ e₁ m₂ e₂).1 (divCore .binary64 m₁ e₁ m₂ e₂).2.1
        (divCore .binary64 m₁ e₁ m₂ e₂).2.2)
      simp only [divCore, targetExponent_eq]
      unfold totalExponent at hy ⊢
      generalize htarget : min (e₁ - e₂)
        (max ((m₁.log2 : Int) + 1 + e₁ - (m₂.log2 + 1 + e₂) - 53) (-1074)) = target
      have hquotient := log2_div_le m₁ hm₂ (e₁ - e₂ - target).toNat
      refine exponentLe_round _ _ (by omega) ?_ hlow
      unfold totalExponent
      by_cases hzero : (m₁ <<< (e₁ - e₂ - target).toNat) / m₂ = 0
      · rw [hzero, Nat.log2_zero]
        omega
      · have := hquotient hzero
        omega

/-! ### Numerals -/

/-- The double of a natural number of 64 bits is not large. -/
theorem exponentLe_toFloat (n : UInt64) : ExponentLe 100 n.toFloat.toModel.unpack := by
  refine ExponentLe.pack ?_ (by decide) (by decide)
  have hlt : n.toNat < 2 ^ 64 := n.toNat_lt
  show ExponentLe 100 (UnpackedFloat.normalize .binary64 (n.toNat : Int) 0 .positive)
  unfold UnpackedFloat.normalize
  split
  case h_1 hneg => exact absurd (Int.compare_eq_lt.1 hneg) (by omega)
  case h_2 => trivial
  case h_3 hpos =>
    have hne : n.toNat ≠ 0 := by
      have := Int.compare_eq_gt.1 hpos
      omega
    have hlog : n.toNat.log2 ≤ 63 := Nat.le_of_lt_succ ((Nat.log2_lt hne).2 hlt)
    simp only [UnpackedFloat.round, decreaseExponent, targetExponent_eq, totalExponent,
      Int.toNat_natCast]
    generalize (0 - max ((n.toNat.log2 : Int) + 1 + 0 - 53) (-1074)).toNat = shift
    have hshift := log2_div_le n.toNat Nat.one_pos shift (by
      rw [Nat.div_one]
      exact (Nat.shiftLeft_pos_iff.2 (Nat.pos_of_ne_zero hne)).ne')
    rw [Nat.div_one] at hshift
    refine exponentLe_round _ _ (by omega) ?_ (by decide)
    rw [totalExponent]
    omega

/-- A thousand is less than `2 ^ 10`, which bounds the length of a power of ten. -/
theorem log2_power_lt (a : Nat) {j k : Nat} (hj : 0 < j) (h : k ≤ 3 * j) :
    (2 ^ a * 10 ^ k).log2 < a + 10 * j := by
  rw [Nat.log2_lt (by positivity), Nat.pow_add]
  refine Nat.mul_lt_mul_of_pos_left ?_ (Nat.two_pow_pos _)
  calc 10 ^ k ≤ 10 ^ (3 * j) := Nat.pow_le_pow_right (by decide) h
    _ = (10 ^ 3) ^ j := Nat.pow_mul _ _ _
    _ < (2 ^ 10) ^ j := Nat.pow_lt_pow_left (by decide) hj.ne'
    _ = 2 ^ (10 * j) := (Nat.pow_mul _ _ _).symm

/-- The powers of ten between those that are exact and the largest are found by one rounding. -/
theorem exponent_power {k : Nat} (hlow : 23 ≤ k) (h : k ≤ 306) :
    ExponentLe 971 (Float.ofScientific 1 false k).toModel.unpack ∧
      ExponentGe (-40) (Float.ofScientific 1 false k).toModel.unpack := by
  have hround : (Float.ofScientific 1 false k).toModel = Float.Model.pack
      (roundWithAccuracy .binary64 .positive (2 ^ 53 * 10 ^ k) (-53) .exact) := by
    unfold Float.ofScientific
    rw [dif_neg (by omega)]
    show Float.Model.pack (UnpackedFloat.ofScientific .binary64 1 (k : Int)) = _
    unfold UnpackedFloat.ofScientific
    rw [dif_neg (by decide), if_neg (by show ¬ ((k : Int) > 2048); omega),
      if_neg (by show ¬ ((k : Int) < -2048); omega), if_pos (Int.natCast_nonneg k)]
    rfl
  have hne : 2 ^ 53 * 10 ^ k ≠ 0 := by positivity
  have hleast : 53 + 76 ≤ (2 ^ 53 * 10 ^ k).log2 := by
    rw [Nat.le_log2 hne]
    calc 2 ^ (53 + 76) ≤ 2 ^ 53 * 10 ^ 23 := by decide
      _ ≤ 2 ^ 53 * 10 ^ k := Nat.mul_le_mul_left _ (Nat.pow_le_pow_right (by decide) hlow)
  have hmost : (2 ^ 53 * 10 ^ k).log2 < 53 + 10 * 102 := log2_power_lt 53 (by decide) (by omega)
  generalize 2 ^ 53 * 10 ^ k = m at hround hne hleast hmost
  have hle : ExponentLe 971 (roundWithAccuracy .binary64 .positive m (-53) .exact) :=
    exponentLe_round _ _ (by decide) (by unfold totalExponent; omega) (by decide)
  have hge : ExponentGe (-40) (roundWithAccuracy .binary64 .positive m (-53) .exact) :=
    exponentGe_round _ _ ((Nat.le_log2 hne).1 (by omega)) (by unfold totalExponent; omega)
      (by decide)
  rw [hround]
  exact ⟨hle.pack (by decide) (by decide), hge.pack hle (by decide)⟩

/-- The powers of ten that are doubles are finite, and but for the first they are two or more. -/
theorem power_of_ten (k : Nat) (h : k ≤ 308) :
    (Float.ofScientific 1 false k).isFinite = true ∧
      (0 < k → IsTwo (Float.ofScientific 1 false k).toModel.unpack = true) := by
  by_cases hsmall : k < 23
  · have hexact : ∀ k < 23, (Float.ofScientific 1 false k).isFinite = true ∧
        (0 < k → IsTwo (Float.ofScientific 1 false k).toModel.unpack = true) := by decide +kernel
    exact hexact k hsmall
  by_cases hmiddle : k ≤ 306
  · obtain ⟨hle, hge⟩ := exponent_power (k := k) (by omega) hmiddle
    refine ⟨hle.isFinite, fun _ => ?_⟩
    generalize (Float.ofScientific 1 false k).toModel.unpack = u at hge ⊢
    cases u with
    | infinity | notANumber | zero => cases hge
    | finite sign m e hm =>
      obtain ⟨hmin, -, he⟩ := hge
      have hlog : 52 ≤ m.log2 := (Nat.le_log2 hm.ne').2 hmin
      exact decide_eq_true (by unfold totalExponent; omega)
  · have hlargest : ∀ j < 2, (Float.ofScientific 1 false (307 + j)).isFinite = true ∧
        IsTwo (Float.ofScientific 1 false (307 + j)).toModel.unpack = true := by decide +kernel
    obtain ⟨j, rfl⟩ := Nat.exists_eq_add_of_le (show 307 ≤ k by omega)
    obtain ⟨hfinite, htwo⟩ := hlargest j (by omega)
    exact ⟨hfinite, fun _ => htwo⟩

/-- The division by a power of ten does not raise the exponent. -/
theorem exponentLe_div_power {x : Float} (hx : ExponentLe 100 x.toModel.unpack) {k : Nat}
    (hpos : 0 < k) (h : k ≤ 308) :
    ExponentLe 100 (x / Float.ofScientific 1 false k).toModel.unpack :=
  exponentLe_div hx ((power_of_ten k h).2 hpos) (by decide) (by decide)

/-- A double that is not large is scaled to a finite one. -/
theorem isFinite_scaleByTen {x y : Float} {exponent : Int} {fuel : Nat}
    (hx : ExponentLe 100 x.toModel.unpack) (h : scaleByTen x exponent fuel = some y) :
    y.isFinite = true := by
  induction fuel generalizing x exponent with
  | zero =>
    cases h
    exact hx.isFinite
  | succ fuel ih =>
    unfold scaleByTen at h
    split at h
    case isTrue hsmall =>
      -- One product or quotient is left, and only a product can be too large.
      dsimp only at h
      split at h
      case isTrue =>
        split at h
        · cases h
        case isFalse hinf =>
          cases h
          exact isFinite_mul hx.isFinite (power_of_ten _ hsmall).1 (by simpa using hinf)
      case isFalse hneg =>
        cases h
        exact (exponentLe_div_power hx (by omega) hsmall).isFinite
    case isFalse =>
      split at h
      · cases h
        exact hx.isFinite
      · split at h
        · cases h
        · exact ih (exponentLe_div_power hx (by decide) (by decide)) h

/-- The double that a numeral stands for is finite. -/
theorem Numeral.isFinite_of_quick? {n : Numeral} {x : Float} (h : n.quick? = some x) :
    x.isFinite = true := by
  unfold quick? at h
  dsimp only at h
  split at h
  case h_1 y hy =>
    have hfinite := isFinite_scaleByTen (exponentLe_toFloat _) hy
    obtain rfl := Option.some.inj h
    split
    · exact isFinite_neg hfinite
    · exact hfinite
  case h_2 => cases h

end Waymark.Decimal
