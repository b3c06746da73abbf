import Mathlib
import Waymark.Proofs.Decimal.Printed

/-!
# Doubles that are read back

A finite double is put together again from its parts (`Shape.toFloat_of_finite`), its parts are a
regular magnitude (`Shape.regular_of_finite`), and so a printed double is read back as itself
(`toFloat_numeral`, `toFloat_pointed`). Bounds on both sides make a double finite
(`isFinite_of_bounds`).
-/

namespace Waymark.Decimal

namespace Magnitude

/-- The magnitude of some fields, which lie below those of infinity, is regular. -/
theorem regular_ofBits {bits : Nat} (h : bits < 2047 * 2 ^ 52) : (ofBits bits).Regular := by
  unfold ofBits
  simp only [Nat.shiftRight_eq_div_pow, Nat.shiftLeft_eq, Nat.one_mul]
  split
  · exact ⟨by simp only; omega, by simp, by simp, .inl rfl⟩
  · exact ⟨by simp only; omega, by simp only; omega, by simp only; omega, .inr (by simp)⟩

/-- The fields of the magnitude of some fields. -/
theorem toBits_ofBits (bits : Nat) : (ofBits bits).toBits = bits := by
  unfold ofBits toBits
  simp only [Nat.shiftRight_eq_div_pow, Nat.shiftLeft_eq, Nat.one_mul]
  split
  · simp only
    omega
  · simp only
    omega

end Magnitude

namespace Shape

/-- The fields of a finite double lie below those of infinity. -/
theorem of_finite {x : Float} {negative : Bool} {v : Magnitude}
    (h : ofFloat x = .finite negative v) :
    x.toBits.toNat % 2 ^ 63 < 2047 * 2 ^ 52 ∧ negative = decide (2 ^ 63 ≤ x.toBits.toNat) ∧
      v = .ofBits (x.toBits.toNat % 2 ^ 63) := by
  unfold ofFloat at h
  simp only [Nat.shiftLeft_eq, Nat.one_mul] at h
  split at h
  · obtain ⟨rfl, rfl⟩ := Shape.finite.inj h
    exact ⟨by assumption, rfl, rfl⟩
  · split at h <;> cases h

/-- The magnitude of a finite double is regular. -/
theorem regular_of_finite {x : Float} {negative : Bool} {v : Magnitude}
    (h : ofFloat x = .finite negative v) : v.Regular := by
  obtain ⟨hlt, -, rfl⟩ := of_finite h
  exact Magnitude.regular_ofBits hlt

/-- A finite double is put together again from its parts. -/
theorem toFloat_of_finite {x : Float} {negative : Bool} {v : Magnitude}
    (h : ofFloat x = .finite negative v) : (finite negative v).toFloat = x := by
  obtain ⟨hlt, rfl, rfl⟩ := of_finite h
  have hbits := x.toBits.toNat_lt
  have hoverflows : (Magnitude.ofBits (x.toBits.toNat % 2 ^ 63)).overflows = false := by
    unfold Magnitude.overflows
    rw [Magnitude.toBits_ofBits, Nat.shiftLeft_eq]
    exact decide_eq_false (by omega)
  have hsum : (if decide (2 ^ 63 ≤ x.toBits.toNat) then 1 <<< 63 else 0) +
      x.toBits.toNat % 2 ^ 63 = x.toBits.toNat := by
    simp only [decide_eq_true_eq, Nat.shiftLeft_eq]
    split <;> omega
  rw [toFloat, hoverflows, Magnitude.toBits_ofBits]
  simp only [Bool.false_eq_true, if_false]
  rw [pack, hsum, UInt64.ofNat_toNat, Float.ofBits_toBits]

/-- A double is finite if its fields lie below those of infinity. -/
theorem isFinite_iff_fields {x : Float} :
    x.isFinite = true ↔ x.toBits.toNat % 2 ^ 63 < 2047 * 2 ^ 52 := by
  have hunpack (b : BitVec 64) :
      (Float.Model.UnpackedFloat.unpack .binary64 b).isFinite = true ↔
        @Float.Model.UnpackedFloat.unpackExponent .binary64 b ≠ -1#_ := by
    fun_cases Float.Model.UnpackedFloat.unpack .binary64 b <;>
      simp_all +zetaDelta [Float.Model.UnpackedFloat.isFinite]
  have hexponent (b : BitVec 64) :
      @Float.Model.UnpackedFloat.unpackExponent .binary64 b ≠ -1#_ ↔
        b.toNat % 2 ^ 63 < 2047 * 2 ^ 52 := by
    rw [Float.Model.UnpackedFloat.unpackExponent_def]
    have hall : (-1#11 : BitVec 11).toNat = 2047 := by decide
    change b.extractLsb' 52 11 ≠ -1#11 ↔ _
    rw [ne_eq, ← BitVec.toNat_inj, hall, BitVec.extractLsb'_toNat, Nat.shiftRight_eq_div_pow]
    have := b.isLt
    omega
  exact (hunpack _).trans (hexponent _)

/-- A double is finite if and only if it has a sign and a magnitude. -/
theorem isFinite_iff {x : Float} :
    x.isFinite = true ↔ ∃ negative v, ofFloat x = .finite negative v := by
  rw [isFinite_iff_fields]
  refine ⟨fun h => ?_, fun ⟨negative, v, h⟩ => (of_finite h).1⟩
  unfold ofFloat
  simp only [Nat.shiftLeft_eq, Nat.one_mul, if_pos h]
  exact ⟨_, _, rfl⟩

end Shape

/-- A finite double is not an infinity. -/
theorem isInf_of_isFinite {x : Float} (h : x.isFinite = true) : x.isInf = false := by
  change x.toModel.unpack.isFinite = true at h
  change x.toModel.unpack.isInf = false
  cases hx : x.toModel.unpack <;> simp_all [Float.Model.UnpackedFloat.isFinite,
    Float.Model.UnpackedFloat.isInf]

/-- A finite double is a number. -/
theorem isNaN_of_isFinite {x : Float} (h : x.isFinite = true) : x.isNaN = false := by
  change x.toModel.unpack.isFinite = true at h
  change x.toModel.unpack.isNaN = false
  cases hx : x.toModel.unpack <;> simp_all [Float.Model.UnpackedFloat.isFinite,
    Float.Model.UnpackedFloat.isNaN]

/-- Doubles are compared by their parts. -/
theorem le_iff {x y : Float} : x ≤ y ↔ x.toModel.unpack.le y.toModel.unpack = true := by
  show decide (x.toModel ≤ y.toModel) = true ↔ _
  rw [decide_eq_true_eq]
  rfl

/-- A double between two finite ones is finite. -/
theorem isFinite_of_bounds {x low high : Float} (hlow : low.isFinite = true)
    (hhigh : high.isFinite = true) (h : low ≤ x) (h' : x ≤ high) : x.isFinite = true := by
  change low.toModel.unpack.isFinite = true at hlow
  change high.toModel.unpack.isFinite = true at hhigh
  change x.toModel.unpack.isFinite = true
  rw [le_iff] at h h'
  generalize low.toModel.unpack = l at hlow h
  generalize high.toModel.unpack = r at hhigh h'
  generalize x.toModel.unpack = y at h h' ⊢
  cases y with
  | zero => rfl
  | finite => rfl
  | notANumber => cases l <;> cases h
  | infinity sign =>
    -- An infinity is above all finite ones or below them.
    cases sign with
    | positive =>
      cases r with
      | notANumber | infinity => cases hhigh
      | zero | finite => cases h'
    | negative =>
      cases l with
      | notANumber | infinity => cases hlow
      | zero | finite => cases h

/-- The numeral of a finite double is read back. -/
theorem toFloat_numeral {x : Float} {negative : Bool} {v : Magnitude}
    (h : Shape.ofFloat x = .finite negative v) : (v.numeral negative).toFloat = x := by
  have hsign : (v.numeral negative).negative = negative := by
    unfold Magnitude.numeral
    split <;> rfl
  rw [Numeral.toFloat, hsign, Magnitude.nearest_numeral (Shape.regular_of_finite h),
    Shape.toFloat_of_finite h]

/-- The numeral of a finite double is read back with a zero after the point too. -/
theorem toFloat_pointed {x : Float} {negative : Bool} {v : Magnitude}
    (h : Shape.ofFloat x = .finite negative v) : (v.numeral negative).pointed.toFloat = x := by
  have hsign : (v.numeral negative).pointed.negative = negative := by
    unfold Magnitude.numeral
    split <;> rfl
  rw [Numeral.toFloat, hsign, Magnitude.nearest_pointed (Shape.regular_of_finite h),
    Shape.toFloat_of_finite h]

end Waymark.Decimal
