import Waymark.Decimal.Numeral
import Waymark.Proofs.Decimal.Nearest

/-!
# Numerals of magnitudes

A magnitude is printed as its shortest decimal, the point put where it belongs. The digits before
and after the point have the same value as the decimal (`positional_same`), also with a zero after a
point that nothing else follows (`same_point_zero`). So the numeral of a magnitude is read back as
that magnitude (`nearest_numeral`, `nearest_pointed`).
-/

namespace Waymark.Decimal

/-- Digits before the point as documents have them: a zero alone, or no zero in front. -/
def PlainWhole (ds : List Digit) : Prop := ds = [.zero] ∨ ds ≠ [] ∧ ds.head? ≠ some .zero

/-- There is a digit before the point. -/
theorem PlainWhole.ne_nil {ds : List Digit} (h : PlainWhole ds) : ds ≠ [] := by
  rcases h with rfl | ⟨h, -⟩
  · exact List.cons_ne_nil _ _
  · exact h

/-- The digits of a number have no zero in front, unless the number is zero. -/
theorem plainWhole_digitsOf (n : Nat) : PlainWhole (digitsOf n) := by
  rcases Nat.eq_zero_or_pos n with rfl | hpos
  · exact .inl rfl
  · exact .inr ⟨digitsOf_ne_nil n, head?_digitsOf_ne hpos⟩

namespace Scientific

/-- The value of digits before and after a point. -/
def ofDigits (whole fraction : List Digit) : Scientific :=
  ⟨valueOf (whole ++ fraction), -(fraction.length : Int)⟩

/-- The digits before and after the point have the value of the decimal. -/
theorem positional_same (d : Scientific) :
    d.Same (ofDigits (positional d).1 (positional d).2) := by
  obtain ⟨digits, exponent⟩ := d
  cases exponent with
  | ofNat zeros =>
    have hvalue : valueOf (digitsOf digits ++ List.replicate zeros .zero) = digits * 10 ^ zeros := by
      have hzeros := valueOf_zeros_append zeros []
      rw [List.append_nil] at hzeros
      rw [valueOf_append, hzeros, valueOf_digitsOf, List.length_replicate]
      rfl
    simp [Same, positional, ofDigits, hvalue, numerator, denominator]
  | negSucc n =>
    -- Nothing is added to or taken from the digits but zeros in front.
    have hsame : ofDigits (positional ⟨digits, .negSucc n⟩).1 (positional ⟨digits, .negSucc n⟩).2 =
        ⟨digits, .negSucc n⟩ := by
      simp only [ofDigits, positional, List.take_append_drop, valueOf_zeros_append,
        valueOf_digitsOf, List.length_drop, List.length_append, List.length_replicate]
      congr 1
      omega
    rw [hsame]
    rfl

/-- The digits before the point have no zero in front, unless they are a zero alone. -/
theorem plainWhole_positional {d : Scientific} (hpos : 0 < d.digits) :
    PlainWhole (positional d).1 := by
  obtain ⟨digits, exponent⟩ := d
  obtain ⟨c, cs, hcs⟩ := List.exists_cons_of_ne_nil (digitsOf_ne_nil digits)
  have hhead := head?_digitsOf_ne hpos
  rw [hcs, List.head?_cons] at hhead
  cases exponent with
  | ofNat zeros =>
    simp only [positional, hcs, List.cons_append]
    exact .inr ⟨List.cons_ne_nil _ _, hhead⟩
  | negSucc n =>
    simp only [positional, hcs, List.length_append, List.length_replicate, List.length_cons]
    rcases Nat.lt_or_ge n cs.length with hlong | hshort
    · -- There are digits before the point.
      obtain ⟨k, hk⟩ : ∃ k, cs.length - n = k + 1 := ⟨cs.length - n - 1, by omega⟩
      have hno : n + 1 + 1 - (cs.length + 1) = 0 := by omega
      have htake : 0 + (cs.length + 1) - (n + 1) = k + 1 := by omega
      rw [hno, htake, List.replicate_zero, List.nil_append, List.take_succ_cons]
      exact .inr ⟨List.cons_ne_nil _ _, hhead⟩
    · obtain ⟨k, hk⟩ : ∃ k, n + 1 + 1 - (cs.length + 1) = k + 1 := ⟨n - cs.length, by omega⟩
      have htake : k + 1 + (cs.length + 1) - (n + 1) = 0 + 1 := by omega
      rw [hk, htake, List.replicate_succ, List.cons_append, List.take_succ_cons]
      exact .inl rfl

/-- A zero after the point does not count. -/
theorem same_point_zero (whole : List Digit) :
    (ofDigits whole []).Same (ofDigits whole [.zero]) := by
  have hvalue := valueOf_append whole [.zero]
  simp [Same, ofDigits, hvalue, numerator, denominator]
  rfl

end Scientific

namespace Numeral

/-- A numeral with a zero after the point if nothing else is there. -/
def pointed (n : Numeral) : Numeral :=
  { n with fraction := if n.fraction.isEmpty then [.zero] else n.fraction }

/-- Without a power of ten, a numeral has the value of its digits. -/
theorem scientific_eq (negative : Bool) (whole fraction : List Digit) :
    scientific ⟨negative, whole, fraction, none⟩ = .ofDigits whole fraction := by
  simp [scientific, Scientific.ofDigits]

/-- If the digits of a numeral are in the interval around a magnitude, so they are with a zero after
the point. -/
theorem covers_pointed {v : Magnitude} {whole fraction : List Digit}
    (h : v.covers (.ofDigits whole fraction) = true) (negative : Bool) :
    v.covers (pointed ⟨negative, whole, fraction, none⟩).scientific = true := by
  unfold pointed
  rw [scientific_eq]
  cases fraction with
  | nil =>
    exact Magnitude.covers_iff.2
      ((Scientific.same_point_zero whole).around (Magnitude.covers_iff.1 h))
  | cons d ds => exact h

end Numeral

namespace Magnitude

open Scientific Numeral

variable {v : Magnitude}

/-- The only magnitude without binary digits is zero. -/
theorem eq_zero_of_mantissa (hv : v.Regular) (hzero : v.mantissa = 0) : v = .zero := by
  obtain ⟨m, s⟩ := v
  obtain rfl : m = 0 := hzero
  obtain rfl : s = 1 := hv.full.resolve_right (by simp)
  rfl

/-- The digits of a magnitude before the point. -/
theorem plainWhole_numeral (hv : v.Regular) (negative : Bool) :
    PlainWhole (v.numeral negative).whole := by
  unfold numeral
  split
  · exact .inl rfl
  · have hpos : 0 < v.mantissa := by omega
    exact plainWhole_positional (digits_pos hv hpos (covers_shortest hpos .up))

/-- The digits of a magnitude round to it, also with a zero after the point. -/
theorem covers_numeral (hpos : 0 < v.mantissa) (negative : Bool) :
    v.covers (v.numeral negative).scientific = true ∧
      v.covers (v.numeral negative).pointed.scientific = true := by
  have hnumeral : v.numeral negative =
      ⟨negative, (positional (v.shortest .up)).1, (positional (v.shortest .up)).2, none⟩ := by
    rw [numeral, if_neg (by omega)]
  have hcovers : v.covers (ofDigits _ _) = true :=
    covers_iff.2 ((positional_same _).around (covers_iff.1 (covers_shortest hpos .up)))
  rw [hnumeral]
  refine ⟨?_, covers_pointed hcovers negative⟩
  rwa [scientific_eq]

/-- The numeral of a magnitude is read back. -/
theorem nearest_numeral (hv : v.Regular) (negative : Bool) :
    (v.numeral negative).scientific.nearest = v := by
  rcases Nat.eq_zero_or_pos v.mantissa with hzero | hpos
  · rw [eq_zero_of_mantissa hv hzero]
    rfl
  · exact nearest_of_covers hv hpos (covers_numeral hpos negative).1

/-- The numeral of a magnitude is read back with a zero after the point too. -/
theorem nearest_pointed (hv : v.Regular) (negative : Bool) :
    (v.numeral negative).pointed.scientific.nearest = v := by
  rcases Nat.eq_zero_or_pos v.mantissa with hzero | hpos
  · rw [eq_zero_of_mantissa hv hzero]
    rfl
  · exact nearest_of_covers hv hpos (covers_numeral hpos negative).2

end Magnitude

end Waymark.Decimal
