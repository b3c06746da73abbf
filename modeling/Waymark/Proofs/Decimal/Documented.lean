import Waymark.Proofs.Decimal.Doubles

/-!
# Numbers of documents

A finite double stands in a document as a numeral with digits on both sides of a point, or with a
power of ten if it is very large or very small. Either way the digits have the value of the shortest
decimal, and so the double that is nearest to the numeral is the one that was written
(`Numeral.ofFloat?_of_finite`).
-/

namespace Waymark.Decimal

/-- The first digits of a list without a zero in front have none there either. -/
theorem PlainWhole.take {ds : List Digit} (h : PlainWhole ds) (n : Nat) :
    PlainWhole (ds.take (n + 1)) := by
  rcases h with rfl | ⟨hne, hhead⟩
  · exact .inl (by simp)
  · obtain ⟨d, ds, rfl⟩ := List.exists_cons_of_ne_nil hne
    exact .inr ⟨List.cons_ne_nil _ _, hhead⟩

namespace Numeral

/-- The digits of a decimal with the point after the first one have its value, with the power of ten
of this digit. -/
theorem scientific_leading (negative : Bool) (d : Scientific) :
    scientific ⟨negative, (digitsOf d.digits).take 1, (digitsOf d.digits).drop 1,
      some (d.exponent + (digitsOf d.digits).length - 1)⟩ = d := by
  have hlength : 0 < (digitsOf d.digits).length := List.length_pos_iff.2 (digitsOf_ne_nil _)
  obtain ⟨digits, exponent⟩ := d
  simp only [scientific, List.take_append_drop, valueOf_digitsOf, Option.getD_some,
    List.length_drop, Scientific.mk.injEq, true_and]
  simp only at hlength
  omega

/-- A numeral in the interval around the magnitude of a double is read as this double. -/
theorem toFloat_of_covers {x : Float} {v : Magnitude} {n : Numeral}
    (h : Shape.ofFloat x = .finite n.negative v) (hpos : 0 < v.mantissa)
    (hcovers : v.covers n.scientific = true) : n.toFloat = x := by
  have hnearest : n.scientific.nearest = v :=
    Scientific.nearest_of_covers (Shape.regular_of_finite h) hpos hcovers
  rw [toFloat, hnearest, Shape.toFloat_of_finite h]

/-- A finite double is written as a numeral without a zero in front, and this double is the nearest
one to the numeral. -/
theorem ofFloat?_of_finite {x : Float} (hx : x.isFinite = true) :
    ∃ n, ofFloat? x = some n ∧ PlainWhole n.whole ∧ n.toFloat = x := by
  obtain ⟨negative, v, hv⟩ := Shape.isFinite_iff.1 hx
  have hregular := Shape.regular_of_finite hv
  unfold ofFloat?
  simp only [hv]
  split
  case isTrue hzero =>
    refine ⟨_, rfl, .inl rfl, ?_⟩
    rw [Magnitude.eq_zero_of_mantissa hregular hzero] at hv
    exact Shape.toFloat_of_finite hv
  case isFalse hzero =>
    have hpos : 0 < v.mantissa := Nat.pos_of_ne_zero hzero
    have hcovers : v.covers (v.shortest .even) = true := Magnitude.covers_shortest hpos .even
    have hdigits : 0 < (v.shortest .even).digits := Scientific.digits_pos hregular hpos hcovers
    split
    case isTrue =>
      -- Without a power of ten, a zero after the point makes no difference.
      have haround := (Scientific.positional_same _).around (Magnitude.covers_iff.1 hcovers)
      have hpointed := covers_pointed (Magnitude.covers_iff.2 haround) negative
      refine ⟨pointed ⟨negative, _, _, none⟩, rfl, Scientific.plainWhole_positional hdigits, ?_⟩
      exact toFloat_of_covers hv hpos hpointed
    case isFalse =>
      have hleading := hcovers
      rw [← scientific_leading negative (v.shortest .even)] at hleading
      exact ⟨_, rfl, (plainWhole_digitsOf _).take 0, toFloat_of_covers hv hpos hleading⟩

end Numeral

end Waymark.Decimal
