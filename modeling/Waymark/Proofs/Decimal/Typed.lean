import Waymark.Proofs.Decimal.Doubles
import Waymark.Text.Blank

/-!
# Numbers that are typed

The text of a finite double is read as this double when somebody types it (`readFloat?_floatText`).
After its sign comes a digit, so it is not taken for one of the words that are numbers. It has
digits, a dash and a point only, hence neither a comma nor a blank (`plain_of_mem_floatText`).
-/

namespace Waymark.Decimal

/-- The characters behind the digits before the point: the point only with digits after it. -/
def pointChars : List Digit → List Char
  | [] => []
  | ds => '.' :: digitChars ds

/-- A numeral without a power of ten is a sign and digits around a point. -/
theorem Numeral.chars_of_exponent {n : Numeral} (hexponent : n.exponent = none) :
    n.chars = (if n.negative then ['-'] else []) ++
      (digitChars n.whole ++ pointChars n.fraction) := by
  obtain ⟨negative, whole, fraction, exponent⟩ := n
  obtain rfl : exponent = none := hexponent
  cases fraction with
  | nil => simp [chars, pointChars]
  | cons d ds => simp [chars, pointChars]

/-- Digits around a point are read back. -/
theorem readNumeral?_chars (negative : Bool) {whole : List Digit} (hwhole : whole ≠ [])
    (fraction : List Digit) :
    readNumeral? negative (digitChars whole ++ pointChars fraction) =
      some ⟨negative, whole, fraction, none⟩ := by
  have hempty : whole.isEmpty = false := by simpa using hwhole
  -- The digits before the point end where the text does, or at the point.
  cases fraction with
  | nil =>
    have hbefore := takeDigits_digitChars whole noDigit_nil
    simp only [readNumeral?, pointChars, hbefore, hempty, Bool.false_and, Bool.false_eq_true,
      if_false]
  | cons d ds =>
    have hpoint : NoDigit ('.' :: digitChars (d :: ds)) := NoDigit.cons (by decide) _
    have hbefore := takeDigits_digitChars whole hpoint
    have hafter := takeDigits_digitChars (d :: ds) noDigit_nil
    rw [List.append_nil] at hafter
    simp only [readNumeral?, pointChars, hbefore, hafter, hempty, Bool.false_and,
      Bool.false_eq_true, if_false]

/-- The text of a numeral without a power of ten is read as the double that it stands for. -/
theorem readFloat?_text {n : Numeral} (hwhole : n.whole ≠ []) (hexponent : n.exponent = none) :
    readFloat? n.text = some n.toFloat := by
  obtain ⟨d, ds, hds⟩ := List.exists_cons_of_ne_nil hwhole
  set body := digitChars n.whole ++ pointChars n.fraction with hbody
  have hhead : body = d.toChar :: (digitChars ds ++ pointChars n.fraction) := by
    rw [hbody, hds]
    rfl
  have hchars : n.text.toList = (if n.negative then ['-'] else []) ++ body := by
    rw [Numeral.text, String.toList_ofList, Numeral.chars_of_exponent hexponent]
  have hword : ∀ word : String, word.toList.head? = some 'i' ∨ word.toList.head? = some 'n' →
      String.ofList (body.map Char.toLower) ≠ word := by
    intro word hfirst heq
    have hlower : word.toList.head? = some d.toChar.toLower := by
      rw [← heq, String.toList_ofList, hhead]
      rfl
    have hdigit : ∀ e : Digit, e.toChar.toLower ≠ 'i' ∧ e.toChar.toLower ≠ 'n' := by decide
    obtain ⟨hi, hn⟩ := hdigit d
    rw [hlower] at hfirst
    exact hfirst.elim (fun h => hi (Option.some.inj h)) (fun h => hn (Option.some.inj h))
  have hread : readNumeral? n.negative body = some n := by
    obtain ⟨negative, whole, fraction, exponent⟩ := n
    obtain rfl : exponent = none := hexponent
    exact readNumeral?_chars negative hwhole fraction
  unfold readFloat?
  split
  rename_i negative' body' hsign
  have hsame : negative' = n.negative ∧ body' = body := by
    rw [hchars] at hsign
    rcases hnegative : n.negative with _ | _
    · -- Without a sign the first character is a digit.
      have hplus : d.toChar ≠ '+' := d.toChar_ne (by decide)
      have hdash : d.toChar ≠ '-' := d.toChar_ne (by decide)
      rw [hnegative, hhead] at hsign
      split at hsign
      · exact absurd (List.cons.inj ‹_›).1 hplus
      · exact absurd (List.cons.inj ‹_›).1 hdash
      · obtain ⟨rfl, rfl⟩ := Prod.mk.inj hsign
        exact ⟨rfl, hhead.symm⟩
    · rw [hnegative] at hsign
      obtain ⟨rfl, rfl⟩ := Prod.mk.inj hsign
      exact ⟨rfl, rfl⟩
  obtain ⟨rfl, rfl⟩ := hsame
  dsimp only
  rw [if_neg, if_neg (hword "nan" (.inr rfl)), hread]
  · rfl
  · rintro (h | h)
    · exact hword "inf" (.inl rfl) h
    · exact hword "infinity" (.inl rfl) h

/-- A finite double is written as the numeral of its magnitude, with a digit before the point and
without a power of ten. -/
theorem floatText_of_finite {x : Float} (hx : x.isFinite = true) :
    ∃ n : Numeral, floatText x = n.text ∧ n.toFloat = x ∧ n.whole ≠ [] ∧ n.exponent = none := by
  obtain ⟨negative, v, hv⟩ := Shape.isFinite_iff.1 hx
  refine ⟨v.numeral negative, ?_, toFloat_numeral hv, ?_, ?_⟩
  · rw [floatText, hv]
  · exact (Magnitude.plainWhole_numeral (Shape.regular_of_finite hv) negative).ne_nil
  · unfold Magnitude.numeral
    split <;> rfl

/-- A finite double is read back from its text. -/
theorem readFloat?_floatText {x : Float} (hx : x.isFinite = true) :
    readFloat? (floatText x) = some x := by
  obtain ⟨n, htext, hdouble, hwhole, hexponent⟩ := floatText_of_finite hx
  rw [htext, readFloat?_text hwhole hexponent, hdouble]

/-- The characters in texts of finite doubles. -/
def IsPlain (c : Char) : Prop := c = '-' ∨ c = '.' ∨ ∃ d : Digit, c = d.toChar

/-- The text of a finite double has such characters only. -/
theorem plain_of_mem_floatText {x : Float} (hx : x.isFinite = true) :
    ∀ c ∈ (floatText x).toList, IsPlain c := by
  obtain ⟨n, htext, -, -, hexponent⟩ := floatText_of_finite hx
  have hdigits : ∀ ds : List Digit, ∀ c ∈ digitChars ds, IsPlain c := by
    intro ds c hc
    obtain ⟨d, -, rfl⟩ := List.mem_map.1 hc
    exact .inr (.inr ⟨d, rfl⟩)
  intro c hc
  rw [htext, Numeral.text, String.toList_ofList, Numeral.chars_of_exponent hexponent] at hc
  simp only [List.mem_append] at hc
  obtain hsign | hwhole | hfraction := hc
  · have hdash : c = '-' := by
      split at hsign
      · exact List.mem_singleton.1 hsign
      · exact absurd hsign List.not_mem_nil
    exact .inl hdash
  · exact hdigits _ c hwhole
  · unfold pointChars at hfraction
    split at hfraction
    · exact absurd hfraction List.not_mem_nil
    · obtain hpoint | hfraction := List.mem_cons.1 hfraction
      · exact .inr (.inl hpoint)
      · exact hdigits _ c hfraction

/-- No character of these texts is a blank. -/
theorem IsPlain.not_blank {c : Char} (h : IsPlain c) : Text.isBlank c = false := by
  have hdigit : ∀ d : Digit, Text.isBlank d.toChar = false := by decide
  obtain rfl | rfl | ⟨d, rfl⟩ := h
  · decide
  · decide
  · exact hdigit d

/-- No character of these texts is a comma. -/
theorem IsPlain.ne_comma {c : Char} (h : IsPlain c) : c ≠ ',' := by
  have hdigit : ∀ d : Digit, d.toChar ≠ ',' := by decide
  obtain rfl | rfl | ⟨d, rfl⟩ := h
  · decide
  · decide
  · exact hdigit d

end Waymark.Decimal
