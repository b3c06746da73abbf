import Waymark.Proofs.Decimal.Doubles
import Waymark.Toml.Document
import Waymark.Toml.Number

/-!
# Numbers that are read back

A number at the end of a line is read back: a finite double as a float (`number?_floatChars`), an
integer of 64 bits as an integer (`number?_integerChars`). Neither is taken for the other, since only
the float has a point, nor for a date or a time, since the character after its first digits is not
the one that would have to stand there.
-/

namespace Waymark.Decimal

/-- The characters of a numeral with digits after the point and without a power of ten. -/
theorem Numeral.chars_eq {n : Numeral} (hfraction : n.fraction ≠ []) (hexponent : n.exponent = none) :
    n.chars = (if n.negative then ['-'] else []) ++
      (digitChars n.whole ++ '.' :: digitChars n.fraction) := by
  obtain ⟨d, ds, hds⟩ := List.exists_cons_of_ne_nil hfraction
  simp [chars, hexponent, hds]

end Waymark.Decimal

namespace Waymark.Toml

open Decimal

/-- The characters of a sign. -/
def signChars (negative : Bool) : List Char := if negative then ['-'] else []

/-- A character after digits that is neither a digit nor parts them. -/
structure Stop (c : Char) : Prop where
  /-- It is not a digit. -/
  noDigit : Digit.ofChar? c = none
  /-- It is not the character between digits. -/
  ne_underscore : c ≠ '_'

/-- A sign in front of digits is read. -/
theorem sign_signChars (negative : Bool) {ds : List Digit} (hds : ds ≠ []) (rest : List Char) :
    sign (signChars negative ++ (digitChars ds ++ rest)) = (negative, digitChars ds ++ rest) := by
  obtain ⟨d, ds, rfl⟩ := List.exists_cons_of_ne_nil hds
  cases negative with
  | true => rfl
  | false =>
    show sign (d.toChar :: (digitChars ds ++ rest)) = _
    rw [sign.eq_def]
    split
    · exact absurd (List.cons.inj ‹_›).1 (d.toChar_ne (by decide))
    · exact absurd (List.cons.inj ‹_›).1 (d.toChar_ne (by decide))
    · rfl

/-- Digits are read up to where they end. -/
theorem moreDigits_digitChars (ds : List Digit) {c : Char} (h : Stop c) (rest : List Char) :
    moreDigits Digit.ofChar? (digitChars ds ++ c :: rest) = (ds, c :: rest) := by
  induction ds with
  | nil =>
    show moreDigits Digit.ofChar? (c :: rest) = _
    rw [moreDigits, h.noDigit]
    exact fun _ _ heq => absurd heq h.ne_underscore
  | cons d ds ih =>
    have hne : d.toChar ≠ '_' := d.toChar_ne (by decide)
    show moreDigits Digit.ofChar? (d.toChar :: (digitChars ds ++ c :: rest)) = _
    rw [moreDigits, Digit.ofChar?_toChar]
    · simp only [ih]
    · exact fun _ _ heq => absurd heq hne

/-- At least one digit is read up to where the digits end. -/
theorem someDigits_digitChars {ds : List Digit} (hds : ds ≠ []) {c : Char} (h : Stop c)
    (rest : List Char) :
    someDigits Digit.ofChar? (digitChars ds ++ c :: rest) = some (ds, c :: rest) := by
  obtain ⟨d, ds, rfl⟩ := List.exists_cons_of_ne_nil hds
  show someDigits Digit.ofChar? (d.toChar :: (digitChars ds ++ c :: rest)) = _
  rw [someDigits, Digit.ofChar?_toChar, moreDigits_digitChars ds h]
  rfl

/-- The digits before a point are read. -/
theorem wholeDigits_digitChars {ds : List Digit} (hds : PlainWhole ds) {c : Char} (h : Stop c)
    (rest : List Char) :
    wholeDigits (digitChars ds ++ c :: rest) = some (ds, c :: rest) := by
  rcases hds with rfl | ⟨hds, hhead⟩
  · rfl
  · have hsome := someDigits_digitChars hds h rest
    obtain ⟨d, ds, rfl⟩ := List.exists_cons_of_ne_nil hds
    have hne : d.toChar ≠ '0' := fun heq => hhead (by rw [Digit.eq_zero heq]; rfl)
    rw [← hsome]
    show wholeDigits (d.toChar :: (digitChars ds ++ c :: rest)) = _
    rw [wholeDigits]
    · rfl
    · exact fun _ heq => absurd (List.cons.inj heq).1 hne

/-! ### Dates and times -/

/-- Characters are not all digits if one of them is none. -/
theorem mapM_ofChar?_eq_none {c : Char} (h : Digit.ofChar? c = none) {cs : List Char}
    (hc : c ∈ cs) : cs.mapM Digit.ofChar? = none := by
  induction cs with
  | nil => cases hc
  | cons d cs ih =>
    rw [List.mapM_cons]
    rcases List.mem_cons.1 hc with rfl | hc
    · rw [h]
      rfl
    · rw [ih hc]
      cases Digit.ofChar? d <;> rfl

/-- What is left after some digits are taken from a run of digits. -/
theorem fixedDigits_digitChars {count : Nat} {ds : List Digit} {c : Char}
    (h : Digit.ofChar? c = none) {rest : List Char} {n : Nat} {after : List Char}
    (hread : fixedDigits count (digitChars ds ++ c :: rest) = some (n, after)) :
    ∃ ds' : List Digit, after = digitChars ds' ++ c :: rest := by
  have hlength : (digitChars ds).length = ds.length := List.length_map _
  unfold fixedDigits at hread
  rcases Nat.lt_or_ge ds.length count with hlong | hshort
  · -- The character after the digits would have to be one of them.
    obtain ⟨k, hk⟩ : ∃ k, count = ds.length + (k + 1) := ⟨count - ds.length - 1, by omega⟩
    rw [hk, ← hlength, List.take_length_add_append, List.take_succ_cons,
      mapM_ofChar?_eq_none h (List.mem_append_right _ List.mem_cons_self)] at hread
    cases hread
  · -- All that is taken are digits of the run.
    cases htake : ((digitChars ds ++ c :: rest).take count).mapM Digit.ofChar? with
    | none =>
      rw [htake] at hread
      cases hread
    | some taken =>
      rw [htake] at hread
      simp only [Option.bind_eq_bind, Option.bind_some] at hread
      split at hread
      · refine ⟨ds.drop count, ?_⟩
        rw [← (Prod.mk.inj (Option.some.inj hread)).2, List.drop_append_of_le_length (by omega)]
        simp [digitChars]
      · cases hread

/-- A character that must stand after digits is not there if other digits or another character is. -/
theorem expect_digitChars {mark c : Char} (hmark : Digit.ofChar? mark = none) (hne : mark ≠ c)
    (ds : List Digit) (rest : List Char) : expect mark (digitChars ds ++ c :: rest) = none := by
  cases ds with
  | nil => exact if_neg hne
  | cons d ds => exact if_neg fun heq => d.toChar_ne hmark heq.symm

/-- A number in digits is not a date or a time. -/
theorem dateTime?_digitChars (ds : List Digit) {c : Char} (h : Digit.ofChar? c = none)
    (hdate : '-' ≠ c) (htime : ':' ≠ c) (rest : List Char) :
    dateTime? (digitChars ds ++ c :: rest) = none := by
  have hnoDate : date? (digitChars ds ++ c :: rest) = none := by
    unfold date?
    cases hread : fixedDigits 4 (digitChars ds ++ c :: rest) with
    | none => rfl
    | some p =>
      obtain ⟨ds', hafter⟩ := fixedDigits_digitChars h hread
      simp [hafter, expect_digitChars (by decide) hdate]
  have hnoTime : time? (digitChars ds ++ c :: rest) = none := by
    unfold time?
    cases hread : fixedDigits 2 (digitChars ds ++ c :: rest) with
    | none => rfl
    | some p =>
      obtain ⟨ds', hafter⟩ := fixedDigits_digitChars h hread
      simp [hafter, expect_digitChars (by decide) htime]
  rw [dateTime?, hnoDate, hnoTime]

/-- A number with a minus sign is not a date or a time. -/
theorem dateTime?_minus (cs : List Char) : dateTime? ('-' :: cs) = none := by
  have hread (count : Nat) : fixedDigits (count + 1) ('-' :: cs) = none := by
    unfold fixedDigits
    rw [List.take_succ_cons, mapM_ofChar?_eq_none (c := '-') (by decide) List.mem_cons_self]
    rfl
  unfold dateTime? date? time?
  rw [hread, hread]
  rfl

/-- A number with or without a minus sign is not a date or a time. -/
theorem dateTime?_signChars (negative : Bool) (ds : List Digit) {c : Char}
    (h : Digit.ofChar? c = none) (hdate : '-' ≠ c) (htime : ':' ≠ c) (rest : List Char) :
    dateTime? (signChars negative ++ (digitChars ds ++ c :: rest)) = none := by
  cases negative with
  | true => exact dateTime?_minus _
  | false => exact dateTime?_digitChars ds h hdate htime rest

/-! ### Floats -/

/-- A line feed ends a number. -/
theorem stop_newline : Stop '\n' := ⟨by decide, by decide⟩

/-- A point ends the digits before it. -/
theorem stop_point : Stop '.' := ⟨by decide, by decide⟩

/-- A float at the end of a line is read. -/
theorem decimalFloat?_chars {n : Numeral} (hwhole : PlainWhole n.whole) (hfraction : n.fraction ≠ [])
    (hexponent : n.exponent = none) (hfinite : n.toFloat.isInf = false) (rest : List Char) :
    decimalFloat? (signChars n.negative ++
        (digitChars n.whole ++ '.' :: (digitChars n.fraction ++ '\n' :: rest))) =
      some (n.toFloat, '\n' :: rest) := by
  have hself : (⟨n.negative, n.whole, n.fraction, none⟩ : Numeral) = n := by rw [← hexponent]
  unfold decimalFloat?
  rw [sign_signChars _ hwhole.ne_nil]
  simp [wholeDigits_digitChars hwhole stop_point, fractionPart,
    someDigits_digitChars hfraction stop_newline, powerPart, hfraction, hself, hfinite]

/-- What is written for a finite double. -/
theorem floatChars_of_finite {x : Float} {negative : Bool} {v : Magnitude}
    (h : Shape.ofFloat x = .finite negative v) :
    ∃ n : Numeral, PlainWhole n.whole ∧ n.fraction ≠ [] ∧ n.exponent = none ∧ n.toFloat = x ∧
      floatChars x =
        signChars n.negative ++ (digitChars n.whole ++ '.' :: digitChars n.fraction) := by
  have hfraction : (v.numeral negative).pointed.fraction ≠ [] := by
    unfold Numeral.pointed
    split <;> simp_all
  have hexponent : (v.numeral negative).pointed.exponent = none := by
    unfold Magnitude.numeral
    split <;> rfl
  have hchars : floatChars x = (v.numeral negative).pointed.chars := by
    rw [floatChars, h]
    rfl
  refine ⟨(v.numeral negative).pointed, ?_, hfraction, hexponent, toFloat_pointed h, ?_⟩
  · exact Magnitude.plainWhole_numeral (Shape.regular_of_finite h) negative
  · rw [hchars, Numeral.chars_eq hfraction hexponent]
    rfl

/-- A finite double at the end of a line is read back. -/
theorem number?_floatChars {x : Float} (h : x.isFinite = true) (rest : List Char) :
    number? (floatChars x ++ '\n' :: rest) = some (.scalar (.float x), '\n' :: rest) := by
  obtain ⟨negative, v, hshape⟩ := Shape.isFinite_iff.1 h
  obtain ⟨n, hwhole, hfraction, hexponent, rfl, hchars⟩ := floatChars_of_finite hshape
  have hfloat := decimalFloat?_chars hwhole hfraction hexponent (isInf_of_isFinite h) rest
  have hdate := dateTime?_signChars n.negative n.whole (c := '.') (by decide) (by decide)
    (by decide) (digitChars n.fraction ++ '\n' :: rest)
  rw [hchars, List.append_assoc, List.append_assoc, List.cons_append, number?, hdate, hfloat]

/-! ### Integers -/

/-- An integer at the end of a line is not a float in digits. -/
theorem decimalFloat?_integer (negative : Bool) {ds : List Digit} (hds : PlainWhole ds)
    (rest : List Char) :
    decimalFloat? (signChars negative ++ (digitChars ds ++ '\n' :: rest)) = none := by
  unfold decimalFloat?
  rw [sign_signChars _ hds.ne_nil]
  simp [wholeDigits_digitChars hds stop_newline, fractionPart, powerPart]

/-- An integer is not a float as a word. -/
theorem wordFloat?_integer (negative : Bool) {ds : List Digit} (hds : PlainWhole ds)
    (rest : List Char) : wordFloat? (signChars negative ++ (digitChars ds ++ rest)) = none := by
  unfold wordFloat?
  rw [sign_signChars _ hds.ne_nil]
  obtain ⟨d, ds, rfl⟩ := List.exists_cons_of_ne_nil hds.ne_nil
  have hi : d.toChar ≠ 'i' := d.toChar_ne (by decide)
  have hn : d.toChar ≠ 'n' := d.toChar_ne (by decide)
  have hchars : digitChars (d :: ds) ++ rest = d.toChar :: (digitChars ds ++ rest) := rfl
  simp only [hchars]
  split <;> simp_all

/-- An integer in decimal does not begin as one to another base. -/
theorem integer_ne_based {negative : Bool} {ds : List Digit} (hds : PlainWhole ds)
    {rest tail : List Char} {base : Char} (hbase : base ≠ '\n')
    (h : signChars negative ++ (digitChars ds ++ '\n' :: rest) = '0' :: base :: tail) : False := by
  cases negative with
  | true => exact absurd (List.cons.inj h).1 (by decide)
  | false =>
    -- A zero at the head is the whole number, so that the line ends behind it.
    rcases hds with rfl | ⟨hne, hhead⟩
    · exact hbase (List.cons.inj (List.cons.inj h).2).1.symm
    · obtain ⟨d, ds, rfl⟩ := List.exists_cons_of_ne_nil hne
      exact hhead (by rw [Digit.eq_zero (List.cons.inj h).1]; rfl)

/-- An integer of 64 bits at the end of a line is read. -/
theorem integer?_integerChars {n : Int} (hlow : -2 ^ 63 ≤ n) (hhigh : n < 2 ^ 63)
    (rest : List Char) :
    integer? (signChars (decide (n < 0)) ++ (digitChars (digitsOf n.natAbs) ++ '\n' :: rest)) =
      some (n, '\n' :: rest) := by
  have hplain := plainWhole_digitsOf n.natAbs
  rw [integer?, sign_signChars _ hplain.ne_nil]
  · simp only [wholeDigits_digitChars hplain stop_newline, valueOf_digitsOf, Nat.shiftLeft_eq,
      Option.bind_eq_bind, Option.bind_some, decide_eq_true_eq, Nat.one_mul]
    -- The bound of an integer depends on its sign.
    split
    all_goals
      rw [if_pos (by omega)]
      congr 2
      simp only [Int.ofNat_eq_natCast]
      omega
  · exact fun _ heq => integer_ne_based hplain (by decide) heq
  · exact fun _ heq => integer_ne_based hplain (by decide) heq
  · exact fun _ heq => integer_ne_based hplain (by decide) heq

/-- An integer is written as a sign and digits. -/
theorem integerChars_append (n : Int) (rest : List Char) :
    integerChars n ++ rest =
      signChars (decide (n < 0)) ++ (digitChars (digitsOf n.natAbs) ++ rest) := by
  rw [integerChars, signChars, List.append_assoc]
  simp only [decide_eq_true_eq]

/-- An integer of 64 bits at the end of a line is read back. -/
theorem number?_integerChars {n : Int} (hlow : -2 ^ 63 ≤ n) (hhigh : n < 2 ^ 63)
    (rest : List Char) :
    number? (integerChars n ++ '\n' :: rest) = some (.scalar (.integer n), '\n' :: rest) := by
  have hplain := plainWhole_digitsOf n.natAbs
  rw [integerChars_append, number?, dateTime?_signChars _ _ (by decide) (by decide) (by decide),
    decimalFloat?_integer _ hplain, wordFloat?_integer _ hplain,
    integer?_integerChars hlow hhigh]
  rfl

end Waymark.Toml
