import Mathlib.Data.List.Induction
import Mathlib.Tactic.Ring
import Waymark.Decimal.Digit

/-!
# Digits that are read back

The digits of a number spell it (`valueOf_digitsOf`), there are as many of them as it takes and none
too many (`pow_length_le`, `lt_pow_length`), and a run of digits is read up to where it ends
(`takeDigits_digitChars`).
-/

namespace Waymark.Decimal

namespace Digit

/-- A digit is read back. -/
@[simp] theorem ofChar?_toChar (d : Digit) : ofChar? d.toChar = some d := by
  revert d
  decide

/-- The least digit is zero. -/
@[simp] theorem zero_val : zero.val = 0 := rfl

/-- What is no digit is not how a digit is written. -/
theorem toChar_ne {c : Char} (h : ofChar? c = none) (d : Digit) : d.toChar ≠ c := by
  rintro rfl
  rw [ofChar?_toChar] at h
  cases h

/-- Only zero is written as `0`. -/
theorem eq_zero {d : Digit} (h : d.toChar = '0') : d = zero := by
  have hd := congrArg ofChar? h
  rw [ofChar?_toChar] at hd
  exact Option.some.inj hd

end Digit

/-- A text does not begin with a digit. -/
def NoDigit (cs : List Char) : Prop := ∀ c ∈ cs.head?, Digit.ofChar? c = none

/-- A text does not begin with a digit if its first character is none. -/
theorem NoDigit.cons {c : Char} (h : Digit.ofChar? c = none) (cs : List Char) :
    NoDigit (c :: cs) := by
  simpa [NoDigit] using h

/-- A text that is empty does not begin with a digit. -/
theorem noDigit_nil : NoDigit [] := by simp [NoDigit]

/-- One more digit at the end. -/
theorem valueOf_concat (ds : List Digit) (d : Digit) :
    valueOf (ds ++ [d]) = 10 * valueOf ds + d.val := by
  simp [valueOf, List.foldl_append]

/-- The number that two runs of digits spell together. -/
theorem valueOf_append (ds es : List Digit) :
    valueOf (ds ++ es) = valueOf ds * 10 ^ es.length + valueOf es := by
  induction es using List.reverseRecOn with
  | nil => simp [valueOf]
  | append_singleton es e ih =>
    rw [← List.append_assoc, valueOf_concat, ih, valueOf_concat, List.length_append,
      List.length_singleton, Nat.pow_succ]
    ring

/-- Zeros in front do not count. -/
@[simp] theorem valueOf_zeros_append (n : Nat) (ds : List Digit) :
    valueOf (List.replicate n .zero ++ ds) = valueOf ds := by
  induction n with
  | zero => rfl
  | succ n ih =>
    rw [List.replicate_succ, List.cons_append, ← ih]
    rfl

/-- A run of digits spells less than the power of ten with as many zeros. -/
theorem valueOf_lt_pow_length (ds : List Digit) : valueOf ds < 10 ^ ds.length := by
  induction ds using List.reverseRecOn with
  | nil => simp [valueOf]
  | append_singleton ds d ih =>
    rw [valueOf_concat, List.length_append, List.length_singleton, Nat.pow_succ]
    have := d.isLt
    omega

/-- What is written in front of other digits does not depend on them. -/
theorem digitsAux_append (fuel n : Nat) (acc : List Digit) :
    digitsAux fuel n acc = digitsAux fuel n [] ++ acc := by
  induction fuel generalizing n acc with
  | zero => rfl
  | succ fuel ih =>
    simp only [digitsAux]
    split
    · rfl
    · rw [ih, ih (n / 10) [_], List.append_assoc]
      rfl

/-- More fuel than the number writes the same digits. -/
theorem digitsAux_of_le {n fuel fuel' : Nat} (h : n ≤ fuel) (h' : n ≤ fuel') (acc : List Digit) :
    digitsAux fuel n acc = digitsAux fuel' n acc := by
  induction fuel generalizing n fuel' acc with
  | zero =>
    obtain rfl : n = 0 := by omega
    cases fuel' <;> rfl
  | succ fuel ih =>
    cases fuel' with
    | zero =>
      obtain rfl : n = 0 := by omega
      rfl
    | succ fuel' =>
      simp only [digitsAux]
      split
      · rfl
      · exact ih (by omega) (by omega) _

/-- A number below ten is one digit. -/
theorem digitsOf_of_lt {n : Nat} (h : n < 10) : digitsOf n = [⟨n, h⟩] := by
  have hmod : n % 10 = n := Nat.mod_eq_of_lt h
  cases n with
  | zero => rfl
  | succ n => simp [digitsOf, digitsAux, h, hmod]

/-- The last digit of a larger number is its remainder by ten, after the digits of the quotient. -/
theorem digitsOf_of_le {n : Nat} (h : 10 ≤ n) :
    digitsOf n = digitsOf (n / 10) ++ [⟨n % 10, Nat.mod_lt _ (by decide)⟩] := by
  obtain ⟨m, rfl⟩ : ∃ m, n = m + 1 := ⟨n - 1, by omega⟩
  show digitsAux (m + 1) (m + 1) [] = _
  rw [digitsAux, if_neg (by omega), digitsAux_append, digitsOf,
    digitsAux_of_le (by omega) (Nat.le_refl ((m + 1) / 10)) []]

/-- The digits of a number spell it. -/
@[simp] theorem valueOf_digitsOf (n : Nat) : valueOf (digitsOf n) = n := by
  induction n using Nat.strongRecOn with
  | ind n ih =>
    rcases Nat.lt_or_ge n 10 with h | h
    · rw [digitsOf_of_lt h]
      simp [valueOf]
    · rw [digitsOf_of_le h, valueOf_concat, ih (n / 10) (by omega)]
      simp only
      omega

/-- Every number has a digit. -/
theorem digitsOf_ne_nil (n : Nat) : digitsOf n ≠ [] := by
  rcases Nat.lt_or_ge n 10 with h | h
  · rw [digitsOf_of_lt h]
    simp
  · rw [digitsOf_of_le h]
    simp

/-- The first digit of a number that is not zero is not zero. -/
theorem head?_digitsOf_ne {n : Nat} (h : 0 < n) : (digitsOf n).head? ≠ some .zero := by
  induction n using Nat.strongRecOn with
  | ind n ih =>
    rcases Nat.lt_or_ge n 10 with hn | hn
    · rw [digitsOf_of_lt hn]
      simp only [List.head?_cons, ne_eq, Option.some.injEq]
      intro heq
      exact absurd (congrArg Fin.val heq) (by simp; omega)
    · obtain ⟨d, ds, hds⟩ := List.exists_cons_of_ne_nil (digitsOf_ne_nil (n / 10))
      have hhead := ih (n / 10) (by omega) (by omega)
      rw [digitsOf_of_le hn]
      rwa [hds] at hhead ⊢

/-- A number is less than the power of ten with as many zeros as it has digits. -/
theorem lt_pow_length (n : Nat) : n < 10 ^ (digitsOf n).length := by
  have h := valueOf_lt_pow_length (digitsOf n)
  rwa [valueOf_digitsOf] at h

/-- A number that is not zero is at least the power of ten with one zero less than it has digits. -/
theorem pow_length_le {n : Nat} (h : 0 < n) : 10 ^ ((digitsOf n).length - 1) ≤ n := by
  induction n using Nat.strongRecOn with
  | ind n ih =>
    rcases Nat.lt_or_ge n 10 with hn | hn
    · rw [digitsOf_of_lt hn]
      exact h
    · have hq := ih (n / 10) (by omega) (by omega)
      have hlength : 0 < (digitsOf (n / 10)).length :=
        List.length_pos_iff.2 (digitsOf_ne_nil _)
      rw [digitsOf_of_le hn, List.length_append, List.length_singleton, Nat.add_sub_cancel]
      obtain ⟨k, hk⟩ : ∃ k, (digitsOf (n / 10)).length = k + 1 :=
        ⟨_, (Nat.sub_add_cancel hlength).symm⟩
      rw [hk, Nat.add_sub_cancel] at hq
      rw [hk, Nat.pow_succ]
      omega

/-- A run of digits is read up to where it ends. -/
@[simp] theorem takeDigits_digitChars (ds : List Digit) {rest : List Char} (h : NoDigit rest) :
    takeDigits (digitChars ds ++ rest) = (ds, rest) := by
  induction ds with
  | nil =>
    cases rest with
    | nil => rfl
    | cons c rest =>
      have hc : Digit.ofChar? c = none := h c rfl
      simp [digitChars, takeDigits, hc]
  | cons d ds ih =>
    show takeDigits (d.toChar :: (digitChars ds ++ rest)) = _
    rw [takeDigits, Digit.ofChar?_toChar]
    simp only [ih]

/-- A number is read back if it is below the bound. -/
theorem readBelow?_natText {n bound : Nat} (h : n < bound) :
    readBelow? bound (natText n) = some n := by
  have htake := takeDigits_digitChars (digitsOf n) noDigit_nil
  obtain ⟨d, ds, hds⟩ := List.exists_cons_of_ne_nil (digitsOf_ne_nil n)
  rw [List.append_nil] at htake
  have hread : readNat? (digitChars (digitsOf n)) = some n := by
    rw [readNat?, htake, hds]
    simp only [← hds, valueOf_digitsOf]
  unfold readBelow? natText
  extract_lets digits
  -- The first character is no sign.
  have hdigits : digits = digitChars (digitsOf n) := by
    unfold digits
    rw [String.toList_ofList, hds]
    split
    case h_1 heq => exact absurd (List.cons.inj heq).1 (d.toChar_ne (by decide))
    case h_2 => rfl
  rw [hdigits, hread]
  exact if_pos h

end Waymark.Decimal
