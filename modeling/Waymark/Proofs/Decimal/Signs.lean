import Waymark.Proofs.Decimal.Doubles

/-!
# Signs of doubles that are read

A double without a sign in its bits is not below zero (`not_lt_zero`), and a text gives a double
with a sign only if it starts with a dash. So a text that is read as a number below zero starts with
a dash (`dashed_of_readFloat?`), and what follows is neither another dash nor the letter of a
request for help.
-/

namespace Waymark.Decimal

open Float.Model (Format UnpackedFloat)
open Float.Model.UnpackedFloat

/-- A double without a sign, or none at all. -/
def Unsigned : UnpackedFloat → Prop
  | .zero sign | .finite sign _ _ _ | .infinity sign => sign = .positive
  | .notANumber => True

/-- A double is without a sign if its first bit is zero. -/
theorem unsigned_unpack {w : BitVec 64} (h : @unpackSign .binary64 w = 0#1) :
    Unsigned (unpack .binary64 w) := by
  have hsign : Sign.ofBitVec (@unpackSign .binary64 w) = .positive := by
    rw [h]
    rfl
  unfold unpack
  dsimp only
  split
  · split
    · exact hsign
    · trivial
  · split
    · split
      · exact hsign
      · exact hsign
    · exact hsign

/-- What is packed has no sign if it had none before. -/
theorem Unsigned.pack {u : UnpackedFloat} (h : Unsigned u) :
    Unsigned (Float.Model.pack u).unpack := by
  have hcomponents (field : BitVec 11) (fraction : BitVec 52) :
      Unsigned (unpack .binary64 (packComponents .binary64 .positive field fraction)) :=
    unsigned_unpack (unpackSign_packComponents _ _ _)
  show Unsigned (unpack .binary64 (UnpackedFloat.pack .binary64 u))
  cases u with
  | notANumber => exact unsigned_unpack (by decide)
  | zero sign | infinity sign =>
    obtain rfl : sign = .positive := h
    exact hcomponents _ _
  | finite sign m e hm =>
    obtain rfl : sign = .positive := h
    unfold UnpackedFloat.pack
    dsimp only
    split
    · exact hcomponents _ _
    · split
      · exact hcomponents _ _
      · exact hcomponents _ _

/-- A double without a sign is not below zero. -/
theorem not_lt_zero {x : Float} (h : Unsigned x.toModel.unpack) : ¬ x < 0.0 := by
  have hzero : (0.0 : Float).toModel.unpack = .zero .positive := rfl
  intro hlt
  have hlt : decide (x.toModel < (0.0 : Float).toModel) = true := hlt
  rw [decide_eq_true_eq] at hlt
  have hlt : x.toModel.unpack.lt (0.0 : Float).toModel.unpack = true := hlt
  rw [hzero] at hlt
  generalize x.toModel.unpack = u at h hlt
  cases u with
  | notANumber | zero => cases hlt
  | infinity sign | finite sign =>
    obtain rfl : sign = .positive := h
    cases hlt

namespace Shape

/-- A double that is put together without a sign is not below zero. -/
theorem pack_not_lt_zero {fields : Nat} (h : fields < 2 ^ 63) : ¬ pack false fields < 0.0 := by
  refine not_lt_zero (Unsigned.pack (unsigned_unpack ?_))
  show (UInt64.ofNat (0 + fields)).toBitVec.extractLsb' 63 1 = 0#1
  rw [← BitVec.toNat_inj, BitVec.extractLsb'_toNat, Nat.shiftRight_eq_div_pow, Nat.zero_add]
  show (UInt64.ofNat fields).toNat / 2 ^ 63 % 2 ^ 1 = 0
  rw [UInt64.toNat_ofNat']
  omega

/-- A finite double that is put together without a sign is not below zero. -/
theorem finite_not_lt_zero (v : Magnitude) : ¬ (finite false v).toFloat < 0.0 := by
  refine pack_not_lt_zero ?_
  split
  case isTrue => decide
  case isFalse hfits =>
    have hlt : ¬ 2047 <<< 52 ≤ v.toBits := by simpa [Magnitude.overflows] using hfits
    rw [Nat.shiftLeft_eq] at hlt
    omega

end Shape

/-- The sign of a numeral is that which is given. -/
theorem negative_of_readNumeral? {negative : Bool} {cs : List Char} {n : Numeral}
    (h : readNumeral? negative cs = some n) : n.negative = negative := by
  unfold readNumeral? at h
  split at h
  split at h
  split at h
  · cases h
  split at h
  · cases h
    rfl
  split at h
  · obtain ⟨e, -, rfl⟩ := Option.map_eq_some_iff.1 h
    rfl
  · cases h

/-- A text that is read as a number below zero starts with a dash. -/
theorem dashed_of_readFloat? {text : String} {x : Float} (h : readFloat? text = some x)
    (hx : x < 0.0) : ∃ cs, text.toList = '-' :: cs := by
  unfold readFloat? at h
  split at h
  rename_i negative body hsign
  split at hsign
  case h_2 cs hcs => exact ⟨cs, hcs⟩
  all_goals
    -- Without a dash, nothing that is read has a sign.
    exfalso
    obtain ⟨rfl, rfl⟩ := Prod.mk.inj hsign
    dsimp only at h
    split at h
    · cases h
      exact Shape.pack_not_lt_zero (by decide) hx
    split at h
    · cases h
      exact Shape.pack_not_lt_zero (by decide) hx
    obtain ⟨n, hn, rfl⟩ := Option.map_eq_some_iff.1 h
    rw [Numeral.toFloat, negative_of_readNumeral? hn] at hx
    exact Shape.finite_not_lt_zero _ hx

/-- What follows on a dash in a text that is read as a number is neither another dash nor the letter
that asks for help. -/
theorem after_dash_of_readFloat? {text : String} {x : Float} (h : readFloat? text = some x)
    {cs : List Char} (htext : text.toList = '-' :: cs) :
    ∃ c rest, cs = c :: rest ∧ c ≠ '-' ∧ c ≠ 'h' := by
  by_contra hnot
  have hbody : readNumeral? true cs = none ∧ (cs.map Char.toLower).head? ≠ some 'i' ∧
      (cs.map Char.toLower).head? ≠ some 'n' := by
    cases cs with
    | nil => exact ⟨rfl, nofun, nofun⟩
    | cons c rest =>
      rw [List.map_cons, List.head?_cons]
      by_cases hdash : c = '-'
      · subst hdash
        exact ⟨rfl, by decide, by decide⟩
      by_cases hhelp : c = 'h'
      · subst hhelp
        exact ⟨rfl, by decide, by decide⟩
      exact absurd ⟨c, rest, rfl, hdash, hhelp⟩ hnot
  have hword {word : String} (h : String.ofList (cs.map Char.toLower) = word) :
      (cs.map Char.toLower).head? = word.toList.head? := by
    rw [← h, String.toList_ofList]
  unfold readFloat? at h
  simp only [htext] at h
  split at h
  case isTrue hinf =>
    rcases hinf with hinf | hinf <;> exact hbody.2.1 (hword hinf)
  case isFalse =>
  split at h
  case isTrue hnan => exact hbody.2.2 (hword hnan)
  case isFalse =>
    rw [hbody.1] at h
    cases h

end Waymark.Decimal
