import Waymark.Proofs.Decimal.Digits
import Waymark.Proofs.Settings.Good

/-!
# Settings that are changed

Whatever `Settings.set` accepts is good, so settings stay good under any changes (`good_setAll`). It
accepts every time for a request that has 64 bits and is not zero (`set_time`). Whatever is read for a
key, the other keys keep their values (`get_put_ne`).
-/

namespace Waymark.Settings

open Decimal

/-- The name of a key is that of this key. -/
theorem ofName?_name (k : Key) : Key.ofName? k.name = some k := by
  cases k <;> decide

/-- A change is accepted if the key is known, its value is read, and the settings are good then. -/
theorem set_eq_ok_iff {s s' : Settings} {key text : String} :
    s.set key text = .ok s' ↔
      ∃ k, Key.ofName? key = some k ∧ s.put k text = .ok s' ∧ s'.Good := by
  have hchecked (changed : Settings) :
      (do changed.check; return changed : Except SettingsFault Settings) = .ok s' ↔
        changed = s' ∧ s'.Good := by
    cases hcheck : changed.check with
    | error fault =>
      refine ⟨nofun, fun ⟨heq, hgood⟩ => ?_⟩
      rw [heq, check_eq_ok_iff.2 hgood] at hcheck
      cases hcheck
    | ok _ =>
      have hgood := check_eq_ok_iff.1 hcheck
      exact ⟨fun h => ⟨Except.ok.inj h, Except.ok.inj h ▸ hgood⟩, fun h => congrArg _ h.1⟩
  unfold set
  cases hkey : Key.ofName? key with
  | none => simp
  | some k =>
    cases hput : s.put k text with
    | error fault => simp [hput, bind, Except.bind]
    | ok changed =>
      have hexists : (∃ j, some k = some j ∧ s.put j text = .ok s' ∧ s'.Good) ↔
          changed = s' ∧ s'.Good := by simp [hput]
      rw [hexists]
      simp only [hput]
      exact hchecked changed

/-- A value that is read for a key leaves those of all other keys. -/
theorem get_put_ne {s s' : Settings} {k : Key} {text : String} (h : s.put k text = .ok s')
    {j : Key} (hne : j ≠ k) : s'.get j = s.get j := by
  -- Whatever is read, one field has it afterwards.
  have hmap {α : Type} {x : Except SettingsFault α} {f : α → Settings}
      (h : x.map f = .ok s') : ∃ a, s' = f a := by
    cases x with
    | error fault => cases h
    | ok a => exact ⟨a, (Except.ok.inj h).symm⟩
  cases k with
  | baseUrl | closestPath | routePath | color =>
    cases h
    cases j <;> first | rfl | exact absurd rfl hne
  | timeoutMs | centerLat | centerLng | initialZoom | focusZoom | weight | opacity =>
    obtain ⟨a, rfl⟩ := hmap h
    cases j <;> first | rfl | exact absurd rfl hne
  | firstRole | validation =>
    unfold put at h
    dsimp only at h
    split at h
    · cases h
      cases j <;> first | rfl | exact absurd rfl hne
    · cases h

/-- The settings after some changes, of which those are left out that are refused. -/
def setAll (s : Settings) : List (String × String) → Settings
  | [] => s
  | (key, text) :: rest => ((s.set key text).toOption.getD s).setAll rest

/-- Good settings stay good under any changes. -/
theorem good_setAll {s : Settings} (h : s.Good) (changes : List (String × String)) :
    (s.setAll changes).Good := by
  induction changes generalizing s with
  | nil => exact h
  | cons change rest ih =>
    rw [setAll]
    cases hset : s.set change.1 change.2 with
    | error fault => exact ih h
    | ok s' =>
      obtain ⟨-, -, -, hgood⟩ := set_eq_ok_iff.1 hset
      exact ih hgood

/-- Every time for a request of 64 bits that is not zero is accepted. -/
theorem set_time {s : Settings} (h : s.Good) {n : Nat} (hpos : 0 < n) (hlt : n < 2 ^ 64) :
    s.set "lookup.timeout_ms" (natText n) = .ok { s with timeoutMs := .ofNat n } := by
  have hread : readBelow? (1 <<< 64) (natText n) = some n :=
    readBelow?_natText (by rwa [Nat.shiftLeft_eq, Nat.one_mul])
  refine set_eq_ok_iff.2 ⟨.timeoutMs, by decide, ?_, ?_⟩
  · rw [put, readNat, hread]
    rfl
  · have htime : UInt64.ofNat n ≠ 0 := by
      intro hzero
      have hnat := congrArg UInt64.toNat hzero
      rw [UInt64.toNat_ofNat', Nat.mod_eq_of_lt hlt] at hnat
      exact absurd hnat (Nat.ne_of_gt hpos)
    exact ⟨h.address, htime, h.center, h.initialZoom, h.focusZoom, h.opacity_low, h.opacity_high⟩

end Waymark.Settings
