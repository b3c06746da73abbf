import Waymark.Proofs.Program.Saving

/-!
# Settings that get through

Settings come from three places: a file, the texts that keys are set to, and the arguments of
`pick`. Each of them ends in the same check, which lets through exactly the settings that are of use
(`check_eq_ok_iff_usable`). Numbers that are read without complaint, such as not-a-number and the
infinities, are stopped there. A value is set in a copy that takes the place of the settings after
the check, so settings are never left half changed (`run_assign`).
-/

namespace Waymark

namespace Settings

/-- What a session relies on in its settings. -/
structure Usable (s : Settings) : Prop where
  /-- The address has a character that is no blank. -/
  address : ∃ c ∈ s.baseUrl.toList, Text.isBlank c = false
  /-- A request may take a millisecond or more. -/
  time : 1 ≤ s.timeoutMs.toNat
  /-- The latitude of the first view is finite and within bounds. -/
  latitude : s.centerLat.isFinite = true ∧ -90.0 ≤ s.centerLat ∧ s.centerLat ≤ 90.0
  /-- The longitude of the first view is finite and within bounds. -/
  longitude : s.centerLng.isFinite = true ∧ -180.0 ≤ s.centerLng ∧ s.centerLng ≤ 180.0
  /-- Neither zoom is above 18. -/
  zooms : s.initialZoom.toNat ≤ 18 ∧ s.focusZoom.toNat ≤ 18
  /-- The opacity is a number from zero to one. -/
  opacity : s.opacity.isNaN = false ∧ 0.0 ≤ s.opacity ∧ s.opacity ≤ 1.0

/-- Good settings are those of use. -/
theorem good_iff_usable {s : Settings} : s.Good ↔ s.Usable := by
  have hzoom (z : UInt8) : z ≤ maxZoom ↔ z.toNat ≤ 18 := UInt8.le_iff_toNat_le
  have haddress : Text.allBlank s.baseUrl = false ↔
      ∃ c ∈ s.baseUrl.toList, Text.isBlank c = false := by
    simp [Text.allBlank]
  have htime : s.timeoutMs ≠ 0 ↔ 1 ≤ s.timeoutMs.toNat := by
    rw [ne_eq, ← UInt64.toNat_inj]
    exact Nat.one_le_iff_ne_zero.symm
  constructor
  · intro h
    have hnumber : s.opacity.isNaN = false := Decimal.isNaN_of_isFinite h.opacity_finite
    exact ⟨haddress.1 h.address, htime.1 h.time,
      ⟨h.center.lat.finite, h.center.lat.low, h.center.lat.high⟩,
      ⟨h.center.lng.finite, h.center.lng.low, h.center.lng.high⟩,
      ⟨(hzoom _).1 h.initialZoom, (hzoom _).1 h.focusZoom⟩,
      ⟨hnumber, h.opacity_low, h.opacity_high⟩⟩
  · rintro ⟨hnonblank, hpositive, ⟨hlat, hlatLow, hlatHigh⟩, ⟨hlng, hlngLow, hlngHigh⟩,
      ⟨hinitial, hfocus⟩, ⟨-, hlow, hhigh⟩⟩
    exact ⟨haddress.2 hnonblank, htime.2 hpositive,
      ⟨⟨hlat, hlatLow, hlatHigh⟩, ⟨hlng, hlngLow, hlngHigh⟩⟩,
      (hzoom _).2 hinitial, (hzoom _).2 hfocus, hlow, hhigh⟩

/-- The check lets through exactly the settings that are of use. -/
theorem check_eq_ok_iff_usable {s : Settings} : s.check = .ok () ↔ s.Usable :=
  check_eq_ok_iff.trans good_iff_usable

/-! ### Settings that are kept -/

/-- Sets a value in the settings that are kept. It is put into a copy, which takes their place if it
passes the check. -/
def assign (key text : String) : ExceptT SettingsFault (StateM Settings) Unit := do
  let kept ← getThe Settings
  match Key.ofName? key with
  | none => throw (.unknownKey key)
  | some k =>
    let changed ← MonadExcept.ofExcept (kept.put k text)
    MonadExcept.ofExcept changed.check
    MonadStateOf.set changed

/-- Sets some values, one after the other, and tells what came of each. -/
def assignAll : List (String × String) → StateM Settings (List (Except SettingsFault Unit))
  | [] => return []
  | (key, text) :: rest => do
    let first ← (assign key text).run
    let others ← assignAll rest
    return first :: others

/-- A value that is accepted is set, and settings that do not accept it are kept. -/
theorem run_assign (s : Settings) (key text : String) :
    (assign key text).run.run s =
      match s.set key text with
      | .ok s' => (.ok (), s')
      | .error fault => (.error fault, s) := by
  unfold assign Settings.set
  rcases hkey : Key.ofName? key with _ | k
  · rfl
  · -- What comes after reading the settings is decided by the value and then by the check.
    show (MonadExcept.ofExcept (s.put k text) >>= _ :
      ExceptT SettingsFault (StateM Settings) Unit).run.run s = _
    rcases hput : s.put k text with fault | changed
    · simp only [hput]
      rfl
    · show (MonadExcept.ofExcept changed.check >>= fun _ => MonadStateOf.set changed :
        ExceptT SettingsFault (StateM Settings) Unit).run.run s = _
      simp only [hput]
      rcases hcheck : changed.check with fault | passed
      · simp only [bind, Except.bind, hcheck]
        rfl
      · simp only [bind, Except.bind, hcheck]
        rfl

/-- After some values were set, the settings are those after the changes that are accepted. -/
theorem run_assignAll (s : Settings) (changes : List (String × String)) :
    ((assignAll changes).run s).2 = s.setAll changes := by
  induction changes generalizing s with
  | nil => rfl
  | cons change rest ih =>
    have hstep : ((assign change.1 change.2).run.run s).2 =
        (s.set change.1 change.2).toOption.getD s := by
      rw [run_assign]
      rcases s.set change.1 change.2 with fault | s'
      · rfl
      · rfl
    rw [setAll, ← hstep]
    exact ih _

/-! ### Settings that are read -/

/-- Settings that are read from a text are good. -/
theorem good_of_read {text : String} {s : Settings} (h : read text = .ok s) : s.Good := by
  unfold read at h
  split at h
  case h_1 => cases h
  case h_2 t _ =>
    rcases hcheck : t.check with fault | passed
    · rw [hcheck] at h
      cases h
    · rw [hcheck] at h
      cases h
      exact check_eq_ok_iff.1 hcheck

/-- Settings that are read from the bytes of a file are good. -/
theorem good_of_ofBytes {bytes : ByteArray} {s : Settings} (h : ofBytes bytes = .ok s) : s.Good := by
  unfold ofBytes at h
  split at h
  case h_1 => cases h
  case h_2 text _ =>
    split at h
    case h_1 hread =>
      cases h
      exact good_of_read hread
    case h_2 => cases h

end Settings

namespace Program

open Settings

variable {ω : Type} {host : Host (StateM ω)} {path : String} {s : Settings} {w w' : ω}

/-- Settings that reading a file gives are good. -/
theorem good_of_settingsOf {found : Except FileFault ByteArray}
    (h : Host.settingsOf found = .ok s) : s.Good := by
  rcases found with fault | bytes
  · cases h
  · exact good_of_ofBytes h

/-- Settings that are loaded from a file are good. -/
theorem good_of_loadFrom (h : (host.loadFrom path).run.run w = (.ok s, w')) : s.Good := by
  obtain ⟨found, w₁, -, h⟩ := exists_of_run_bind h
  split at h
  case h_1 hsettings =>
    cases h
    exact good_of_settingsOf hsettings
  case h_2 => cases h

/-- Settings that are loaded from where they are kept are good, also when they are made there. -/
theorem good_of_load (h : host.load.run.run w = (.ok s, w')) : s.Good := by
  obtain ⟨path, w₁, -, h⟩ := exists_of_run_bind h
  obtain ⟨found, w₂, -, h⟩ := exists_of_run_bind h
  split at h
  case isTrue => exact good_of_loadFrom h
  case isFalse =>
    obtain ⟨-, w₃, -, h⟩ := exists_of_run_bind h
    cases h
    exact good_default

/-- Loads the settings that some arguments start from. -/
def startFrom (host : Host (StateM ω)) (o : PickOptions) : ExceptT Error (StateM ω) Settings :=
  match o.config with
  | some path => host.loadFrom path
  | none => host.load

/-- The settings for some arguments are loaded, and what the arguments give is checked in them. -/
theorem pickSettings_eq (o : PickOptions) :
    pickSettings host o = startFrom host o >>= fun stored =>
      match (overridden stored o).check with
      | .error fault => throw (.settings fault)
      | .ok _ => return overridden stored o := by
  unfold pickSettings startFrom
  rcases o.config with _ | path
  · rfl
  · rfl

/-- Settings that pass the check with what some arguments give are let through. -/
theorem run_pickSettings_of_ok {o : PickOptions} (h : (startFrom host o).run.run w = (.ok s, w'))
    (hcheck : (overridden s o).check = .ok ()) :
    (pickSettings host o).run.run w = (.ok (overridden s o), w') := by
  rw [pickSettings_eq, run_bind_of_ok h, hcheck]
  rfl

/-- Settings that do not are not let through. -/
theorem run_pickSettings_of_error {o : PickOptions} {fault : SettingsFault}
    (h : (startFrom host o).run.run w = (.ok s, w'))
    (hcheck : (overridden s o).check = .error fault) :
    (pickSettings host o).run.run w = (.error (.settings fault), w') := by
  rw [pickSettings_eq, run_bind_of_ok h, hcheck]
  rfl

/-- The settings that arguments lead to are good, and they are good settings that were loaded but
for what the arguments give. -/
theorem good_of_pickSettings {o : PickOptions}
    (h : (pickSettings host o).run.run w = (.ok s, w')) :
    s.Good ∧ ∃ stored, stored.Good ∧ s = overridden stored o := by
  rw [pickSettings_eq] at h
  obtain ⟨stored, w₁, hstored, h⟩ := exists_of_run_bind h
  -- What the arguments give may be anything, but it is put into settings that passed the check.
  have hgood : stored.Good := by
    unfold startFrom at hstored
    split at hstored
    · exact good_of_loadFrom hstored
    · exact good_of_load hstored
  split at h
  case h_1 => cases h
  case h_2 passed hcheck =>
    cases h
    exact ⟨check_eq_ok_iff.1 hcheck, stored, hgood, rfl⟩

/-- Exactly the settings that are of use pass the check, and no others get through, on any host.
They are of use whenever a text or a file is read, also after any values were set since, with
success or without, and whenever arguments of `pick` are let through, which change only the address
and the time of settings of use. A value that is refused leaves the settings as they are, and a
value that is set leaves them to pass the check, whether they passed it before or not. -/
theorem usable_of_passed (host : Host (StateM ω)) :
    (∀ s : Settings, s.check = .ok () ↔ s.Usable) ∧
    (∀ text s, Settings.read text = .ok s → ∀ changes, ((assignAll changes).run s).2.Usable) ∧
    (∀ path s w w', (host.loadFrom path).run.run w = (.ok s, w') →
      ∀ changes, ((assignAll changes).run s).2.Usable) ∧
    (∀ o s w w', (pickSettings host o).run.run w = (.ok s, w') →
      s.Usable ∧ ∃ stored : Settings, stored.Usable ∧ s = overridden stored o) ∧
    ∀ (s : Settings) (key text : String),
      (∀ fault s', (assign key text).run.run s = (.error fault, s') → s' = s) ∧
      ∀ s', (assign key text).run.run s = (.ok (), s') → s'.check = .ok () ∧ s'.Usable := by
  -- Good settings stay good, whatever is set in them.
  have hafter {s : Settings} (hgood : s.Good) (changes : List (String × String)) :
      ((assignAll changes).run s).2.Usable := by
    rw [run_assignAll]
    exact good_iff_usable.1 (good_setAll hgood changes)
  refine ⟨fun s => check_eq_ok_iff_usable, fun text s h => hafter (good_of_read h),
    fun path s w w' h => hafter (good_of_loadFrom h), fun o s w w' h => ?_,
    fun s key text => ⟨fun fault s' h => ?_, fun s' h => ?_⟩⟩
  · obtain ⟨hgood, stored, hstored, heq⟩ := good_of_pickSettings h
    exact ⟨good_iff_usable.1 hgood, stored, good_iff_usable.1 hstored, heq⟩
  · rw [run_assign] at h
    split at h
    · cases h
    · exact (congrArg Prod.snd h).symm
  · rw [run_assign] at h
    split at h
    · rename_i changed hset
      obtain ⟨k, -, -, hgood⟩ := set_eq_ok_iff.1 hset
      obtain rfl : changed = s' := congrArg Prod.snd h
      exact ⟨check_eq_ok_iff.2 hgood, good_iff_usable.1 hgood⟩
    · cases h

/-- An opacity that is read is set if the settings are good with it. -/
theorem set_opacity (s : Settings) {text : String} {x : Float}
    (h : Decimal.readFloat? text = some x) :
    s.set "route.opacity" text =
      ({ s with opacity := x } : Settings).check.map fun _ => { s with opacity := x } := by
  have hkey : Key.ofName? "route.opacity" = some .opacity := by decide
  simp only [Settings.set, hkey, put, readFloat, h]
  rfl

/-- Settings with an opacity that is not a number. -/
def numberless : Settings := { default with opacity := 0.0 / 0.0 }

/-- The default settings are read from a file. Of three opacities that are set in them, only minus
zero is taken, since infinity and what is not a number are out of bounds. Settings that have an
opacity out of bounds take no other address, and they take an opacity within bounds. No time at all
is not let through by `pick`, and a time of one millisecond is. -/
theorem usable_of_passed_special_numbers :
    let path := "/conf/picker.toml"
    let host := World.host path
    let w := ({} : World).write path default.written
    let changes := [("route.opacity", "inf"), ("route.opacity", "-0"), ("route.opacity", "NaN")]
    let hurried := { default with timeoutMs := 1 }
    let mended := { default with opacity := -0.0 }
    ((host.loadFrom path).run.run w = (.ok default, w) ∧
      ((assignAll changes).run default).2.Usable ∧
      ((assignAll changes).run default).2 = mended) ∧
    ((pickSettings host { config := some path, timeoutMs := some 0 }).run.run w =
        (.error (.settings .noTime), w) ∧
      (pickSettings host { config := some path, timeoutMs := some 1 }).run.run w =
        (.ok hurried, w) ∧ hurried.Usable) ∧
    (∃ s, (assign "lookup.base_url" "b").run.run numberless =
        (.error (.opacity numberless.opacity), s) ∧ s = numberless) ∧
    ∃ s, (assign "route.opacity" "-0").run.run numberless = (.ok (), s) ∧ s.Usable := by
  intro path host w changes hurried mended
  obtain ⟨-, -, hfile, hpick, hassign⟩ := usable_of_passed host
  have hloaded : (host.loadFrom path).run.run w = (.ok default, w) :=
    run_loadFrom_saved isFilePath_conf good_default (by decide)
  have hstart (o : PickOptions) (h : o.config = some path) :
      (startFrom host o).run.run w = (.ok default, w) := by
    unfold startFrom
    rw [h]
    exact hloaded
  -- The opacities are read, and the check decides about them.
  have hinfinite (s : Settings) := @set_opacity s "inf" (1.0 / 0.0) (by decide +kernel)
  have hminus (s : Settings) := @set_opacity s "-0" (-0.0) (by decide +kernel)
  have hnone (s : Settings) := @set_opacity s "NaN" (0.0 / 0.0) (by decide +kernel)
  have hafter : default.setAll changes = mended := by
    simp only [changes, setAll, hinfinite, hminus, hnone]
    rfl
  have hrefused : numberless.set "lookup.base_url" "b" = .error (.opacity numberless.opacity) := rfl
  have htaken : numberless.set "route.opacity" "-0" = .ok mended := hminus numberless
  have hnoTime : ({ default with timeoutMs := 0 } : Settings).check = .error .noTime := rfl
  have hshort : ({ default with timeoutMs := 1 } : Settings).check = .ok () := rfl
  have huntimed : (pickSettings host { config := some path, timeoutMs := some 0 }).run.run w =
      (.error (.settings .noTime), w) := run_pickSettings_of_error (hstart _ rfl) hnoTime
  have hhurried : (pickSettings host { config := some path, timeoutMs := some 1 }).run.run w =
      (.ok hurried, w) := run_pickSettings_of_ok (hstart _ rfl) hshort
  have hkept := run_assign numberless "lookup.base_url" "b"
  have hset := run_assign numberless "route.opacity" "-0"
  rw [hrefused] at hkept
  rw [htaken] at hset
  exact ⟨⟨hloaded, hfile path default w w hloaded changes, by rw [run_assignAll, hafter]⟩,
    ⟨huntimed, hhurried, (hpick _ hurried w w hhurried).1⟩,
    ⟨_, hkept, (hassign numberless _ _).1 _ _ hkept⟩, _, hset,
    ((hassign numberless _ _).2 _ hset).2⟩

end Program

end Waymark
