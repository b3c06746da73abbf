import Waymark.Proofs.Decimal.Signs
import Waymark.Proofs.Program.Configured

/-!
# Values that can be set by a command

With a key and a value, `config` sets the value if the two are understood as plain words. A value
that starts with a dash and goes on is not: it is taken for an option, unless a divider stands
before it (`config_sets`). For the two numbers of the center this concerns all that are below zero,
and none of them can be set without a divider.
-/

namespace Waymark.Program

open Settings Decimal

/-- An argument that is taken for an option: a dash with something behind it. -/
def Dashed (argument : String) : Prop := ∃ c rest, argument.toList = '-' :: c :: rest

/-- There is a file at a path, and it has some settings. -/
def Holds (path : String) (s : Settings) (w : World) : Prop :=
  ∃ bytes, w.read path = .ok bytes ∧ ofBytes bytes = .ok s

/-- A key alone shows a text. -/
def Prints (path : String) (k : Key) (text : String) (w : World) : Prop :=
  callConfig path [k.name] w = (.done, { w with output := w.output ++ (text ++ "\n") })

/-- A call carries a value of a key into the settings: it succeeds, the key then shows its value in
these, and every other key shows what it showed before. -/
structure Carries (path : String) (call : List String) (k : Key) (s : Settings) (w : World) :
    Prop where
  /-- It succeeds. -/
  done : (callConfig path call w).1 = .done
  /-- The key shows the new value. -/
  value : Prints path k (s.get k) (callConfig path call w).2
  /-- The other keys show their old ones. -/
  others : ∀ j, j ≠ k → ∃ text, Prints path j text w ∧ Prints path j text (callConfig path call w).2

section Arguments

variable {options : List Opt} {argument value : String}

/-- What has no dash in front, or nothing behind it, is a plain word. -/
theorem shape_of_not_dashed (h : ¬ Dashed argument) :
    shape options argument = .part (.word argument) := by
  unfold shape
  split
  case h_1 heq => exact absurd ⟨_, _, heq⟩ h
  case h_2 heq => exact absurd ⟨_, _, heq⟩ h
  case h_3 heq => exact absurd ⟨_, _, heq⟩ h
  case h_4 => rfl

/-- What has a dash in front and something behind it is no plain word. -/
theorem shape_of_dashed (h : Dashed argument) (text : String) :
    shape options argument ≠ .part (.word text) := by
  obtain ⟨c, rest, h⟩ := h
  unfold shape
  split
  case h_1 => nofun
  case h_2 =>
    unfold longShape
    intro hword
    split at hword
    dsimp only at hword
    split at hword
    · split at hword <;> cases hword
    · split at hword
      · cases hword
      · split at hword <;> cases hword
  case h_3 =>
    unfold letterShape
    intro hword
    split at hword
    · cases hword
    · split at hword
      · cases hword
      · split at hword <;> cases hword
  case h_4 hnot => exact absurd h (hnot c rest)

/-- The name of a key is a plain word. -/
theorem shape_name (k : Key) : shape options k.name = .part (.word k.name) := by
  refine shape_of_not_dashed ?_
  rintro ⟨c, rest, h⟩
  have hhead : k.name.toList.head? = some '-' := by
    rw [h]
    rfl
  cases k <;> exact absurd hhead (by decide)

/-- A key alone is understood. -/
theorem asks_key (k : Key) : Asks [k.name] { key := some k.name } := by
  show conclude ConfigOptions.add {} .config (scan configOptions [k.name]) = _
  simp only [scan, shape_name]
  rfl

/-- A key and a plain word are understood as a key and its value. -/
theorem asks_value (k : Key) (h : ¬ Dashed value) :
    Asks [k.name, value] { key := some k.name, value := some value } := by
  show conclude ConfigOptions.add {} .config (scan configOptions [k.name, value]) = _
  simp only [scan, shape_name, shape_of_not_dashed h]
  rfl

/-- Behind a divider, everything is understood as the value of the key. -/
theorem asks_divided (k : Key) (value : String) :
    Asks [k.name, "--", value] { key := some k.name, value := some value } := by
  have hdivider : shape configOptions "--" = .divider := rfl
  show conclude ConfigOptions.add {} .config (scan configOptions [k.name, "--", value]) = _
  simp only [scan, shape_name, hdivider]
  rfl

/-- Only a plain word gives a value. -/
theorem add_value {o o' : ConfigOptions} {part : Part} (h : o.add part = some o')
    (hpart : ∀ text, part ≠ .word text) : o'.value = o.value := by
  unfold ConfigOptions.add at h
  split at h
  case h_1 text => exact absurd rfl (hpart text)
  case h_2 =>
    obtain ⟨path, -, rfl⟩ := Option.map_eq_some_iff.1 h
    rfl
  case h_3 =>
    obtain ⟨reset, -, rfl⟩ := Option.map_eq_some_iff.1 h
    rfl
  case h_4 => cases h

/-- A value that is taken for an option is not understood as the value of the key. -/
theorem value_eq_none_of_dashed {k : Key} (h : Dashed value) {o : ConfigOptions}
    (hasks : Asks [k.name, value] o) : o.value = none := by
  replace hasks : conclude ConfigOptions.add {} .config (scan configOptions [k.name, value]) =
    .run (.config o) := hasks
  have hword : ∀ text, shape configOptions value ≠ .part (.word text) := shape_of_dashed h
  simp only [scan, shape_name] at hasks
  -- Whatever the second argument is taken for, the key is the only word.
  cases hshape : shape configOptions value with
  | divider =>
    rw [hshape] at hasks
    cases hasks
    rfl
  | help | unknown | awaiting =>
    rw [hshape] at hasks
    cases hasks
  | part part =>
    have hadd : ConfigOptions.add { key := some k.name } part = some o := by
      rw [hshape] at hasks
      unfold conclude at hasks
      split at hasks
      case h_2 o' hfold _ =>
        cases hasks
        exact (bind_pure (ConfigOptions.add { key := some k.name } part)).symm.trans hfold
      all_goals cases hasks
    exact add_value hadd fun text hpart => hword text (hpart ▸ hshape)

/-- A number with a dash is no option of `config`, and so it is not understood. -/
theorem read_of_dashed_number {k : Key} {x : Float} (hread : readFloat? value = some x)
    (h : Dashed value) : read ["config", k.name, value] = .unclear := by
  obtain ⟨c, rest, hvalue⟩ := h
  obtain ⟨c', rest', hcons, hdash, hhelp⟩ := after_dash_of_readFloat? hread hvalue
  cases hcons
  -- The dash starts a group of letters, and `config` has no letter of its own.
  have hshape : shape configOptions value = .unknown := by
    unfold shape
    rw [hvalue]
    split
    case h_1 heq => cases heq; exact absurd rfl hdash
    case h_2 heq => cases heq; exact absurd rfl hdash
    case h_3 heq =>
      cases heq
      rw [letterShape, if_neg hhelp]
      rfl
    case h_4 hnot => exact absurd rfl (hnot c rest)
  show conclude ConfigOptions.add {} .config (scan configOptions [k.name, value]) = _
  simp only [scan, shape_name, hshape]
  rfl

end Arguments

section Worlds

variable {path : String} {call : List String} {s s' : Settings} {w : World} {k : Key}
  {value : String}

/-- Loading gives the settings that a file has, and changes nothing. -/
theorem run_load_of_holds (h : Holds path s w) :
    ((World.host path).load).run.run w = (.ok s, w) := by
  obtain ⟨bytes, hread, hbytes⟩ := h
  exact run_load_of_read hread hbytes

/-- A call that reads or changes the settings goes on after loading them. -/
theorem run_configure_of_holds (h : Holds path s w) {o : ConfigOptions} (ho : o.path = false)
    (hreset : o.reset = false) :
    (configure (World.host path) o).run.run w = (afterLoad path o s).run.run w := by
  unfold configure
  rw [if_neg (by simp [ho]), if_neg (by simp [hreset])]
  exact run_bind_of_ok (run_load_of_holds h) _

/-- A key shows its value in the settings that a file has. -/
theorem prints_of_holds (h : Holds path s w) (k : Key) : Prints path k (s.get k) w := by
  have hget : s.get? k.name = some (s.get k) := by
    rw [get?, ofName?_name]
    rfl
  exact callConfig_of_asks (asks_key k)
    ((run_configure_of_holds h rfl rfl).trans (run_showValue hget))

/-- Settings that were written are those that the file has. -/
theorem holds_write (hpath : IsFilePath path) (hgood : s.Good) (hfits : s.Fits) (w : World)
    (output : String) : Holds path s { w.write path s.written with output } :=
  ⟨_, read_write_output hpath w _ _, ofBytes_written hgood hfits⟩

/-- A call that is understood as a key and a value carries the value into the settings. -/
theorem carries_of_asks (hpath : IsFilePath path) (h : Holds path s w)
    (hasks : Asks call { key := some k.name, value := some value })
    (hset : s.set k.name value = .ok s') (hfits : s'.Fits) : Carries path call k s' w := by
  have hcall := callConfig_of_asks hasks
    ((run_configure_of_holds h rfl rfl).trans (run_changeValue hset hfits))
  obtain ⟨k', hk, hput, hgood⟩ := set_eq_ok_iff.1 hset
  cases hk.symm.trans (ofName?_name k)
  have hafter : Holds path s' (callConfig path call w).2 := by
    rw [hcall]
    exact holds_write hpath hgood hfits _ _
  have hdone : (callConfig path call w).1 = .done := by
    rw [hcall]
    rfl
  refine ⟨hdone, prints_of_holds hafter k, fun j hne => ⟨s.get j, prints_of_holds h j, ?_⟩⟩
  rw [← get_put_ne hput hne]
  exact prints_of_holds hafter j

/-- What is accepted for a number of the center is read as that number. -/
theorem readFloat?_of_set_center (hset : s.set k.name value = .ok s') :
    (k = .centerLat → readFloat? value = some s'.centerLat) ∧
      (k = .centerLng → readFloat? value = some s'.centerLng) := by
  obtain ⟨k', hk, hput, -⟩ := set_eq_ok_iff.1 hset
  cases hk.symm.trans (ofName?_name k)
  have hread {f : Float → Settings} (h : (readFloat k value).map f = .ok s') :
      ∃ x, readFloat? value = some x ∧ s' = f x := by
    unfold readFloat at h
    cases hx : readFloat? value with
    | none =>
      rw [hx] at h
      cases h
    | some x =>
      rw [hx] at h
      exact ⟨x, rfl, (Except.ok.inj h).symm⟩
  constructor
  · rintro rfl
    obtain ⟨x, hx, rfl⟩ := hread hput
    exact hx
  · rintro rfl
    obtain ⟨x, hx, rfl⟩ := hread hput
    exact hx

end Worlds

section South

/-- The default settings with a center in the south. -/
def southern : Settings := { default with centerLat := -45.5 }

/-- The text of the latitude in the south is read as this latitude. -/
theorem readFloat?_south : readFloat? "-45.5" = some southern.centerLat := by decide +kernel

/-- The latitude in the south is accepted. -/
theorem set_south : default.set "map.center_lat" "-45.5" = .ok southern := by
  have hput : default.put .centerLat "-45.5" = .ok southern := by
    rw [put, readFloat, readFloat?_south]
    rfl
  have hlat : IsLatitude southern.centerLat := ⟨by decide, by decide, by decide⟩
  exact set_eq_ok_iff.2
    ⟨.centerLat, by decide, hput, { good_default with center := ⟨hlat, good_default.center.lng⟩ }⟩

/-- The settings with a center in the south can be written. -/
theorem text?_southern : southern.text? = .ok southern.written := text?_of_fits (by decide)

end South

/-- A file has some settings, and a value of a key is accepted and gives settings that can be
written. Then `config` with the key and the value carries the value into the settings, unless the
value starts with a dash and goes on; with a divider between the two it always does. A value that
starts with a dash and goes on is never understood as the value of the key. For the two numbers of
the center, such a value is not understood at all and nothing happens, and so it is with all numbers
below zero, since these start with a dash. -/
theorem config_sets {path : String} (hpath : IsFilePath path) {s s' : Settings} {w : World}
    (hholds : Holds path s w) {k : Key} {value text : String}
    (hset : s.set k.name value = .ok s') (htext : s'.text? = .ok text) :
    (¬ Dashed value → Carries path [k.name, value] k s' w) ∧
    Carries path [k.name, "--", value] k s' w ∧
    (Dashed value → ∀ o, Asks [k.name, value] o → o.value = none) ∧
    (k = .centerLat ∨ k = .centerLng → Dashed value →
      callConfig path [k.name, value] w = (.unclear, w)) ∧
    (k = .centerLat ∧ s'.centerLat < 0.0 ∨ k = .centerLng ∧ s'.centerLng < 0.0 →
      Dashed value) := by
  have hfits : s'.Fits := by
    by_contra hnot
    cases htext.symm.trans (text?_of_not_fits hnot)
  obtain ⟨hlat, hlng⟩ := readFloat?_of_set_center hset
  -- A number below zero is written with a dash, and something must follow on it.
  have hdash {x : Float} (hread : readFloat? value = some x) (hx : x < 0.0) : Dashed value := by
    obtain ⟨cs, hcs⟩ := dashed_of_readFloat? hread hx
    obtain ⟨c, rest, rfl, -⟩ := after_dash_of_readFloat? hread hcs
    exact ⟨c, rest, hcs⟩
  refine ⟨fun hword => carries_of_asks hpath hholds (asks_value k hword) hset hfits,
    carries_of_asks hpath hholds (asks_divided k value) hset hfits,
    fun h o => value_eq_none_of_dashed h, fun hcenter h => ?_, ?_⟩
  · obtain ⟨x, hread⟩ : ∃ x, readFloat? value = some x :=
      hcenter.elim (fun hk => ⟨_, hlat hk⟩) fun hk => ⟨_, hlng hk⟩
    unfold callConfig run
    rw [read_of_dashed_number hread h]
    rfl
  · rintro (⟨hk, hx⟩ | ⟨hk, hx⟩)
    · exact hdash (hlat hk) hx
    · exact hdash (hlng hk) hx

/-- A file has the default settings. A latitude in the south is set with a divider. -/
theorem config_sets_south :
    let path := "/conf/picker.toml"
    let w := ({} : World).write path default.written
    Holds path default w ∧ default.set "map.center_lat" "-45.5" = .ok southern ∧
      southern.text? = .ok southern.written ∧
      Carries path ["map.center_lat", "--", "-45.5"] .centerLat southern w := by
  intro path w
  have hholds : Holds path default w := holds_write isFilePath_conf good_default fits_default {} ""
  exact ⟨hholds, set_south, text?_southern,
    (config_sets isFilePath_conf hholds (k := .centerLat) set_south text?_southern).2.1⟩

/-- A file has the default settings. A latitude in the south is accepted and can be written, but the
key and this latitude are not understood, and nothing is set. -/
theorem config_refuses_south :
    let path := "/conf/picker.toml"
    let w := ({} : World).write path default.written
    Holds path default w ∧ default.set "map.center_lat" "-45.5" = .ok southern ∧
      southern.text? = .ok southern.written ∧
      callConfig path ["map.center_lat", "-45.5"] w = (.unclear, w) := by
  intro path w
  have hholds : Holds path default w := holds_write isFilePath_conf good_default fits_default {} ""
  have hread := read_of_dashed_number (k := .centerLat) readFloat?_south ⟨'4', _, rfl⟩
  refine ⟨hholds, set_south, text?_southern, ?_⟩
  unfold callConfig run
  rw [show ["map.center_lat", "-45.5"] = [Key.centerLat.name, "-45.5"] from rfl, hread]
  rfl

end Waymark.Program
