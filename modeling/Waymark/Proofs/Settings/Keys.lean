import Mathlib.Data.List.Basic
import Waymark.Proofs.Decimal.Typed
import Waymark.Proofs.Settings.Changed
import Waymark.Proofs.Settings.Stored
import Waymark.Url.Host

/-!
# Settings as a record

By their keys, settings are a record of thirteen values that do not depend on each other. What is
put for a key is put in the same way into any settings (`put_eq_copy`), and copying the values of
different keys can be done in any order (`copy_comm`). The check looks at one value at a time, so
whether a value is accepted for a key does not depend on the settings either, as long as they are
good (`set_copy`). What is got for a key is accepted for it and changes nothing (`set_get`), and
what is got after a change is the text of what was read (`get_put`).
-/

namespace Waymark

namespace Url

/-- Splitting at a character is what the library's function for it does. -/
theorem splitOn_eq (c : Char) (cs : List Char) : splitOn (· == c) cs = cs.splitOn c := by
  induction cs with
  | nil => rfl
  | cons d rest ih =>
    rw [splitOn, ih, List.splitOn, List.splitOn, List.splitOnP_cons_eq_if_modifyHead]
    split
    · rfl
    · -- There always is a first part.
      rcases hrest : List.splitOnP (· == c) rest with _ | ⟨first, more⟩
      · exact absurd hrest (List.splitOnP_ne_nil _ _)
      · rfl

end Url

namespace Key

open Decimal

/-- The parts of a full name, between its dots. -/
def parts (text : String) : List String := (Url.splitOn (· == '.') text.toList).map String.ofList

/-- A key is known by its full name. -/
theorem ofName?_eq_some_iff {text : String} {k : Key} : ofName? text = some k ↔ k.name = text := by
  constructor
  · intro h
    have hname := List.find?_some h
    exact eq_of_beq hname
  · rintro rfl
    exact Settings.ofName?_name k

/-- The full names are those of which a key is known. -/
theorem mem_names_iff {text : String} :
    text ∈ all.map name ↔ ∃ k, ofName? text = some k := by
  have hall : ∀ k : Key, k ∈ all := by
    intro k
    cases k <;> decide
  rw [List.mem_map]
  constructor
  · rintro ⟨k, -, hk⟩
    exact ⟨k, ofName?_eq_some_iff.2 hk⟩
  · rintro ⟨k, hk⟩
    exact ⟨k, hall k, ofName?_eq_some_iff.1 hk⟩

/-- A full name is that of a key if its parts are the names of the section and of the key in it. -/
theorem ofName?_iff_parts {text : String} {k : Key} :
    ofName? text = some k ↔ parts text = [k.area.name, k.entry] := by
  rw [ofName?_eq_some_iff]
  constructor
  · rintro rfl
    cases k <;> decide
  · -- With the dots between them again, the parts are the full name.
    intro h
    have hlists : Url.splitOn (· == '.') text.toList = [k.area.name.toList, k.entry.toList] := by
      have hback := congrArg (List.map String.toList) h
      rw [parts, List.map_map] at hback
      simpa [Function.comp_def] using hback
    have hjoin := @List.intercalate_splitOn _ text.toList _ _ '.'
    rw [← Url.splitOn_eq, hlists] at hjoin
    rw [← String.toList_inj, ← hjoin]
    simp [name, List.intercalate]

/-- The text in which the value is written that a text gives for a key, if it gives one. The four
keys of free text have the text itself. -/
def canonical? (k : Key) (text : String) : Option String :=
  match k with
  | .baseUrl | .closestPath | .routePath | .color => some text
  | .timeoutMs => (readBelow? (1 <<< 64) text).map natText
  | .initialZoom | .focusZoom => (readBelow? (1 <<< 8) text).map natText
  | .weight => (readBelow? (1 <<< 32) text).map natText
  | .centerLat | .centerLng | .opacity => (readFloat? text).map floatText
  | .firstRole => (Role.parse? text).map Role.name
  | .validation => (Rule.parse? text).map Rule.name

end Key

namespace Settings

open Decimal

/-! ### Copying the value of a key -/

/-- Only the value of the key counts in what is copied. -/
theorem copy_copy (s t u : Settings) (k : Key) : (s.copy t k).copy u k = s.copy u k := by
  cases k <;> rfl

/-- The values of two keys can be copied in any order. -/
theorem copy_comm (s t u : Settings) {j k : Key} (h : j ≠ k) :
    s.copy (t.copy u j) k = t.copy (s.copy u k) j := by
  cases j <;> cases k <;> first | rfl | exact absurd rfl h

/-- A value that is copied from good settings to good settings leaves them good. -/
theorem Good.copy {s t : Settings} (hs : s.Good) (ht : t.Good) (k : Key) : (s.copy t k).Good := by
  have hmix := copy_mix s t (fun _ => false) k
  rw [mix_false] at hmix
  rw [hmix]
  exact hs.mix ht _

/-! ### Putting a value for a key -/

/-- What is put for a key into some settings is copied there from the default ones. -/
theorem put_eq_copy (s : Settings) (k : Key) (text : String) :
    s.put k text = (default.put k text).map fun t => t.copy s k := by
  have hmap {α : Type} {x : Except SettingsFault α} {f f' : α → Settings} {g : Settings → Settings}
      (h : ∀ a, f' a = g (f a)) : x.map f' = (x.map f).map g := by
    rcases x with fault | a
    · rfl
    · exact congrArg Except.ok (h a)
  unfold put
  cases k with
  | baseUrl | closestPath | routePath | color => rfl
  | timeoutMs | centerLat | centerLng | initialZoom | focusZoom | weight | opacity =>
    exact hmap fun _ => rfl
  | firstRole | validation =>
    dsimp only
    split
    · rfl
    · rfl

/-- What was put into some settings is put into others by copying it. -/
theorem put_of_put {s s' : Settings} {k : Key} {text : String} (h : s.put k text = .ok s')
    (t : Settings) : t.put k text = .ok (s'.copy t k) := by
  rw [put_eq_copy] at h
  rw [put_eq_copy]
  rcases hdefault : default.put k text with _ | u
  · rw [hdefault] at h
    cases h
  · rw [hdefault] at h
    obtain rfl : u.copy s k = s' := Except.ok.inj h
    rw [copy_copy]
    rfl

/-- A number is read for a key as its type demands. -/
theorem readNat_eq_ok {key : Key} {bound n : Nat} {text : String}
    (h : readNat key bound text = .ok n) : readBelow? bound text = some n ∧ n < bound := by
  have hbelow {m : Nat} (hread : readBelow? bound text = some m) : m < bound := by
    unfold readBelow? at hread
    dsimp only at hread
    split at hread
    · split at hread
      case isTrue hlt =>
        obtain rfl := Option.some.inj hread
        exact hlt
      case isFalse => cases hread
    · cases hread
  unfold readNat at h
  rcases hread : readBelow? bound text with _ | m
  · rw [hread] at h
    cases h
  · rw [hread] at h
    obtain rfl := Except.ok.inj h
    exact ⟨rfl, hbelow hread⟩

/-- After a value was put for a key, the key has the text of what was read. -/
theorem get_put {s s' : Settings} {k : Key} {text : String} (h : s.put k text = .ok s') :
    k.canonical? text = some (s'.get k) := by
  have hnat {bound : Nat} {f : Nat → Settings} (h : (readNat k bound text).map f = .ok s') :
      ∃ n, readBelow? bound text = some n ∧ n < bound ∧ f n = s' := by
    rcases hread : readNat k bound text with _ | n
    · rw [hread] at h
      cases h
    · rw [hread] at h
      obtain ⟨hbelow, hlt⟩ := readNat_eq_ok hread
      exact ⟨n, hbelow, hlt, Except.ok.inj h⟩
  have hfloat {f : Float → Settings} (h : (readFloat k text).map f = .ok s') :
      ∃ x, readFloat? text = some x ∧ f x = s' := by
    unfold readFloat at h
    rcases hread : readFloat? text with _ | x
    · rw [hread] at h
      cases h
    · rw [hread] at h
      exact ⟨x, rfl, Except.ok.inj h⟩
  cases k with
  | baseUrl | closestPath | routePath | color =>
    cases h
    rfl
  | timeoutMs =>
    obtain ⟨n, hread, hlt, rfl⟩ := hnat h
    have hsame : (UInt64.ofNat n).toNat = n := UInt64.toNat_ofNat_of_lt' hlt
    rw [Key.canonical?, hread, get, hsame]
    rfl
  | initialZoom | focusZoom =>
    obtain ⟨n, hread, hlt, rfl⟩ := hnat h
    have hsame : (UInt8.ofNat n).toNat = n := UInt8.toNat_ofNat_of_lt' hlt
    rw [Key.canonical?, hread, get, hsame]
    rfl
  | weight =>
    obtain ⟨n, hread, hlt, rfl⟩ := hnat h
    have hsame : (UInt32.ofNat n).toNat = n := UInt32.toNat_ofNat_of_lt' hlt
    rw [Key.canonical?, hread, get, hsame]
    rfl
  | centerLat | centerLng | opacity =>
    obtain ⟨x, hread, rfl⟩ := hfloat h
    rw [Key.canonical?, hread]
    rfl
  | firstRole | validation =>
    unfold put at h
    dsimp only at h
    split at h
    case h_1 value hread =>
      cases h
      rw [Key.canonical?, hread]
      rfl
    case h_2 => cases h

/-- What good settings have for a key can be put there, and changes nothing. -/
theorem put_get {s : Settings} (h : s.Good) (k : Key) : s.put k (s.get k) = .ok s := by
  have hnat {key : Key} {n bound : Nat} (hlt : n < bound) :
      readNat key bound (natText n) = .ok n := by
    rw [readNat, readBelow?_natText hlt]
  have hfloat {key : Key} {x : Float} (hx : x.isFinite = true) :
      readFloat key (floatText x) = .ok x := by
    rw [readFloat, readFloat?_floatText hx]
  cases k with
  | baseUrl | closestPath | routePath | color => rfl
  | timeoutMs =>
    have hlt : s.timeoutMs.toNat < 1 <<< 64 := s.timeoutMs.toNat_lt
    rw [put, get, hnat hlt, Except.map, UInt64.ofNat_toNat]
  | initialZoom =>
    have hlt : s.initialZoom.toNat < 1 <<< 8 := s.initialZoom.toNat_lt
    rw [put, get, hnat hlt, Except.map, UInt8.ofNat_toNat]
  | focusZoom =>
    have hlt : s.focusZoom.toNat < 1 <<< 8 := s.focusZoom.toNat_lt
    rw [put, get, hnat hlt, Except.map, UInt8.ofNat_toNat]
  | weight =>
    have hlt : s.weight.toNat < 1 <<< 32 := s.weight.toNat_lt
    rw [put, get, hnat hlt, Except.map, UInt32.ofNat_toNat]
  | centerLat =>
    have hfinite : s.centerLat.isFinite = true := h.center.lat.finite
    rw [put, get, hfloat hfinite, Except.map]
  | centerLng =>
    have hfinite : s.centerLng.isFinite = true := h.center.lng.finite
    rw [put, get, hfloat hfinite, Except.map]
  | opacity => rw [put, get, hfloat h.opacity_finite, Except.map]
  | firstRole =>
    have hrole : Role.parse? s.firstRole.name = some s.firstRole := by
      rcases s.firstRole with _ | _
      · decide
      · decide
    rw [put, get, hrole]
  | validation =>
    have hrule : Rule.parse? s.validation.name = some s.validation := by
      rcases s.validation with _ | _
      · decide
      · decide
    rw [put, get, hrule]

/-! ### Setting a value for a key -/

/-- A value that cannot be put for a key is not one of another key. -/
theorem put_ne_unknownKey (s : Settings) (k : Key) (text other : String) :
    s.put k text ≠ .error (.unknownKey other) := by
  have hmap {α : Type} {x : Except SettingsFault α} {f : α → Settings}
      (h : x ≠ .error (.unknownKey other)) : x.map f ≠ .error (.unknownKey other) := by
    rcases x with fault | a
    · intro heq
      exact h (congrArg Except.error (Except.error.inj heq))
    · nofun
  have hnat (bound : Nat) : readNat k bound text ≠ .error (.unknownKey other) := by
    unfold readNat
    split <;> nofun
  have hfloat : readFloat k text ≠ .error (.unknownKey other) := by
    unfold readFloat
    split <;> nofun
  unfold put
  cases k with
  | baseUrl | closestPath | routePath | color => nofun
  | timeoutMs | initialZoom | focusZoom | weight => exact hmap (hnat _)
  | centerLat | centerLng | opacity => exact hmap hfloat
  | firstRole | validation =>
    dsimp only
    split <;> nofun

/-- The check knows nothing of keys that there are not. -/
theorem check_ne_unknownKey (s : Settings) (other : String) :
    s.check ≠ .error (.unknownKey other) := by
  unfold check
  intro h
  repeat' split at h
  all_goals cases h

/-- A key is reported as unknown if there is none of that name. -/
theorem set_eq_unknownKey_iff {s : Settings} {key text other : String} :
    s.set key text = .error (.unknownKey other) ↔ Key.ofName? key = none ∧ other = key := by
  unfold set
  rcases hkey : Key.ofName? key with _ | k
  · simp [eq_comm]
  · rcases hput : s.put k text with fault | t
    · have hne := put_ne_unknownKey s k text other
      rw [hput] at hne
      simpa [hput, bind, Except.bind] using fun heq => hne (congrArg Except.error heq)
    · rcases hcheck : t.check with fault | _
      · have hne := check_ne_unknownKey t other
        rw [hcheck] at hne
        simpa [hput, hcheck, bind, Except.bind] using fun heq => hne (congrArg Except.error heq)
      · simp [hput, hcheck, bind, Except.bind, pure, Except.pure]

/-- Whatever was accepted for a key with some settings is accepted with other good ones too. -/
theorem set_copy {s s' t : Settings} {key text : String} (h : s.set key text = .ok s')
    (ht : t.Good) : ∃ k, Key.ofName? key = some k ∧ t.set key text = .ok (s'.copy t k) := by
  obtain ⟨k, hkey, hput, hgood⟩ := set_eq_ok_iff.1 h
  exact ⟨k, hkey, set_eq_ok_iff.2 ⟨k, hkey, put_of_put hput t, hgood.copy ht k⟩⟩

/-- Good settings accept the same values for the same keys. -/
theorem accepts_iff {s t : Settings} (hs : s.Good) (ht : t.Good) (key text : String) :
    (∃ s', s.set key text = .ok s') ↔ ∃ t', t.set key text = .ok t' := by
  constructor
  · rintro ⟨s', h⟩
    obtain ⟨k, -, hset⟩ := set_copy h ht
    exact ⟨_, hset⟩
  · rintro ⟨t', h⟩
    obtain ⟨k, -, hset⟩ := set_copy h hs
    exact ⟨_, hset⟩

/-- Setting what good settings have for a key changes nothing. -/
theorem set_get {s : Settings} (h : s.Good) {key text : String} (hget : s.get? key = some text) :
    s.set key text = .ok s := by
  obtain ⟨k, hkey, rfl⟩ := Option.map_eq_some_iff.1 hget
  exact set_eq_ok_iff.2 ⟨k, hkey, put_get h k, h⟩

/-- A change that is accepted comes before the others. -/
theorem setAll_cons_of_ok {s s' : Settings} {key text : String} (h : s.set key text = .ok s')
    (rest : List (String × String)) : s.setAll ((key, text) :: rest) = s'.setAll rest := by
  rw [setAll, h]
  rfl

/-- A change that is refused is left out. -/
theorem setAll_cons_of_not {s : Settings} {key text : String}
    (h : ¬ ∃ s', s.set key text = .ok s') (rest : List (String × String)) :
    s.setAll ((key, text) :: rest) = s.setAll rest := by
  rw [setAll]
  rcases hset : s.set key text with fault | s'
  · rfl
  · exact absurd ⟨s', hset⟩ h

/-- Changes of different keys can be made in any order. -/
theorem setAll_swap {s : Settings} (h : s.Good) {key key' : String} (hne : key ≠ key')
    (text text' : String) :
    s.setAll [(key, text), (key', text')] = s.setAll [(key', text'), (key, text)] := by
  have hgood {key text : String} {t : Settings} (ht : s.set key text = .ok t) : t.Good := by
    obtain ⟨-, -, -, hgood⟩ := set_eq_ok_iff.1 ht
    exact hgood
  by_cases hfirst : ∃ t, s.set key text = .ok t
  · obtain ⟨t, ht⟩ := hfirst
    rw [setAll_cons_of_ok ht]
    by_cases hsecond : ∃ u, s.set key' text' = .ok u
    · obtain ⟨u, hu⟩ := hsecond
      obtain ⟨k, hkey, hset⟩ := set_copy ht (hgood hu)
      obtain ⟨k', hkey', hset'⟩ := set_copy hu (hgood ht)
      have hkeys : k' ≠ k := by
        rintro rfl
        exact hne ((Key.ofName?_eq_some_iff.1 hkey).symm.trans (Key.ofName?_eq_some_iff.1 hkey'))
      -- Both have the value of the one key from the one change, and that of the other from the other.
      have hself : t.copy s k = t := by
        obtain ⟨j, hj, hcopy⟩ := set_copy ht h
        obtain rfl := Option.some.inj (hkey.symm.trans hj)
        exact Except.ok.inj (hcopy.symm.trans ht)
      have hself' : u.copy s k' = u := by
        obtain ⟨j, hj, hcopy⟩ := set_copy hu h
        obtain rfl := Option.some.inj (hkey'.symm.trans hj)
        exact Except.ok.inj (hcopy.symm.trans hu)
      rw [setAll_cons_of_ok hset', setAll_cons_of_ok hu, setAll_cons_of_ok hset, setAll, setAll]
      calc u.copy t k' = u.copy (t.copy s k) k' := by rw [hself]
        _ = t.copy (u.copy s k') k := copy_comm u t s hkeys.symm
        _ = t.copy u k := by rw [hself']
    · have hlater := mt (accepts_iff h (hgood ht) key' text').2 hsecond
      rw [setAll_cons_of_not hlater, setAll_cons_of_not hsecond, setAll_cons_of_ok ht]
  · rw [setAll_cons_of_not hfirst]
    by_cases hsecond : ∃ u, s.set key' text' = .ok u
    · obtain ⟨u, hu⟩ := hsecond
      have hlater := mt (accepts_iff h (hgood hu) key text).2 hfirst
      rw [setAll_cons_of_ok hu, setAll_cons_of_ok hu, setAll_cons_of_not hlater]
    · rw [setAll_cons_of_not hsecond, setAll_cons_of_not hsecond, setAll_cons_of_not hfirst]

/-- Good settings are a record of independent values, one for each of the names that are listed.
* A name has a value if it is listed, that is, if its parts are those of a key, and every change of any
  other name is refused as unknown.
* After a change the name has the text of what was read, and all others have what they had.
* Setting what a name has changes nothing.
* Whether a value is accepted for a name does not depend on the settings.
* Two changes of different names can be made in any order: each is accepted or not as it is alone, and
  the settings are the same in the end. -/
theorem keys_independent {c : Settings} (hcheck : c.check = .ok ()) :
    (∀ key,
      ((c.get? key).isSome = true ↔ key ∈ Key.all.map Key.name) ∧
      (key ∈ Key.all.map Key.name ↔ ∃ k : Key, Key.parts key = [k.area.name, k.entry]) ∧
      ∀ text other, c.set key text = .error (.unknownKey other) ↔
        key ∉ Key.all.map Key.name ∧ other = key) ∧
    (∀ key text c', c.set key text = .ok c' →
      (∃ k : Key, k.name = key ∧ c'.get? key = k.canonical? text) ∧
      ∀ other, other ≠ key → c'.get? other = c.get? other) ∧
    (∀ key text, c.get? key = some text → c.set key text = .ok c) ∧
    (∀ key text (d : Settings), d.check = .ok () →
      ((∃ c', c.set key text = .ok c') ↔ ∃ d', d.set key text = .ok d')) ∧
    ∀ key key' text text', key ≠ key' →
      c.setAll [(key, text), (key', text')] = c.setAll [(key', text'), (key, text)] ∧
      ((∃ c', c.set key text = .ok c') ↔
        ∃ c', (c.setAll [(key', text')]).set key text = .ok c') := by
  have hgood := check_eq_ok_iff.1 hcheck
  refine ⟨fun key => ⟨?_, ?_, fun text other => ?_⟩, fun key text c' hset => ⟨?_, fun other hother => ?_⟩,
    fun key text => set_get hgood, fun key text d hd => ?_, fun key key' text text' hne => ⟨?_, ?_⟩⟩
  · rw [Key.mem_names_iff, get?, Option.isSome_map, Option.isSome_iff_exists]
  · simp only [Key.mem_names_iff, Key.ofName?_iff_parts]
  · rw [set_eq_unknownKey_iff, Key.mem_names_iff, ← Option.ne_none_iff_exists', not_not]
  · obtain ⟨k, hkey, hput, -⟩ := set_eq_ok_iff.1 hset
    refine ⟨k, Key.ofName?_eq_some_iff.1 hkey, ?_⟩
    rw [get?, hkey, get_put hput]
    rfl
  · obtain ⟨k, hkey, hput, -⟩ := set_eq_ok_iff.1 hset
    unfold get?
    rcases hfound : Key.ofName? other with _ | j
    · rfl
    · -- The other name is that of another key.
      have hne : j ≠ k := by
        rintro rfl
        exact hother ((Key.ofName?_eq_some_iff.1 hfound).symm.trans (Key.ofName?_eq_some_iff.1 hkey))
      exact congrArg some (get_put_ne hput hne)
  · exact accepts_iff hgood (check_eq_ok_iff.1 hd) key text
  · exact setAll_swap hgood hne text text'
  · exact accepts_iff hgood (good_setAll hgood _) key text

/-- The default settings with an opacity of zero that has a sign. What the key has is set without
losing the sign, and after a one with a power of ten was set, the key has a plain one. -/
theorem keys_independent_signed_zero :
    let c : Settings := { default with opacity := -0.0 }
    let c' : Settings := { default with opacity := 1.0 }
    c.check = .ok () ∧ c.get? "route.opacity" = some "-0" ∧ c.set "route.opacity" "-0" = .ok c ∧
      c.set "route.opacity" "1e0" = .ok c' ∧
      c'.get? "route.opacity" = Key.opacity.canonical? "1e0" ∧
      c'.get? "map.center_lat" = c.get? "map.center_lat" := by
  intro c c'
  have hopacity {x : Float} (hlow : 0.0 ≤ x) (hhigh : x ≤ 1.0) :
      ({ default with opacity := x } : Settings).Good :=
    ⟨good_default.address, good_default.time, good_default.center, good_default.initialZoom,
      good_default.focusZoom, hlow, hhigh⟩
  have hcheck : c.check = .ok () := check_eq_ok_iff.2 (hopacity (by decide) (by decide))
  have hget : c.get? "route.opacity" = some "-0" := by decide +kernel
  have hread : readFloat? "1e0" = some c'.opacity := by decide +kernel
  have hset : c.set "route.opacity" "1e0" = .ok c' := by
    refine set_eq_ok_iff.2 ⟨.opacity, by decide, ?_, hopacity (by decide) (by decide)⟩
    rw [put, readFloat, hread]
    rfl
  obtain ⟨-, hafter, hback, -, -⟩ := keys_independent hcheck
  obtain ⟨⟨k, hk, hvalue⟩, hothers⟩ := hafter _ _ _ hset
  obtain rfl : k = .opacity := by
    have hname := Key.ofName?_eq_some_iff.2 hk
    exact Option.some.inj (hname.symm.trans (by decide))
  exact ⟨hcheck, hget, hback _ _ hget, hset, hvalue, hothers _ (by decide)⟩

end Settings

end Waymark
