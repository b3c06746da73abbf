import Waymark.Proofs.Settings.Good
import Waymark.Proofs.Toml.Documents
import Waymark.Settings.Document

/-!
# Settings that are read back

A document with the values of some keys, and with or without the sections that are left empty, is
read as the settings that have these values and the default for every other key
(`read_partial`). With all keys that is what is written for the settings (`ofBytes_written`).

Values are taken from a document one key after the other. What has been taken at any time is a mix of
the written settings and the default ones (`takeAll?_scalars`).
-/

namespace Waymark.Settings

open Toml

/-- Settings whose time for a request fits into an integer of a document. -/
def Fits (s : Settings) : Prop := s.timeoutMs.toNat < 2 ^ 63

instance (s : Settings) : Decidable s.Fits := inferInstanceAs (Decidable (_ < _))

/-- A section of a document with the keys that satisfy `keep`. -/
def partOf (s : Settings) (keep : Key → Bool) (area : Section) : Part :=
  ⟨area.name, ((Key.allIn area).filter keep).map fun k => (k.entry, s.scalar k)⟩

/-- The document of the keys that satisfy `keep`, without those empty sections that satisfy `drop`. -/
def partialDocument (s : Settings) (keep : Key → Bool) (drop : Section → Bool) : Document :=
  (Section.all.filter fun area => !drop area || (Key.allIn area).any keep).map (s.partOf keep)

/-- If no section is dropped, this is the document with all four sections. -/
theorem partialDocument_false (s : Settings) (keep : Key → Bool) :
    s.partialDocument keep (fun _ => false) = s.documentOf keep := by
  simp [partialDocument, documentOf, partOf]

/-- Settings fit if their time is below the bound that the writer has. -/
theorem fits_iff {s : Settings} : s.Fits ↔ s.timeoutMs.toNat < 1 <<< 63 := by
  rw [Nat.shiftLeft_eq, Nat.one_mul]
  exact Iff.rfl

/-- The text with the values of all keys. -/
def written (s : Settings) : String := (s.documentOf fun _ => true).text

/-- Settings that fit are written. -/
theorem text?_of_fits {s : Settings} (h : s.Fits) : s.text? = .ok s.written := by
  have hdocument : s.document? = some (s.documentOf fun _ => true) := if_pos (fits_iff.1 h)
  rw [text?, hdocument, written]

/-- Settings that do not fit are not written. -/
theorem text?_of_not_fits {s : Settings} (h : ¬ s.Fits) : s.text? = .error .unwritable := by
  have hdocument : s.document? = none := if_neg (mt fits_iff.2 h)
  rw [text?, hdocument]

/-! ### The document -/

/-- Every name of a section is one without marks. -/
theorem bare_name (area : Section) : Bare area.name := by
  cases area <;> simp [Bare, isBare, Section.name]

/-- Every name of a key is one without marks. -/
theorem bare_entry (k : Key) : Bare k.entry := by
  cases k <;> simp [Bare, isBare, Key.entry]

/-- The values of good settings that fit can be written. -/
theorem Good.writable {s : Settings} (h : s.Good) (hfits : s.Fits) (k : Key) :
    (s.scalar k).Writable := by
  have hfits : s.timeoutMs.toNat < 2 ^ 63 := hfits
  have hinitial := s.initialZoom.toNat_lt
  have hfocus := s.focusZoom.toNat_lt
  have hweight := s.weight.toNat_lt
  cases k with
  | baseUrl | closestPath | routePath | color | firstRole | validation => trivial
  | timeoutMs | initialZoom | focusZoom | weight => exact ⟨by omega, by omega⟩
  | centerLat => exact h.center.lat.finite
  | centerLng => exact h.center.lng.finite
  | opacity => exact h.opacity_finite

/-- The document of some keys is plain. -/
theorem Good.plain {s : Settings} (h : s.Good) (hfits : s.Fits) (keep : Key → Bool)
    (drop : Section → Bool) : (s.partialDocument keep drop).Plain := by
  constructor
  · intro p hp
    obtain ⟨area, -, rfl⟩ := List.mem_map.1 hp
    have hentries : (((Key.allIn area).filter keep).map Key.entry).Nodup := by
      have hall : ((Key.allIn area).map Key.entry).Nodup := by cases area <;> decide
      exact hall.sublist (List.filter_sublist.map _)
    refine ⟨bare_name area, fun e he => ?_, fun e he => ?_, ?_⟩
    · obtain ⟨k, -, rfl⟩ := List.mem_map.1 he
      exact bare_entry k
    · obtain ⟨k, -, rfl⟩ := List.mem_map.1 he
      exact h.writable hfits k
    · simpa [partOf, Function.comp_def] using hentries
  · have hall : (Section.all.map Section.name).Nodup := by decide
    have hnames (p : Section → Bool) : ((Section.all.filter p).map Section.name).Nodup :=
      hall.sublist (List.filter_sublist.map _)
    simpa [partialDocument, partOf, Function.comp_def] using hnames _

/-! ### Taking values from it -/

/-- The settings with the value of a key from others. -/
def copy (s t : Settings) : Key → Settings
  | .baseUrl => { t with baseUrl := s.baseUrl }
  | .closestPath => { t with closestPath := s.closestPath }
  | .routePath => { t with routePath := s.routePath }
  | .timeoutMs => { t with timeoutMs := s.timeoutMs }
  | .centerLat => { t with centerLat := s.centerLat }
  | .centerLng => { t with centerLng := s.centerLng }
  | .initialZoom => { t with initialZoom := s.initialZoom }
  | .focusZoom => { t with focusZoom := s.focusZoom }
  | .color => { t with color := s.color }
  | .weight => { t with weight := s.weight }
  | .opacity => { t with opacity := s.opacity }
  | .firstRole => { t with firstRole := s.firstRole }
  | .validation => { t with validation := s.validation }

/-- The value of a key of a document is taken as it was written. -/
theorem take?_scalar {s : Settings} (h : s.Fits) (t : Settings) (k : Key) :
    t.take? k (.scalar (s.scalar k)) = some (s.copy t k) := by
  have hnat {n bound : Nat} (h : n < bound) : natOf? bound (.scalar (.integer n)) = some n :=
    if_pos h
  cases k with
  | baseUrl | closestPath | routePath | color | centerLat | centerLng | opacity => rfl
  | timeoutMs =>
    have hread := hnat (fits_iff.1 h)
    rw [take?, scalar, hread, Option.map_some, UInt64.ofNat_toNat]
    rfl
  | initialZoom => simp [take?, scalar, hnat s.initialZoom.toNat_lt, copy]
  | focusZoom => simp [take?, scalar, hnat s.focusZoom.toNat_lt, copy]
  | weight => simp [take?, scalar, hnat s.weight.toNat_lt, copy]
  | firstRole => cases hrole : s.firstRole <;> simp [take?, scalar, copy, hrole] <;> rfl
  | validation => cases hrule : s.validation <;> simp [take?, scalar, copy, hrule] <;> rfl

/-- One more value is taken. -/
theorem copy_mix (s t : Settings) (keep : Key → Bool) (k : Key) :
    s.copy (mix keep s t) k = mix (fun j => keep j || j == k) s t := by
  cases k <;> simp [copy, mix]

/-- The values of some keys are taken one after the other. -/
theorem takeAll?_scalars {s : Settings} (h : s.Fits) (t : Settings) (keep : Key → Bool)
    (ks : List Key) :
    (mix keep s t).takeAll? (ks.map fun k => (k, .scalar (s.scalar k))) =
      some (mix (fun j => keep j || ks.contains j) s t) := by
  -- A key that was taken belongs to those that are kept when the others are taken.
  induction ks generalizing keep with
  | nil => simp [takeAll?]
  | cons k ks ih =>
    have hkeep : (fun j => keep j || (k :: ks).contains j) =
        fun j => (keep j || j == k) || ks.contains j := by
      funext j
      rw [List.contains_cons, Bool.or_assoc]
    rw [List.map_cons, takeAll?, take?_scalar h, Option.bind_eq_bind, Option.bind_some, copy_mix,
      ih, hkeep]

/-- The keys of a section are those that belong to it. -/
theorem mem_allIn {k : Key} {area : Section} : k ∈ Key.allIn area ↔ k.area = area := by
  have hall : k ∈ Key.all := by cases k <;> decide
  simp [Key.allIn, hall]

/-- No two sections have the same name. -/
theorem name_injective : Function.Injective Section.name := by
  intro a b
  cases a <;> cases b <;> decide

/-- No two keys have the same name in their sections. -/
theorem entry_injective : Function.Injective Key.entry := by
  intro j k
  cases j <;> cases k <;> simp [Key.entry]

/-- The value of a key in its section of a document. -/
theorem lookup_partOf (s : Settings) (keep : Key → Bool) {k : Key} {area : Section}
    (hk : k ∈ Key.allIn area) :
    lookup k.entry (s.partOf keep area).table =
      if keep k then some (.scalar (s.scalar k)) else none := by
  have hlookup := lookup_map entry_injective (fun k => .scalar (s.scalar k))
    ((Key.allIn area).filter keep) k
  simpa [Part.table, partOf, Function.comp_def, hk] using hlookup

/-- A section of a document, unless it is dropped. -/
theorem lookup_partialDocument (s : Settings) (keep : Key → Bool) (drop : Section → Bool)
    (area : Section) :
    lookup area.name (s.partialDocument keep drop).table =
      if !drop area || (Key.allIn area).any keep then
        some (.table .header (s.partOf keep area).table) else none := by
  have hall : area ∈ Section.all := by cases area <;> decide
  have hlookup := lookup_map name_injective
    (fun area => .table .header (s.partOf keep area).table)
    (Section.all.filter fun area => !drop area || (Key.allIn area).any keep) area
  simp only [List.mem_filter, hall, true_and] at hlookup
  rw [Document.table, partialDocument, List.map_map]
  exact hlookup

/-- The document has for a section exactly the values of the keys that it keeps there. -/
theorem entriesOf?_table (s : Settings) (keep : Key → Bool) (drop : Section → Bool)
    (area : Section) :
    entriesOf? area (s.partialDocument keep drop).table =
      some (((Key.allIn area).filter keep).map fun k => (k, .scalar (s.scalar k))) := by
  have hvalues : ((Key.allIn area).filterMap fun k =>
      (lookup k.entry (s.partOf keep area).table).map fun v => (k, v)) =
      ((Key.allIn area).filter keep).map fun k => (k, .scalar (s.scalar k)) := by
    rw [← List.filterMap_eq_map, List.filterMap_filter]
    refine List.filterMap_congr fun k hk => ?_
    rw [lookup_partOf s keep hk]
    cases keep k <;> rfl
  rw [entriesOf?, lookup_partialDocument]
  by_cases hthere : (!drop area || (Key.allIn area).any keep) = true
  · rw [if_pos hthere]
    exact congrArg some hvalues
  · -- The section was dropped, so none of its keys was kept.
    have hempty : (Key.allIn area).filter keep = [] := by
      rw [List.filter_eq_nil_iff]
      intro k hk hkeep
      exact hthere (Bool.or_eq_true_iff.2 (.inr (List.any_eq_true.2 ⟨k, hk, hkeep⟩)))
    rw [if_neg hthere, hempty]
    rfl

/-- The keys that are kept of a section. -/
theorem contains_filter_allIn (keep : Key → Bool) (area : Section) (k : Key) :
    ((Key.allIn area).filter keep).contains k = (keep k && k.area == area) := by
  rw [Bool.eq_iff_iff, List.contains_iff_mem, List.mem_filter, mem_allIn]
  simp [and_comm]

/-- The values of some sections are taken one after the other. -/
theorem takeSections?_table {s : Settings} (h : s.Fits) (t : Settings) (keep : Key → Bool)
    (drop : Section → Bool) (done : Key → Bool) (areas : List Section) :
    (mix done s t).takeSections? (s.partialDocument keep drop).table areas =
      some (mix (fun j => done j || (keep j && areas.contains j.area)) s t) := by
  induction areas generalizing done with
  | nil => simp [takeSections?]
  | cons area areas ih =>
    rw [takeSections?, entriesOf?_table, Option.bind_eq_bind, Option.bind_some,
      takeAll?_scalars h, Option.bind_eq_bind, Option.bind_some, ih]
    congr 2
    funext j
    rw [contains_filter_allIn, List.contains_cons]
    cases keep j <;> simp [Bool.or_assoc]

/-- The table of a document with some keys gives the written values for these and the default ones
for all others. -/
theorem ofEntries?_table {s : Settings} (h : s.Fits) (keep : Key → Bool) (drop : Section → Bool) :
    ofEntries? (s.partialDocument keep drop).table = some (mix keep s default) := by
  -- At first nothing is taken, and in the end every section is.
  have htake := takeSections?_table h default keep drop (fun _ => false) Section.all
  rw [mix_false] at htake
  rw [ofEntries?, htake]
  congr 2
  funext j
  cases j <;> simp [Section.all, Key.area]

/-- A document with some keys is read as the settings with the written values for these and the
default ones for all others. -/
theorem read_partial {s : Settings} (hgood : s.Good) (hfits : s.Fits) (keep : Key → Bool)
    (drop : Section → Bool) :
    read (s.partialDocument keep drop).text = .ok (mix keep s default) := by
  rw [read, read?_text (hgood.plain hfits keep drop), Option.bind_some, ofEntries?_table hfits]
  simp only [check_eq_ok_iff.2 (hgood.mix good_default keep)]
  rfl

/-- The bytes of a text are those of a text. -/
theorem fromUTF8?_toUTF8 (text : String) : String.fromUTF8? text.toUTF8 = some text :=
  dif_pos text.isValidUTF8

/-- What is written for settings is read back as these settings. -/
theorem ofBytes_written {s : Settings} (hgood : s.Good) (hfits : s.Fits) :
    ofBytes s.written.toUTF8 = .ok s := by
  have hread := read_partial hgood hfits (fun _ => true) (fun _ => false)
  rw [partialDocument_false, mix_true] at hread
  rw [ofBytes, fromUTF8?_toUTF8, written]
  simp only [hread]

end Waymark.Settings
