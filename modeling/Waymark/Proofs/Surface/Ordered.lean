import Mathlib.Algebra.Ring.Nat
import Waymark.Proofs.Surface.Standing
import Waymark.Surface.Ordered

/-!
# Ordered maps as lists

Layers in ordered maps are listed in the order of their numbers (`OrderedLayers.listed`). This is
the order in which they were added as long as every new number is above all those in the maps, and
it is, since the counter only grows: a new layer comes to the end of the list
(`toList_insert_last`), and one that goes leaves the others where they are (`toList_erase`). So each
operation does to the lists what it does to the maps (`listed_perform`), until the counter has run
through its 64 bits.
-/

namespace Waymark

section Maps

variable {κ α : Type} [Ord κ] [Std.TransOrd κ] [Std.LawfulEqOrd κ] {m : Std.ExtTreeMap κ α}

/-- A list in the order of its keys lists a map if it has the entries of the map. -/
theorem toList_eq_of_mem_iff {l : List (κ × α)}
    (hordered : l.Pairwise fun e e' => compare e.1 e'.1 = .lt)
    (hmem : ∀ key value, (key, value) ∈ l ↔ m[key]? = some value) : m.toList = l := by
  have hantisymm : Std.Antisymm fun e e' : κ × α => compare e.1 e'.1 = .lt :=
    ⟨fun e e' h h' => absurd h' (Std.OrientedCmp.not_lt_of_lt h)⟩
  have hirrefl : Std.Irrefl fun e e' : κ × α => compare e.1 e'.1 = .lt :=
    ⟨fun e h => by simp at h⟩
  refine List.Pairwise.eq_of_mem_iff m.ordered_keys_toList hordered fun e => ?_
  rw [hmem e.1 e.2]
  exact Std.ExtTreeMap.mem_toList_iff_getElem?_eq_some

/-- What is inserted under a key above all others comes last. -/
theorem toList_insert_last {key : κ} (h : ∀ e ∈ m.toList, compare e.1 key = .lt) (value : α) :
    (m.insert key value).toList = m.toList ++ [(key, value)] := by
  apply toList_eq_of_mem_iff
  · refine List.pairwise_append.2 ⟨m.ordered_keys_toList, List.pairwise_singleton _ _, ?_⟩
    intro e he e' he'
    rw [List.mem_singleton.1 he']
    exact h e he
  · intro key' value'
    rw [List.mem_append, List.mem_singleton, Std.ExtTreeMap.mem_toList_iff_getElem?_eq_some,
      Std.ExtTreeMap.getElem?_insert]
    by_cases hkey : key = key'
    · subst hkey
      -- Nothing was there under the key.
      have hnone : m[key]? ≠ some value' := fun hsome => by
        have hlt := h _ (Std.ExtTreeMap.mem_toList_iff_getElem?_eq_some.2 hsome)
        simp at hlt
      simp [hnone, eq_comm]
    · simp [hkey, Ne.symm hkey]

/-- What is erased leaves the others in their order. -/
theorem toList_erase [DecidableEq κ] (key : κ) :
    (m.erase key).toList = m.toList.filter fun e => e.1 != key := by
  apply toList_eq_of_mem_iff (m.ordered_keys_toList.filter _)
  intro key' value
  rw [List.mem_filter, Std.ExtTreeMap.mem_toList_iff_getElem?_eq_some,
    Std.ExtTreeMap.getElem?_erase]
  by_cases hkey : key = key'
  · simp [hkey]
  · simp [hkey, Ne.symm hkey]

/-- Nothing changes if there is nothing to be erased. -/
theorem erase_of_none {key : κ} (h : m[key]? = none) : m.erase key = m := by
  apply Std.ExtTreeMap.ext_getElem?
  intro key'
  rw [Std.ExtTreeMap.getElem?_erase]
  by_cases hkey : key = key'
  · simp [← hkey, h]
  · simp [hkey]

/-- What is found under a key is what the list of the map has for it. -/
theorem getElem?_eq_find?_toList [DecidableEq κ] (m : Std.ExtTreeMap κ α) (key : κ) :
    m[key]? = (m.toList.find? fun e => e.1 == key).map (·.2) := by
  have hdistinct : m.toList.Pairwise fun e e' => e.1 ≠ e'.1 :=
    m.distinct_keys_toList.imp fun hne heq => hne (Std.LawfulEqOrd.compare_eq_iff_eq.2 heq)
  apply Option.ext
  intro value
  rw [find?_eq_some_iff_mem hdistinct, Std.ExtTreeMap.mem_toList_iff_getElem?_eq_some]

end Maps

namespace OrderedLayers

open Surface

/-- The layers in the order of their numbers. -/
def listed (s : OrderedLayers) : Layers where
  markers := s.markers.toList
  lines := s.lines.toList
  view := s.view
  issued := s.issued.toNat

/-- The next number is one more, if there is one. -/
theorem toNat_issued_succ {s : OrderedLayers} (hroom : s.issued.toNat + 1 < 2 ^ 64) :
    (s.issued + 1).toNat = s.issued.toNat + 1 := by
  rw [UInt64.toNat_add]
  exact Nat.mod_eq_of_lt hroom

/-- A new marker comes to the end of the list, if no number is above that of the last layer. -/
theorem listed_addMarker {s : OrderedLayers}
    (hle : ∀ e ∈ s.markers.toList, e.1.id ≤ s.issued.toNat) (hroom : s.issued.toNat + 1 < 2 ^ 64)
    (point : Point) (label : String) :
    ((addMarker point label s).1, (addMarker point label s).2.listed) =
      Layers.addMarker point label s.listed := by
  have hlast : ∀ e ∈ s.markers.toList,
      compare e.1 (⟨s.issued.toNat + 1⟩ : MarkerHandle) = .lt := by
    intro e he
    exact Nat.compare_eq_lt.2 (Nat.lt_succ_of_le (hle e he))
  unfold addMarker Layers.addMarker listed
  simp only [toNat_issued_succ hroom]
  rw [toList_insert_last hlast]

/-- A new line comes to the end of the list, if no number is above that of the last layer. -/
theorem listed_addLine {s : OrderedLayers}
    (hle : ∀ e ∈ s.lines.toList, e.1.id ≤ s.issued.toNat) (hroom : s.issued.toNat + 1 < 2 ^ 64)
    (points : List Point) (style : LineStyle) (label : String) :
    ((addLine points style label s).1, (addLine points style label s).2.listed) =
      Layers.addLine points style label s.listed := by
  have hlast : ∀ e ∈ s.lines.toList, compare e.1 (⟨s.issued.toNat + 1⟩ : LineHandle) = .lt := by
    intro e he
    exact Nat.compare_eq_lt.2 (Nat.lt_succ_of_le (hle e he))
  unfold addLine Layers.addLine listed
  simp only [toNat_issued_succ hroom]
  rw [toList_insert_last hlast]

/-- A marker that goes leaves the others in the list. -/
theorem listed_removeMarker (s : OrderedLayers) (handle : MarkerHandle) :
    (removeMarker handle s).listed = Layers.removeMarker handle s.listed := by
  unfold removeMarker Layers.removeMarker listed
  rw [toList_erase]

/-- A line that goes leaves the others in the list. -/
theorem listed_removeLine (s : OrderedLayers) (handle : LineHandle) :
    (removeLine handle s).listed = Layers.removeLine handle s.listed := by
  unfold removeLine Layers.removeLine listed
  rw [toList_erase]

/-- The layers of a recorded surface in the order of their numbers. -/
def listedCalls (r : Recorded OrderedLayers) : Recorded Layers := ⟨r.surface.listed, r.calls⟩

/-- An operation does to the lists what it does to the maps, if there is a number left for what it
adds. -/
theorem listed_perform {r : Recorded OrderedLayers} (h : Accounted r.surface.listed r.calls)
    (operation : Operation)
    (hroom : operation.adds = true → r.surface.issued.toNat + 1 < 2 ^ 64) :
    listedCalls (perform r operation) = perform (listedCalls r) operation := by
  -- The calls are the same as well, since they have the same handles in them.
  have hadded {κ : Type} {x : κ × OrderedLayers} {y : κ × Layers} (heq : (x.1, x.2.listed) = y)
      (call : κ → Call) : (⟨x.2.listed, r.calls ++ [call x.1]⟩ : Recorded Layers) =
        ⟨y.2, r.calls ++ [call y.1]⟩ := by
    rw [← heq]
  have hremoved {s t : Layers} (heq : s = t) (call : Call) :
      (⟨s, r.calls ++ [call]⟩ : Recorded Layers) = ⟨t, r.calls ++ [call]⟩ := by
    rw [heq]
  cases operation with
  | addMarker point label =>
    exact hadded (listed_addMarker h.markers_numbers.2 (hroom rfl) point label)
      fun handle => .addMarker handle point label
  | removeMarker handle => exact hremoved (listed_removeMarker r.surface handle) _
  | addLine points style label =>
    exact hadded (listed_addLine h.lines_numbers.2 (hroom rfl) points style label)
      fun handle => .addLine handle points style label
  | removeLine handle => exact hremoved (listed_removeLine r.surface handle) _
  | centerOn point zoom => rfl

/-- Operations do to the lists what they do to the maps, if there are numbers left for what they
add. -/
theorem listed_performAll {r : Recorded OrderedLayers} (h : Accounted r.surface.listed r.calls)
    (operations : List Operation)
    (hroom : r.surface.issued.toNat + operations.countP Operation.adds < 2 ^ 64) :
    listedCalls (performAll r operations) = performAll (listedCalls r) operations := by
  -- By the account so far, no number in the maps is above the counter when the next one is taken.
  induction operations generalizing r with
  | nil => rfl
  | cons operation rest ih =>
    rw [List.countP_cons] at hroom
    have hstep : listedCalls (perform r operation) = perform (listedCalls r) operation := by
      refine listed_perform h operation fun hadds => ?_
      rw [if_pos hadds] at hroom
      omega
    have hissued : (perform r operation).surface.issued.toNat =
        r.surface.issued.toNat + if operation.adds then 1 else 0 :=
      (congrArg (fun r => r.surface.issued) hstep).trans (issued_perform (listedCalls r) operation)
    have haccounted :
        Accounted (perform r operation).surface.listed (perform r operation).calls := by
      have hnext := Accounted.perform (r := listedCalls r) h operation
      rw [← hstep] at hnext
      exact hnext
    calc listedCalls (performAll (perform r operation) rest)
        = performAll (listedCalls (perform r operation)) rest := ih haccounted (by omega)
      _ = performAll (perform (listedCalls r) operation) rest := by rw [hstep]

/-- What layers in ordered maps tell. -/
def contents (s : OrderedLayers) : Contents where
  markers := s.markerLayers
  lines := s.lineLayers
  marker? handle := s.marker? handle
  line? handle := s.line? handle
  markerCount := s.markers.size
  lineCount := s.lines.size
  view := s.view

/-- Layers in ordered maps tell what their lists do. -/
theorem contents_eq_listed (s : OrderedLayers) : s.contents = s.listed.contents := by
  have hmarker : s.contents.marker? = s.listed.contents.marker? :=
    funext fun handle => getElem?_eq_find?_toList s.markers handle
  have hline : s.contents.line? = s.listed.contents.line? :=
    funext fun handle => getElem?_eq_find?_toList s.lines handle
  exact Contents.ext rfl rfl hmarker hline Std.ExtTreeMap.length_toList.symm
    Std.ExtTreeMap.length_toList.symm rfl

/-- A surface is asked for any operations, fewer than `2 ^ 64` of which add a layer. What is added
gets the numbers one, two, three and so on, markers and lines together, so that no number is given
twice. Then the markers and the lines are listed that were added and not removed by a later
operation, in the order in which they were added, and their handles find these and no others. There
are as many as are listed, and the view is the last that was set. A handle that finds nothing
removes nothing. The layers are the same in two maps that are ordered by the numbers and in lists
that grow at the end. -/
theorem contents_leftBy (operations : List Operation)
    (hfew : operations.countP Operation.adds < 2 ^ 64) :
    let ordered := performAll (⟨OrderedLayers.empty, []⟩ : Recorded OrderedLayers) operations
    let listed := performAll (⟨Layers.empty, []⟩ : Recorded Layers) operations
    let calls := ordered.calls
    (calls.map Call.operation = operations ∧
      Call.numbers calls = List.range' 1 (operations.countP Operation.adds)) ∧
    ordered.surface.contents.LeftBy calls ∧
    (listed.calls = calls ∧ listed.surface.contents = ordered.surface.contents) ∧
    (∀ handle, ordered.surface.marker? handle = none →
      removeMarker handle ordered.surface = ordered.surface ∧
        Surface.removeMarker handle listed.surface = listed.surface) ∧
    ∀ handle, ordered.surface.line? handle = none →
      removeLine handle ordered.surface = ordered.surface ∧
        Surface.removeLine handle listed.surface = listed.surface := by
  intro ordered listed calls
  have hroom : OrderedLayers.empty.issued.toNat + operations.countP Operation.adds < 2 ^ 64 :=
    (Nat.zero_add _).symm ▸ hfew
  have hlisted : listedCalls ordered = listed :=
    listed_performAll (r := ⟨OrderedLayers.empty, []⟩) Accounted.empty operations hroom
  -- What the lists tell is accounted for by the calls, and the maps tell the same.
  have hcalls : listed.calls = calls := congrArg Recorded.calls hlisted.symm
  have hsurface : ordered.surface.listed = listed.surface := congrArg Recorded.surface hlisted
  have haccounted : Accounted listed.surface calls := by
    rw [← hcalls]
    exact Accounted.empty.performAll (r := ⟨Layers.empty, []⟩) operations
  have hissued : listed.surface.issued = operations.countP Operation.adds :=
    (issued_performAll ⟨Layers.empty, []⟩ operations).trans (Nat.zero_add _)
  have hcontents : ordered.surface.contents = listed.surface.contents := by
    rw [contents_eq_listed, hsurface]
  refine ⟨⟨map_operation_performAll _ operations, ?_⟩, ?_, ⟨hcalls, hcontents.symm⟩,
    fun handle hnone => ⟨?_, ?_⟩, fun handle hnone => ⟨?_, ?_⟩⟩
  · rw [haccounted.numbers, hissued]
  · rw [hcontents]
    exact haccounted.leftBy
  · exact congrArg (fun markers => { ordered.surface with markers }) (erase_of_none hnone)
  · refine Layers.removeMarker_of_none ?_
    exact (congrFun (congrArg Contents.marker? hcontents) handle).symm.trans hnone
  · exact congrArg (fun lines => { ordered.surface with lines }) (erase_of_none hnone)
  · refine Layers.removeLine_of_none ?_
    exact (congrFun (congrArg Contents.line? hcontents) handle).symm.trans hnone

/-- Two markers and a line, each of which is also asked for with the number of another layer. The
line goes once, and the marker that comes after it does not take its number. -/
theorem contents_leftBy_removals :
    let operations : List Operation := [.addMarker ⟨48.0, 9.0⟩ "a", .removeMarker ⟨2⟩,
      .addLine [⟨48.0, 9.0⟩] ⟨"#000000", 5, 0.5⟩ "b", .removeMarker ⟨2⟩, .removeLine ⟨1⟩,
      .removeLine ⟨2⟩, .centerOn ⟨48.0, 9.0⟩ 3, .removeLine ⟨2⟩, .addMarker ⟨47.0, 8.0⟩ "c",
      .centerOn ⟨47.0, 8.0⟩ 5]
    let ordered := performAll (⟨OrderedLayers.empty, []⟩ : Recorded OrderedLayers) operations
    operations.countP Operation.adds < 2 ^ 64 ∧
    Call.numbers ordered.calls = [1, 2, 3] ∧
    ordered.surface.markerLayers = [⟨⟨48.0, 9.0⟩, "a"⟩, ⟨⟨47.0, 8.0⟩, "c"⟩] ∧
    ordered.surface.lineLayers = [] ∧
    ordered.surface.marker? ⟨3⟩ = some ⟨⟨47.0, 8.0⟩, "c"⟩ ∧ ordered.surface.line? ⟨2⟩ = none ∧
    removeLine ⟨2⟩ ordered.surface = ordered.surface ∧
    ordered.surface.markers.size = 2 ∧ ordered.surface.view = some ⟨⟨47.0, 8.0⟩, 5⟩ := by
  intro operations ordered
  have hfew : operations.countP Operation.adds < 2 ^ 64 := by decide
  obtain ⟨⟨-, hnumbers⟩, -, ⟨-, hcontents⟩, -, hline⟩ := contents_leftBy operations hfew
  -- The lists are computed, and the maps have the same in them.
  have hmarkers : ordered.surface.markerLayers = [⟨⟨48.0, 9.0⟩, "a"⟩, ⟨⟨47.0, 8.0⟩, "c"⟩] :=
    (congrArg Contents.markers hcontents).symm
  have hlines : ordered.surface.lineLayers = [] := (congrArg Contents.lines hcontents).symm
  have hnone : ordered.surface.line? ⟨2⟩ = none :=
    (congrFun (congrArg Contents.line? hcontents) ⟨2⟩).symm
  exact ⟨hfew, hnumbers, hmarkers, hlines,
    (congrFun (congrArg Contents.marker? hcontents) ⟨3⟩).symm, hnone, (hline ⟨2⟩ hnone).1,
    (congrArg Contents.markerCount hcontents).symm, (congrArg Contents.view hcontents).symm⟩

end OrderedLayers

end Waymark
