import Mathlib.Data.List.Nodup
import Mathlib.Data.List.Perm.Basic
import Waymark.Proofs.Surface.Layers

/-!
# Layers that mirror markers and a route

The truth about a map is held twice: the markers and the route know their handles, and the layers
hold what is on the map under the same handles. `Markers.Mirrored` says that the markers on the
layers are those of the two roles and no others, and `Overlay.layers` are the lines that belong to a
route. The first needs that a handle is not given twice: a marker that is replaced takes the layer of
its own handle with it, and so the other marker must have another one.
-/

namespace Waymark

/-- The layer of a marker, with its handle. -/
def Marker.layer (m : Marker) : MarkerHandle × MarkerLayer :=
  (m.handle, ⟨m.point, Markers.label m.role m.point⟩)

/-- The layers of the route that is shown, with their handles: one line, or none. -/
def Overlay.layers (o : Overlay) : List (LineHandle × LineLayer) :=
  (o.current.map fun shown => (shown.2, ⟨shown.1.path, o.style, label shown.1⟩)).toList

namespace Markers

/-- The markers that are set, that of the source first. -/
def all (ms : Markers) : List Marker := ms.source.toList ++ ms.destination.toList

/-- The markers that are set are those of a role and of the other one. -/
theorem all_perm (ms : Markers) (role : Role) :
    ms.all.Perm ((ms.get role).toList ++ (ms.get role.other).toList) := by
  cases role with
  | source => exact .refl _
  | destination => exact List.perm_append_comm

/-- A marker is set if it is that of a role. -/
theorem mem_all {ms : Markers} {m : Marker} : m ∈ ms.all ↔ ∃ role, ms.get role = some m := by
  unfold all
  rw [List.mem_append, Option.mem_toList, Option.mem_toList]
  constructor
  · rintro (h | h)
    · exact ⟨.source, h⟩
    · exact ⟨.destination, h⟩
  · rintro ⟨role, h⟩
    cases role with
    | source => exact .inl h
    | destination => exact .inr h

/-- The markers that are set are the one that was put for a role and that of the other role. -/
theorem all_put_perm (ms : Markers) (role : Role) (m : Marker) :
    (ms.put role (some m)).all.Perm (m :: (ms.get role.other).toList) := by
  have hother : role.other ≠ role := by cases role <;> decide
  have hall := (ms.put role (some m)).all_perm role
  rw [get_put, get_put_of_ne ms hother] at hall
  exact hall

/-- The removal of both markers leaves the lines and the view. -/
theorem clear_layers (ms : Markers) (s : Layers) :
    (ms.clear s).2.lines = s.lines ∧ (ms.clear s).2.view = s.view := by
  simp [clear, removeFrom_layers]

/-- A marker is on the layers after both are removed only if it was before, and no handle is given
out. -/
theorem clear_sublist (ms : Markers) (s : Layers) :
    (ms.clear s).2.markers.Sublist s.markers ∧ (ms.clear s).2.issued = s.issued := by
  unfold clear
  simp only [removeFrom_layers, and_true]
  exact List.filter_sublist.trans List.filter_sublist

/-- The layers hold the markers of the two roles and no others. -/
structure Mirrored (ms : Markers) (s : Layers) : Prop where
  /-- The markers on the layers are those that are set. -/
  layers : s.markers.Perm (ms.all.map Marker.layer)
  /-- The marker of a role has that role and the number of a node. -/
  role : ∀ role m, ms.get role = some m → m.role = role ∧ m.node.isSome = true
  /-- No two markers have the same handle. -/
  distinct : (ms.all.map Marker.handle).Nodup
  /-- The handles were given out. -/
  issued : ∀ m ∈ ms.all, m.handle.id ≤ s.issued

/-- No markers are mirrored by layers without markers. -/
theorem mirrored_empty {focusZoom : UInt8} {s : Layers} (h : s.markers = []) :
    (empty focusZoom).Mirrored s where
  layers := by
    rw [h]
    exact .nil
  role := by rintro (_ | _) m ⟨⟩
  distinct := List.nodup_nil
  issued := by simp [all, empty]

namespace Mirrored

variable {ms : Markers} {s t : Layers}

/-- Markers are still mirrored when the markers on the layers are the same, though handles may have
been given out. -/
theorem of_markers (h : ms.Mirrored s) (hmarkers : t.markers = s.markers)
    (hissued : s.issued ≤ t.issued) : ms.Mirrored t where
  layers := by
    rw [hmarkers]
    exact h.layers
  role := h.role
  distinct := h.distinct
  issued := fun m hm => Nat.le_trans (h.issued m hm) hissued

/-- Without the marker of a role, the layers hold that of the other role. -/
theorem markersWithout (h : ms.Mirrored s) (role : Role) :
    (s.markersWithout (ms.get role)).Perm ((ms.get role.other).toList.map Marker.layer) := by
  have hroles := h.layers.trans ((ms.all_perm role).map Marker.layer)
  have hdistinct := ((ms.all_perm role).map Marker.handle).nodup_iff.1 h.distinct
  refine (hroles.filter _).trans (.of_eq ?_)
  cases hold : ms.get role with
  | none => simp
  | some m =>
    cases hother : ms.get role.other with
    | none => simp [Marker.layer]
    | some m' =>
      -- The layer of the other marker has another handle, and stays.
      have hne : m.handle ≠ m'.handle := by simpa [hold, hother] using hdistinct
      simp [Marker.layer, hne.symm]

/-- A marker that is placed for a node is mirrored. -/
theorem assign (h : ms.Mirrored s) {a : Assignment} (ha : a.node.isSome = true) :
    (ms.assign s a).2.1.Mirrored (ms.assign s a).2.2 := by
  rw [assign_layers]
  generalize hm : (⟨a.role, a.point, a.node, ⟨s.issued + 1⟩⟩ : Marker) = m
  have hhandle : m.handle = ⟨s.issued + 1⟩ := by rw [← hm]
  have hperm := ms.all_put_perm a.role m
  have hother : ∀ m' ∈ (ms.get a.role.other).toList, m' ∈ ms.all := fun m' hm' =>
    mem_all.2 ⟨a.role.other, Option.mem_toList.1 hm'⟩
  refine ⟨?_, ?_, ?_, ?_⟩
  · calc s.markersWithout (ms.get a.role) ++ [(⟨s.issued + 1⟩, ⟨a.point, label a.role a.point⟩)]
        = s.markersWithout (ms.get a.role) ++ [m.layer] := by rw [← hm]; rfl
      List.Perm _ ((ms.get a.role.other).toList.map Marker.layer ++ [m.layer]) :=
        (h.markersWithout a.role).append_right _
      List.Perm _ (m.layer :: (ms.get a.role.other).toList.map Marker.layer) :=
        List.perm_append_singleton _ _
      List.Perm _ ((ms.put a.role (some m)).all.map Marker.layer) :=
        (hperm.map Marker.layer).symm
  · intro role m' hm'
    by_cases hrole : role = a.role
    · subst hrole
      rw [get_put] at hm'
      obtain rfl := Option.some.inj hm'
      rw [← hm]
      exact ⟨rfl, ha⟩
    · rw [get_put_of_ne ms hrole] at hm'
      exact h.role role m' hm'
  · rw [(hperm.map Marker.handle).nodup_iff, List.map_cons, List.nodup_cons]
    constructor
    · -- The new handle is above all that were given.
      intro hmem
      obtain ⟨m', hm', he⟩ := List.mem_map.1 hmem
      have hle := h.issued m' (hother m' hm')
      rw [he, hhandle] at hle
      exact Nat.not_succ_le_self _ hle
    · have hroles := ((ms.all_perm a.role).map Marker.handle).nodup_iff.1 h.distinct
      rw [List.map_append] at hroles
      exact hroles.of_append_right
  · intro m' hm'
    rcases List.mem_cons.1 (hperm.mem_iff.1 hm') with rfl | hm'
    · exact Nat.le_of_eq (congrArg MarkerHandle.id hhandle)
    · exact Nat.le_succ_of_le (h.issued m' (hother m' hm'))

/-- No marker is left on the layers when both are removed. -/
theorem clear (h : ms.Mirrored s) : (ms.clear s).1.Mirrored (ms.clear s).2 := by
  have hlayers : (ms.clear s).2.markers = [] := by
    unfold Markers.clear
    simp only [removeFrom_layers]
    refine List.filter_eq_nil_iff.2 fun e he => ?_
    obtain ⟨he, hsource⟩ := List.mem_filter.1 he
    obtain ⟨m, hm, rfl⟩ := List.mem_map.1 (h.layers.mem_iff.1 he)
    -- It is the layer of one of the two markers, which is removed with it.
    obtain ⟨role, hrole⟩ := mem_all.1 hm
    cases role with
    | source =>
      have hsome : ms.source = some m := hrole
      simp [hsome, Marker.layer] at hsource
    | destination =>
      have hsome : ms.destination = some m := hrole
      simp [hsome, Marker.layer]
  exact mirrored_empty hlayers

end Mirrored

end Markers

namespace Overlay

/-- No line is left without that of the route. -/
theorem linesWithout_of_layers {o : Overlay} {s : Layers} (h : s.lines = o.layers) :
    s.linesWithout o.current = [] := by
  unfold Layers.linesWithout
  rw [h]
  cases hcurrent : o.current with
  | none => simp [layers, hcurrent]
  | some shown => simp [layers, hcurrent]

/-- No line is left when the route is removed. -/
theorem layers_clear {o : Overlay} {s : Layers} (h : s.lines = o.layers) :
    (o.clear s).2.lines = (o.clear s).1.layers := by
  rw [clear_layers, linesWithout_of_layers h]
  rfl

/-- The line of a route that is shown is the only one. -/
theorem layers_display {o : Overlay} {s : Layers} (h : s.lines = o.layers) (g : Geometry) :
    (o.display s g).2.lines = (o.display s g).1.layers := by
  rw [display_layers, linesWithout_of_layers h]
  rfl

end Overlay

end Waymark
