import Waymark.Proofs.Surface.Mirror

/-!
# Other numbers for handles

Two runs that show the same may still give other handles to it, since markers and lines take them
from one count. `renumber` gives every handle the number that a function has for it. As long as no
two handles are given the same number, a marker or a line that is added or removed on the one surface
is the one that is added or removed on the other: the operations on layers commute with `renumber`.
-/

namespace Waymark

/-- The handle of a marker under another number. -/
def MarkerHandle.renumber (f : Nat → Nat) (handle : MarkerHandle) : MarkerHandle := ⟨f handle.id⟩

/-- The handle of a line under another number. -/
def LineHandle.renumber (f : Nat → Nat) (handle : LineHandle) : LineHandle := ⟨f handle.id⟩

/-- A marker whose handle has another number. -/
def Marker.renumber (f : Nat → Nat) (m : Marker) : Marker :=
  { m with handle := m.handle.renumber f }

/-- Markers whose handles have other numbers. -/
def Markers.renumber (f : Nat → Nat) (ms : Markers) : Markers :=
  { ms with
    source := ms.source.map (Marker.renumber f)
    destination := ms.destination.map (Marker.renumber f) }

/-- A route whose line has a handle of another number. -/
def Overlay.renumber (f : Nat → Nat) (o : Overlay) : Overlay :=
  { o with current := o.current.map fun shown => (shown.1, shown.2.renumber f) }

namespace Layers

/-- Markers on layers under handles of other numbers. -/
def renumberMarkers (f : Nat → Nat) (markers : List (MarkerHandle × MarkerLayer)) :
    List (MarkerHandle × MarkerLayer) :=
  markers.map fun e => (e.1.renumber f, e.2)

/-- Lines on layers under handles of other numbers. -/
def renumberLines (f : Nat → Nat) (lines : List (LineHandle × LineLayer)) :
    List (LineHandle × LineLayer) :=
  lines.map fun e => (e.1.renumber f, e.2)

end Layers

section

variable {f : Nat → Nat}

/-- Handles of markers are different if their numbers are. -/
theorem MarkerHandle.renumber_injective (hf : Function.Injective f) :
    Function.Injective (renumber f) := by
  rintro ⟨a⟩ ⟨b⟩ h
  exact congrArg mk (hf (congrArg id h))

/-- Handles of lines are different if their numbers are. -/
theorem LineHandle.renumber_injective (hf : Function.Injective f) :
    Function.Injective (renumber f) := by
  rintro ⟨a⟩ ⟨b⟩ h
  exact congrArg mk (hf (congrArg id h))

namespace Markers

/-- The marker of a role has its handle renumbered. -/
@[simp] theorem get_renumber (f : Nat → Nat) (ms : Markers) (role : Role) :
    (ms.renumber f).get role = (ms.get role).map (Marker.renumber f) := by
  cases role <;> rfl

/-- A marker is put as it would be under another number. -/
@[simp] theorem put_renumber (f : Nat → Nat) (ms : Markers) (role : Role) (m : Option Marker) :
    (ms.renumber f).put role (m.map (Marker.renumber f)) = (ms.put role m).renumber f := by
  cases role <;> rfl

/-- The number of the node of a role does not depend on handles. -/
@[simp] theorem nodeId_renumber (f : Nat → Nat) (ms : Markers) (role : Role) :
    (ms.renumber f).nodeId role = ms.nodeId role := by
  unfold nodeId
  rw [get_renumber]
  cases ms.get role <;> rfl

/-- It is only the handles of the markers that matter for how they are renumbered. -/
theorem renumber_congr {g : Nat → Nat} {ms : Markers}
    (h : ∀ m ∈ ms.all, f m.handle.id = g m.handle.id) : ms.renumber f = ms.renumber g := by
  have hmarker (m : Marker) (hm : m ∈ ms.all) : m.renumber f = m.renumber g := by
    simp only [Marker.renumber, MarkerHandle.renumber, h m hm]
  have hrole (role : Role) :
      (ms.get role).map (Marker.renumber f) = (ms.get role).map (Marker.renumber g) :=
    Option.map_congr fun m hm => hmarker m (mem_all.2 ⟨role, hm⟩)
  unfold renumber
  rw [show ms.source.map (Marker.renumber f) = ms.source.map (Marker.renumber g) from hrole .source,
    show ms.destination.map (Marker.renumber f) = ms.destination.map (Marker.renumber g) from
      hrole .destination]

end Markers

/-- The route that is shown does not depend on handles. -/
@[simp] theorem Overlay.shown_renumber (f : Nat → Nat) (o : Overlay) :
    (o.renumber f).shown = o.shown := by
  obtain ⟨style, current⟩ := o
  cases current <;> rfl

namespace Layers

/-- Handles do not show on a map with markers. -/
@[simp] theorem renumberMarkers_map_snd (f : Nat → Nat)
    (markers : List (MarkerHandle × MarkerLayer)) :
    (renumberMarkers f markers).map (·.2) = markers.map (·.2) := by
  simp [renumberMarkers]

/-- Handles do not show on a map with lines. -/
@[simp] theorem renumberLines_map_snd (f : Nat → Nat) (lines : List (LineHandle × LineLayer)) :
    (renumberLines f lines).map (·.2) = lines.map (·.2) := by
  simp [renumberLines]

/-- It is only the handles on the layers that matter for how they are renumbered. -/
theorem renumberMarkers_congr {g : Nat → Nat} {markers : List (MarkerHandle × MarkerLayer)}
    (h : ∀ e ∈ markers, f e.1.id = g e.1.id) :
    renumberMarkers f markers = renumberMarkers g markers :=
  List.map_congr_left fun e he => by simp only [MarkerHandle.renumber, h e he]

/-- The marker that is replaced is the same one under other numbers. -/
theorem markersWithout_renumber (hf : Function.Injective f) {s t : Layers}
    (h : s.markers = renumberMarkers f t.markers) (old : Option Marker) :
    s.markersWithout (old.map (Marker.renumber f)) = renumberMarkers f (t.markersWithout old) := by
  unfold markersWithout renumberMarkers
  rw [h, renumberMarkers, List.filter_map]
  refine congrArg _ (List.filter_congr fun e _ => ?_)
  cases old with
  | none => rfl
  | some m =>
    -- Handles are equal under the new numbers exactly when they were.
    have hiff := (MarkerHandle.renumber_injective hf).eq_iff (a := e.1) (b := m.handle)
    simp [Marker.renumber, bne, hiff]

/-- The line that is replaced is the same one under other numbers. -/
theorem linesWithout_renumber (hf : Function.Injective f) {s t : Layers}
    (h : s.lines = renumberLines f t.lines) (old : Option (Geometry × LineHandle)) :
    s.linesWithout (old.map fun shown => (shown.1, shown.2.renumber f)) =
      renumberLines f (t.linesWithout old) := by
  unfold linesWithout renumberLines
  rw [h, renumberLines, List.filter_map]
  refine congrArg _ (List.filter_congr fun e _ => ?_)
  cases old with
  | none => rfl
  | some shown =>
    have hiff := (LineHandle.renumber_injective hf).eq_iff (a := e.1) (b := shown.2)
    simp [bne, hiff]

end Layers

namespace Markers

variable {s t : Layers}

/-- A marker that is placed takes the place of the same one under other numbers, if the next handle
has its other number. -/
theorem assign_renumber (hf : Function.Injective f)
    (h : s.markers = Layers.renumberMarkers f t.markers) (hnext : s.issued + 1 = f (t.issued + 1))
    (ms : Markers) (a : Assignment) :
    ((ms.renumber f).assign s a).1 = (ms.assign t a).1.renumber f ∧
      ((ms.renumber f).assign s a).2.1 = (ms.assign t a).2.1.renumber f ∧
      ((ms.renumber f).assign s a).2.2.markers =
        Layers.renumberMarkers f (ms.assign t a).2.2.markers := by
  have hmarker : (⟨a.role, a.point, a.node, ⟨s.issued + 1⟩⟩ : Marker) =
      Marker.renumber f ⟨a.role, a.point, a.node, ⟨t.issued + 1⟩⟩ := by
    rw [hnext]
    rfl
  simp only [assign_layers]
  refine ⟨hmarker, ?_, ?_⟩
  · rw [hmarker, ← put_renumber]
    rfl
  · rw [get_renumber, Layers.markersWithout_renumber hf h, hnext]
    simp [Layers.renumberMarkers, MarkerHandle.renumber]

/-- Both markers are removed as they would be under other numbers. -/
theorem clear_renumber (hf : Function.Injective f)
    (h : s.markers = Layers.renumberMarkers f t.markers) (ms : Markers) :
    ((ms.renumber f).clear s).2.markers = Layers.renumberMarkers f (ms.clear t).2.markers := by
  unfold clear
  simp only [removeFrom_layers]
  have hsource := Layers.markersWithout_renumber hf h ms.source
  exact Layers.markersWithout_renumber hf hsource ms.destination

end Markers

end

/-!
### Handles that were given out before

Layers on which some handles were given out before go on to number theirs above them. `raise` is the
case of `renumber` in which every number is raised by how many these were, and the count with them.
The operations on layers commute with it as they are, so that they are equations between layers.
-/

section

variable (n : Nat) (view : Option View)

/-- Layers on which `n` handles more were given out before, and which look at `view`. -/
def Layers.raise (s : Layers) : Layers where
  markers := renumberMarkers (n + ·) s.markers
  lines := renumberLines (n + ·) s.lines
  view
  issued := n + s.issued

/-- The layers are exported as they would be if no handles had been given out before. -/
theorem Layers.featureCollection_raise (s : Layers) :
    (s.raise n view).featureCollection = s.featureCollection := by
  simp [featureCollection, markerLayers, lineLayers, raise]

/-- No two handles are raised to the same number. -/
theorem raise_injective : Function.Injective (n + ·) := fun _ _ h => Nat.add_left_cancel h

namespace Markers

variable (ms : Markers) (s : Layers)

/-- A marker is removed as it would be if no handles had been given out before. -/
theorem removeFrom_raise (old : Option Marker) :
    removeFrom (s.raise n view) (old.map (Marker.renumber (n + ·))) =
      (removeFrom s old).raise n view := by
  have hmarkers := Layers.markersWithout_renumber (s := s.raise n view) (t := s)
    (raise_injective n) rfl old
  rw [removeFrom_layers, removeFrom_layers, hmarkers]
  rfl

/-- A marker is placed as it would be if no handles had been given out before, and the view is the
same from then on. -/
theorem assign_raise (a : Assignment) :
    (ms.renumber (n + ·)).assign (s.raise n view) a =
      ((ms.assign s a).1.renumber (n + ·), (ms.assign s a).2.1.renumber (n + ·),
        (ms.assign s a).2.2.raise n (ms.assign s a).2.2.view) := by
  have hmarkers := Layers.markersWithout_renumber (s := s.raise n view) (t := s)
    (raise_injective n) rfl (ms.get a.role)
  rw [assign_layers, assign_layers, get_renumber, hmarkers]
  refine Prod.ext rfl (Prod.ext ?_ ?_)
  · exact put_renumber (n + ·) ms a.role (some ⟨a.role, a.point, a.node, ⟨s.issued + 1⟩⟩)
  · simp only [Layers.raise, Layers.renumberMarkers, List.map_append]
    rfl

/-- Both markers are removed as they would be if no handles had been given out before. -/
theorem clear_raise :
    (ms.renumber (n + ·)).clear (s.raise n view) =
      ((ms.clear s).1.renumber (n + ·), (ms.clear s).2.raise n view) := by
  refine Prod.ext rfl ?_
  show removeFrom (removeFrom (s.raise n view) (ms.source.map _)) (ms.destination.map _) = _
  rw [removeFrom_raise, removeFrom_raise]
  rfl

end Markers

namespace Overlay

variable (o : Overlay) (s : Layers)

/-- A route is removed as it would be if no handles had been given out before. -/
theorem clear_raise :
    (o.renumber (n + ·)).clear (s.raise n view) =
      ((o.clear s).1.renumber (n + ·), (o.clear s).2.raise n view) := by
  have hlines := Layers.linesWithout_renumber (s := s.raise n view) (t := s)
    (raise_injective n) rfl o.current
  rw [clear_layers, clear_layers]
  refine Prod.ext rfl ?_
  show ({ s.raise n view with lines := (s.raise n view).linesWithout (o.current.map _) } :
    Layers) = _
  rw [hlines]
  rfl

/-- A route is shown as it would be if no handles had been given out before. -/
theorem display_raise (g : Geometry) :
    (o.renumber (n + ·)).display (s.raise n view) g =
      ((o.display s g).1.renumber (n + ·), (o.display s g).2.raise n view) := by
  have hlines := Layers.linesWithout_renumber (s := s.raise n view) (t := s)
    (raise_injective n) rfl o.current
  rw [display_layers, display_layers]
  refine Prod.ext rfl ?_
  show ({ s.raise n view with
    lines := (s.raise n view).linesWithout (o.current.map _) ++ _
    issued := _ } : Layers) = _
  rw [hlines]
  simp only [Layers.raise, Layers.renumberLines, List.map_append]
  rfl

end Overlay

end

end Waymark
