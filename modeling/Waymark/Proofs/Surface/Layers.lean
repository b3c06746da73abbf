import Waymark.Markers
import Waymark.Route.Overlay
import Waymark.Surface.GeoJson

/-!
# Markers and routes on layers

What the markers and the route of a session do to layers, each as one equation: which marker and
which line go, what is put at the end of the list in their place, and which handle it gets. `Alike`
says that two surfaces show the same, whatever the handles on them are.
-/

namespace Waymark

/-- A marker without regard to its handle, for which zero stands; handles are numbered from one. -/
def Marker.bare (m : Marker) : Marker := { m with handle := ⟨0⟩ }

namespace Layers

/-- The markers without the one that was in the place of a new one. -/
def markersWithout (s : Layers) (old : Option Marker) : List (MarkerHandle × MarkerLayer) :=
  s.markers.filter fun e => old.all fun m => e.1 != m.handle

/-- The lines without that of the route that was shown before. -/
def linesWithout (s : Layers) (old : Option (Geometry × LineHandle)) :
    List (LineHandle × LineLayer) :=
  s.lines.filter fun e => old.all fun shown => e.1 != shown.2

/-- All markers stay if there is none to be replaced. -/
theorem markersWithout_none (s : Layers) : s.markersWithout none = s.markers :=
  List.filter_eq_self.2 fun _ _ => rfl

/-- All lines stay if no route was shown. -/
theorem linesWithout_none (s : Layers) : s.linesWithout none = s.lines :=
  List.filter_eq_self.2 fun _ _ => rfl

end Layers

/-- At most one marker is removed, and nothing else changes. -/
theorem Markers.removeFrom_layers (s : Layers) (old : Option Marker) :
    removeFrom s old = { s with markers := s.markersWithout old } := by
  cases old with
  | none =>
    rw [Layers.markersWithout_none]
    rfl
  | some m => rfl

/-- A new marker is put at the end of the list, under the next handle, and the view moves to it. -/
theorem Markers.assign_layers (ms : Markers) (s : Layers) (a : Assignment) :
    ms.assign s a =
      (⟨a.role, a.point, a.node, ⟨s.issued + 1⟩⟩,
        ms.put a.role (some ⟨a.role, a.point, a.node, ⟨s.issued + 1⟩⟩),
        { markers := s.markersWithout (ms.get a.role) ++
            [(⟨s.issued + 1⟩, ⟨a.point, label a.role a.point⟩)]
          lines := s.lines
          view := some ⟨a.point, ms.focusZoom⟩
          issued := s.issued + 1 }) := by
  unfold assign
  rw [removeFrom_layers]
  rfl

/-- At most one line is removed, and nothing else changes. -/
theorem Overlay.clear_layers (o : Overlay) (s : Layers) :
    o.clear s = ({ o with current := none }, { s with lines := s.linesWithout o.current }) := by
  obtain ⟨style, current⟩ := o
  cases current with
  | none =>
    rw [Layers.linesWithout_none]
    rfl
  | some shown => rfl

/-- The line of a new route is put at the end of the list, under the next handle. -/
theorem Overlay.display_layers (o : Overlay) (s : Layers) (g : Geometry) :
    o.display s g =
      ({ o with current := some (g, ⟨s.issued + 1⟩) },
        { markers := s.markers
          lines := s.linesWithout o.current ++ [(⟨s.issued + 1⟩, ⟨g.path, o.style, label g⟩)]
          view := s.view
          issued := s.issued + 1 }) := by
  unfold display
  rw [clear_layers]
  rfl

namespace Layers

/-- Two surfaces show the same: they have the same markers and the same lines in the same order, and
the same view. -/
structure Alike (s t : Layers) : Prop where
  /-- The markers are the same. -/
  markers : s.markerLayers = t.markerLayers
  /-- The lines are the same. -/
  lines : s.lineLayers = t.lineLayers
  /-- The view is the same. -/
  view : s.view = t.view

namespace Alike

/-- A surface shows what it shows. -/
theorem refl (s : Layers) : s.Alike s := ⟨rfl, rfl, rfl⟩

/-- Of three surfaces, the first shows what the third does if both show what the second does. -/
theorem trans {s t u : Layers} (h : s.Alike t) (h' : t.Alike u) : s.Alike u :=
  ⟨h.markers.trans h'.markers, h.lines.trans h'.lines, h.view.trans h'.view⟩

/-- It does not matter which of two surfaces is looked at first. -/
theorem symm {s t : Layers} (h : s.Alike t) : t.Alike s :=
  ⟨h.markers.symm, h.lines.symm, h.view.symm⟩

/-- Surfaces that show the same are exported as the same collection. -/
theorem featureCollection {s t : Layers} (h : s.Alike t) :
    s.featureCollection = t.featureCollection := by
  unfold Layers.featureCollection
  rw [h.markers, h.lines]

end Alike

end Layers

end Waymark
