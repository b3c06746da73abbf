import Waymark.Proofs.Session.Frame
import Waymark.Proofs.Surface.Mirror

/-!
# Sessions and their layers

A session on layers never drifts apart from them: after every history, the markers on the layers are
those of the session and the line is that of its route, each under the handle that the session keeps
and with what was drawn for it, and the view is that of the last marker that was placed
(`run_mirrored`). The invariant is `Mirrored`, with a case for each way in which an operation touches
the map. On layers the view changes only where a marker is placed (`act_view`).
-/

namespace Waymark.Session

/-- The markers that were placed in a history, in order. -/
def placedMarkers (history : List Entry) : List Marker := history.filterMap Entry.marker?

/-- What a map looks at after a marker was placed, or before any was. -/
def viewOf (settings : Settings) : Option Marker → View
  | some m => ⟨m.point, settings.focusZoom⟩
  | none => ⟨settings.center, settings.initialZoom⟩

/-- The layers of a session are those of its markers and of its route, and the view is that of the
last marker that was placed. -/
structure Mirrored (settings : Settings) (last : Option Marker) (s : Session Layers) : Prop where
  /-- The markers on the layers are those of the session. -/
  markers : s.markers.Mirrored s.surface
  /-- New markers are shown at the zoom of the settings. -/
  focusZoom : s.markers.focusZoom = settings.focusZoom
  /-- The line on the layers is that of the route. -/
  lines : s.surface.lines = s.overlay.layers
  /-- Routes are drawn in the style of the settings. -/
  style : s.overlay.style = settings.style
  /-- The view is that of the last marker. -/
  view : s.surface.view = some (viewOf settings last)

/-- The session after both markers were removed. -/
def unmarked (s : Session Layers) : Session Layers :=
  { s with
    markers := (s.markers.clear s.surface).1
    surface := (s.markers.clear s.surface).2 }

namespace Mirrored

variable {settings : Settings} {last : Option Marker} {s t : Session Layers}

/-- A session with the same markers, the same route and the same surface is mirrored as well. -/
theorem of_eq (h : Mirrored settings last s) (hmarkers : t.markers = s.markers)
    (hoverlay : t.overlay = s.overlay) (hsurface : t.surface = s.surface) :
    Mirrored settings last t := by
  refine ⟨?_, ?_, ?_, ?_, ?_⟩
  · rw [hmarkers, hsurface]
    exact h.markers
  · rw [hmarkers]
    exact h.focusZoom
  · rw [hoverlay, hsurface]
    exact h.lines
  · rw [hoverlay]
    exact h.style
  · rw [hsurface]
    exact h.view

/-- A marker that is placed is mirrored, and the view moves to it. -/
theorem placed (h : Mirrored settings last s) (target : Target) (node : Node) :
    Mirrored settings (some (s.placedMarker target node)) (s.placed target node) := by
  have hassign := s.markers.assign_layers s.surface (Selection.assignment target.role node)
  refine ⟨h.markers.assign rfl, ?_, ?_, h.style, ?_⟩
  · exact (Markers.put_focusZoom _ _ _).trans h.focusZoom
  · show (s.markers.assign s.surface _).2.2.lines = _
    rw [hassign]
    exact h.lines
  · show (s.markers.assign s.surface _).2.2.view = _
    unfold placedMarker
    rw [hassign, h.focusZoom]
    rfl

/-- A route that is shown is mirrored. -/
theorem display (h : Mirrored settings last s) (g : Geometry) :
    Mirrored settings last (s.display g) := by
  have hdisplay := s.overlay.display_layers s.surface g
  refine ⟨h.markers.of_markers ?_ ?_, h.focusZoom, Overlay.layers_display h.lines g, ?_, ?_⟩
  · show (s.overlay.display s.surface g).2.markers = _
    rw [hdisplay]
  · show _ ≤ (s.overlay.display s.surface g).2.issued
    rw [hdisplay]
    exact Nat.le_succ _
  · show (s.overlay.display s.surface g).1.style = _
    rw [hdisplay]
    exact h.style
  · show (s.overlay.display s.surface g).2.view = _
    rw [hdisplay]
    exact h.view

/-- A route that is removed takes its line with it. -/
theorem clearRoute (h : Mirrored settings last s) : Mirrored settings last s.clearRoute := by
  have hclear := s.overlay.clear_layers s.surface
  have hissued : (s.overlay.clear s.surface).2.issued = s.surface.issued := by rw [hclear]
  refine ⟨h.markers.of_markers ?_ ?_, h.focusZoom, Overlay.layers_clear h.lines, ?_, ?_⟩
  · show (s.overlay.clear s.surface).2.markers = _
    rw [hclear]
  · exact Nat.le_of_eq hissued.symm
  · show (s.overlay.clear s.surface).1.style = _
    rw [hclear]
    exact h.style
  · show (s.overlay.clear s.surface).2.view = _
    rw [hclear]
    exact h.view

/-- Markers that are removed take their layers with them. -/
theorem unmarked (h : Mirrored settings last s) : Mirrored settings last s.unmarked := by
  obtain ⟨hlines, hview⟩ := s.markers.clear_layers s.surface
  exact ⟨h.markers.clear, h.focusZoom, hlines.trans h.lines, h.style, hview.trans h.view⟩

/-- A session is mirrored after its map was touched. -/
theorem touch (h : Mirrored settings last s) {e : Entry} (r : Touch s e t) :
    Mirrored settings (e.marker?.or last) t := by
  cases r with
  | keep he same =>
    rw [he]
    exact h.of_eq same.markers same.overlay same.surface
  | @place e target node he =>
    rw [he]
    exact h.placed target node
  | display g he =>
    rw [he]
    exact Mirrored.display (s := s.unrequested) (h.of_eq rfl rfl rfl) g
  | clear => exact h.clearRoute
  | reset => exact h.unmarked.clearRoute.of_eq rfl rfl rfl

end Mirrored

/-- What a reset does to layers: the markers go as they do when both are removed, and the view and
the count of the handles stay. -/
theorem reset_layers (s : Session Layers) :
    s.reset.surface.markers = (s.markers.clear s.surface).2.markers ∧
      s.reset.surface.view = s.surface.view ∧ s.reset.surface.issued = s.surface.issued := by
  have hsurface : s.reset.surface = (s.overlay.clear (s.markers.clear s.surface).2).2 := rfl
  rw [hsurface, Overlay.clear_layers]
  exact ⟨rfl, (s.markers.clear_layers s.surface).2, (s.markers.clear_sublist s.surface).2⟩

/-- An operation that places no marker leaves the view. -/
theorem act_view (s : Session Layers) {operation : Operation}
    (h : (s.entry operation).marker? = none) :
    (s.act operation).2.surface.view = s.surface.view := by
  have htouch := s.act_touch operation
  generalize (s.act operation).2 = t at htouch ⊢
  generalize s.entry operation = e at htouch h
  cases htouch with
  | keep _ same => rw [same.surface]
  | place hplace =>
    rw [h] at hplace
    cases hplace
  | display g _ =>
    show (s.overlay.display s.surface g).2.view = _
    rw [Overlay.display_layers]
  | clear =>
    show (s.overlay.clear s.surface).2.view = _
    rw [Overlay.clear_layers]
  | reset => exact s.reset_layers.2.1

/-- On layers that were empty at first, after any operations: the markers on the layers are those
that are set, one for each role that is, each under its own handle and with its point and the label
of its role and its point; the marker of a role has that role and the number of a node, and the two
have different handles; the one line is that of the route, under the handle that is kept for it, with
its path, the style of the settings and the label of its distance, and there is none when no route is
shown; and the view is that of the last marker that was ever placed, or the first view if none
was. -/
theorem run_mirrored (settings : Settings) (operations : List Operation) :
    let history := ((start Layers.empty settings).run operations).1
    let s := ((start Layers.empty settings).run operations).2
    s.surface.markers.Perm (((s.marker .source).toList ++ (s.marker .destination).toList).map
      fun m => (m.handle, ⟨m.point, Markers.label m.role m.point⟩)) ∧
    (∀ role m, s.marker role = some m → m.role = role ∧ m.node.isSome = true) ∧
    (∀ m m', s.marker .source = some m → s.marker .destination = some m' →
      m.handle ≠ m'.handle) ∧
    s.surface.lines = (s.overlay.current.map fun shown =>
      (shown.2, ⟨shown.1.path, settings.style, Overlay.label shown.1⟩)).toList ∧
    s.surface.view = some (match (placedMarkers history).getLast? with
      | some m => ⟨m.point, settings.focusZoom⟩
      | none => ⟨settings.center, settings.initialZoom⟩) := by
  intro history s
  have hfirst : Mirrored settings (placedMarkers []).getLast? (start Layers.empty settings) :=
    ⟨Markers.mirrored_empty rfl, rfl, rfl, rfl, rfl⟩
  have h : Mirrored settings (placedMarkers history).getLast? s := by
    refine run_induction (P := fun past s => Mirrored settings (placedMarkers past).getLast? s)
      ?_ operations [] hfirst
    intro past s operation hs
    have hlast : (placedMarkers (past ++ [s.entry operation])).getLast? =
        (s.entry operation).marker?.or (placedMarkers past).getLast? := by
      unfold placedMarkers
      rw [List.filterMap_append, List.getLast?_append]
      cases hm : (s.entry operation).marker? <;> simp [hm]
    show Mirrored settings (placedMarkers (past ++ [s.entry operation])).getLast? _
    rw [hlast]
    exact hs.touch (s.act_touch operation)
  refine ⟨h.markers.layers, h.markers.role, ?_, ?_, ?_⟩
  · intro m m' hm hm'
    have hdistinct := h.markers.distinct
    have hsource : s.markers.source = some m := hm
    have hdestination : s.markers.destination = some m' := hm'
    simpa [Markers.all, hsource, hdestination] using hdistinct
  · rw [h.lines, Overlay.layers, h.style]
  · rw [h.view]
    rfl

end Waymark.Session
