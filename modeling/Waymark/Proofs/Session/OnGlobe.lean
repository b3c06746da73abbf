import Waymark.Proofs.Session.Mirror
import Waymark.Proofs.Settings.Good

/-!
# Maps on the globe

Points come to a session in several ways, and every way but one is checked by the session. The one
is the answer of a lookup. If these are on the globe, then so is all that is on the map
(`act_onGlobe`): markers stand where nodes were found, lines are those of routes that may be drawn,
and the view is that of the settings or of a marker.
-/

namespace Waymark

/-- Everything on some layers is on the globe, and the zoom is one that the map has. -/
structure Layers.OnGlobe (s : Layers) : Prop where
  /-- Every marker stands on the globe. -/
  markers : ∀ e ∈ s.markers, e.2.point.OnGlobe
  /-- Every line runs through points of the globe. -/
  lines : ∀ e ∈ s.lines, ∀ p ∈ e.2.points, p.OnGlobe
  /-- The view is centered on a point of the globe. -/
  view : ∃ v, s.view = some v ∧ v.center.OnGlobe ∧ v.zoom ≤ 18

namespace Layers.OnGlobe

variable {s t : Layers}

/-- What is left of layers on the globe is on the globe, if the view stays. -/
theorem of_subset (h : s.OnGlobe) (hmarkers : t.markers ⊆ s.markers) (hlines : t.lines ⊆ s.lines)
    (hview : t.view = s.view) : t.OnGlobe where
  markers e he := h.markers e (hmarkers he)
  lines e he := h.lines e (hlines he)
  view := hview ▸ h.view

/-- A marker that is placed on the globe leaves everything there. -/
theorem assign (h : s.OnGlobe) {ms : Markers} (hzoom : ms.focusZoom ≤ 18) {a : Assignment}
    (ha : a.point.OnGlobe) : (ms.assign s a).2.2.OnGlobe := by
  rw [Markers.assign_layers]
  refine ⟨fun e he => ?_, h.lines, ⟨_, rfl, ha, hzoom⟩⟩
  rcases List.mem_append.1 he with hold | hnew
  · exact h.markers e (List.mem_filter.1 hold).1
  · rw [List.mem_singleton.1 hnew]
    exact ha

/-- A route that is shown leaves everything on the globe. -/
theorem display (h : s.OnGlobe) (o : Overlay) (g : Geometry) : (o.display s g).2.OnGlobe := by
  rw [Overlay.display_layers]
  refine ⟨h.markers, fun e he => ?_, h.view⟩
  rcases List.mem_append.1 he with hold | hnew
  · exact h.lines e (List.mem_filter.1 hold).1
  · rw [List.mem_singleton.1 hnew]
    exact g.onGlobe

/-- A route that is removed leaves everything on the globe. -/
theorem clear (h : s.OnGlobe) (o : Overlay) : (o.clear s).2.OnGlobe := by
  rw [Overlay.clear_layers]
  exact h.of_subset (fun _ => id) List.filter_sublist.subset rfl

/-- Markers that are removed leave everything on the globe. -/
theorem unmarked (h : s.OnGlobe) (ms : Markers) : (ms.clear s).2.OnGlobe :=
  h.of_subset (ms.clear_sublist s).1.subset (fun _ he => (ms.clear_layers s).1 ▸ he)
    (ms.clear_layers s).2

end Layers.OnGlobe

namespace Session

/-- The lookup of a response, if one was handed out. -/
def Response.lookup? : Response → Option Lookup
  | .lookup (.ok k) => some k
  | _ => none

/-- The route request of a response, if one was handed out. -/
def Response.request? : Response → Option RouteRequest
  | .request (.ok q) => some q
  | _ => none

section Points

variable {σ : Type} [Surface σ]

/-- The point of a lookup that is handed out is one that the rule of the session admits. -/
theorem admits_of_lookup {s : Session σ} {operation : Operation} {k : Lookup}
    (h : (s.act operation).1.lookup? = some k) : s.rule.Admits k.point := by
  cases operation with
  | beginClick lat lng =>
    rcases s.beginClick_cases lat lng with ⟨fault, -, hs⟩ | ⟨point, hpoint, hs⟩ <;>
      simp only [act, hs] at h <;> cases h
    obtain ⟨rfl, hadmits⟩ := Point.check_eq_ok_iff.1 hpoint
    exact hadmits
  | beginSubmit role lat lng =>
    rcases s.beginSubmit_cases role lat lng with ⟨fault, -, hs⟩ | ⟨point, hpoint, hs⟩ <;>
      simp only [act, hs] at h <;> cases h
    exact Point.admits_of_read hpoint
  | completeLookup | beginRoute | completeRoute | showRoute | showPayload | clearRoute | reset =>
    cases h

/-- A marker is placed only where a node was found. -/
theorem marker_of_entry {s : Session σ} {operation : Operation} {m : Marker}
    (h : (s.entry operation).marker? = some m) :
    ∃ ticket node, operation = .completeLookup ticket (.ok node) ∧
      m = s.placedMarker ticket.target node := by
  cases operation with
  | completeLookup ticket answer =>
    unfold entry at h
    rcases s.completeLookup_cases ticket answer with
      ⟨-, hs⟩ | ⟨-, ⟨e, -, hs⟩ | ⟨node, rfl, hs⟩⟩ <;> simp only [act, hs] at h <;> cases h
    exact ⟨ticket, node, rfl, rfl⟩
  | beginClick | beginSubmit | beginRoute | completeRoute | showRoute | showPayload | clearRoute
    | reset => cases h

end Points

/-- A marker on layers stands where its node lies. -/
theorem placedMarker_point (s : Session Layers) (target : Target) (node : Node) :
    (s.placedMarker target node).point = node.point := by
  unfold placedMarker
  rw [Markers.assign_layers]
  rfl

variable {s t : Session Layers}

/-- A map stays on the globe when it is touched, if any marker that is placed is there. -/
theorem Touch.onGlobe {e : Entry} (r : Touch s e t) (h : s.surface.OnGlobe)
    (hzoom : s.markers.focusZoom ≤ 18) (hmarker : ∀ m, e.marker? = some m → m.point.OnGlobe) :
    t.surface.OnGlobe := by
  cases r with
  | keep _ same =>
    rw [same.surface]
    exact h
  | @place _ target node he =>
    -- The marker stands where the node lies, and the view moves there.
    have hnode := hmarker _ he
    rw [placedMarker_point] at hnode
    exact h.assign (a := Selection.assignment target.role node) hzoom hnode
  | display g _ => exact h.display s.overlay g
  | clear => exact h.clear s.overlay
  | reset => exact (h.unmarked s.markers).clear s.overlay

/-- A map stays on the globe by every operation but an answer with a node that is not there. -/
theorem act_onGlobe (h : s.surface.OnGlobe) (hzoom : s.markers.focusZoom ≤ 18)
    {operation : Operation}
    (hnode : ∀ ticket node, operation = .completeLookup ticket (.ok node) → node.point.OnGlobe) :
    (s.act operation).2.surface.OnGlobe := by
  refine (s.act_touch operation).onGlobe h hzoom fun m hm => ?_
  obtain ⟨ticket, node, hanswer, rfl⟩ := marker_of_entry hm
  rw [placedMarker_point]
  exact hnode ticket node hanswer

/-- The map of a new session is on the globe if the settings are good. -/
theorem start_onGlobe {settings : Settings} (h : settings.Good) :
    (start Layers.empty settings).surface.OnGlobe :=
  ⟨nofun, nofun, ⟨_, rfl, h.center, h.initialZoom⟩⟩

end Session

end Waymark
