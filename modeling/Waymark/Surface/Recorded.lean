import Waymark.Surface.Basic

/-!
# Recorded surfaces

A surface together with the calls that were made of it, in order.
-/

namespace Waymark

/-- A call of an operation of a surface, with the handle that it gave or was given. -/
inductive Call where
  /-- A marker was placed. -/
  | addMarker (handle : MarkerHandle) (point : Point) (label : String)
  /-- A marker was to be removed. -/
  | removeMarker (handle : MarkerHandle)
  /-- A line was drawn. -/
  | addLine (handle : LineHandle) (points : List Point) (style : LineStyle) (label : String)
  /-- A line was to be removed. -/
  | removeLine (handle : LineHandle)
  /-- The view was moved. -/
  | centerOn (point : Point) (zoom : UInt8)

/-- A surface and the calls that were made of it. -/
structure Recorded (σ : Type) where
  /-- The surface. -/
  surface : σ
  /-- The calls, in order. -/
  calls : List Call := []

namespace Recorded

variable {σ : Type}

/-- Records a call that led to a new state. -/
def after (r : Recorded σ) (surface : σ) (call : Call) : Recorded σ := ⟨surface, r.calls ++ [call]⟩

/-- The same surface, with no calls recorded. -/
def cleared (r : Recorded σ) : Recorded σ := ⟨r.surface, []⟩

instance [Surface σ] : Surface (Recorded σ) where
  addMarker point label r :=
    let (handle, s) := Surface.addMarker point label r.surface
    (handle, r.after s (.addMarker handle point label))
  removeMarker handle r := r.after (Surface.removeMarker handle r.surface) (.removeMarker handle)
  addLine points style label r :=
    let (handle, s) := Surface.addLine points style label r.surface
    (handle, r.after s (.addLine handle points style label))
  removeLine handle r := r.after (Surface.removeLine handle r.surface) (.removeLine handle)
  centerOn point zoom r := r.after (Surface.centerOn point zoom r.surface) (.centerOn point zoom)

end Recorded

end Waymark
