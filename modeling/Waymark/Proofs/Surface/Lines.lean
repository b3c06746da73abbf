import Waymark.Markers
import Waymark.Route.Overlay
import Waymark.Surface.Recorded

/-!
# The lines that calls leave

A recorded surface tells by its calls which lines are on it: those that were drawn and not removed
since. Whatever surface is recorded, the markers leave the lines alone, and the route keeps at most
one of them, its own.
-/

namespace Waymark

namespace Call

/-- The lines after a call, of those before it. -/
def linesAfter (lines : List LineHandle) : Call → List LineHandle
  | .addLine handle _ _ _ => lines ++ [handle]
  | .removeLine handle => lines.erase handle
  | .addMarker _ _ _ | .removeMarker _ | .centerOn _ _ => lines

end Call

namespace Recorded

variable {σ : Type}

/-- The lines that were drawn and not removed since, in order. -/
def lines (r : Recorded σ) : List LineHandle := r.calls.foldl Call.linesAfter []

/-- The last call is the last that changes the lines. -/
@[simp] theorem lines_after (r : Recorded σ) (surface : σ) (call : Call) :
    (r.after surface call).lines = call.linesAfter r.lines := by
  simp [lines, after]

variable [Surface σ]

/-- A new marker leaves the lines. -/
@[simp] theorem lines_addMarker (r : Recorded σ) (point : Point) (label : String) :
    (Surface.addMarker point label r).2.lines = r.lines :=
  lines_after _ _ _

/-- A marker that goes leaves the lines. -/
@[simp] theorem lines_removeMarker (r : Recorded σ) (handle : MarkerHandle) :
    (Surface.removeMarker handle r).lines = r.lines :=
  lines_after _ _ _

/-- A new view leaves the lines. -/
@[simp] theorem lines_centerOn (r : Recorded σ) (point : Point) (zoom : UInt8) :
    (Surface.centerOn point zoom r).lines = r.lines :=
  lines_after _ _ _

/-- A new line is the last. -/
@[simp] theorem lines_addLine (r : Recorded σ) (points : List Point) (style : LineStyle)
    (label : String) :
    (Surface.addLine points style label r).2.lines =
      r.lines ++ [(Surface.addLine points style label r).1] :=
  lines_after _ _ _

/-- A line goes. -/
@[simp] theorem lines_removeLine (r : Recorded σ) (handle : LineHandle) :
    (Surface.removeLine handle r).lines = r.lines.erase handle :=
  lines_after _ _ _

end Recorded

variable {σ : Type} [Surface σ]

/-- The removal of a marker leaves the lines. -/
@[simp] theorem Markers.lines_removeFrom (r : Recorded σ) (old : Option Marker) :
    (removeFrom r old).lines = r.lines := by
  cases old with
  | none => rfl
  | some m => exact r.lines_removeMarker m.handle

/-- The placing of a marker leaves the lines. -/
@[simp] theorem Markers.lines_assign (ms : Markers) (r : Recorded σ) (a : Assignment) :
    (ms.assign r a).2.2.lines = r.lines := by
  simp [assign]

/-- The removal of both markers leaves the lines. -/
@[simp] theorem Markers.lines_clear (ms : Markers) (r : Recorded σ) :
    (ms.clear r).2.lines = r.lines := by
  simp [clear]

namespace Overlay

/-- The line of the route that is shown, if one is. -/
def line? (o : Overlay) : Option LineHandle := o.current.map (·.2)

/-- No line is left after the route was removed, if there was none but its own. -/
theorem lines_clear {o : Overlay} {r : Recorded σ} (h : r.lines = o.line?.toList) :
    (o.clear r).2.lines = [] := by
  obtain ⟨style, current⟩ := o
  cases current with
  | none => exact h
  | some shown =>
    show (Surface.removeLine shown.2 r).lines = []
    rw [r.lines_removeLine, h]
    exact List.erase_cons_head shown.2 []

/-- The line of a new route is the only one, if there was none but that of the route before. -/
theorem lines_display {o : Overlay} {r : Recorded σ} (h : r.lines = o.line?.toList)
    (g : Geometry) : (o.display r g).2.lines = (o.display r g).1.line?.toList := by
  have hclear := lines_clear h
  simp [display, hclear, line?]

end Overlay

end Waymark
