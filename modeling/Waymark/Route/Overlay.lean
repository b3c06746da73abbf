import Waymark.Route.Geometry
import Waymark.Surface.Basic

/-!
# The route on the map

At most one route is shown, as one line. A new route takes the place of the old one, and one that
may not be drawn is refused before the surface is touched.
-/

namespace Waymark

/-- The route that is shown, and how routes are drawn. -/
structure Overlay where
  /-- How routes are drawn. -/
  style : LineStyle
  /-- The route that is shown, with its line. -/
  current : Option (Geometry × LineHandle) := none

namespace Overlay

/-- The route that is shown. -/
def shown (o : Overlay) : Option Geometry := o.current.map (·.1)

/-- The label of the line of a route. -/
def label (g : Geometry) : String := "distance: " ++ Decimal.floatText g.meters ++ " m"

variable {σ : Type} [Surface σ]

/-- Removes the route that is shown, if there is one. -/
def clear (o : Overlay) (surface : σ) : Overlay × σ :=
  match o.current with
  | some (_, handle) => ({ o with current := none }, Surface.removeLine handle surface)
  | none => (o, surface)

/-- Shows a route in place of the one before. -/
def display (o : Overlay) (surface : σ) (g : Geometry) : Overlay × σ :=
  let (o, surface) := o.clear surface
  let (handle, surface) := Surface.addLine g.path o.style (label g) surface
  ({ o with current := some (g, handle) }, surface)

/-- Shows the route of a distance and a path, if it may be drawn. -/
def showPath (o : Overlay) (surface : σ) (meters : Float) (path : List Point) :
    Except PathFault Geometry × Overlay × σ :=
  match Geometry.build meters path with
  | .ok g => (.ok g, o.display surface g)
  | .error fault => (.error fault, o, surface)

end Overlay

end Waymark
