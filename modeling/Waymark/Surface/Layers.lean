import Waymark.Surface.Basic

/-!
# Layers

The surface that a program keeps for itself: lists of the markers and the lines on it, in the
order in which they were added, and the last view. Handles are numbered from one, markers and
lines together, and a number is never used twice.
-/

namespace Waymark

/-- A marker on the surface. -/
structure MarkerLayer where
  /-- Where it stands. -/
  point : Point
  /-- Its label. -/
  label : String

/-- A line on the surface. -/
structure LineLayer where
  /-- The points that it runs through. -/
  points : List Point
  /-- How it is drawn. -/
  style : LineStyle
  /-- Its label. -/
  label : String

/-- What a surface looks at. -/
structure View where
  /-- The point in the middle. -/
  center : Point
  /-- The zoom. -/
  zoom : UInt8

/-- A surface that is a list of layers. -/
structure Layers where
  /-- The markers, in order, with their handles. -/
  markers : List (MarkerHandle × MarkerLayer) := []
  /-- The lines, in order, with their handles. -/
  lines : List (LineHandle × LineLayer) := []
  /-- The last view, if there was one. -/
  view : Option View := none
  /-- How many handles were given out. -/
  issued : Nat := 0

namespace Layers

/-- A surface with nothing on it. -/
def empty : Layers := {}

/-- Places a marker at the end of the list. -/
def addMarker (point : Point) (label : String) (s : Layers) : MarkerHandle × Layers :=
  let handle : MarkerHandle := ⟨s.issued + 1⟩
  (handle, { s with
    markers := s.markers ++ [(handle, ⟨point, label⟩)]
    issued := s.issued + 1 })

/-- Removes the marker of a handle. -/
def removeMarker (handle : MarkerHandle) (s : Layers) : Layers :=
  { s with markers := s.markers.filter fun (h, _) => h != handle }

/-- Draws a line at the end of the list. -/
def addLine (points : List Point) (style : LineStyle) (label : String) (s : Layers) :
    LineHandle × Layers :=
  let handle : LineHandle := ⟨s.issued + 1⟩
  (handle, { s with
    lines := s.lines ++ [(handle, ⟨points, style, label⟩)]
    issued := s.issued + 1 })

/-- Removes the line of a handle. -/
def removeLine (handle : LineHandle) (s : Layers) : Layers :=
  { s with lines := s.lines.filter fun (h, _) => h != handle }

/-- Moves the view. -/
def centerOn (point : Point) (zoom : UInt8) (s : Layers) : Layers :=
  { s with view := some ⟨point, zoom⟩ }

instance : Surface Layers where
  addMarker := addMarker
  removeMarker := removeMarker
  addLine := addLine
  removeLine := removeLine
  centerOn := centerOn

/-- The marker of a handle. -/
def marker? (handle : MarkerHandle) (s : Layers) : Option MarkerLayer :=
  (s.markers.find? fun (h, _) => h == handle).map (·.2)

/-- The line of a handle. -/
def line? (handle : LineHandle) (s : Layers) : Option LineLayer :=
  (s.lines.find? fun (h, _) => h == handle).map (·.2)

/-- The markers in order. -/
def markerLayers (s : Layers) : List MarkerLayer := s.markers.map (·.2)

/-- The lines in order. -/
def lineLayers (s : Layers) : List LineLayer := s.lines.map (·.2)

end Layers

end Waymark
