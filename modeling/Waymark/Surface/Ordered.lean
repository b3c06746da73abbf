import Mathlib.Data.List.Sort
import Waymark.Surface.Layers

/-!
# Layers in ordered maps

A surface that keeps the markers and the lines in two maps, ordered by the numbers of their handles.
One counter of 64 bits numbers the layers of both kinds. What stands in a map is listed in the order
of the numbers, and looked up by its handle.
-/

namespace Waymark

/-- Handles of markers are ordered by their numbers. -/
instance : Ord MarkerHandle := ⟨compareOn MarkerHandle.id⟩

/-- Handles of lines are ordered by their numbers. -/
instance : Ord LineHandle := ⟨compareOn LineHandle.id⟩

/-- The order of the handles of markers is linear. -/
instance : Std.TransOrd MarkerHandle := inferInstanceAs (Std.TransCmp (compareOn MarkerHandle.id))

/-- The order of the handles of lines is linear. -/
instance : Std.TransOrd LineHandle := inferInstanceAs (Std.TransCmp (compareOn LineHandle.id))

/-- Handles of markers with the same number are the same. -/
instance : Std.LawfulEqOrd MarkerHandle where
  eq_of_compare {a b} h := by
    have hid : a.id = b.id := Std.LawfulEqOrd.eq_of_compare h
    exact congrArg MarkerHandle.mk hid

/-- Handles of lines with the same number are the same. -/
instance : Std.LawfulEqOrd LineHandle where
  eq_of_compare {a b} h := by
    have hid : a.id = b.id := Std.LawfulEqOrd.eq_of_compare h
    exact congrArg LineHandle.mk hid

/-- A surface that is made of two ordered maps. -/
structure OrderedLayers where
  /-- The markers by their handles. -/
  markers : Std.ExtTreeMap MarkerHandle MarkerLayer := ∅
  /-- The lines by their handles. -/
  lines : Std.ExtTreeMap LineHandle LineLayer := ∅
  /-- The last view, if there was one. -/
  view : Option View := none
  /-- The number of the last handle that was given out. -/
  issued : UInt64 := 0

namespace OrderedLayers

/-- A surface with nothing on it. -/
def empty : OrderedLayers := {}

/-- Puts a marker under the next number. -/
def addMarker (point : Point) (label : String) (s : OrderedLayers) : MarkerHandle × OrderedLayers :=
  let issued := s.issued + 1
  let handle : MarkerHandle := ⟨issued.toNat⟩
  (handle, { s with markers := s.markers.insert handle ⟨point, label⟩, issued })

/-- Removes the marker of a handle. -/
def removeMarker (handle : MarkerHandle) (s : OrderedLayers) : OrderedLayers :=
  { s with markers := s.markers.erase handle }

/-- Puts a line under the next number. -/
def addLine (points : List Point) (style : LineStyle) (label : String) (s : OrderedLayers) :
    LineHandle × OrderedLayers :=
  let issued := s.issued + 1
  let handle : LineHandle := ⟨issued.toNat⟩
  (handle, { s with lines := s.lines.insert handle ⟨points, style, label⟩, issued })

/-- Removes the line of a handle. -/
def removeLine (handle : LineHandle) (s : OrderedLayers) : OrderedLayers :=
  { s with lines := s.lines.erase handle }

/-- Moves the view. -/
def centerOn (point : Point) (zoom : UInt8) (s : OrderedLayers) : OrderedLayers :=
  { s with view := some ⟨point, zoom⟩ }

instance : Surface OrderedLayers where
  addMarker := addMarker
  removeMarker := removeMarker
  addLine := addLine
  removeLine := removeLine
  centerOn := centerOn

/-- The marker of a handle. -/
def marker? (handle : MarkerHandle) (s : OrderedLayers) : Option MarkerLayer := s.markers[handle]?

/-- The line of a handle. -/
def line? (handle : LineHandle) (s : OrderedLayers) : Option LineLayer := s.lines[handle]?

/-- The markers in the order of their numbers. -/
def markerLayers (s : OrderedLayers) : List MarkerLayer := s.markers.toList.map (·.2)

/-- The lines in the order of their numbers. -/
def lineLayers (s : OrderedLayers) : List LineLayer := s.lines.toList.map (·.2)

end OrderedLayers

end Waymark
