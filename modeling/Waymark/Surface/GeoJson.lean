import Waymark.Json.Printer
import Waymark.Surface.Layers

/-!
# Layers as GeoJSON

The layers of a surface are exported as one collection of features: a point for every marker, then
a line for every line, each with its label. A position is a pair of a longitude and a latitude, in
this order.
-/

namespace Waymark

open Json

namespace Layers

/-- The position of a point. -/
def position (p : Point) : Json := .array [.ofFloat p.lng, .ofFloat p.lat]

/-- A feature with a geometry and properties. -/
def feature (kind : String) (coordinates : Json) (properties : List (String × Json)) : Json :=
  .object [("type", .string "Feature"),
    ("geometry", .object [("type", .string kind), ("coordinates", coordinates)]),
    ("properties", .object properties)]

/-- The feature of a marker. -/
def markerFeature (m : MarkerLayer) : Json :=
  feature "Point" (position m.point) [("popup", .string m.label)]

/-- The feature of a line. -/
def lineFeature (l : LineLayer) : Json :=
  feature "LineString" (.array (l.points.map position))
    [("color", .string l.style.color), ("opacity", .ofFloat l.style.opacity),
      ("popup", .string l.label), ("weight", .ofNat l.style.weight.toNat)]

/-- The collection of the features of all layers. -/
def featureCollection (s : Layers) : Json :=
  .object [("type", .string "FeatureCollection"),
    ("features", .array (s.markerLayers.map markerFeature ++ s.lineLayers.map lineFeature))]

end Layers

end Waymark
