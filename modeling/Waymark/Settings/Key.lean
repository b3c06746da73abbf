/-!
# Keys

The settings are thirteen values, each with a key of the form `section.entry`.
-/

namespace Waymark

/-- A section of the settings. -/
inductive Section where
  /-- The lookup service. -/
  | lookup
  /-- The view of the map. -/
  | map
  /-- The style of the route. -/
  | route
  /-- The selection of nodes. -/
  | selection
deriving DecidableEq, Repr

namespace Section

/-- The name of a section. -/
def name : Section → String
  | .lookup => "lookup"
  | .map => "map"
  | .route => "route"
  | .selection => "selection"

/-- The sections in the order in which they are written. -/
def all : List Section := [.lookup, .map, .route, .selection]

end Section

/-- A value of the settings. -/
inductive Key where
  /-- The address of the lookup service. -/
  | baseUrl
  /-- The path of the lookup of a node, below the address. -/
  | closestPath
  /-- The path of the query of a route, below the address. -/
  | routePath
  /-- How long a request may take. -/
  | timeoutMs
  /-- The latitude of the first view. -/
  | centerLat
  /-- The longitude of the first view. -/
  | centerLng
  /-- The zoom of the first view. -/
  | initialZoom
  /-- The zoom of the view of a new marker. -/
  | focusZoom
  /-- The colour of the route. -/
  | color
  /-- The width of the route. -/
  | weight
  /-- The opacity of the route. -/
  | opacity
  /-- The role of the first click. -/
  | firstRole
  /-- The rule for clicks and form entries. -/
  | validation
deriving DecidableEq, Repr

namespace Key

/-- The keys in the order in which they are listed and written. -/
def all : List Key :=
  [.baseUrl, .closestPath, .routePath, .timeoutMs, .centerLat, .centerLng, .initialZoom,
    .focusZoom, .color, .weight, .opacity, .firstRole, .validation]

/-- The section that a key belongs to. -/
def area : Key → Section
  | .baseUrl | .closestPath | .routePath | .timeoutMs => .lookup
  | .centerLat | .centerLng | .initialZoom | .focusZoom => .map
  | .color | .weight | .opacity => .route
  | .firstRole | .validation => .selection

/-- The name of a key in its section. -/
def entry : Key → String
  | .baseUrl => "base_url"
  | .closestPath => "closest_path"
  | .routePath => "route_path"
  | .timeoutMs => "timeout_ms"
  | .centerLat => "center_lat"
  | .centerLng => "center_lng"
  | .initialZoom => "initial_zoom"
  | .focusZoom => "focus_zoom"
  | .color => "color"
  | .weight => "weight"
  | .opacity => "opacity"
  | .firstRole => "first_role"
  | .validation => "validation"

/-- The full name of a key. -/
def name (k : Key) : String := k.area.name ++ "." ++ k.entry

/-- The key with a full name. -/
def ofName? (text : String) : Option Key := all.find? fun k => k.name == text

/-- The keys of a section, in order. -/
def allIn (area : Section) : List Key := all.filter fun k => k.area == area

end Key

end Waymark
