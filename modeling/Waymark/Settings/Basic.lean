import Waymark.Error
import Waymark.Surface.Basic

/-!
# Settings

The settings of a session are a record of thirteen values. They are read and changed by key as
texts: `Settings.get` writes a value, `Settings.put` reads one, and `Settings.set` also demands
that the settings are good afterwards, which `Settings.check` decides.
-/

namespace Waymark

open Decimal

/-- The settings of a session. -/
structure Settings where
  /-- The address of the lookup service. -/
  baseUrl : String
  /-- The path of the lookup of a node, below the address. -/
  closestPath : String
  /-- The path of the query of a route, below the address. -/
  routePath : String
  /-- How many milliseconds a request may take. -/
  timeoutMs : UInt64
  /-- The latitude of the first view. -/
  centerLat : Float
  /-- The longitude of the first view. -/
  centerLng : Float
  /-- The zoom of the first view. -/
  initialZoom : UInt8
  /-- The zoom of the view of a new marker. -/
  focusZoom : UInt8
  /-- The colour of the route. -/
  color : String
  /-- The width of the route. -/
  weight : UInt32
  /-- The opacity of the route. -/
  opacity : Float
  /-- The role of the first click. -/
  firstRole : Role
  /-- The rule for clicks and form entries. -/
  validation : Rule

namespace Settings

/-- The settings of a session that nobody changed. -/
def default : Settings where
  baseUrl := "http://127.0.0.1:8080"
  closestPath := "closest_neighbour"
  routePath := "route"
  timeoutMs := 5000
  centerLat := 48.77490788045187
  centerLng := 9.17959213256836
  initialZoom := 8
  focusZoom := 10
  color := "#ff7800"
  weight := 5
  opacity := 0.65
  firstRole := .source
  validation := .geographic

/-- The largest zoom of the map. -/
def maxZoom : UInt8 := 18

/-- The center of the first view. -/
def center (s : Settings) : Point := ⟨s.centerLat, s.centerLng⟩

/-- How routes are drawn. -/
def style (s : Settings) : LineStyle := ⟨s.color, s.weight, s.opacity⟩

/-- Whether the settings are good, and the first thing that is wrong if not. -/
def check (s : Settings) : Except SettingsFault Unit :=
  if Text.allBlank s.baseUrl then .error .blankAddress
  else if s.timeoutMs = 0 then .error .noTime
  else match Point.check .geographic s.centerLat s.centerLng with
    | .error fault => .error (.center fault)
    | .ok _ =>
      if maxZoom < s.initialZoom then
        .error (.zoom .initialZoom maxZoom.toNat s.initialZoom.toNat)
      else if maxZoom < s.focusZoom then .error (.zoom .focusZoom maxZoom.toNat s.focusZoom.toNat)
      else if !(0.0 ≤ s.opacity && s.opacity ≤ 1.0) then .error (.opacity s.opacity)
      else .ok ()

/-- The value of a key as a text. -/
def get (s : Settings) : Key → String
  | .baseUrl => s.baseUrl
  | .closestPath => s.closestPath
  | .routePath => s.routePath
  | .timeoutMs => natText s.timeoutMs.toNat
  | .centerLat => floatText s.centerLat
  | .centerLng => floatText s.centerLng
  | .initialZoom => natText s.initialZoom.toNat
  | .focusZoom => natText s.focusZoom.toNat
  | .color => s.color
  | .weight => natText s.weight.toNat
  | .opacity => floatText s.opacity
  | .firstRole => s.firstRole.name
  | .validation => s.validation.name

/-- The value of a key given by its full name. -/
def get? (s : Settings) (key : String) : Option String := (Key.ofName? key).map s.get

/-- Reads a natural number of a key, below `bound`. -/
def readNat (key : Key) (bound : Nat) (text : String) : Except SettingsFault Nat :=
  match readBelow? bound text with
  | some n => .ok n
  | none => .error (.badValue key text)

/-- Reads a double of a key. -/
def readFloat (key : Key) (text : String) : Except SettingsFault Float :=
  match readFloat? text with
  | some x => .ok x
  | none => .error (.badValue key text)

/-- The settings with the value of a key read from a text, good or not. -/
def put (s : Settings) (key : Key) (text : String) : Except SettingsFault Settings :=
  match key with
  | .baseUrl => .ok { s with baseUrl := text }
  | .closestPath => .ok { s with closestPath := text }
  | .routePath => .ok { s with routePath := text }
  | .timeoutMs => (readNat key (1 <<< 64) text).map fun n => { s with timeoutMs := .ofNat n }
  | .centerLat => (readFloat key text).map fun x => { s with centerLat := x }
  | .centerLng => (readFloat key text).map fun x => { s with centerLng := x }
  | .initialZoom => (readNat key (1 <<< 8) text).map fun n => { s with initialZoom := .ofNat n }
  | .focusZoom => (readNat key (1 <<< 8) text).map fun n => { s with focusZoom := .ofNat n }
  | .color => .ok { s with color := text }
  | .weight => (readNat key (1 <<< 32) text).map fun n => { s with weight := .ofNat n }
  | .opacity => (readFloat key text).map fun x => { s with opacity := x }
  | .firstRole => match Role.parse? text with
    | some role => .ok { s with firstRole := role }
    | none => .error (.unknownRole text)
  | .validation => match Rule.parse? text with
    | some rule => .ok { s with validation := rule }
    | none => .error (.unknownRule text)

/-- The settings with another value for a key given by its full name, if they are good then. -/
def set (s : Settings) (key text : String) : Except SettingsFault Settings :=
  match Key.ofName? key with
  | none => .error (.unknownKey key)
  | some k => do
    let changed ← s.put k text
    changed.check
    return changed

end Settings

end Waymark
