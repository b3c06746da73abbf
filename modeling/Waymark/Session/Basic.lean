import Waymark.Markers
import Waymark.Route.Overlay
import Waymark.Settings.Basic

/-!
# Sessions

A session owns what a map page changes: the surface, the selection, the markers and the route.
Nodes and routes are asked for in two steps, so that several requests may be on their way at
once: `beginClick`, `beginSubmit` and `beginRoute` check what the user did and number the request,
`completeLookup` and `completeRoute` apply its answer. Only the last lookup and the last route
request count; the answer of an older one is stale and changes nothing.
-/

namespace Waymark

/-- A lookup of the node next to a point. -/
structure Lookup where
  /-- The ticket of the gesture. -/
  ticket : Ticket
  /-- The point. -/
  point : Point

/-- A request for the route between two nodes. -/
structure RouteRequest where
  /-- Its place among all route requests, from one on. -/
  seq : Nat
  /-- The node at which the route starts. -/
  source : UInt64
  /-- The node at which it ends. -/
  destination : UInt64
deriving DecidableEq, Repr

/-- What became of an answer. -/
inductive Outcome (α : Type) where
  /-- It was applied. -/
  | applied (value : α)
  /-- A newer request took the place of request `seq`, and nothing changed. -/
  | stale (seq : Nat)

/-- The state of a map page. -/
structure Session (σ : Type) where
  /-- The map. -/
  surface : σ
  /-- Which role the next node is given. -/
  selection : Selection
  /-- The markers of the two roles. -/
  markers : Markers
  /-- The route on the map. -/
  overlay : Overlay
  /-- The rule for points of clicks and forms. -/
  rule : Rule
  /-- How many milliseconds a request may take. -/
  timeoutMs : Nat
  /-- How many route requests were made. -/
  routesIssued : Nat := 0
  /-- The route request that counts, if any does. -/
  routeCurrent : Option Nat := none

namespace Session

variable {σ : Type}

/-- The role of the next click. -/
def active (s : Session σ) : Role := s.selection.active

/-- The marker of a role. -/
def marker (s : Session σ) (role : Role) : Option Marker := s.markers.get role

/-- The route that is shown. -/
def route (s : Session σ) : Option Geometry := s.overlay.shown

/-- Checks the point of a click and issues a ticket for the active role. -/
def beginClick (s : Session σ) (lat lng : Float) : Except Error Lookup × Session σ :=
  match Point.check s.rule lat lng with
  | .error fault => (.error (.invalidPoint fault), s)
  | .ok point =>
    let (ticket, selection) := s.selection.issueToggle
    (.ok ⟨ticket, point⟩, { s with selection })

/-- Reads the point of a form entry and issues a ticket for its role. -/
def beginSubmit (s : Session σ) (role : Role) (lat lng : String) :
    Except Error Lookup × Session σ :=
  match Point.read s.rule lat lng with
  | .error fault => (.error (.invalidPoint fault), s)
  | .ok point =>
    let (ticket, selection) := s.selection.issueManual role
    (.ok ⟨ticket, point⟩, { s with selection })

/-- Numbers a request for the route between the nodes of the two markers. -/
def beginRoute (s : Session σ) : Except Error RouteRequest × Session σ :=
  match s.markers.nodeId .source, s.markers.nodeId .destination with
  | none, _ => (.error (.missingEndpoint .source), s)
  | some _, none => (.error (.missingEndpoint .destination), s)
  | some source, some destination =>
    let seq := s.routesIssued + 1
    (.ok ⟨seq, source, destination⟩, { s with routesIssued := seq, routeCurrent := some seq })

variable [Surface σ]

/-- A session on a surface, which is moved to the first view. -/
def start (surface : σ) (settings : Settings) : Session σ where
  surface := Surface.centerOn settings.center settings.initialZoom surface
  selection := .start settings.firstRole
  markers := .empty settings.focusZoom
  overlay := { style := settings.style }
  rule := settings.validation
  timeoutMs := settings.timeoutMs.toNat

/-- Applies the answer of a lookup. An answer that is not stale uses up its ticket; a failure
leaves the markers and the active role alone. -/
def completeLookup (s : Session σ) (ticket : Ticket) (answer : Except Error Node) :
    Except Error (Outcome Marker) × Session σ :=
  if s.selection.isCurrent ticket then
    match answer with
    | .error e => (.error e, { s with selection := s.selection.invalidate })
    | .ok node =>
      match s.selection.apply ticket node with
      | (some assignment, selection) =>
        let (marker, markers, surface) := s.markers.assign s.surface assignment
        (.ok (.applied marker), { s with selection, markers, surface })
      | (none, selection) => (.ok (.stale ticket.seq), { s with selection })
  else (.ok (.stale ticket.seq), s)

/-- Shows a route in place of the one before. -/
def display (s : Session σ) (g : Geometry) : Session σ :=
  let (overlay, surface) := s.overlay.display s.surface g
  { s with overlay, surface }

/-- Applies the answer of a route request. An answer that is not stale uses up the request; a
failure leaves the route that is shown alone. -/
def completeRoute (s : Session σ) (request : RouteRequest) (answer : Except Error Payload) :
    Except Error (Outcome Geometry) × Session σ :=
  if s.routeCurrent = some request.seq then
    let s := { s with routeCurrent := none }
    match answer with
    | .error e => (.error e, s)
    | .ok payload => match Geometry.ofPayload payload with
      | .error fault => (.error (.invalidPath fault), s)
      | .ok g => (.ok (.applied g), s.display g)
  else (.ok (.stale request.seq), s)

/-- Shows the route of a distance and a path. No route request counts afterwards, unless the route
is refused. -/
def showRoute (s : Session σ) (meters : Float) (path : List Point) :
    Except Error Geometry × Session σ :=
  match s.overlay.showPath s.surface meters path with
  | (.ok g, overlay, surface) => (.ok g, { s with overlay, surface, routeCurrent := none })
  | (.error fault, overlay, surface) => (.error (.invalidPath fault), { s with overlay, surface })

/-- Shows the route that a service sent. No route request counts afterwards, unless the route is
refused. -/
def showPayload (s : Session σ) (payload : Payload) : Except Error Geometry × Session σ :=
  match Geometry.ofPayload payload with
  | .error fault => (.error (.invalidPath fault), s)
  | .ok g => (.ok g, { s with routeCurrent := none }.display g)

/-- Removes the route that is shown, if there is one. A route request that is on its way still
counts. -/
def clearRoute (s : Session σ) : Session σ :=
  let (overlay, surface) := s.overlay.clear s.surface
  { s with overlay, surface }

/-- Removes the markers and the route, and makes every request on its way stale. -/
def reset (s : Session σ) : Session σ :=
  let (markers, surface) := s.markers.clear s.surface
  let (overlay, surface) := s.overlay.clear surface
  { s with surface, markers, overlay, selection := s.selection.reset, routeCurrent := none }

end Session

end Waymark
