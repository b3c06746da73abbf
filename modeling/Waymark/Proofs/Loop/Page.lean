import Waymark.Proofs.Loop.Trace
import Waymark.Surface.Layers

/-!
# A page that follows the events

A page that knows nothing of a session but its events shows what the session holds. `Page.after` is
how such a page takes an event: it puts a marker into the slot of its role, it notes the length of a
route and the number of its points, and it passes over all that was discarded or refused. Every way
in which a loop changes its session leaves the event that changes the page in the same way, so that
after every run the page is that of the session.
-/

namespace Waymark

/-- What a page shows. -/
structure Page where
  /-- The marker of the source. -/
  source : Option Marker := none
  /-- The marker of the destination. -/
  destination : Option Marker := none
  /-- The distance in meters and the number of points of the route. -/
  route : Option (Float × Nat) := none

namespace Page

/-- The page after an event. -/
def after (p : Page) : Event → Page
  | .markerPlaced m =>
    match m.role with
    | .source => { p with source := some m }
    | .destination => { p with destination := some m }
  | .routeShown meters points => { p with route := some (meters, points) }
  | .routeCleared => { p with route := none }
  | .reset => {}
  | .lookupDiscarded _ | .routeDiscarded _ | .notice _ => p

variable {σ : Type}

/-- The page of a session. -/
def of (s : Session σ) : Page where
  source := s.marker .source
  destination := s.marker .destination
  route := s.route.map fun g => (g.meters, g.path.length)

variable [Surface σ]

/-- A marker is placed on the page as in the session. -/
theorem of_placed (s : Session σ) (target : Target) (node : Node) :
    of (s.placed target node) = (of s).after (.markerPlaced (s.placedMarker target node)) := by
  rcases target with role | role <;> cases role <;> rfl

/-- A route is shown on the page as in the session. -/
theorem of_display (s : Session σ) (g : Geometry) : of (s.display g) = (of s).after (Loop.shown g) :=
  rfl

/-- The route is removed from the page as from the session. -/
theorem of_clearRoute (s : Session σ) : of s.clearRoute = (of s).after .routeCleared := by
  unfold of
  rw [Session.clearRoute_route]
  rfl

/-- Everything is removed from the page as from the session. -/
theorem of_reset (s : Session σ) : of s.reset = (of s).after .reset := by
  unfold of
  rw [Session.reset_marker, Session.reset_marker, Session.reset_route]
  rfl

/-- The page takes the event of the answer of a lookup as the session takes the answer. -/
theorem of_completeLookup (s : Session σ) (ticket : Ticket) (answer : Except Error Node) :
    of (s.completeLookup ticket answer).2 =
      (of s).after (Loop.lookupEvent (s.completeLookup ticket answer).1) := by
  rcases s.completeLookup_cases ticket answer with
    ⟨-, h⟩ | ⟨-, ⟨e, -, h⟩ | ⟨node, -, h⟩⟩
  · rw [h]
    rfl
  · rw [h]
    rfl
  · rw [h]
    exact of_placed s ticket.target node

/-- The page takes the event of the answer of a route request as the session takes the answer. -/
theorem of_completeRoute (s : Session σ) (request : RouteRequest)
    (answer : Except Error Payload) :
    of (s.completeRoute request answer).2 =
      (of s).after (Loop.routeEvent (s.completeRoute request answer).1) := by
  rcases s.completeRoute_cases request answer with
    ⟨-, h⟩ | ⟨-, ⟨e, h⟩ | ⟨payload, g, -, -, h⟩⟩
  · rw [h]
    rfl
  · rw [h]
    rfl
  · rw [h]
    exact of_display s.unrequested g

end Page

namespace Loop

variable {σ : Type} [Surface σ]

/-- The page takes the events of a round as the session takes the round. -/
theorem Round.page {l l' : Loop σ} {s : Signal} {w : Option Work} {es : List Event}
    (r : Round l s w es l') : Page.of l'.session = es.foldl Page.after (Page.of l.session) := by
  cases r with
  | refuse | startLookup | startRoute | settle | finish | idle | reapCrashed | reapAborted => rfl
  | @«show» payload g hg => exact Page.of_display l.session.unrequested g
  | clear => exact Page.of_clearRoute l.session
  | reset => exact Page.of_reset l.session
  | @reapLookup id k answer => exact Page.of_completeLookup l.session k.ticket answer
  | @reapRoute id q answer => exact Page.of_completeRoute l.session q answer

/-- A page that showed what the session of a loop held, and took all events since, shows what the
session holds now. -/
theorem run_page (l : Loop σ) (signals : List Signal) :
    Page.of (l.run signals).2.session =
      (l.run signals).1.events.foldl Page.after (Page.of l.session) := by
  rw [run_events]
  refine run_induction
    (P := fun past last => Page.of last.session =
      (past.flatMap Moment.events).foldl Page.after (Page.of l.session)) ?_ [] rfl
  intro past last s _ h
  obtain ⟨l', waiters, hround, hafter⟩ := Moment.round ⟨last, s⟩
  -- The events of the past led to the page of the session before the round.
  rw [List.flatMap_append, List.foldl_append, ← h, List.flatMap_singleton]
  show Page.of (Moment.after ⟨last, s⟩).session = _
  rw [hafter]
  exact hround.page

/-- On a session with no marker and no route, a page that is empty at first and takes every event
shows at every head of the loop the two markers of the session and the distance and the number of
points of its route. -/
theorem events_show_session (session : Session σ) (signals : List Signal)
    (hmarker : ∀ role, session.marker role = none) (hroute : session.route = none) :
    let page := ((start session).run signals).1.events.foldl Page.after {}
    let last := ((start session).run signals).2.session
    page.source = last.marker .source ∧ page.destination = last.marker .destination ∧
      page.route = last.route.map fun g => (g.meters, g.path.length) := by
  have hempty : Page.of session = {} := by
    unfold Page.of
    rw [hmarker, hmarker, hroute]
    rfl
  have hpage := run_page (start session) signals
  rw [show (start session).session = session from rfl, hempty] at hpage
  intro page last
  rw [← show Page.of last = page from hpage]
  exact ⟨rfl, rfl, rfl⟩

/-- The page of a session in which the node of a click was found shows a marker. -/
theorem events_show_session_click :
    let session := Session.start Layers.empty .default
    let signals : List Signal := [.command (.click 48.0 9.0),
      .ended 0 (.node (.ok ⟨⟨48.0, 9.0⟩, 7⟩)), .reaped 0]
    let page := ((start session).run signals).1.events.foldl Page.after {}
    (∀ role, session.marker role = none) ∧ session.route = none ∧ page.source.isSome = true ∧
      page.source = ((start session).run signals).2.session.marker .source := by
  intro session signals page
  have hmarker : ∀ role, session.marker role = none := by
    intro role
    cases role <;> rfl
  have hsource : page.source.isSome = true := by decide
  exact ⟨hmarker, rfl, hsource, (events_show_session session signals hmarker rfl).1⟩

end Loop

end Waymark
