import Waymark.Session.Basic

/-!
# The effects of the operations of a session

Every operation of a session is a short list of cases, and in each of them it is one equation: what
it answers and what the session is afterwards. The proofs about sessions and about their loops take
these equations and do not look into the operations themselves.
-/

namespace Waymark

namespace Selection

/-- The selection after a node was assigned with a current ticket of a target. -/
def spend (s : Selection) : Target → Selection
  | .toggle role => { s with current := none, active := role.other }
  | .manual _ => { s with current := none }

/-- No ticket is current after one was used. -/
@[simp] theorem spend_current (s : Selection) (target : Target) :
    (s.spend target).current = none := by
  cases target <;> rfl

/-- The use of a ticket issues none. -/
@[simp] theorem spend_issued (s : Selection) (target : Target) :
    (s.spend target).issued = s.issued := by
  cases target <;> rfl

/-- A ticket is current exactly when its number is the current one. -/
@[simp] theorem isCurrent_iff (s : Selection) (ticket : Ticket) :
    s.isCurrent ticket = true ↔ s.current = some ticket.seq := by
  simp [isCurrent]

/-- A node is assigned to the role of a current ticket, and the ticket is used up. -/
theorem apply_of_current {s : Selection} {ticket : Ticket} (h : s.current = some ticket.seq)
    (node : Node) :
    s.apply ticket node = (some (assignment ticket.target.role node), s.spend ticket.target) := by
  obtain ⟨seq, target⟩ := ticket
  unfold apply
  rw [if_pos ((isCurrent_iff _ _).2 h)]
  cases target <;> rfl

end Selection

/-- No route is shown after it was removed, and nothing else about the overlay changes. -/
@[simp] theorem Overlay.clear_fst {σ : Type} [Surface σ] (o : Overlay) (surface : σ) :
    (o.clear surface).1 = { o with current := none } := by
  obtain ⟨style, current⟩ := o
  cases current <;> rfl

/-- A route is shown by one line, after that of the route before was removed. -/
theorem Overlay.display_eq {σ : Type} [Surface σ] (o : Overlay) (surface : σ) (g : Geometry) :
    o.display surface g =
      let added := Surface.addLine g.path o.style (label g) (o.clear surface).2
      ({ o with current := some (g, added.1) }, added.2) := by
  obtain ⟨style, current⟩ := o
  cases current <;> rfl

namespace Session

variable {σ : Type}

/-- The session after a ticket for a target was issued. -/
def ticketed (s : Session σ) (target : Target) : Session σ :=
  { s with selection := (s.selection.issue target).2 }

/-- The session after a route request was numbered. -/
def requested (s : Session σ) : Session σ :=
  { s with routesIssued := s.routesIssued + 1, routeCurrent := some (s.routesIssued + 1) }

/-- The session without a current ticket. -/
def unticketed (s : Session σ) : Session σ := { s with selection := s.selection.invalidate }

/-- The session without a current route request. -/
def unrequested (s : Session σ) : Session σ := { s with routeCurrent := none }

/-- A click on what is no point is refused and changes nothing. -/
theorem beginClick_error {s : Session σ} {lat lng : Float} {fault : PointFault}
    (h : Point.check s.rule lat lng = .error fault) :
    s.beginClick lat lng = (.error (.invalidPoint fault), s) := by
  unfold beginClick
  rw [h]

/-- A click on a point gets the next ticket, for the active role. -/
theorem beginClick_ok {s : Session σ} {lat lng : Float} {point : Point}
    (h : Point.check s.rule lat lng = .ok point) :
    s.beginClick lat lng =
      (.ok ⟨⟨s.selection.issued + 1, .toggle s.active⟩, point⟩, s.ticketed (.toggle s.active)) := by
  unfold beginClick
  rw [h]
  rfl

/-- A click is refused and changes nothing, or it gets the next ticket, for the active role. -/
theorem beginClick_cases (s : Session σ) (lat lng : Float) :
    (∃ fault, Point.check s.rule lat lng = .error fault ∧
        s.beginClick lat lng = (.error (.invalidPoint fault), s)) ∨
      ∃ point, Point.check s.rule lat lng = .ok point ∧ s.beginClick lat lng =
        (.ok ⟨⟨s.selection.issued + 1, .toggle s.active⟩, point⟩, s.ticketed (.toggle s.active)) := by
  cases h : Point.check s.rule lat lng with
  | error fault => exact .inl ⟨fault, rfl, beginClick_error h⟩
  | ok point => exact .inr ⟨point, rfl, beginClick_ok h⟩

/-- A form entry that is no point is refused and changes nothing. -/
theorem beginSubmit_error {s : Session σ} {lat lng : String} {fault : PointFault}
    (h : Point.read s.rule lat lng = .error fault) (role : Role) :
    s.beginSubmit role lat lng = (.error (.invalidPoint fault), s) := by
  unfold beginSubmit
  rw [h]

/-- A form entry that is a point gets the next ticket, for its own role. -/
theorem beginSubmit_ok {s : Session σ} {lat lng : String} {point : Point}
    (h : Point.read s.rule lat lng = .ok point) (role : Role) :
    s.beginSubmit role lat lng =
      (.ok ⟨⟨s.selection.issued + 1, .manual role⟩, point⟩, s.ticketed (.manual role)) := by
  unfold beginSubmit
  rw [h]
  rfl

/-- A form entry is refused and changes nothing, or it gets the next ticket, for its own role. -/
theorem beginSubmit_cases (s : Session σ) (role : Role) (lat lng : String) :
    (∃ fault, Point.read s.rule lat lng = .error fault ∧
        s.beginSubmit role lat lng = (.error (.invalidPoint fault), s)) ∨
      ∃ point, Point.read s.rule lat lng = .ok point ∧ s.beginSubmit role lat lng =
        (.ok ⟨⟨s.selection.issued + 1, .manual role⟩, point⟩, s.ticketed (.manual role)) := by
  cases h : Point.read s.rule lat lng with
  | error fault => exact .inl ⟨fault, rfl, beginSubmit_error h role⟩
  | ok point => exact .inr ⟨point, rfl, beginSubmit_ok h role⟩

/-- A request for a route is refused and changes nothing, or it gets the next number. -/
theorem beginRoute_cases (s : Session σ) :
    (∃ role, s.markers.nodeId role = none ∧
        s.beginRoute = (.error (.missingEndpoint role), s)) ∨
      ∃ source destination, s.markers.nodeId .source = some source ∧
        s.markers.nodeId .destination = some destination ∧
        s.beginRoute = (.ok ⟨s.routesIssued + 1, source, destination⟩, s.requested) := by
  unfold beginRoute
  cases hs : s.markers.nodeId .source with
  | none => exact .inl ⟨.source, hs, rfl⟩
  | some source =>
    cases hd : s.markers.nodeId .destination with
    | none => exact .inl ⟨.destination, hd, rfl⟩
    | some destination => exact .inr ⟨source, destination, rfl, rfl, rfl⟩

variable [Surface σ]

/-- The marker that a node is given with a ticket of a target. -/
def placedMarker (s : Session σ) (target : Target) (node : Node) : Marker :=
  (s.markers.assign s.surface (Selection.assignment target.role node)).1

/-- The session after a node was placed with a current ticket of a target. -/
def placed (s : Session σ) (target : Target) (node : Node) : Session σ :=
  { s with
    selection := s.selection.spend target
    markers := (s.markers.assign s.surface (Selection.assignment target.role node)).2.1
    surface := (s.markers.assign s.surface (Selection.assignment target.role node)).2.2 }

/-- No route is shown after it was removed. -/
@[simp] theorem clearRoute_route (s : Session σ) : s.clearRoute.route = none := by
  show (s.overlay.clear s.surface).1.shown = none
  rw [Overlay.clear_fst]
  rfl

/-- There is no marker after a reset. -/
@[simp] theorem reset_marker (s : Session σ) (role : Role) : s.reset.marker role = none := by
  cases role <;> rfl

/-- No route is shown after a reset. -/
@[simp] theorem reset_route (s : Session σ) : s.reset.route = none := by
  show (s.overlay.clear (s.markers.clear s.surface).2).1.shown = none
  rw [Overlay.clear_fst]
  rfl

/-- The answer of a lookup whose ticket is not current changes nothing. -/
theorem completeLookup_stale {s : Session σ} {ticket : Ticket}
    (h : s.selection.current ≠ some ticket.seq) (answer : Except Error Node) :
    s.completeLookup ticket answer = (.ok (.stale ticket.seq), s) := by
  unfold completeLookup
  rw [if_neg (by simpa using h)]

/-- A failed lookup whose ticket is current uses up the ticket. -/
theorem completeLookup_error {s : Session σ} {ticket : Ticket}
    (h : s.selection.current = some ticket.seq) (e : Error) :
    s.completeLookup ticket (.error e) = (.error e, s.unticketed) := by
  unfold completeLookup
  rw [if_pos (by simpa using h)]
  rfl

/-- A node that is found while its ticket is current is placed. -/
theorem completeLookup_ok {s : Session σ} {ticket : Ticket}
    (h : s.selection.current = some ticket.seq) (node : Node) :
    s.completeLookup ticket (.ok node) =
      (.ok (.applied (s.placedMarker ticket.target node)), s.placed ticket.target node) := by
  unfold completeLookup
  rw [if_pos (by simpa using h)]
  simp only [Selection.apply_of_current h]
  rfl

/-- The answer of a lookup is stale, or it uses up its ticket: as a failure, or as a node that is
placed. -/
theorem completeLookup_cases (s : Session σ) (ticket : Ticket) (answer : Except Error Node) :
    (s.selection.current ≠ some ticket.seq ∧
        s.completeLookup ticket answer = (.ok (.stale ticket.seq), s)) ∨
      (s.selection.current = some ticket.seq ∧
        ((∃ e, answer = .error e ∧ s.completeLookup ticket answer = (.error e, s.unticketed)) ∨
          ∃ node, answer = .ok node ∧ s.completeLookup ticket answer =
            (.ok (.applied (s.placedMarker ticket.target node)),
              s.placed ticket.target node))) := by
  by_cases h : s.selection.current = some ticket.seq
  · refine .inr ⟨h, ?_⟩
    cases answer with
    | error e => exact .inl ⟨e, rfl, completeLookup_error h e⟩
    | ok node => exact .inr ⟨node, rfl, completeLookup_ok h node⟩
  · exact .inl ⟨h, completeLookup_stale h answer⟩

/-- The answer of a lookup uses up its ticket and no other one. -/
theorem completeLookup_current (s : Session σ) (ticket : Ticket) (answer : Except Error Node) :
    (s.completeLookup ticket answer).2.selection.current =
      if s.selection.current = some ticket.seq then none else s.selection.current := by
  rcases s.completeLookup_cases ticket answer with
    ⟨hc, h⟩ | ⟨hc, ⟨e, -, h⟩ | ⟨node, -, h⟩⟩
  · rw [h, if_neg hc]
  · rw [h, if_pos hc]
    rfl
  · rw [h, if_pos hc]
    exact Selection.spend_current _ _

/-- The answer of a lookup issues no ticket. -/
@[simp] theorem completeLookup_issued (s : Session σ) (ticket : Ticket)
    (answer : Except Error Node) :
    (s.completeLookup ticket answer).2.selection.issued = s.selection.issued := by
  rcases s.completeLookup_cases ticket answer with
    ⟨-, h⟩ | ⟨-, ⟨e, -, h⟩ | ⟨node, -, h⟩⟩
  · rw [h]
  · rw [h]
    rfl
  · rw [h]
    exact Selection.spend_issued _ _

/-- The answer of a lookup leaves the route and its requests alone. -/
@[simp] theorem completeLookup_route (s : Session σ) (ticket : Ticket)
    (answer : Except Error Node) :
    (s.completeLookup ticket answer).2.overlay = s.overlay ∧
      (s.completeLookup ticket answer).2.routeCurrent = s.routeCurrent ∧
      (s.completeLookup ticket answer).2.routesIssued = s.routesIssued := by
  rcases s.completeLookup_cases ticket answer with
    ⟨-, h⟩ | ⟨-, ⟨e, -, h⟩ | ⟨node, -, h⟩⟩ <;> rw [h] <;> exact ⟨rfl, rfl, rfl⟩

/-- The answer of a route request that is not current changes nothing. -/
theorem completeRoute_stale {s : Session σ} {request : RouteRequest}
    (h : s.routeCurrent ≠ some request.seq) (answer : Except Error Payload) :
    s.completeRoute request answer = (.ok (.stale request.seq), s) := by
  unfold completeRoute
  rw [if_neg h]

/-- A current route request that failed is used up. -/
theorem completeRoute_error {s : Session σ} {request : RouteRequest}
    (h : s.routeCurrent = some request.seq) (e : Error) :
    s.completeRoute request (.error e) = (.error e, s.unrequested) := by
  unfold completeRoute
  rw [if_pos h]
  rfl

/-- A current route request whose route may not be drawn is used up. -/
theorem completeRoute_refused {s : Session σ} {request : RouteRequest}
    (h : s.routeCurrent = some request.seq) {payload : Payload} {fault : PathFault}
    (hp : Geometry.ofPayload payload = .error fault) :
    s.completeRoute request (.ok payload) = (.error (.invalidPath fault), s.unrequested) := by
  unfold completeRoute
  rw [if_pos h]
  simp only [hp]
  rfl

/-- The route of a current request is shown, and the request is used up. -/
theorem completeRoute_ok {s : Session σ} {request : RouteRequest}
    (h : s.routeCurrent = some request.seq) {payload : Payload} {g : Geometry}
    (hp : Geometry.ofPayload payload = .ok g) :
    s.completeRoute request (.ok payload) = (.ok (.applied g), s.unrequested.display g) := by
  unfold completeRoute
  rw [if_pos h]
  simp only [hp]
  rfl

/-- The answer of a route request is stale, or it uses up the request: as a failure, or as a route
that is shown. -/
theorem completeRoute_cases (s : Session σ) (request : RouteRequest)
    (answer : Except Error Payload) :
    (s.routeCurrent ≠ some request.seq ∧
        s.completeRoute request answer = (.ok (.stale request.seq), s)) ∨
      (s.routeCurrent = some request.seq ∧
        ((∃ e, s.completeRoute request answer = (.error e, s.unrequested)) ∨
          ∃ payload g, answer = .ok payload ∧ Geometry.ofPayload payload = .ok g ∧
            s.completeRoute request answer = (.ok (.applied g), s.unrequested.display g))) := by
  by_cases h : s.routeCurrent = some request.seq
  · refine .inr ⟨h, ?_⟩
    cases answer with
    | error e => exact .inl ⟨e, completeRoute_error h e⟩
    | ok payload =>
      cases hp : Geometry.ofPayload payload with
      | error fault => exact .inl ⟨_, completeRoute_refused h hp⟩
      | ok g => exact .inr ⟨payload, g, rfl, hp, completeRoute_ok h hp⟩
  · exact .inl ⟨h, completeRoute_stale h answer⟩

/-- The answer of a route request uses up the request and no other one. -/
theorem completeRoute_routeCurrent (s : Session σ) (request : RouteRequest)
    (answer : Except Error Payload) :
    (s.completeRoute request answer).2.routeCurrent =
      if s.routeCurrent = some request.seq then none else s.routeCurrent := by
  rcases s.completeRoute_cases request answer with
    ⟨hc, h⟩ | ⟨hc, ⟨e, h⟩ | ⟨payload, g, -, -, h⟩⟩
  · rw [h, if_neg hc]
  · rw [h, if_pos hc]
    rfl
  · rw [h, if_pos hc]
    rfl

/-- The answer of a route request leaves the selection and the markers alone, and numbers nothing. -/
@[simp] theorem completeRoute_selection (s : Session σ) (request : RouteRequest)
    (answer : Except Error Payload) :
    (s.completeRoute request answer).2.selection = s.selection ∧
      (s.completeRoute request answer).2.markers = s.markers ∧
      (s.completeRoute request answer).2.routesIssued = s.routesIssued := by
  rcases s.completeRoute_cases request answer with
    ⟨-, h⟩ | ⟨-, ⟨e, h⟩ | ⟨payload, g, -, -, h⟩⟩ <;> rw [h] <;> exact ⟨rfl, rfl, rfl⟩

/-- A path that may not be drawn is refused. -/
theorem showRoute_error {meters : Float} {path : List Point} {fault : PathFault}
    (h : Geometry.build meters path = .error fault) (s : Session σ) :
    s.showRoute meters path = (.error (.invalidPath fault), s) := by
  unfold showRoute Overlay.showPath
  rw [h]

/-- A path that may be drawn is shown. -/
theorem showRoute_ok {meters : Float} {path : List Point} {g : Geometry}
    (h : Geometry.build meters path = .ok g) (s : Session σ) :
    s.showRoute meters path = (.ok g, s.unrequested.display g) := by
  unfold showRoute Overlay.showPath
  rw [h]
  rfl

/-- A path that may not be drawn is refused, and one that may is shown. -/
theorem showRoute_cases (s : Session σ) (meters : Float) (path : List Point) :
    (∃ fault, Geometry.build meters path = .error fault ∧
        s.showRoute meters path = (.error (.invalidPath fault), s)) ∨
      ∃ g, Geometry.build meters path = .ok g ∧
        s.showRoute meters path = (.ok g, s.unrequested.display g) := by
  cases h : Geometry.build meters path with
  | error fault => exact .inl ⟨fault, rfl, showRoute_error h s⟩
  | ok g => exact .inr ⟨g, rfl, showRoute_ok h s⟩

/-- A payload that may not be drawn is refused. -/
theorem showPayload_error {payload : Payload} {fault : PathFault}
    (h : Geometry.ofPayload payload = .error fault) (s : Session σ) :
    s.showPayload payload = (.error (.invalidPath fault), s) := by
  unfold showPayload
  rw [h]

/-- A payload that may be drawn is shown. -/
theorem showPayload_ok {payload : Payload} {g : Geometry}
    (h : Geometry.ofPayload payload = .ok g) (s : Session σ) :
    s.showPayload payload = (.ok g, s.unrequested.display g) := by
  unfold showPayload
  rw [h]
  rfl

/-- A payload that may not be drawn is refused, and one that may is shown. -/
theorem showPayload_cases (s : Session σ) (payload : Payload) :
    (∃ fault, Geometry.ofPayload payload = .error fault ∧
        s.showPayload payload = (.error (.invalidPath fault), s)) ∨
      ∃ g, Geometry.ofPayload payload = .ok g ∧
        s.showPayload payload = (.ok g, s.unrequested.display g) := by
  cases h : Geometry.ofPayload payload with
  | error fault => exact .inl ⟨fault, rfl, showPayload_error h s⟩
  | ok g => exact .inr ⟨g, rfl, showPayload_ok h s⟩

end Session

end Waymark
