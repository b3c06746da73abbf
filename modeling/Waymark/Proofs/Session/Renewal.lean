import Waymark.Proofs.Session.Delivery
import Waymark.Proofs.Session.Mirror
import Waymark.Proofs.Session.Failure
import Waymark.Proofs.Surface.Renumber

/-!
# A reset is as good as a new session

A reset does not rewind what a session has counted: its tickets, its route requests and the handles
of its surface go on above those that were given out before. So a session that goes on after a reset
is a new one with all its numbers raised (`Session.raise`), and every operation does to it what it
does to the new one (`act_raise`). The answers to what was asked for before the reset come with
numbers that are not above those, and are stale (`AsNew.act_of_isOld`); without them, the two go
through the same operations (`reset_renews`).

The view is the one thing that a reset leaves as it was. It is that of a new session from the next
marker on.
-/

namespace Waymark

/-- A ticket whose number is raised. -/
def Ticket.raise (n : Nat) (ticket : Ticket) : Ticket := { ticket with seq := n + ticket.seq }

/-- A route request whose number is raised. -/
def RouteRequest.raise (n : Nat) (q : RouteRequest) : RouteRequest := { q with seq := n + q.seq }

namespace Session

/-- How many of each were given out. -/
structure Numbers where
  /-- The tickets. -/
  tickets : Nat
  /-- The route requests. -/
  routes : Nat
  /-- The handles of the surface. -/
  handles : Nat

/-- How many tickets, route requests and handles a session and its surface have given out. -/
def numbers (s : Session Layers) : Numbers :=
  ⟨s.selection.issued, s.routesIssued, s.surface.issued⟩

variable (old : Numbers)

/-- A session that goes on counting from some numbers, with another view. -/
def raise (view : Option View) (s : Session Layers) : Session Layers where
  surface := s.surface.raise old.handles view
  selection := { s.selection with
    issued := old.tickets + s.selection.issued
    current := s.selection.current.map (old.tickets + ·) }
  markers := s.markers.renumber (old.handles + ·)
  overlay := s.overlay.renumber (old.handles + ·)
  rule := s.rule
  timeoutMs := s.timeoutMs
  routesIssued := old.routes + s.routesIssued
  routeCurrent := s.routeCurrent.map (old.routes + ·)

namespace Request

/-- Whether the number of a request is one of those that were given out. -/
def isOld : Request → Bool
  | .lookup ticket => ticket.seq ≤ old.tickets
  | .route request => request.seq ≤ old.routes

/-- A request whose number is raised. -/
def raise : Request → Request
  | .lookup ticket => .lookup (ticket.raise old.tickets)
  | .route request => .route (request.raise old.routes)

end Request

namespace Operation

/-- Whether an operation is the answer to a request whose number is one of those that were given
out. -/
def isOld : Operation → Bool
  | .completeLookup ticket _ => (Request.lookup ticket).isOld old
  | .completeRoute request _ => (Request.route request).isOld old
  | _ => false

/-- An operation with the number of the request that it answers raised. -/
def raise : Operation → Operation
  | .completeLookup ticket answer => .completeLookup (ticket.raise old.tickets) answer
  | .completeRoute request answer => .completeRoute (request.raise old.routes) answer
  | operation => operation

/-- An operation with the number of the request that it answers lowered. -/
def lower : Operation → Operation
  | .completeLookup ticket answer =>
    .completeLookup { ticket with seq := ticket.seq - old.tickets } answer
  | .completeRoute request answer =>
    .completeRoute { request with seq := request.seq - old.routes } answer
  | operation => operation

variable {old}

/-- What was lowered is raised to what it was, unless it was old. -/
theorem raise_lower {operation : Operation} (h : operation.isOld old = false) :
    (operation.lower old).raise old = operation := by
  cases operation with
  | completeLookup ticket answer =>
    have hle : old.tickets ≤ ticket.seq := by
      simp only [isOld, Request.isOld, decide_eq_false_iff_not] at h
      omega
    simp only [lower, raise, Ticket.raise, Nat.add_sub_cancel' hle]
  | completeRoute request answer =>
    have hle : old.routes ≤ request.seq := by
      simp only [isOld, Request.isOld, decide_eq_false_iff_not] at h
      omega
    simp only [lower, raise, RouteRequest.raise, Nat.add_sub_cancel' hle]
  | beginClick | beginSubmit | beginRoute | showRoute | showPayload | clearRoute | reset => rfl

end Operation

/-- A response with all its numbers raised. -/
def Response.raise : Response → Response
  | .lookup (.ok k) => .lookup (.ok { k with ticket := k.ticket.raise old.tickets })
  | .marker (.ok (.applied m)) => .marker (.ok (.applied (m.renumber (old.handles + ·))))
  | .marker (.ok (.stale seq)) => .marker (.ok (.stale (old.tickets + seq)))
  | .request (.ok q) => .request (.ok (q.raise old.routes))
  | .route (.ok (.stale seq)) => .route (.ok (.stale (old.routes + seq)))
  | response => response

/-- An entry with all its numbers raised. -/
def Entry.raise (e : Entry) : Entry := ⟨e.operation.raise old, e.response.raise old⟩

section

variable {old : Numbers} {view : Option View} {s : Session Layers}

/-- What a map looks at after an entry of a history, if it looked at `view` before and a session on
it looks at `next` now: only a marker that is placed moves it. -/
def Entry.viewAfter (e : Entry) (view next : Option View) : Option View :=
  if e.marker?.isSome then next else view

/-- A ticket is current when it is so without the numbers from before. -/
theorem raise_current_iff {n : Nat} :
    (s.raise old view).selection.current = some (old.tickets + n) ↔
      s.selection.current = some n := by
  simp [raise]

/-- A route request is current when it is so without the numbers from before. -/
theorem raise_routeCurrent_iff {n : Nat} :
    (s.raise old view).routeCurrent = some (old.routes + n) ↔ s.routeCurrent = some n := by
  simp [raise]

/-- A node is placed as it would be without the numbers from before. -/
theorem placed_raise (target : Target) (node : Node) :
    (s.raise old view).placedMarker target node =
        (s.placedMarker target node).renumber (old.handles + ·) ∧
      (s.raise old view).placed target node =
        (s.placed target node).raise old (s.placed target node).surface.view := by
  have hassign := Markers.assign_raise old.handles view s.markers s.surface
    (Selection.assignment target.role node)
  constructor
  · exact congrArg Prod.fst hassign
  · unfold placed
    rw [show (s.raise old view).markers.assign (s.raise old view).surface _ = _ from hassign]
    cases target <;> rfl

/-- A route is shown as it would be without the numbers from before. -/
theorem display_raise (g : Geometry) :
    (s.raise old view).unrequested.display g = (s.unrequested.display g).raise old view := by
  have hdisplay := Overlay.display_raise old.handles view s.overlay s.surface g
  unfold display
  rw [show (s.raise old view).unrequested.overlay.display (s.raise old view).unrequested.surface g
    = _ from hdisplay]
  rfl

/-- A route is removed as it would be without the numbers from before. -/
theorem clearRoute_raise : (s.raise old view).clearRoute = s.clearRoute.raise old view := by
  have hclear := Overlay.clear_raise old.handles view s.overlay s.surface
  unfold clearRoute
  rw [show (s.raise old view).overlay.clear (s.raise old view).surface = _ from hclear]
  rfl

/-- Everything is removed as it would be without the numbers from before. -/
theorem reset_raise : (s.raise old view).reset = s.reset.raise old view := by
  have hmarkers := Markers.clear_raise old.handles view s.markers s.surface
  have hroute := Overlay.clear_raise old.handles view s.overlay (s.markers.clear s.surface).2
  unfold reset
  rw [show (s.raise old view).markers.clear (s.raise old view).surface = _ from hmarkers]
  simp only
  rw [show (s.raise old view).overlay.clear _ = _ from hroute]
  rfl

/-- An operation does to a session what it would do without the numbers from before. -/
theorem act_raise (old : Numbers) (view : Option View) (s : Session Layers) (operation : Operation) :
    (s.raise old view).act (operation.raise old) =
      ((s.act operation).1.raise old, (s.act operation).2.raise old
        ((s.entry operation).viewAfter view (s.act operation).2.surface.view)) := by
  unfold entry
  cases operation with
  | beginClick lat lng =>
    cases hp : Point.check s.rule lat lng with
    | error fault =>
      simp only [act, Operation.raise, beginClick_error hp,
        beginClick_error (s := s.raise old view) hp]
      rfl
    | ok point =>
      simp only [act, Operation.raise, beginClick_ok hp, beginClick_ok (s := s.raise old view) hp]
      rfl
  | beginSubmit role lat lng =>
    cases hp : Point.read s.rule lat lng with
    | error fault =>
      simp only [act, Operation.raise, beginSubmit_error hp,
        beginSubmit_error (s := s.raise old view) hp]
      rfl
    | ok point =>
      simp only [act, Operation.raise, beginSubmit_ok hp, beginSubmit_ok (s := s.raise old view) hp]
      rfl
  | completeLookup ticket answer =>
    by_cases hc : s.selection.current = some ticket.seq
    · have hc' : (s.raise old view).selection.current = some (ticket.raise old.tickets).seq :=
        raise_current_iff.2 hc
      cases answer with
      | error fault =>
        simp only [act, Operation.raise, completeLookup_error hc, completeLookup_error hc']
        rfl
      | ok node =>
        simp only [act, Operation.raise, completeLookup_ok hc, completeLookup_ok hc']
        obtain ⟨hmarker, hplaced⟩ := placed_raise (s := s)
          ticket.target node
        rw [show (ticket.raise old.tickets).target = ticket.target from rfl, hmarker, hplaced]
        rfl
    · have hc' : (s.raise old view).selection.current ≠ some (ticket.raise old.tickets).seq :=
        fun h => hc (raise_current_iff.1 h)
      simp only [act, Operation.raise, completeLookup_stale hc, completeLookup_stale hc']
      rfl
  | beginRoute =>
    simp only [act, Operation.raise, beginRoute]
    rw [show (s.raise old view).markers = s.markers.renumber (old.handles + ·) from rfl,
      Markers.nodeId_renumber, Markers.nodeId_renumber]
    cases s.markers.nodeId .source <;> cases s.markers.nodeId .destination <;> rfl
  | completeRoute request answer =>
    by_cases hc : s.routeCurrent = some request.seq
    · have hc' : (s.raise old view).routeCurrent = some (request.raise old.routes).seq :=
        raise_routeCurrent_iff.2 hc
      cases answer with
      | error fault =>
        simp only [act, Operation.raise, completeRoute_error hc, completeRoute_error hc']
        rfl
      | ok payload =>
        cases hp : Geometry.ofPayload payload with
        | error fault =>
          simp only [act, Operation.raise, completeRoute_refused hc hp,
            completeRoute_refused hc' hp]
          rfl
        | ok g =>
          simp only [act, Operation.raise, completeRoute_ok hc hp, completeRoute_ok hc' hp,
            display_raise]
          rfl
    · have hc' : (s.raise old view).routeCurrent ≠ some (request.raise old.routes).seq :=
        fun h => hc (raise_routeCurrent_iff.1 h)
      simp only [act, Operation.raise, completeRoute_stale hc, completeRoute_stale hc']
      rfl
  | showRoute meters path =>
    cases hg : Geometry.build meters path with
    | error fault =>
      simp only [act, Operation.raise, showRoute_error hg]
      rfl
    | ok g =>
      simp only [act, Operation.raise, showRoute_ok hg, display_raise]
      rfl
  | showPayload payload =>
    cases hg : Geometry.ofPayload payload with
    | error fault =>
      simp only [act, Operation.raise, showPayload_error hg]
      rfl
    | ok g =>
      simp only [act, Operation.raise, showPayload_ok hg, display_raise]
      rfl
  | clearRoute =>
    simp only [act, Operation.raise, clearRoute_raise]
    rfl
  | reset =>
    simp only [act, Operation.raise, reset_raise]
    rfl

end

/-- An entry whose numbers are raised hands out what it did, with its number raised. -/
theorem Entry.issues_raise (old : Numbers) (e : Entry) :
    (e.raise old).issues = e.issues.map (Request.raise old) := by
  obtain ⟨operation, response⟩ := e
  rcases response with (_ | _) | (_ | _ | _) | (_ | _) | (_ | _ | _) | _ | _ <;> rfl

/-- A session that goes on after a reset, and a new one: the operations of the one that are no
answers to old requests are those of the other, and the one is the other with all its numbers
raised. -/
structure AsNew (old : Numbers) (past : List Entry) (s : Session Layers) (past' : List Entry)
    (t : Session Layers) : Prop where
  /-- The new session has the entries without the answers to old requests. -/
  entries : past.filter (fun e => !e.operation.isOld old) = past'.map (Entry.raise old)
  /-- The new session has handed out the same. -/
  requests : issued past = (issued past').map (Request.raise old)
  /-- The sessions are the same but for the numbers and the view. -/
  session : s = t.raise old s.surface.view
  /-- The view is the same once a marker was placed. -/
  view : placedMarkers past' ≠ [] → s.surface.view = t.surface.view
  /-- The new session has counted what it handed out. -/
  tallied : t.Tallied past'

namespace AsNew

variable {old : Numbers} {past past' : List Entry} {s t : Session Layers}

/-- An old request does not count. -/
theorem not_counts (h : AsNew old past s past' t) {d : Delivery}
    (hold : d.request.isOld old = true) : ¬ d.Counts s := by
  intro hcounts
  rw [h.session] at hcounts
  -- What counts has a number above the old ones, since new numbers are not zero.
  cases d with
  | lookup ticket answer =>
    obtain ⟨n, hn, hseq⟩ := Option.map_eq_some_iff.1
      (show t.selection.current.map (old.tickets + ·) = some ticket.seq from hcounts)
    obtain ⟨-, u, hu, rfl⟩ := h.tallied.lookups.current n hn
    have hpos := (h.tallied.lookups.number_mem (h.tallied.lookups.sublist.subset hu)).1
    simp only [Delivery.request, Request.isOld, decide_eq_true_iff] at hold
    omega
  | route request answer =>
    obtain ⟨n, hn, hseq⟩ := Option.map_eq_some_iff.1
      (show t.routeCurrent.map (old.routes + ·) = some request.seq from hcounts)
    obtain ⟨-, q, hq, rfl⟩ := h.tallied.routes.current n hn
    have hpos := (h.tallied.routes.number_mem (h.tallied.routes.sublist.subset hq)).1
    simp only [Delivery.request, Request.isOld, decide_eq_true_iff] at hold
    omega

/-- The answer to an old request is stale and changes nothing. -/
theorem act_of_isOld (h : AsNew old past s past' t) {d : Delivery}
    (hold : d.request.isOld old = true) : s.act d.operation = (d.discarded, s) :=
  Delivery.act_of_not_counts (h.not_counts hold)

/-- The answer to an old request may be left out. -/
theorem skip (h : AsNew old past s past' t) {operation : Operation}
    (hold : operation.isOld old = true) :
    AsNew old (past ++ [s.entry operation]) (s.act operation).2 past' t := by
  obtain ⟨d, rfl, hd⟩ : ∃ d : Delivery, d.operation = operation ∧ d.request.isOld old = true := by
    cases operation with
    | completeLookup ticket answer => exact ⟨.lookup ticket answer, rfl, hold⟩
    | completeRoute request answer => exact ⟨.route request answer, rfl, hold⟩
    | beginClick | beginSubmit | beginRoute | showRoute | showPayload | clearRoute | reset =>
      cases hold
  have hact := h.act_of_isOld hd
  have hissues : (s.entry d.operation).issues = none := by
    unfold entry
    rw [hact]
    cases d <;> rfl
  rw [hact]
  refine ⟨?_, ?_, h.session, h.view, h.tallied⟩
  · rw [List.filter_append, h.entries]
    simp [entry, hold]
  · rw [issued_concat_of_none hissues, h.requests]

/-- An operation that is no answer to an old request does the same to the new session. -/
theorem step (h : AsNew old past s past' t) {operation operation' : Operation}
    (hnew : operation.isOld old = false) (hraise : operation'.raise old = operation) :
    AsNew old (past ++ [s.entry operation]) (s.act operation).2
      (past' ++ [t.entry operation']) (t.act operation').2 := by
  have hact := act_raise old s.surface.view t operation'
  rw [← h.session, hraise] at hact
  have hentry : s.entry operation = (t.entry operation').raise old := by
    unfold entry Entry.raise
    rw [hact, hraise]
  have hview : (s.act operation).2.surface.view =
      (t.entry operation').viewAfter s.surface.view (t.act operation').2.surface.view := by
    rw [hact]
    rfl
  refine ⟨?_, ?_, ?_, ?_, h.tallied.act operation'⟩
  · rw [List.filter_append, h.entries, List.map_append, List.map_singleton, ← hentry]
    simp [entry, hnew]
  · have hissues : (s.entry operation).issues =
        (t.entry operation').issues.map (Request.raise old) := by
      rw [hentry, Entry.issues_raise]
    cases hi : (t.entry operation').issues with
    | none =>
      rw [hi] at hissues
      rw [issued_concat_of_none hissues, issued_concat_of_none hi, h.requests]
    | some r =>
      rw [hi] at hissues
      rw [issued_concat_of_some hissues, issued_concat_of_some hi, h.requests, List.map_append]
      rfl
  · rw [hview, hact]
  · intro hplaced
    rw [hview]
    unfold Entry.viewAfter
    cases hm : (t.entry operation').marker? with
    | some m => rfl
    | none =>
      -- The last marker was placed before, and the view has stayed with it.
      have hbefore : placedMarkers past' ≠ [] := by
        simpa [placedMarkers, List.filterMap_append, hm] using hplaced
      rw [act_view t hm]
      exact h.view hbefore

end AsNew

/-- A session on layers that were empty at first is mirrored after any operations. -/
theorem run_mirrored_of_empty (settings : Settings) {surface : Layers}
    (hmarkers : surface.markers = []) (hlines : surface.lines = []) (operations : List Operation) :
    ∃ last, Mirrored settings last ((start surface settings).run operations).2 := by
  have hmirrored : (Markers.empty settings.focusZoom).Mirrored surface :=
    Markers.mirrored_empty hmarkers
  have hfirst : Mirrored settings none (start surface settings) :=
    ⟨hmirrored.of_markers rfl (Nat.le_refl _), rfl, hlines, rfl, rfl⟩
  exact run_induction (P := fun _ s => ∃ last, Mirrored settings last s)
    (fun _ s operation ⟨_, h⟩ => ⟨_, h.touch (s.act_touch operation)⟩) operations []
    ⟨none, hfirst⟩

/-- After a reset, a session whose layers were its own is a new one, with its numbers raised and with
the view that it had. -/
theorem Mirrored.reset_eq_raise {settings : Settings} {last : Option Marker} {s : Session Layers}
    (h : Mirrored settings last s) (hsettings : (start Layers.empty settings).SameSettings s) :
    s.reset = (start Layers.empty settings).raise s.numbers s.reset.surface.view := by
  have hreset := h.touch .reset
  obtain ⟨-, hview, hissued⟩ := s.reset_layers
  have hoverlay : s.reset.overlay = { style := settings.style } := by
    show (s.overlay.clear (s.markers.clear s.surface).2).1 = _
    rw [Overlay.clear_fst, hsettings.style]
    rfl
  -- Nothing is on the layers any more, as nothing is set.
  have hmarkers : s.reset.surface.markers = [] := List.perm_nil.1 hreset.markers.layers
  have hlines : s.reset.surface.lines = [] := by
    rw [hreset.lines, hoverlay]
    rfl
  have hsurface : s.reset.surface = ⟨[], [], s.reset.surface.view, s.surface.issued⟩ := by
    rw [← hmarkers, ← hlines, ← hissued]
  have hselection : s.reset.selection =
      ⟨settings.firstRole, settings.firstRole, s.selection.issued, none⟩ := by
    show s.selection.reset = _
    rw [← (show s.selection.first = settings.firstRole from hsettings.first)]
    rfl
  have hset : s.reset.markers = .empty settings.focusZoom := by
    rw [← (show s.markers.focusZoom = settings.focusZoom from hsettings.focusZoom)]
    rfl
  calc s.reset
      = ⟨s.reset.surface, s.reset.selection, s.reset.markers, s.reset.overlay, s.rule,
          s.timeoutMs, s.routesIssued, none⟩ := rfl
    _ = ⟨⟨[], [], s.reset.surface.view, s.surface.issued⟩,
          ⟨settings.firstRole, settings.firstRole, s.selection.issued, none⟩,
          .empty settings.focusZoom, { style := settings.style }, settings.validation,
          settings.timeoutMs.toNat, s.routesIssued, none⟩ := by
        rw [← hsurface, ← hselection, ← hset, ← hoverlay]
        congr 1
        · exact hsettings.rule
        · exact hsettings.timeoutMs
    _ = (start Layers.empty settings).raise s.numbers s.reset.surface.view := rfl

/-- After any operations of a session on layers that were empty at first, and a reset, and any
operations since: leave out the answers to requests that are not above the numbers given out before
the reset, each of which is stale and changes nothing. Then a new session with the same settings goes
through the others, with the numbers of what they answer lowered by those, and its entries with all
their numbers raised are those of the other session. The two are the same but for their numbers and
the view: in the active role, the markers, the route and the features of the layers. The view is
the same once a marker was placed. The requests that are left out are those that were handed out
before the reset and none that was handed out since. -/
theorem reset_renews (surface : Layers) (settings : Settings)
    (operations continuation : List Operation) (unmarked : surface.markers = [])
    (unlined : surface.lines = []) :
    let past := (start surface settings).run operations
    let old := past.2.numbers
    let renewed := past.2.reset.run continuation
    let fresh := (start Layers.empty settings).run
      ((continuation.filter fun o => !o.isOld old).map (Operation.lower old))
    renewed.1.filter (fun e => !e.operation.isOld old) = fresh.1.map (Entry.raise old) ∧
      (∀ d : Delivery, d.request.isOld old = true →
        renewed.2.act d.operation = (d.discarded, renewed.2)) ∧
      renewed.2 = fresh.2.raise old renewed.2.surface.view ∧
      renewed.2.active = fresh.2.active ∧
      (∀ role, renewed.2.marker role =
        (fresh.2.marker role).map (Marker.renumber (old.handles + ·))) ∧
      renewed.2.route = fresh.2.route ∧
      renewed.2.surface.featureCollection = fresh.2.surface.featureCollection ∧
      (placedMarkers fresh.1 ≠ [] → renewed.2.surface.view = fresh.2.surface.view) ∧
      (∀ r ∈ issued past.1, r.isOld old = true) ∧
      ∀ r ∈ issued renewed.1, r.isOld old = false := by
  intro past old renewed fresh
  have htallied : past.2.Tallied past.1 := run_tallied surface settings operations
  have hsame : (start Layers.empty settings).SameSettings (start surface settings) :=
    ⟨rfl, rfl, rfl, rfl, rfl⟩
  have hsettings : (start Layers.empty settings).SameSettings past.2 :=
    hsame.trans (run_sameSettings (start surface settings) operations)
  obtain ⟨last, hmirrored⟩ := run_mirrored_of_empty settings unmarked unlined operations
  have hfirst : AsNew old [] past.2.reset [] (start Layers.empty settings) :=
    ⟨rfl, rfl, hmirrored.reset_eq_raise hsettings, fun hplaced => absurd rfl hplaced,
      ⟨rfl, rfl, .nil, .nil⟩⟩
  have h : AsNew old renewed.1 renewed.2 fresh.1 fresh.2 := by
    refine run_induction_two (p := fun o => !o.isOld old) (g := Operation.lower old)
      (P := AsNew old) ?_ ?_ continuation [] [] hfirst
    · exact fun _ _ _ _ operation h hold => h.skip (by simpa using hold)
    · intro _ _ _ _ operation h hnew
      have hnot : operation.isOld old = false := by simpa using hnew
      exact h.step hnot (Operation.raise_lower hnot)
  have hsession := h.session
  refine ⟨h.entries, fun d => h.act_of_isOld, hsession, ?_, fun role => ?_, ?_, ?_, h.view, ?_, ?_⟩
  · rw [hsession]
    rfl
  · show renewed.2.markers.get role = _
    rw [hsession]
    exact Markers.get_renumber _ _ role
  · show renewed.2.overlay.shown = _
    rw [hsession]
    exact Overlay.shown_renumber _ _
  · rw [hsession]
    exact Layers.featureCollection_raise _ _ _
  · intro r hr
    cases r with
    | lookup ticket =>
      have hle := (htallied.lookups.number_mem (mem_tickets.2 hr)).2
      rw [← htallied.issued] at hle
      exact decide_eq_true hle
    | route request =>
      have hle := (htallied.routes.number_mem (mem_routeRequests.2 hr)).2
      rw [← htallied.routesIssued] at hle
      exact decide_eq_true hle
  · intro r hr
    rw [h.requests] at hr
    obtain ⟨q, hq, rfl⟩ := List.mem_map.1 hr
    cases q with
    | lookup ticket =>
      have hpos := (h.tallied.lookups.number_mem (mem_tickets.2 hq)).1
      simp only [Request.raise, Request.isOld, Ticket.raise, decide_eq_false_iff_not]
      omega
    | route request =>
      have hpos := (h.tallied.routes.number_mem (mem_routeRequests.2 hq)).1
      simp only [Request.raise, Request.isOld, RouteRequest.raise, decide_eq_false_iff_not]
      omega

/-- A node was placed, a route was shown and a click is on its way when everything is removed. Then
its node comes, and there is another click, with ticket three. A new session would have given it
ticket one, and its marker handle one and not three; it looks at the same point. -/
theorem reset_renews_click_underway :
    let operations : List Operation := [
      .beginClick 48.0 9.0, .completeLookup ⟨1, .toggle .source⟩ (.ok ⟨⟨48.0, 9.0⟩, 7⟩),
      .showPayload ⟨1200.0, [(48.0, 9.0), (48.1, 9.2)]⟩, .beginClick 48.1 9.2]
    let late : Delivery := .lookup ⟨2, .toggle .destination⟩ (.ok ⟨⟨48.1, 9.2⟩, 8⟩)
    let continuation : List Operation := [late.operation, .beginClick 48.2 9.1,
      .completeLookup ⟨3, .toggle .source⟩ (.ok ⟨⟨48.2, 9.1⟩, 9⟩)]
    let past := (start Layers.empty .default).run operations
    let renewed := past.2.reset.run continuation
    let fresh := (start Layers.empty .default).run [.beginClick 48.2 9.1,
      .completeLookup ⟨1, .toggle .source⟩ (.ok ⟨⟨48.2, 9.1⟩, 9⟩)]
    past.2.numbers = ⟨2, 0, 2⟩ ∧
      renewed.2.act late.operation = (late.discarded, renewed.2) ∧
      (renewed.2.marker .source).map (·.handle) = some ⟨3⟩ ∧
      (fresh.2.marker .source).map (·.handle) = some ⟨1⟩ ∧
      renewed.2.surface.featureCollection = fresh.2.surface.featureCollection ∧
      renewed.2.surface.view = fresh.2.surface.view := by
  intro operations late continuation past renewed fresh
  have hold : late.request.isOld past.2.numbers = true := rfl
  obtain ⟨-, hlate, -, -, -, -, hfeatures, hview, -, -⟩ :=
    reset_renews Layers.empty .default operations continuation rfl rfl
  refine ⟨rfl, hlate late hold, rfl, rfl, hfeatures, hview ?_⟩
  exact List.cons_ne_nil _ _

end Session

end Waymark
