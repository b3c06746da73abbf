import Waymark.Proofs.Session.Counting
import Waymark.Proofs.Session.Effects

/-!
# Histories of a session

What a session was asked and what it answered is its history. Two operations hand out a lookup and
one a route request, and two take an answer to one; what was handed out and was not answered is
pending. `Tallied` is the invariant of every history from the start: the session has counted what it
handed out, and of the lookups and of the route requests what counts is the last, and it is pending.

The operations are those that change a session, in any order and with any arguments. So an answer may
also be one to something that was never handed out. A gesture that waits for its answer is two
operations, one after the other.

What every operation keeps is kept by a run (`run_induction`), and what two sessions have in common by
a run of the one and a part of it of the other (`run_induction_two`).
-/

namespace Waymark.Session

/-- An operation that changes a session. -/
inductive Operation where
  /-- A click begins a lookup. -/
  | beginClick (lat lng : Float)
  /-- A form entry begins a lookup. -/
  | beginSubmit (role : Role) (lat lng : String)
  /-- A lookup is answered. -/
  | completeLookup (ticket : Ticket) (answer : Except Error Node)
  /-- A route is asked for. -/
  | beginRoute
  /-- A route request is answered. -/
  | completeRoute (request : RouteRequest) (answer : Except Error Payload)
  /-- A route of a distance and a path is shown. -/
  | showRoute (meters : Float) (path : List Point)
  /-- A route that a service sent is shown. -/
  | showPayload (payload : Payload)
  /-- The route is removed. -/
  | clearRoute
  /-- Everything is removed. -/
  | reset

/-- What a session answers to an operation. -/
inductive Response where
  /-- The lookup of a gesture. -/
  | lookup (begun : Except Error Lookup)
  /-- The marker of a lookup. -/
  | marker (outcome : Except Error (Outcome Marker))
  /-- The request for a route. -/
  | request (begun : Except Error RouteRequest)
  /-- The route of a route request. -/
  | route (outcome : Except Error (Outcome Geometry))
  /-- The route that was to be shown. -/
  | shown (result : Except Error Geometry)
  /-- Nothing, since nothing can fail. -/
  | done

/-- An operation and what the session answered. -/
structure Entry where
  /-- The operation. -/
  operation : Operation
  /-- The answer. -/
  response : Response

/-- What is handed out by a session and answered later. -/
inductive Request where
  /-- A lookup, by its ticket. -/
  | lookup (ticket : Ticket)
  /-- A route request. -/
  | route (request : RouteRequest)
deriving DecidableEq, Repr

namespace Request

/-- The ticket of a lookup. -/
def ticket? : Request → Option Ticket
  | .lookup ticket => some ticket
  | .route _ => none

/-- The route request. -/
def route? : Request → Option RouteRequest
  | .lookup _ => none
  | .route request => some request

/-- A request has a ticket exactly when it is the lookup of it. -/
theorem ticket?_eq_some {r : Request} {ticket : Ticket} :
    r.ticket? = some ticket ↔ r = .lookup ticket := by
  cases r <;> simp [ticket?]

/-- A request is a route request exactly when it is that one. -/
theorem route?_eq_some {r : Request} {request : RouteRequest} :
    r.route? = some request ↔ r = .route request := by
  cases r <;> simp [route?]

end Request

namespace Entry

/-- The request that is handed out, if one is. -/
def issues : Entry → Option Request
  | ⟨_, .lookup (.ok k)⟩ => some (.lookup k.ticket)
  | ⟨_, .request (.ok q)⟩ => some (.route q)
  | _ => none

/-- The request that is answered, if one is. -/
def completes : Entry → Option Request
  | ⟨.completeLookup ticket _, _⟩ => some (.lookup ticket)
  | ⟨.completeRoute request _, _⟩ => some (.route request)
  | _ => none

end Entry

/-- The requests that are handed out in a history, in order. -/
def issued (history : List Entry) : List Request := history.filterMap Entry.issues

/-- What is pending after an entry of a history, if `requests` were before. -/
def pendingAfter (requests : List Request) (e : Entry) : List Request :=
  (requests.filter fun r => e.completes ≠ some r) ++ e.issues.toList

/-- The requests that are handed out in a history and not answered after that, in order. -/
def pending (history : List Entry) : List Request := history.foldl pendingAfter []

/-- The tickets of some requests. -/
def tickets (requests : List Request) : List Ticket := requests.filterMap Request.ticket?

/-- The route requests of some requests. -/
def routeRequests (requests : List Request) : List RouteRequest :=
  requests.filterMap Request.route?

/-- The tickets of requests are those of the lookups. -/
theorem mem_tickets {requests : List Request} {ticket : Ticket} :
    ticket ∈ tickets requests ↔ .lookup ticket ∈ requests := by
  simp [tickets, List.mem_filterMap, Request.ticket?_eq_some]

/-- The route requests of requests are among them. -/
theorem mem_routeRequests {requests : List Request} {request : RouteRequest} :
    request ∈ routeRequests requests ↔ .route request ∈ requests := by
  simp [routeRequests, List.mem_filterMap, Request.route?_eq_some]

/-- A lookup adds its ticket. -/
@[simp] theorem tickets_append_lookup (requests : List Request) (ticket : Ticket) :
    tickets (requests ++ [.lookup ticket]) = tickets requests ++ [ticket] := by
  simp [tickets, Request.ticket?]

/-- A route request adds no ticket. -/
@[simp] theorem tickets_append_route (requests : List Request) (request : RouteRequest) :
    tickets (requests ++ [.route request]) = tickets requests := by
  simp [tickets, Request.ticket?]

/-- A lookup adds no route request. -/
@[simp] theorem routeRequests_append_lookup (requests : List Request) (ticket : Ticket) :
    routeRequests (requests ++ [.lookup ticket]) = routeRequests requests := by
  simp [routeRequests, Request.route?]

/-- A route request adds itself. -/
@[simp] theorem routeRequests_append_route (requests : List Request) (request : RouteRequest) :
    routeRequests (requests ++ [.route request]) = routeRequests requests ++ [request] := by
  simp [routeRequests, Request.route?]

/-- An entry that hands out nothing leaves what was handed out. -/
theorem issued_concat_of_none {past : List Entry} {e : Entry} (he : e.issues = none) :
    issued (past ++ [e]) = issued past := by
  simp [issued, he]

/-- An entry that hands out a request adds it. -/
theorem issued_concat_of_some {past : List Entry} {e : Entry} {r : Request}
    (he : e.issues = some r) : issued (past ++ [e]) = issued past ++ [r] := by
  simp [issued, he]

/-- The last entry of a history is the last that changes what is pending. -/
theorem pending_concat (past : List Entry) (e : Entry) :
    pending (past ++ [e]) = pendingAfter (pending past) e := by
  simp [pending]

/-- Entries that hand out nothing leave pending what they do not answer. -/
theorem pending_append_of_none {later : List Entry} (hlater : ∀ e ∈ later, e.issues = none)
    (past : List Entry) :
    pending (past ++ later) =
      (pending past).filter fun r => ∀ e ∈ later, e.completes ≠ some r := by
  induction later generalizing past with
  | nil => simp
  | cons e rest ih =>
    -- The first of the entries belongs to the past of the others.
    have hrest := ih (fun b hb => hlater b (List.mem_cons_of_mem _ hb)) (past ++ [e])
    rw [List.append_assoc, List.singleton_append] at hrest
    rw [hrest, pending_concat, pendingAfter, hlater e List.mem_cons_self, Option.toList_none,
      List.append_nil, List.filter_filter]
    refine List.filter_congr fun r _ => ?_
    simp [Bool.and_comm]

variable {σ : Type}

/-- The session has counted what it handed out in a history, and what counts is the last of it and is
pending. -/
structure Tallied (s : Session σ) (past : List Entry) : Prop where
  /-- The lookups are counted. -/
  issued : s.selection.issued = (tickets (issued past)).length
  /-- The route requests are counted. -/
  routesIssued : s.routesIssued = (routeRequests (Session.issued past)).length
  /-- The current ticket is the last one, and it is pending. -/
  lookups : Counted Ticket.seq (tickets (Session.issued past)) (tickets (pending past))
    s.selection.current
  /-- The current route request is the last one, and it is pending. -/
  routes : Counted RouteRequest.seq (routeRequests (Session.issued past))
    (routeRequests (pending past)) s.routeCurrent

namespace Tallied

variable {s t : Session σ} {past : List Entry}

/-- An operation that hands out nothing may take away what counts, and must do so when it is the
answer to it. -/
theorem concat (h : s.Tallied past) {e : Entry} (he : e.issues = none)
    (hissued : t.selection.issued = s.selection.issued)
    (hroutes : t.routesIssued = s.routesIssued)
    (hlookup : t.selection.current = none ∨ t.selection.current = s.selection.current ∧
      ∀ ticket, e.completes = some (.lookup ticket) → s.selection.current ≠ some ticket.seq)
    (hroute : t.routeCurrent = none ∨ t.routeCurrent = s.routeCurrent ∧
      ∀ request, e.completes = some (.route request) → s.routeCurrent ≠ some request.seq) :
    t.Tallied (past ++ [e]) := by
  have hpending : pending (past ++ [e]) = (pending past).filter fun r => e.completes ≠ some r := by
    rw [pending_concat, pendingAfter, he, Option.toList_none, List.append_nil]
  refine ⟨?_, ?_, ?_, ?_⟩
  · rw [hissued, h.issued, issued_concat_of_none he]
  · rw [hroutes, h.routesIssued, issued_concat_of_none he]
  · rw [issued_concat_of_none he, hpending]
    refine h.lookups.shrink (List.filter_sublist.filterMap _) (hlookup.imp_right ?_)
    rintro ⟨hcurrent, hkeep⟩
    -- The ticket that counts is not the one that is answered, so that it stays pending.
    refine ⟨hcurrent, fun ticket hticket hseq => mem_tickets.2 (List.mem_filter.2 ?_)⟩
    exact ⟨mem_tickets.1 hticket, decide_eq_true fun hc => hkeep ticket hc hseq⟩
  · rw [issued_concat_of_none he, hpending]
    refine h.routes.shrink (List.filter_sublist.filterMap _) (hroute.imp_right ?_)
    rintro ⟨hcurrent, hkeep⟩
    refine ⟨hcurrent, fun request hrequest hseq => mem_routeRequests.2 (List.mem_filter.2 ?_)⟩
    exact ⟨mem_routeRequests.1 hrequest, decide_eq_true fun hc => hkeep request hc hseq⟩

/-- An operation that is refused and is no answer leaves the session as it was. -/
theorem refuse (h : s.Tallied past) {e : Entry} (he : e.issues = none) (hc : e.completes = none) :
    s.Tallied (past ++ [e]) := by
  refine h.concat he rfl rfl (.inr ⟨rfl, ?_⟩) (.inr ⟨rfl, ?_⟩) <;> simp [hc]

/-- A route that is shown takes away the route request that counts, if it is no answer to one. -/
theorem unrequested (h : s.Tallied past) {e : Entry} (he : e.issues = none)
    (hc : e.completes = none) (hselection : t.selection = s.selection)
    (hroutes : t.routesIssued = s.routesIssued) (hcurrent : t.routeCurrent = none) :
    t.Tallied (past ++ [e]) := by
  refine h.concat he (by rw [hselection]) hroutes (.inr ⟨by rw [hselection], ?_⟩) (.inl hcurrent)
  simp [hc]

/-- A ticket that is handed out counts from then on. -/
theorem ticketed (h : s.Tallied past) (target : Target) {e : Entry}
    (he : e.issues = some (.lookup ⟨s.selection.issued + 1, target⟩)) (hc : e.completes = none) :
    (s.ticketed target).Tallied (past ++ [e]) := by
  have hpending : pending (past ++ [e]) =
      pending past ++ [.lookup ⟨s.selection.issued + 1, target⟩] := by
    rw [pending_concat, pendingAfter, hc, he]
    simp
  refine ⟨?_, ?_, ?_, ?_⟩
  · rw [issued_concat_of_some he, tickets_append_lookup, List.length_append, ← h.issued]
    rfl
  · rw [issued_concat_of_some he, routeRequests_append_lookup]
    exact h.routesIssued
  · rw [issued_concat_of_some he, hpending, tickets_append_lookup, tickets_append_lookup]
    exact h.lookups.make (by rw [← h.issued])
  · rw [issued_concat_of_some he, hpending, routeRequests_append_lookup,
      routeRequests_append_lookup]
    exact h.routes

/-- A route request that is handed out counts from then on. -/
theorem requested (h : s.Tallied past) (source destination : UInt64) {e : Entry}
    (he : e.issues = some (.route ⟨s.routesIssued + 1, source, destination⟩))
    (hc : e.completes = none) : s.requested.Tallied (past ++ [e]) := by
  have hpending : pending (past ++ [e]) =
      pending past ++ [.route ⟨s.routesIssued + 1, source, destination⟩] := by
    rw [pending_concat, pendingAfter, hc, he]
    simp
  refine ⟨?_, ?_, ?_, ?_⟩
  · rw [issued_concat_of_some he, tickets_append_route]
    exact h.issued
  · rw [issued_concat_of_some he, routeRequests_append_route, List.length_append,
      ← h.routesIssued]
    rfl
  · rw [issued_concat_of_some he, hpending, tickets_append_route, tickets_append_route]
    exact h.lookups
  · rw [issued_concat_of_some he, hpending, routeRequests_append_route, routeRequests_append_route]
    exact h.routes.make (by rw [← h.routesIssued])

end Tallied

variable [Surface σ]

/-- A session goes through an operation. -/
def act (s : Session σ) : Operation → Response × Session σ
  | .beginClick lat lng => (s.beginClick lat lng).map .lookup id
  | .beginSubmit role lat lng => (s.beginSubmit role lat lng).map .lookup id
  | .completeLookup ticket answer => (s.completeLookup ticket answer).map .marker id
  | .beginRoute => s.beginRoute.map .request id
  | .completeRoute request answer => (s.completeRoute request answer).map .route id
  | .showRoute meters path => (s.showRoute meters path).map .shown id
  | .showPayload payload => (s.showPayload payload).map .shown id
  | .clearRoute => (.done, s.clearRoute)
  | .reset => (.done, s.reset)

/-- A session goes through some operations, one after the other. -/
def run (s : Session σ) : List Operation → List Entry × Session σ
  | [] => ([], s)
  | operation :: rest =>
    let (response, s) := s.act operation
    let (entries, s) := s.run rest
    (⟨operation, response⟩ :: entries, s)

/-- The first of some operations, and then the others. -/
theorem run_cons (s : Session σ) (operation : Operation) (rest : List Operation) :
    s.run (operation :: rest) =
      (⟨operation, (s.act operation).1⟩ :: ((s.act operation).2.run rest).1,
        ((s.act operation).2.run rest).2) := rfl

/-- Operations may be gone through in two parts. -/
theorem run_append (s : Session σ) (first second : List Operation) :
    s.run (first ++ second) =
      ((s.run first).1 ++ ((s.run first).2.run second).1, ((s.run first).2.run second).2) := by
  induction first generalizing s with
  | nil => rfl
  | cons operation rest ih =>
    rw [List.cons_append, run_cons, run_cons, ih]
    rfl

/-- What holds at first and is kept by every operation, together with the history so far, holds after
some operations, together with all of it. -/
theorem run_induction {P : List Entry → Session σ → Prop} {s : Session σ}
    (hstep : ∀ past s operation, P past s →
      P (past ++ [⟨operation, (s.act operation).1⟩]) (s.act operation).2)
    (operations : List Operation) (past : List Entry) (hfirst : P past s) :
    P (past ++ (s.run operations).1) (s.run operations).2 := by
  induction operations generalizing s past with
  | nil => simpa [run] using hfirst
  | cons operation rest ih =>
    have hrest := ih _ (hstep past s operation hfirst)
    rw [List.append_assoc] at hrest
    exact hrest

/-- What two sessions have in common at first, together with their histories so far, is still so after
the one has gone through some operations and the other through those of them that it is given, if it
is kept by every operation that only the one goes through and by every one that both do. -/
theorem run_induction_two {τ : Type} [Surface τ] {p : Operation → Bool}
    {g : Operation → Operation}
    {P : List Entry → Session σ → List Entry → Session τ → Prop} {s : Session σ} {t : Session τ}
    (hone : ∀ past s past' t operation, P past s past' t → p operation = false →
      P (past ++ [⟨operation, (s.act operation).1⟩]) (s.act operation).2 past' t)
    (hboth : ∀ past s past' t operation, P past s past' t → p operation = true →
      P (past ++ [⟨operation, (s.act operation).1⟩]) (s.act operation).2
        (past' ++ [⟨g operation, (t.act (g operation)).1⟩]) (t.act (g operation)).2)
    (operations : List Operation) (past past' : List Entry) (hfirst : P past s past' t) :
    P (past ++ (s.run operations).1) (s.run operations).2
      (past' ++ (t.run ((operations.filter p).map g)).1)
      (t.run ((operations.filter p).map g)).2 := by
  induction operations generalizing s t past past' with
  | nil => simpa [run] using hfirst
  | cons operation rest ih =>
    cases hp : p operation with
    | false =>
      have hrest := ih _ past' (hone past s past' t operation hfirst hp)
      rw [List.append_assoc] at hrest
      rw [List.filter_cons_of_neg (by simp [hp])]
      exact hrest
    | true =>
      have hrest := ih _ _ (hboth past s past' t operation hfirst hp)
      rw [List.append_assoc, List.append_assoc] at hrest
      rw [List.filter_cons_of_pos hp]
      exact hrest

/-- Every operation keeps the invariant. -/
theorem Tallied.act {s : Session σ} {past : List Entry} (h : s.Tallied past)
    (operation : Operation) :
    (s.act operation).2.Tallied (past ++ [⟨operation, (s.act operation).1⟩]) := by
  cases operation with
  | beginClick lat lng =>
    rcases s.beginClick_cases lat lng with ⟨fault, -, hs⟩ | ⟨point, -, hs⟩
    · simp only [Session.act, hs]
      exact h.refuse rfl rfl
    · simp only [Session.act, hs]
      exact h.ticketed _ rfl rfl
  | beginSubmit role lat lng =>
    rcases s.beginSubmit_cases role lat lng with ⟨fault, -, hs⟩ | ⟨point, -, hs⟩
    · simp only [Session.act, hs]
      exact h.refuse rfl rfl
    · simp only [Session.act, hs]
      exact h.ticketed _ rfl rfl
  | completeLookup ticket answer =>
    obtain ⟨-, hroute, hroutes⟩ := s.completeLookup_route ticket answer
    refine h.concat rfl (completeLookup_issued _ _ _) hroutes ?_ (.inr ⟨hroute, by rintro _ ⟨⟩⟩)
    have hcurrent := s.completeLookup_current ticket answer
    by_cases hc : s.selection.current = some ticket.seq
    · exact .inl (hcurrent.trans (if_pos hc))
    · exact .inr ⟨hcurrent.trans (if_neg hc), by rintro _ ⟨⟩; exact hc⟩
  | beginRoute =>
    rcases s.beginRoute_cases with ⟨role, -, hs⟩ | ⟨source, destination, -, -, hs⟩
    · simp only [Session.act, hs]
      exact h.refuse rfl rfl
    · simp only [Session.act, hs]
      exact h.requested source destination rfl rfl
  | completeRoute request answer =>
    obtain ⟨hselection, -, hroutes⟩ := s.completeRoute_selection request answer
    refine h.concat rfl (congrArg Selection.issued hselection) hroutes
      (.inr ⟨congrArg Selection.current hselection, by rintro _ ⟨⟩⟩) ?_
    have hcurrent := s.completeRoute_routeCurrent request answer
    by_cases hc : s.routeCurrent = some request.seq
    · exact .inl (hcurrent.trans (if_pos hc))
    · exact .inr ⟨hcurrent.trans (if_neg hc), by rintro _ ⟨⟩; exact hc⟩
  | showRoute meters path =>
    rcases s.showRoute_cases meters path with ⟨fault, -, hs⟩ | ⟨g, -, hs⟩
    · simp only [Session.act, hs]
      exact h.refuse rfl rfl
    · simp only [Session.act, hs]
      exact h.unrequested rfl rfl rfl rfl rfl
  | showPayload payload =>
    rcases s.showPayload_cases payload with ⟨fault, -, hs⟩ | ⟨g, -, hs⟩
    · simp only [Session.act, hs]
      exact h.refuse rfl rfl
    · simp only [Session.act, hs]
      exact h.unrequested rfl rfl rfl rfl rfl
  | clearRoute =>
    -- The route request that is on its way still counts.
    exact h.concat rfl rfl rfl (.inr ⟨rfl, by rintro _ ⟨⟩⟩) (.inr ⟨rfl, by rintro _ ⟨⟩⟩)
  | reset => exact h.concat rfl rfl rfl (.inl rfl) (.inl rfl)

/-- The invariant holds after any operations. -/
theorem run_tallied (surface : σ) (settings : Settings) (operations : List Operation) :
    ((start surface settings).run operations).2.Tallied
      ((start surface settings).run operations).1 := by
  have hfirst : (start surface settings).Tallied [] := ⟨rfl, rfl, .nil, .nil⟩
  exact run_induction (P := fun past s => s.Tallied past) (fun _ _ operation h => h.act operation)
    operations [] hfirst

end Waymark.Session
