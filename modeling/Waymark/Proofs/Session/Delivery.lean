import Waymark.Proofs.Session.History
import Waymark.Proofs.Surface.Layers

/-!
# The order of answers

Requests that are on their way are answered in any order. On layers, the order does not matter: each
request is answered the same, and what is shown in the end is the same; only the numbers of handles
may differ, which markers and lines take from one count.

At most one lookup and one route request count. All the other answers are stale and change nothing,
whenever they come. The two that count change different parts of a session, but for the count of the
handles; and after both of them nothing counts any more. So two answers may be swapped, and the order
of all of them may be changed step by step.
-/

namespace Waymark.Session

/-- The answer to a request. -/
inductive Delivery where
  /-- A lookup is answered. -/
  | lookup (ticket : Ticket) (answer : Except Error Node)
  /-- A route request is answered. -/
  | route (request : RouteRequest) (answer : Except Error Payload)

/-- The number of a request among the lookups or among the route requests. -/
def Request.number : Request → Nat ⊕ Nat
  | .lookup ticket => .inl ticket.seq
  | .route request => .inr request.seq

namespace Delivery

/-- The operation by which an answer is delivered. -/
def operation : Delivery → Operation
  | .lookup ticket answer => .completeLookup ticket answer
  | .route request answer => .completeRoute request answer

/-- The request that is answered. -/
def request : Delivery → Request
  | .lookup ticket _ => .lookup ticket
  | .route request _ => .route request

/-- What a session says to an answer that is stale. -/
def discarded : Delivery → Response
  | .lookup ticket _ => .marker (.ok (.stale ticket.seq))
  | .route request _ => .route (.ok (.stale request.seq))

variable {σ : Type}

/-- Whether the request that is answered counts. -/
def Counts (d : Delivery) (s : Session σ) : Prop :=
  match d with
  | .lookup ticket _ => s.selection.current = some ticket.seq
  | .route request _ => s.routeCurrent = some request.seq

end Delivery

/-- What a session answers without regard to the handle of a marker. -/
def Response.bare : Response → Response
  | .marker (.ok (.applied m)) => .marker (.ok (.applied m.bare))
  | r => r

/-- An entry of a history without regard to the handle of a marker. -/
def Entry.bare (e : Entry) : Entry := { e with response := e.response.bare }

/-- Two sessions are the same but for the numbers of handles: the same role is active, the same
markers are placed, the same route is shown, the same requests count, and the surfaces show the
same. -/
structure Alike (s t : Session Layers) : Prop where
  /-- The selection is the same, with the active role and the current ticket. -/
  selection : s.selection = t.selection
  /-- The marker of each role has the same point and the same node. -/
  markers : ∀ role, (s.marker role).map Marker.bare = (t.marker role).map Marker.bare
  /-- The route is the same. -/
  route : s.route = t.route
  /-- The route request that counts is the same. -/
  routeCurrent : s.routeCurrent = t.routeCurrent
  /-- The surfaces show the same. -/
  surface : s.surface.Alike t.surface

namespace Alike

/-- A session is the same as itself. -/
theorem refl (s : Session Layers) : s.Alike s :=
  ⟨rfl, fun _ => rfl, rfl, rfl, .refl s.surface⟩

/-- It does not matter which of two sessions is looked at first. -/
theorem symm {s t : Session Layers} (h : s.Alike t) : t.Alike s :=
  ⟨h.selection.symm, fun role => (h.markers role).symm, h.route.symm, h.routeCurrent.symm,
    h.surface.symm⟩

/-- Of three sessions, the first is the same as the third if both are the same as the second. -/
theorem trans {s t u : Session Layers} (h : s.Alike t) (h' : t.Alike u) : s.Alike u :=
  ⟨h.selection.trans h'.selection, fun role => (h.markers role).trans (h'.markers role),
    h.route.trans h'.route, h.routeCurrent.trans h'.routeCurrent, h.surface.trans h'.surface⟩

end Alike

/-- Nothing counts that is on its way. -/
def Idle {σ : Type} (s : Session σ) : Prop :=
  s.selection.current = none ∧ s.routeCurrent = none

section

variable {σ : Type} [Surface σ]

/-- A failed lookup whose ticket is current uses up the ticket. -/
theorem act_completeLookup_error {s : Session σ} {ticket : Ticket}
    (h : s.selection.current = some ticket.seq) (e : Error) :
    s.act (.completeLookup ticket (.error e)) = (.marker (.error e), s.unticketed) := by
  rw [act, completeLookup_error h]
  rfl

/-- A node that is found while its ticket is current is placed. -/
theorem act_completeLookup_ok {s : Session σ} {ticket : Ticket}
    (h : s.selection.current = some ticket.seq) (node : Node) :
    s.act (.completeLookup ticket (.ok node)) =
      (.marker (.ok (.applied (s.placedMarker ticket.target node))),
        s.placed ticket.target node) := by
  rw [act, completeLookup_ok h]
  rfl

/-- The answer of a current route request does the same to every session: it is a failure in all of
them, or a route that is shown. -/
theorem act_completeRoute (request : RouteRequest) (answer : Except Error Payload) :
    (∃ e, ∀ s : Session σ, s.routeCurrent = some request.seq →
        s.act (.completeRoute request answer) = (.route (.error e), s.unrequested)) ∨
      ∃ g, ∀ s : Session σ, s.routeCurrent = some request.seq →
        s.act (.completeRoute request answer) =
          (.route (.ok (.applied g)), s.unrequested.display g) := by
  cases answer with
  | error e =>
    refine .inl ⟨e, fun s h => ?_⟩
    rw [act, completeRoute_error h]
    rfl
  | ok payload =>
    cases hp : Geometry.ofPayload payload with
    | error fault =>
      refine .inl ⟨.invalidPath fault, fun s h => ?_⟩
      rw [act, completeRoute_refused h hp]
      rfl
    | ok g =>
      refine .inr ⟨g, fun s h => ?_⟩
      rw [act, completeRoute_ok h hp]
      rfl

namespace Delivery

/-- An answer to a request that does not count changes nothing. -/
theorem act_of_not_counts {d : Delivery} {s : Session σ} (h : ¬ d.Counts s) :
    s.act d.operation = (d.discarded, s) := by
  cases d with
  | lookup ticket answer =>
    rw [operation, act, completeLookup_stale h]
    rfl
  | route request answer =>
    rw [operation, act, completeRoute_stale h]
    rfl

/-- A request that does not count does not do so after an answer to another one. -/
theorem not_counts_act {d : Delivery} {s : Session σ} (h : ¬ d.Counts s) (e : Delivery) :
    ¬ d.Counts (s.act e.operation).2 := by
  cases e with
  | lookup ticket answer =>
    have hcurrent := s.completeLookup_current ticket answer
    have hroute := (s.completeLookup_route ticket answer).2.1
    cases d with
    | lookup ticket' _ =>
      show (s.completeLookup ticket answer).2.selection.current ≠ some ticket'.seq
      rw [hcurrent]
      split
      · simp
      · exact h
    | route request' _ =>
      show (s.completeLookup ticket answer).2.routeCurrent ≠ some request'.seq
      rw [hroute]
      exact h
  | route request answer =>
    have hcurrent := s.completeRoute_routeCurrent request answer
    have hselection := (s.completeRoute_selection request answer).1
    cases d with
    | lookup ticket' _ =>
      show (s.completeRoute request answer).2.selection.current ≠ some ticket'.seq
      rw [hselection]
      exact h
    | route request' _ =>
      show (s.completeRoute request answer).2.routeCurrent ≠ some request'.seq
      rw [hcurrent]
      split
      · simp
      · exact h

/-- Answers hand out nothing. -/
theorem run_issues (s : Session σ) (ds : List Delivery) :
    ∀ e ∈ (s.run (ds.map operation)).1, e.issues = none := by
  induction ds generalizing s with
  | nil => simp [run]
  | cons d rest ih =>
    rw [List.map_cons, run_cons, List.forall_mem_cons]
    refine ⟨?_, ih _⟩
    cases d <;> rfl

/-- Answers answer the requests that they are answers to. -/
theorem run_completes (s : Session σ) (ds : List Delivery) :
    (s.run (ds.map operation)).1.map Entry.completes = ds.map fun d => some d.request := by
  induction ds generalizing s with
  | nil => rfl
  | cons d rest ih =>
    rw [List.map_cons, run_cons, List.map_cons, ih, List.map_cons]
    cases d <;> rfl

/-- What is pending after some answers was so before, and is not answered by them. -/
theorem pending_run (s : Session σ) (past : List Entry) (ds : List Delivery) {r : Request}
    (hr : r ∈ pending (past ++ (s.run (ds.map operation)).1)) :
    r ∈ pending past ∧ r ∉ ds.map request := by
  rw [pending_append_of_none (run_issues s ds), List.mem_filter, decide_eq_true_iff] at hr
  refine ⟨hr.1, fun hmem => ?_⟩
  obtain ⟨d, hd, rfl⟩ := List.mem_map.1 hmem
  have hcompletes : some d.request ∈ (s.run (ds.map operation)).1.map Entry.completes := by
    rw [run_completes]
    exact List.mem_map_of_mem hd
  obtain ⟨e, he, hed⟩ := List.mem_map.1 hcompletes
  exact hr.2 e he hed

/-- When nothing counts, all answers are stale and change nothing. -/
theorem run_of_idle {s : Session σ} (h : s.Idle) (ds : List Delivery) :
    s.run (ds.map operation) = (ds.map fun d => ⟨d.operation, d.discarded⟩, s) := by
  have hcounts (d : Delivery) : ¬ d.Counts s := by
    cases d with
    | lookup ticket _ => simp [Counts, h.1]
    | route request _ => simp [Counts, h.2]
  induction ds with
  | nil => rfl
  | cons d rest ih =>
    rw [List.map_cons, run_cons, act_of_not_counts (hcounts d), ih]
    rfl

end Delivery

end

/-- A marker that is placed before a route is shown, and one that is placed after it, differ by their
handles. -/
theorem alike_placed_display (s : Session Layers) (target : Target) (node : Node) (g : Geometry) :
    ((s.placed target node).unrequested.display g).Alike
      ((s.unrequested.display g).placed target node) where
  selection := rfl
  markers := by
    intro role
    simp only [placed, display, unrequested, Session.marker, Markers.assign_layers,
      Overlay.display_layers]
    cases role <;> cases target.role <;> rfl
  route := by
    simp only [placed, display, unrequested, Session.route, Overlay.shown, Markers.assign_layers,
      Overlay.display_layers]
    rfl
  routeCurrent := rfl
  surface := by
    simp only [placed, display, unrequested, Markers.assign_layers, Overlay.display_layers]
    refine ⟨?_, ?_, rfl⟩ <;> simp [Layers.markerLayers, Layers.lineLayers, Layers.markersWithout,
      Layers.linesWithout]

namespace Delivery

/-- Two answers may be swapped: each is answered the same, and the sessions afterwards are equal, or
they are the same but for handles and nothing counts in them any more. -/
structure Commutes (a b : Delivery) (s : Session Layers) : Prop where
  /-- The one answer has the same effect before the other and after it. -/
  first : (s.act a.operation).1.bare = ((s.act b.operation).2.act a.operation).1.bare
  /-- The other answer has the same effect after the one and before it. -/
  second : ((s.act a.operation).2.act b.operation).1.bare = (s.act b.operation).1.bare
  /-- The sessions afterwards are the same. -/
  after : ((s.act a.operation).2.act b.operation).2 = ((s.act b.operation).2.act a.operation).2 ∨
    ((s.act a.operation).2.act b.operation).2.Alike ((s.act b.operation).2.act a.operation).2 ∧
      ((s.act a.operation).2.act b.operation).2.Idle ∧
      ((s.act b.operation).2.act a.operation).2.Idle

namespace Commutes

variable {a b : Delivery} {s sa sb sab sba : Session Layers} {ra ra' rb rb' : Response}

/-- It does not matter which of two answers is called the one and which the other. -/
theorem symm (h : a.Commutes b s) : b.Commutes a s where
  first := h.second.symm
  second := h.first.symm
  after := by
    rcases h.after with h | ⟨halike, hab, hba⟩
    · exact .inl h.symm
    · exact .inr ⟨halike.symm, hba, hab⟩

/-- Two answers may be swapped if what they do in both orders is known. -/
theorem of_act (ha : s.act a.operation = (ra, sa)) (hb : s.act b.operation = (rb, sb))
    (hab : sa.act b.operation = (rb', sab)) (hba : sb.act a.operation = (ra', sba))
    (hra : ra.bare = ra'.bare) (hrb : rb'.bare = rb.bare)
    (hafter : sab = sba ∨ sab.Alike sba ∧ sab.Idle ∧ sba.Idle) : a.Commutes b s := by
  refine ⟨?_, ?_, ?_⟩
  · rw [ha, hb, hba]
    exact hra
  · rw [ha, hb, hab]
    exact hrb
  · rw [ha, hb, hab, hba]
    exact hafter

/-- An answer to a request that does not count may be given later. -/
theorem of_not_counts (h : ¬ a.Counts s) : a.Commutes b s :=
  of_act (act_of_not_counts h) rfl rfl (act_of_not_counts (not_counts_act h b)) rfl rfl (.inl rfl)

/-- The answers to the lookup and to the route request that count may be swapped. -/
theorem of_counts {ticket : Ticket} {request : RouteRequest}
    (hl : s.selection.current = some ticket.seq) (hr : s.routeCurrent = some request.seq)
    (answer : Except Error Node) (payload : Except Error Payload) :
    (lookup ticket answer).Commutes (route request payload) s := by
  -- Both answers come to a current request in both orders. Only a node and a route together draw
  -- handles, and then the sessions afterwards are not equal.
  have hroute := act_completeRoute (σ := Layers) request payload
  cases answer with
  | error e =>
    rcases hroute with ⟨f, hroute⟩ | ⟨g, hroute⟩
    · exact of_act (act_completeLookup_error hl e) (hroute s hr) (hroute s.unticketed hr)
        (act_completeLookup_error (s := s.unrequested) hl e) rfl rfl (.inl rfl)
    · exact of_act (act_completeLookup_error hl e) (hroute s hr) (hroute s.unticketed hr)
        (act_completeLookup_error (s := s.unrequested.display g) hl e) rfl rfl (.inl rfl)
  | ok node =>
    rcases hroute with ⟨f, hroute⟩ | ⟨g, hroute⟩
    · exact of_act (act_completeLookup_ok hl node) (hroute s hr)
        (hroute (s.placed ticket.target node) hr)
        (act_completeLookup_ok (s := s.unrequested) hl node) rfl rfl (.inl rfl)
    · refine of_act (act_completeLookup_ok hl node) (hroute s hr)
        (hroute (s.placed ticket.target node) hr)
        (act_completeLookup_ok (s := s.unrequested.display g) hl node) ?_ rfl
        (.inr ⟨alike_placed_display s _ _ _, ?_, ?_⟩)
      · simp [Response.bare, placedMarker, Markers.assign_layers, Marker.bare]
      · exact ⟨Selection.spend_current _ _, rfl⟩
      · exact ⟨Selection.spend_current _ _, rfl⟩

end Commutes

/-- The answers to any two requests may be swapped. -/
theorem commutes {a b : Delivery} (hab : a.request.number ≠ b.request.number)
    (s : Session Layers) : a.Commutes b s := by
  by_cases ha : a.Counts s
  · by_cases hb : b.Counts s
    · -- Only one lookup counts, and only one route request does.
      cases a with
      | lookup ticket answer =>
        cases b with
        | lookup ticket' answer' =>
          have hseq : some ticket.seq = some ticket'.seq := ha.symm.trans hb
          exact absurd (congrArg Sum.inl (Option.some.inj hseq)) hab
        | route request payload => exact .of_counts ha hb answer payload
      | route request payload =>
        cases b with
        | lookup ticket answer => exact (Commutes.of_counts hb ha answer payload).symm
        | route request' payload' =>
          have hseq : some request.seq = some request'.seq := ha.symm.trans hb
          exact absurd (congrArg Sum.inr (Option.some.inj hseq)) hab
    · exact (Commutes.of_not_counts hb).symm
  · exact .of_not_counts ha

/-- Answers to different requests may be given in any order, from any session on. -/
theorem run_perm {ds es : List Delivery} (hperm : ds.Perm es)
    (hnumbers : (ds.map fun d => d.request.number).Nodup) (s : Session Layers) :
    (s.run (ds.map operation)).2.Alike (s.run (es.map operation)).2 ∧
      ((s.run (ds.map operation)).1.map Entry.bare).Perm
        ((s.run (es.map operation)).1.map Entry.bare) := by
  induction hperm generalizing s with
  | nil => exact ⟨.refl s, .nil⟩
  | cons d _ ih =>
    obtain ⟨halike, hentries⟩ := ih (List.nodup_cons.1 hnumbers).2 (s.act d.operation).2
    exact ⟨halike, hentries.cons _⟩
  | swap a b rest =>
    have hne : b.request.number ≠ a.request.number := by
      intro he
      exact (List.nodup_cons.1 hnumbers).1 (List.mem_cons.2 (.inl he))
    have hswap := commutes hne s
    simp only [List.map_cons, run_cons, Entry.bare, hswap.first, hswap.second]
    rcases hswap.after with hafter | ⟨halike, hba, hab⟩
    · rw [hafter]
      exact ⟨.refl _, .swap _ _ _⟩
    · -- Nothing counts any more, so that the others are stale in both orders.
      rw [run_of_idle hba, run_of_idle hab]
      exact ⟨halike, .swap _ _ _⟩
  | trans hperm' _ ih ih' =>
    obtain ⟨halike, hentries⟩ := ih hnumbers s
    obtain ⟨halike', hentries'⟩ := ih' ((hperm'.map _).nodup_iff.1 hnumbers) s
    exact ⟨halike.trans halike', hentries.trans hentries'⟩

end Delivery

/-- Pending requests have different numbers. -/
theorem Tallied.eq_of_number_eq {σ : Type} {s : Session σ} {past : List Entry}
    (h : s.Tallied past) {r q : Request} (hr : r ∈ pending past) (hq : q ∈ pending past)
    (hrq : r.number = q.number) : r = q := by
  cases r with
  | lookup ticket =>
    cases q with
    | lookup ticket' =>
      have hseq : ticket.seq = ticket'.seq := Sum.inl.inj hrq
      rw [List.inj_on_of_nodup_map h.lookups.pending_nodup (mem_tickets.2 hr) (mem_tickets.2 hq)
        hseq]
    | route request => cases hrq
  | route request =>
    cases q with
    | lookup ticket => cases hrq
    | route request' =>
      have hseq : request.seq = request'.seq := Sum.inr.inj hrq
      rw [List.inj_on_of_nodup_map h.routes.pending_nodup (mem_routeRequests.2 hr)
        (mem_routeRequests.2 hq) hseq]

/-- After any operations of a new session on layers, and for any answers to different requests that
are pending then: in whichever of two orders they are given, the sessions afterwards are the same but
for the numbers of handles, and their surfaces are exported as the same collection; every request is
answered the same; and no ticket is current if the answers include those to all pending lookups, nor
a route request if they include those to all pending route requests. -/
theorem deliveries_alike (surface : Layers) (settings : Settings) (operations : List Operation)
    {ds es : List Delivery}
    (pending_ds : ∀ d ∈ ds,
      d.request ∈ pending ((start surface settings).run operations).1)
    (distinct : (ds.map Delivery.request).Nodup) (order : ds.Perm es) :
    let past := (start surface settings).run operations
    let one := past.2.run (ds.map Delivery.operation)
    let other := past.2.run (es.map Delivery.operation)
    one.2.Alike other.2 ∧
      one.2.surface.featureCollection = other.2.surface.featureCollection ∧
      (one.1.map Entry.bare).Perm (other.1.map Entry.bare) ∧
      ((∀ ticket, .lookup ticket ∈ pending past.1 → .lookup ticket ∈ ds.map Delivery.request) →
        one.2.selection.current = none) ∧
      ((∀ request, .route request ∈ pending past.1 → .route request ∈ ds.map Delivery.request) →
        one.2.routeCurrent = none) := by
  intro past one other
  have hpast : past.2.Tallied past.1 := run_tallied surface settings operations
  -- Different requests that are pending have different numbers.
  have hnumbers : (ds.map fun d => d.request.number).Nodup := by
    have hmap : ds.map (fun d => d.request.number) =
        (ds.map Delivery.request).map Request.number := by
      rw [List.map_map]
      rfl
    rw [hmap]
    refine List.Nodup.map_on ?_ distinct
    intro r hr q hq
    obtain ⟨d, hd, rfl⟩ := List.mem_map.1 hr
    obtain ⟨e, he, rfl⟩ := List.mem_map.1 hq
    exact hpast.eq_of_number_eq (pending_ds d hd) (pending_ds e he)
  obtain ⟨halike, hentries⟩ := Delivery.run_perm order hnumbers past.2
  -- The answers belong to the history, too.
  have hone : one.2.Tallied (past.1 ++ one.1) := by
    have hall := run_tallied surface settings (operations ++ ds.map Delivery.operation)
    rw [run_append] at hall
    exact hall
  refine ⟨halike, halike.surface.featureCollection, hentries, ?_, ?_⟩
  · intro hall
    refine hone.lookups.current_eq_none (List.eq_nil_iff_forall_not_mem.2 fun ticket ht => ?_)
    obtain ⟨hmem, hnot⟩ := Delivery.pending_run past.2 past.1 ds (mem_tickets.1 ht)
    exact hnot (hall ticket hmem)
  · intro hall
    refine hone.routes.current_eq_none (List.eq_nil_iff_forall_not_mem.2 fun request hr => ?_)
    obtain ⟨hmem, hnot⟩ := Delivery.pending_run past.2 past.1 ds (mem_routeRequests.1 hr)
    exact hnot (hall request hmem)

/-- A node and a route are on their way to a page with two markers. In both orders of the answers the
page shows the same in the end, but the marker has another handle. -/
theorem deliveries_alike_lookup_route :
    let operations : List Operation := [.beginClick 48.0 9.0,
      .completeLookup ⟨1, .toggle .source⟩ (.ok ⟨⟨48.0, 9.0⟩, 7⟩), .beginClick 48.1 9.2,
      .completeLookup ⟨2, .toggle .destination⟩ (.ok ⟨⟨48.1, 9.2⟩, 8⟩), .beginRoute,
      .beginClick 48.2 9.1]
    let lookup : Delivery := .lookup ⟨3, .toggle .source⟩ (.ok ⟨⟨48.2, 9.1⟩, 9⟩)
    let route : Delivery := .route ⟨1, 7, 8⟩ (.ok ⟨1200.0, [(48.0, 9.0), (48.1, 9.2)]⟩)
    let past := (start Layers.empty .default).run operations
    let one := past.2.run [lookup.operation, route.operation]
    let other := past.2.run [route.operation, lookup.operation]
    (∀ d ∈ [lookup, route], d.request ∈ pending past.1) ∧
      ([lookup, route].map Delivery.request).Nodup ∧ one.2.Alike other.2 ∧
      (one.2.marker .source).map Marker.handle = some ⟨3⟩ ∧
      (other.2.marker .source).map Marker.handle = some ⟨4⟩ ∧
      one.2.selection.current = none ∧ one.2.routeCurrent = none := by
  intro operations lookup route past one other
  have hpending : pending past.1 = [route.request, lookup.request] := by decide
  have hds : ∀ d ∈ [lookup, route], d.request ∈ pending past.1 := by
    rw [hpending]
    simp
  have hdistinct : ([lookup, route].map Delivery.request).Nodup := by decide
  obtain ⟨halike, -, -, hlookups, hroutes⟩ :=
    deliveries_alike Layers.empty .default operations hds hdistinct (.swap route lookup [])
  have hone : (one.2.marker .source).map Marker.handle = some ⟨3⟩ := by decide
  have hother : (other.2.marker .source).map Marker.handle = some ⟨4⟩ := by decide
  refine ⟨hds, hdistinct, halike, hone, hother, hlookups ?_, hroutes ?_⟩
  · intro ticket hticket
    rw [hpending] at hticket
    simpa [or_comm] using hticket
  · intro request hrequest
    rw [hpending] at hrequest
    simpa [or_comm] using hrequest

end Waymark.Session
