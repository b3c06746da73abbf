import Mathlib.Logic.Relation
import Waymark.Proofs.Service.Answers
import Waymark.Proofs.Session.OnGlobe
import Waymark.Session.Direct

/-!
# Sessions that are served

A session does not send its requests itself. It hands them out, someone sends them to the lookup
service of the settings, and an answer that came back is applied later, in any order, or never.
`Step` is one step of all this together, with any operation of the session, any reply of the service
and any delay; a gesture that waits for its answer is three such steps.

Only points that the rule of the settings admits are sent, and nothing gets onto the map that is not
on the globe, whatever is replied (`served_onGlobe`). The invariant is `Served.Valid`: it also says
this of what is on its way, of the lookups that were not sent yet and of the nodes that were not
applied yet.
-/

namespace Waymark

/-- A session with what is on its way between it and the lookup service. -/
structure Served where
  /-- The session. -/
  session : Session Layers
  /-- The lookups that were handed out, in order. -/
  lookups : List Lookup := []
  /-- The route requests that were handed out, in order. -/
  requests : List RouteRequest := []
  /-- The addresses that were asked for the node next to a point, in order. -/
  asked : List Url := []
  /-- The answers of lookups, with their tickets. -/
  nodes : List (Ticket × Except Error Node) := []
  /-- The answers of route requests. -/
  routes : List (RouteRequest × Except Error Payload) := []

namespace Served

/-- A new session, with nothing on its way. -/
def start (settings : Settings) : Served := { session := .start Layers.empty settings }

/-- The session goes through an operation, and may hand something out. -/
def act (p : Served) (operation : Session.Operation) : Served :=
  { p with
    session := (p.session.act operation).2
    lookups := p.lookups ++ (p.session.act operation).1.lookup?.toList
    requests := p.requests ++ (p.session.act operation).1.request?.toList }

/-- A lookup is sent to a service, and the reply comes after a while, if it does. -/
def sendLookup (p : Served) (service : Service) (k : Lookup) (reply : Reply) (wait : Option Nat) :
    Served :=
  let found := ((service.resolver (Service.noted reply)).closest k.point).run p.asked
  { p with
    asked := found.2
    nodes := p.nodes ++ [(k.ticket, { found.1 with wait }.within p.session.timeoutMs)] }

/-- A route request is sent to a service, and the reply comes after a while, if it does. -/
def sendRequest (p : Served) (service : Service) (q : RouteRequest) (reply : Reply)
    (wait : Option Nat) : Served :=
  let found := ((service.resolver (Service.noted reply)).route q.source q.destination).run []
  { p with routes := p.routes ++ [(q, { found.1 with wait }.within p.session.timeoutMs)] }

/-- What can happen next. -/
inductive Step (settings : Settings) : Served → Served → Prop where
  /-- The session goes through an operation that is no answer. -/
  | act {p : Served} {operation : Session.Operation}
      (hanswer : ∀ response, Session.Entry.completes ⟨operation, response⟩ = none) :
    Step settings p (p.act operation)
  /-- A lookup is sent. -/
  | sendLookup {p : Served} {k : Lookup} (hk : k ∈ p.lookups) (reply : Reply)
      (wait : Option Nat) :
    Step settings p (p.sendLookup (.ofSettings settings) k reply wait)
  /-- A route request is sent. -/
  | sendRequest {p : Served} {q : RouteRequest} (hq : q ∈ p.requests) (reply : Reply)
      (wait : Option Nat) :
    Step settings p (p.sendRequest (.ofSettings settings) q reply wait)
  /-- The answer of a lookup is applied. -/
  | completeLookup {p : Served} {ticket : Ticket} {answer : Except Error Node}
      (hanswer : (ticket, answer) ∈ p.nodes) :
    Step settings p (p.act (.completeLookup ticket answer))
  /-- The answer of a route request is applied. -/
  | completeRoute {p : Served} {q : RouteRequest} {answer : Except Error Payload}
      (hanswer : (q, answer) ∈ p.routes) :
    Step settings p (p.act (.completeRoute q answer))

/-- What a session comes to by steps from its start. -/
def Reachable (settings : Settings) (p : Served) : Prop :=
  Relation.ReflTransGen (Step settings) (start settings) p

/-- An address is that of the service for nodes, and it asks for a point that the rule admits. -/
def Asks (settings : Settings) (url : Url) : Prop :=
  ∃ base point,
    Url.parse? ((Service.ofSettings settings).endpoint (Service.ofSettings settings).closestPath) =
      some base ∧
    url = base.addQuery (Service.pointQuery point) ∧ settings.validation.Admits point

/-- Everything on the map and on its way is valid. -/
structure Valid (settings : Settings) (p : Served) : Prop where
  /-- The session has the rule of the settings. -/
  rule : p.session.rule = settings.validation
  /-- New markers are shown at a zoom that the map has. -/
  zoom : p.session.markers.focusZoom ≤ 18
  /-- The map is on the globe. -/
  surface : p.session.surface.OnGlobe
  /-- The points of lookups are admitted. -/
  lookups : ∀ k ∈ p.lookups, settings.validation.Admits k.point
  /-- The points that the service was asked for are admitted. -/
  asked : ∀ url ∈ p.asked, Asks settings url
  /-- The nodes that were found are on the globe. -/
  nodes : ∀ ticket node, (ticket, .ok node) ∈ p.nodes → node.point.OnGlobe

namespace Valid

variable {settings : Settings} {p : Served}

/-- A new session is valid. -/
theorem start (h : settings.Good) : (Served.start settings).Valid settings where
  rule := rfl
  zoom := h.focusZoom
  surface := Session.start_onGlobe h
  lookups := nofun
  asked := nofun
  nodes := nofun

/-- Any operation keeps a session valid, if a node that it applies is on the globe. -/
theorem act (h : p.Valid settings) {operation : Session.Operation}
    (hnode : ∀ ticket node, operation = .completeLookup ticket (.ok node) → node.point.OnGlobe) :
    (p.act operation).Valid settings := by
  have hsame := p.session.act_sameSettings operation
  refine ⟨hsame.rule.trans h.rule, ?_, Session.act_onGlobe h.surface h.zoom hnode,
    fun k hk => ?_, h.asked, h.nodes⟩
  · show (p.session.act operation).2.markers.focusZoom ≤ 18
    rw [hsame.focusZoom]
    exact h.zoom
  · rcases List.mem_append.1 hk with hold | hnew
    · exact h.lookups k hold
    · rw [← h.rule]
      exact Session.admits_of_lookup (Option.mem_toList.1 hnew)

/-- A lookup that is sent keeps a session valid. -/
theorem sendLookup (h : p.Valid settings) {k : Lookup} (hk : k ∈ p.lookups) (reply : Reply)
    (wait : Option Nat) :
    (p.sendLookup (.ofSettings settings) k reply wait).Valid settings := by
  obtain ⟨found, sent, hrun, hsent, hfound⟩ :=
    (Service.ofSettings settings).run_closest reply k.point p.asked
  unfold Served.sendLookup
  rw [hrun]
  refine ⟨h.rule, h.zoom, h.surface, h.lookups, fun url hurl => ?_, fun ticket node hnode => ?_⟩
  · rcases List.mem_append.1 hurl with hold | hnew
    · exact h.asked url hold
    · obtain ⟨base, hbase, hquery⟩ := hsent url hnew
      exact ⟨base, k.point, hbase, hquery, h.lookups k hk⟩
  · rcases List.mem_append.1 hnode with hold | hnew
    · exact h.nodes ticket node hold
    · have hanswer := (Prod.mk.inj (List.mem_singleton.1 hnew)).2
      exact hfound node (Delayed.answer_of_within (d := { found with wait }) hanswer.symm)

/-- Every step keeps a session valid. -/
theorem step {q : Served} (h : p.Valid settings) (r : Step settings p q) : q.Valid settings := by
  cases r with
  | act hanswer =>
    -- An operation that is no answer applies no node.
    refine h.act fun ticket node hoperation => ?_
    subst hoperation
    cases hanswer .done
  | sendLookup hk reply wait => exact h.sendLookup hk reply wait
  | sendRequest hq reply wait =>
    -- A route that comes back is checked when it is shown.
    exact ⟨h.rule, h.zoom, h.surface, h.lookups, h.asked, h.nodes⟩
  | completeLookup hanswer =>
    refine h.act ?_
    rintro _ node ⟨⟩
    exact h.nodes _ node hanswer
  | completeRoute => exact h.act nofun

/-- A session that is reached by steps is valid. -/
theorem of_reachable (hgood : settings.Good) (h : Reachable settings p) : p.Valid settings := by
  induction h with
  | refl => exact .start hgood
  | tail _ r ih => exact ih.step r

end Valid

/-- With settings that are accepted, and whatever the session is asked to do, whatever is replied,
how late, and which answers are applied in what order: every address that is asked for a node is that
of a point which is finite, within bounds and admitted by the rule of the settings; every marker,
every point of a line and the middle of the view are finite and within bounds, and the zoom is at
most 18; and a route that is shown has two points or more and a finite distance that is not below
zero. -/
theorem served_onGlobe {settings : Settings} (hcheck : settings.check = .ok ()) {p : Served}
    (h : Reachable settings p) :
    (∀ url ∈ p.asked, Asks settings url) ∧ p.session.surface.OnGlobe ∧
      ∀ g, p.session.route = some g →
        2 ≤ g.path.length ∧ g.meters.isFinite = true ∧ ¬ g.meters < 0.0 := by
  have hvalid := Valid.of_reachable (Settings.check_eq_ok_iff.1 hcheck) h
  exact ⟨hvalid.asked, hvalid.surface, fun g _ => ⟨g.two_le_length, g.meters_length⟩⟩

/-- With the default settings, a click is answered with a node, and then a route is shown. -/
theorem served_onGlobe_clicked :
    let service := Service.ofSettings .default
    let k : Lookup := ⟨⟨1, .toggle .source⟩, ⟨48.0, 9.0⟩⟩
    let reply : Reply := .answer 200 "[48.1,9.1,7]".toUTF8 true
    let clicked := (start .default).act (.beginClick 48.0 9.0)
    let found := (((service.resolver (Service.noted reply)).closest k.point).run clicked.asked).1
    let answer := ({ found with wait := some 20 } : Delayed Node).within clicked.session.timeoutMs
    let sent := clicked.sendLookup service k reply (some 20)
    let placed := sent.act (.completeLookup k.ticket answer)
    let p := placed.act (.showRoute 7.5 [⟨48.0, 9.0⟩, ⟨48.1, 9.1⟩])
    (p.asked.length = 1 ∧ p.session.surface.markers.length = 1 ∧
      p.session.surface.lines.length = 1) ∧
    (∀ url ∈ p.asked, Asks .default url) ∧ p.session.surface.OnGlobe ∧
      ∀ g, p.session.route = some g →
        2 ≤ g.path.length ∧ g.meters.isFinite = true ∧ ¬ g.meters < 0.0 := by
  intro service k reply clicked found answer sent placed p
  have hk : k ∈ clicked.lookups := List.mem_singleton_self k
  have hanswer : (k.ticket, answer) ∈ sent.nodes :=
    List.mem_append_right clicked.nodes (List.mem_singleton_self (k.ticket, answer))
  have hclicked : Reachable .default clicked := .single (.act fun _ => rfl)
  have hsent : Reachable .default sent := hclicked.tail (.sendLookup hk reply (some 20))
  have hplaced : Reachable .default placed := hsent.tail (.completeLookup hanswer)
  have hreachable : Reachable .default p := hplaced.tail (.act fun _ => rfl)
  exact ⟨by decide +kernel, served_onGlobe rfl hreachable⟩

end Served

end Waymark
