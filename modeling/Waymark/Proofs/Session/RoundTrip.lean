import Waymark.Proofs.Service.Routes
import Waymark.Proofs.Session.Mirror
import Waymark.Surface.GeoJson

/-!
# From a reply to a line

A route request of a session is sent to the service, and its reply is applied to the session. The
body of the reply alone decides what becomes of it, at one of four places: it says that there is no
route, it is not the JSON of a route, it is that of a route which may not be drawn, or that of one
which is then the only line on the map (`route_round_trip`). A service sends pairs of a latitude and
a longitude, and a map is exported with positions of a longitude and a latitude.
-/

namespace Waymark.Session

open Json Decimal

/-- On layers that were empty at first, the one line is that of the route, in the style of the
settings, after any operations. -/
theorem run_lines (settings : Settings) (operations : List Operation) :
    let s := ((start Layers.empty settings).run operations).2
    s.surface.lines = s.overlay.layers ∧ s.overlay.style = settings.style := by
  intro s
  have hfirst : Mirrored settings none (start Layers.empty settings) :=
    ⟨Markers.mirrored_empty rfl, rfl, rfl, rfl, rfl⟩
  obtain ⟨last, h⟩ : ∃ last, Mirrored settings last s :=
    run_induction (P := fun _ s => ∃ last, Mirrored settings last s)
      (fun _ s operation ⟨_, hs⟩ => ⟨_, hs.touch (s.act_touch operation)⟩) operations []
      ⟨none, hfirst⟩
  exact ⟨h.lines, h.style⟩

/-- A route that is shown is the only line that is exported, after the markers. -/
theorem featureCollection_display {s : Session Layers} (h : s.surface.lines = s.overlay.layers)
    (g : Geometry) : (s.display g).surface.featureCollection =
      .object [("type", .string "FeatureCollection"),
        ("features", .array (s.surface.markerLayers.map Layers.markerFeature ++
          [Layers.lineFeature ⟨g.path, s.overlay.style, Overlay.label g⟩]))] := by
  have hlines := Overlay.linesWithout_of_layers h
  show (s.overlay.display s.surface g).2.featureCollection = _
  rw [Overlay.display_layers, hlines]
  rfl

section Completed

variable {σ : Type} [Surface σ] {s : Session σ} {q : RouteRequest} {answer : Except Error Payload}

/-- A request that counts fails iff its answer is a failure or has a route that may not be drawn. -/
theorem completeRoute_eq_error_iff (hq : s.routeCurrent = some q.seq) {e : Error} :
    s.completeRoute q answer = (.error e, s.unrequested) ↔ answer = .error e ∨
      ∃ payload fault, answer = .ok payload ∧ Geometry.ofPayload payload = .error fault ∧
        e = .invalidPath fault := by
  cases answer with
  | error e' =>
    rw [completeRoute_error hq]
    simp
  | ok payload =>
    cases hbuild : Geometry.ofPayload payload with
    | error fault =>
      rw [completeRoute_refused hq hbuild]
      simp [hbuild, eq_comm]
    | ok g =>
      rw [completeRoute_ok hq hbuild]
      simp [hbuild]

/-- A request that counts is applied iff its answer has a route that may be drawn. -/
theorem completeRoute_applied_iff (hq : s.routeCurrent = some q.seq) {g : Geometry} :
    (s.completeRoute q answer).1 = .ok (.applied g) ↔
      ∃ payload, answer = .ok payload ∧ Geometry.ofPayload payload = .ok g := by
  cases answer with
  | error e =>
    rw [completeRoute_error hq]
    simp
  | ok payload =>
    cases hbuild : Geometry.ofPayload payload with
    | error fault =>
      rw [completeRoute_refused hq hbuild]
      simp [hbuild]
    | ok g' =>
      rw [completeRoute_ok hq hbuild]
      simp [hbuild]

variable {reply : Reply} {body : ByteArray}

/-- A request that counts has no route iff the body says so. -/
theorem completeRoute_nothing_iff (hq : s.routeCurrent = some q.seq) (hbody : reply.Carries body)
    (url : String) : s.completeRoute q (reply.route url q.source q.destination) =
      (.error (.noRoute q.source q.destination), s.unrequested) ↔ SaysNothing body := by
  rw [completeRoute_eq_error_iff hq, Reply.route_eq_noRoute_iff hbody]
  constructor
  · rintro (h | ⟨_, _, _, _, h⟩)
    · exact h
    · cases h
  · exact .inl

/-- A request that counts has a failure of the transport iff the body neither says that there is no
route nor has one. -/
theorem completeRoute_transport_iff (hq : s.routeCurrent = some q.seq)
    (hbody : reply.Carries body) (url : String) :
    (∃ fault, s.completeRoute q (reply.route url q.source q.destination) =
      (.error (.transport fault), s.unrequested)) ↔
      ¬ SaysNothing body ∧ ∀ payload, ¬ NamesRoute body payload := by
  have hfault (fault : TransportFault) :
      s.completeRoute q (reply.route url q.source q.destination) =
        (.error (.transport fault), s.unrequested) ↔
      reply.route url q.source q.destination = .error (.transport fault) := by
    rw [completeRoute_eq_error_iff hq]
    constructor
    · rintro (h | ⟨_, _, _, _, h⟩)
      · exact h
      · cases h
    · exact .inl
  exact (exists_congr hfault).trans (Reply.route_eq_transport_iff hbody)

/-- The route of a request that counts is refused iff the body has one that may not be drawn. -/
theorem completeRoute_refused_iff (hq : s.routeCurrent = some q.seq) (hbody : reply.Carries body)
    (url : String) :
    (∃ fault, s.completeRoute q (reply.route url q.source q.destination) =
      (.error (.invalidPath fault), s.unrequested)) ↔
      ∃ payload, NamesRoute body payload ∧ (payload.path.length < 2 ∨ payload.distance < 0.0 ∨
        ∃ pair ∈ payload.path, ¬ Point.OnGlobe ⟨pair.1, pair.2⟩) := by
  constructor
  · rintro ⟨fault, h⟩
    rcases (completeRoute_eq_error_iff hq).1 h with h | ⟨payload, fault', hpayload, hbuild, -⟩
    · exact absurd h (Reply.route_ne_invalidPath fault)
    · have hnames := (Reply.route_eq_ok_iff hbody).1 hpayload
      exact ⟨payload, hnames, hnames.ofPayload_refused_iff.1 ⟨fault', hbuild⟩⟩
  · rintro ⟨payload, hnames, hbad⟩
    obtain ⟨fault, hbuild⟩ := hnames.ofPayload_refused_iff.2 hbad
    exact ⟨fault, (completeRoute_eq_error_iff hq).2
      (.inr ⟨payload, fault, (Reply.route_eq_ok_iff hbody).2 hnames, hbuild, rfl⟩)⟩

/-- The route of a request that counts is applied iff the body has it and it may be drawn. -/
theorem completeRoute_drawn_iff (hq : s.routeCurrent = some q.seq) (hbody : reply.Carries body)
    (url : String) {g : Geometry} :
    (s.completeRoute q (reply.route url q.source q.destination)).1 = .ok (.applied g) ↔
      ∃ payload, NamesRoute body payload ∧ (2 ≤ payload.path.length ∧ ¬ payload.distance < 0.0 ∧
        ∀ pair ∈ payload.path, Point.OnGlobe ⟨pair.1, pair.2⟩) ∧
        g.meters = payload.distance ∧ g.path = payload.points := by
  rw [completeRoute_applied_iff hq]
  refine exists_congr fun payload => ?_
  rw [Reply.route_eq_ok_iff hbody]
  exact and_congr_right fun hnames => hnames.ofPayload_eq_ok_iff

end Completed

/-- On layers that were empty at first, after any operations: a route request that counts is sent to
a service, and a complete reply of success comes and is applied. There is no route iff the body is
blank or the JSON of a value that stands for "nothing". It is a failure of the transport iff the
body is none of this and not the JSON of a distance and a list of pairs either. The route is refused
iff the body is the JSON of one with fewer than two pairs, a distance below zero or a pair that is
not on the globe. In these three cases nothing changes but that no request counts any more. And the
route is applied iff the body is the JSON of any other one, and then the body has no second one, no
request counts, the markers are exported as before, and the only line after them runs through the
pairs in their order, the longitude of each before its latitude, under a label with the distance. -/
theorem route_round_trip {settings : Settings} {operations : List Operation} {service : Service}
    {q : RouteRequest} {reply : Reply} {body : ByteArray} {s : Session Layers}
    {fetched : Delayed Payload × List Url}
    (hs : s = ((start Layers.empty settings).run operations).2)
    (hq : s.routeCurrent = some q.seq)
    (hfetched : fetched =
      ((service.resolver (Service.noted reply)).route q.source q.destination).run [])
    (hsent : fetched.2 ≠ []) (hbody : reply.Carries body) :
    let result := s.completeRoute q fetched.1.answer
    let dropped := { s with routeCurrent := none }
    (result = (.error (.noRoute q.source q.destination), dropped) ↔ SaysNothing body) ∧
    ((∃ fault, result = (.error (.transport fault), dropped)) ↔
      ¬ SaysNothing body ∧ ∀ payload, ¬ NamesRoute body payload) ∧
    ((∃ fault, result = (.error (.invalidPath fault), dropped)) ↔
      ∃ payload, NamesRoute body payload ∧ (payload.path.length < 2 ∨ payload.distance < 0.0 ∨
        ∃ pair ∈ payload.path, ¬ Point.OnGlobe ⟨pair.1, pair.2⟩)) ∧
    ((∃ g, result.1 = .ok (.applied g)) ↔
      ∃ payload, NamesRoute body payload ∧ 2 ≤ payload.path.length ∧ ¬ payload.distance < 0.0 ∧
        ∀ pair ∈ payload.path, Point.OnGlobe ⟨pair.1, pair.2⟩) ∧
    ∀ g, result.1 = .ok (.applied g) → ∃ payload, NamesRoute body payload ∧
      (∀ other, NamesRoute body other → other = payload) ∧
      g.meters = payload.distance ∧ g.path = payload.points ∧
      result.2.route = some g ∧ result.2.routeCurrent = none ∧
      result.2.surface.featureCollection = .object [("type", .string "FeatureCollection"),
        ("features", .array (s.surface.markerLayers.map Layers.markerFeature ++
          [Layers.feature "LineString"
            (.array (payload.path.map fun pair => .array [.ofFloat pair.2, .ofFloat pair.1]))
            [("color", .string settings.color), ("opacity", .ofFloat settings.opacity),
              ("popup", .string ("distance: " ++ floatText payload.distance ++ " m")),
              ("weight", .ofNat settings.weight.toNat)]]))] := by
  obtain ⟨hlines, hstyle⟩ := run_lines settings operations
  rw [← hs] at hlines hstyle
  rw [Service.route_answer_of_sent hfetched.symm hsent]
  intro result dropped
  refine ⟨completeRoute_nothing_iff hq hbody _, completeRoute_transport_iff hq hbody _,
    completeRoute_refused_iff hq hbody _, ⟨?_, ?_⟩, ?_⟩
  · rintro ⟨g, hg⟩
    obtain ⟨payload, hnames, hgood, -⟩ := (completeRoute_drawn_iff hq hbody _).1 hg
    exact ⟨payload, hnames, hgood⟩
  · rintro ⟨payload, hnames, hgood⟩
    obtain ⟨g, hmeters, hpath, -⟩ := Geometry.exists_build (hnames.drawable_iff.2 hgood)
    exact ⟨g, (completeRoute_drawn_iff hq hbody _).2 ⟨payload, hnames, hgood, hmeters, hpath⟩⟩
  · intro g hg
    obtain ⟨payload, hpayload, hbuild⟩ := (completeRoute_applied_iff hq).1 hg
    have hnames := (Reply.route_eq_ok_iff hbody).1 hpayload
    obtain ⟨-, hmeters, hpath⟩ := hnames.ofPayload_eq_ok_iff.1 hbuild
    have hresult : result = (.ok (.applied g), s.unrequested.display g) :=
      (congrArg (s.completeRoute q) hpayload).trans (completeRoute_ok hq hbuild)
    rw [hresult]
    have hstyled : s.unrequested.overlay.style = settings.style := hstyle
    have hpositions : g.path.map Layers.position =
        payload.path.map fun pair => .array [.ofFloat pair.2, .ofFloat pair.1] := by
      rw [hpath, Payload.points, List.map_map]
      rfl
    refine ⟨payload, hnames, fun other hother => hother.unique hnames, hmeters, hpath, rfl, rfl, ?_⟩
    rw [featureCollection_display (s := s.unrequested) hlines, Layers.lineFeature, Overlay.label,
      hpositions, hmeters, hstyled]
    rfl

/-- Two nodes are chosen and the route between them is asked for. The reply is an object with its
path before its distance, and its route is shown. -/
theorem route_round_trip_applied :
    let operations : List Operation := [
      .beginClick 48.0 9.0, .completeLookup ⟨1, .toggle .source⟩ (.ok ⟨⟨48.0, 9.0⟩, 7⟩),
      .beginClick 48.1 9.2, .completeLookup ⟨2, .toggle .destination⟩ (.ok ⟨⟨48.1, 9.2⟩, 8⟩),
      .beginRoute]
    let service := Service.ofSettings .default
    let q : RouteRequest := ⟨1, 7, 8⟩
    let body := "\x7b\"path\":[[48.0,9.0],[48.1,-9.2]],\"distance\":1200.5\x7d".toUTF8
    let reply : Reply := .answer 200 body true
    let s := ((start Layers.empty .default).run operations).2
    let fetched := ((service.resolver (Service.noted reply)).route q.source q.destination).run []
    let result := s.completeRoute q fetched.1.answer
    s.routeCurrent = some q.seq ∧ fetched.2.length = 1 ∧ reply.Carries body ∧
      ∃ g, result.1 = .ok (.applied g) ∧ result.2.route = some g := by
  intro operations service q body reply s fetched result
  have hs : s = ((start Layers.empty .default).run operations).2 := rfl
  have hq : s.routeCurrent = some q.seq := rfl
  have hfetched : fetched =
      ((service.resolver (Service.noted reply)).route q.source q.destination).run [] := rfl
  have hsent : fetched.2.length = 1 := by decide +kernel
  have hbody : reply.Carries body := ⟨200, rfl, by decide, by decide⟩
  have htoOption {ε α : Type} {r : Except ε α} {a : α} (h : r.toOption = some a) : r = .ok a := by
    cases r <;> cases h
    rfl
  -- The body is read and its route drawn, by evaluation.
  have hdrawn : (((bodyJson? body).bind fun v => (Payload.ofJson v).toOption).bind fun payload =>
      (Geometry.ofPayload payload).toOption).isSome = true := by decide +kernel
  obtain ⟨payload, g₀, hnames, hbuild⟩ : ∃ payload g, NamesRoute body payload ∧
      Geometry.ofPayload payload = .ok g := by
    obtain ⟨g, hg⟩ := Option.isSome_iff_exists.1 hdrawn
    obtain ⟨payload, hpayload, hbuild⟩ := Option.bind_eq_some_iff.1 hg
    obtain ⟨v, hv, hread⟩ := Option.bind_eq_some_iff.1 hpayload
    have hwritten := Payload.ofJson_eq_ok_iff.1 (htoOption hread)
    exact ⟨payload, g, ⟨v, bodyJson?_eq_some_iff.1 hv, hwritten⟩, htoOption hbuild⟩
  have hne : fetched.2 ≠ [] := List.ne_nil_of_length_eq_add_one hsent
  obtain ⟨-, -, -, happlied, hshown⟩ :=
    route_round_trip hs hq hfetched hne hbody
  obtain ⟨g, hg⟩ := happlied.2 ⟨payload, hnames, (hnames.ofPayload_eq_ok_iff.1 hbuild).1⟩
  obtain ⟨-, -, -, -, -, hroute, -⟩ := hshown g hg
  exact ⟨hq, hsent, hbody, g, hg, hroute⟩

end Waymark.Session
