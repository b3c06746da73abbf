import Waymark.Proofs.Routes
import Waymark.Proofs.Session.Effects
import Waymark.Surface.Layers

/-!
# Ways to show a route

A route comes to the map as a distance and points, as the payload of a service, or as the answer to
a request. The three agree on what is drawn (`displays_agree`): each of them hands the same distance
and path to `Geometry.build`, and each then shows the route in the same way. They differ only in a
request that is on its way when the route is refused.
-/

namespace Waymark.Session

open Decimal

/-- For every session, distance and list of pairs, whatever the rule of the session is. If the pairs
and the distance make a route, then all three ways show it: with the distance and the points as they
were given, in one and the same session, of which no request is on its way. If they do not, then all
three refuse it for one and the same fault, the first one in the order length, distance, points,
where a point is reported in the words in which it is refused itself; the map and its route are as
they were, and only the request that was answered does not count any more. -/
theorem displays_agree {σ : Type} [Surface σ] (s : Session σ) (meters : Float)
    (pairs : List (Float × Float)) :
    let path : List Point := pairs.map fun pair => ⟨pair.1, pair.2⟩
    (Drawable meters path → ∃ g : Geometry, g.meters = meters ∧ g.path = path ∧
      let shown := { s with routeCurrent := none }.display g
      shown.route = some g ∧ shown.routeCurrent = none ∧
      s.showRoute meters path = (.ok g, shown) ∧
      s.showPayload ⟨meters, pairs⟩ = (.ok g, shown) ∧
      ∀ q, s.routeCurrent = some q.seq →
        s.completeRoute q (.ok ⟨meters, pairs⟩) = (.ok (.applied g), shown)) ∧
    (¬ Drawable meters path → ∃ fault : PathFault, fault.First meters path ∧
      (∀ index f, fault = .point index f → (Error.invalidPath fault).message =
        "Invalid path: Point " ++ natText index ++ ": " ++ (Error.invalidPoint f).message) ∧
      s.showRoute meters path = (.error (.invalidPath fault), s) ∧
      s.showPayload ⟨meters, pairs⟩ = (.error (.invalidPath fault), s) ∧
      ∀ q, s.routeCurrent = some q.seq → s.completeRoute q (.ok ⟨meters, pairs⟩) =
        (.error (.invalidPath fault), { s with routeCurrent := none })) := by
  intro path
  have hpayload : Geometry.ofPayload ⟨meters, pairs⟩ = Geometry.build meters path := rfl
  constructor
  · intro hdrawable
    obtain ⟨g, hmeters, hpath, hbuild⟩ := Geometry.exists_build hdrawable
    exact ⟨g, hmeters, hpath, rfl, rfl, showRoute_ok hbuild s,
      showPayload_ok (hpayload.trans hbuild) s,
      fun q hq => completeRoute_ok hq (hpayload.trans hbuild)⟩
  · intro hnot
    obtain ⟨fault, hfirst, hbuild⟩ := Geometry.build_eq_error hnot
    refine ⟨fault, hfirst, ?_, showRoute_error hbuild s,
      showPayload_error (hpayload.trans hbuild) s,
      fun q hq => completeRoute_refused hq (hpayload.trans hbuild)⟩
    rintro index f rfl
    exact PathFault.message_point index f

/-- In a session that takes no negative numbers from clicks, a request is answered with a route to a
point west of Greenwich, which is shown; and in its place with a route whose second and third points
are none, of which the second is reported. -/
theorem displays_agree_nonNegative :
    let s : Session Layers := { start Layers.empty .default with
      rule := .nonNegative, routesIssued := 1, routeCurrent := some 1 }
    let q : RouteRequest := ⟨1, 7, 8⟩
    (∃ g shown, s.showRoute 1200.5 [⟨48.0, 9.0⟩, ⟨48.1, -9.2⟩] = (.ok g, shown) ∧
      s.completeRoute q (.ok ⟨1200.5, [(48.0, 9.0), (48.1, -9.2)]⟩) = (.ok (.applied g), shown) ∧
      shown.route = some g) ∧
    (s.showRoute 1.0 [⟨48.0, 9.0⟩, ⟨95.0, 200.0⟩, ⟨0.0 / 0.0, 9.0⟩] =
        (.error (.invalidPath (.point 1 (.latitude 95.0))), s) ∧
      s.completeRoute q (.ok ⟨1.0, [(48.0, 9.0), (95.0, 200.0), (0.0 / 0.0, 9.0)]⟩) =
        (.error (.invalidPath (.point 1 (.latitude 95.0))), { s with routeCurrent := none })) := by
  intro s q
  constructor
  · obtain ⟨g₀, hbuild⟩ : ∃ g, Geometry.build 1200.5 [⟨48.0, 9.0⟩, ⟨48.1, -9.2⟩] = .ok g := ⟨_, rfl⟩
    obtain ⟨g, -, -, hroute, -, hshow, -, hcomplete⟩ :=
      (displays_agree s 1200.5 [(48.0, 9.0), (48.1, -9.2)]).1 (Geometry.build_eq_ok_iff.1 hbuild).1
    exact ⟨g, _, hshow, hcomplete q rfl, hroute⟩
  · have hbuild : Geometry.build 1.0 [⟨48.0, 9.0⟩, ⟨95.0, 200.0⟩, ⟨0.0 / 0.0, 9.0⟩] =
        .error (.point 1 (.latitude 95.0)) := rfl
    obtain ⟨fault, -, -, hshow, -, hcomplete⟩ :=
      (displays_agree s 1.0 [(48.0, 9.0), (95.0, 200.0), (0.0 / 0.0, 9.0)]).2
        (Geometry.first_of_build hbuild).not_drawable
    have hfault : fault = .point 1 (.latitude 95.0) := by
      have hanswer := congrArg Prod.fst ((showRoute_error hbuild s).symm.trans hshow)
      cases hanswer
      rfl
    subst hfault
    exact ⟨hshow, hcomplete q rfl⟩

end Waymark.Session
