import Waymark.Proofs.Routes
import Waymark.Proofs.Service.Answers
import Waymark.Proofs.Service.Bodies

/-!
# Routes that a service sends

A reply to a request for a route says that there is none, or it has the JSON of a distance and a
list of pairs (`NamesRoute`), or it is no answer to the question. Whether such a route may be drawn
is not decided here; of the distance only the sign is left to be looked at then
(`NamesRoute.drawable_iff`).
-/

namespace Waymark

open Json

namespace Payload

/-- A value is a pair of numbers. -/
def IsPair (v : Json) (pair : Float × Float) : Prop :=
  ∃ lat lng, v = .array [lat, lng] ∧ IsDouble lat pair.1 ∧ IsDouble lng pair.2

/-- A value is a list of pairs of numbers, in order. -/
def IsPath (v : Json) (pairs : List (Float × Float)) : Prop :=
  ∃ items, v = .array items ∧ List.Forall₂ IsPair items pairs

/-- A value is a route: an object whose members of the names `distance` and `path` are a number and
a list of pairs of numbers, or a list of these two. Of a repeated name the last member counts, and
members of other names do not. -/
inductive Written : Json → Payload → Prop
  /-- An object. -/
  | object {members : List (String × Json)} {distance path : Json} {payload : Payload}
      (hdistance : LastMember "distance" members distance) (hpath : LastMember "path" members path)
      (hdistanceDouble : IsDouble distance payload.distance)
      (hpathPairs : IsPath path payload.path) :
    Written (.object members) payload
  /-- A list. -/
  | list {distance path : Json} {payload : Payload}
      (hdistanceDouble : IsDouble distance payload.distance)
      (hpathPairs : IsPath path payload.path) :
    Written (.array [distance, path]) payload

/-- A value is taken as a pair of numbers iff it is one. -/
theorem pairOfJson_eq_ok_iff {v : Json} {pair : Float × Float} :
    pairOfJson v = .ok pair ↔ IsPair v pair := by
  constructor
  · intro h
    unfold pairOfJson at h
    split at h
    case h_1 => cases h
    case h_2 =>
      obtain ⟨_, -, h⟩ := bind_eq_ok_iff.1 h
      cases h
    case h_3 rest =>
      simp only [bind_eq_ok_iff] at h
      obtain ⟨lat, hlat, lng, hlng, h⟩ := h
      split at h
      case isFalse => cases h
      case isTrue hrest =>
        cases h
        obtain rfl := List.isEmpty_iff.1 hrest
        exact ⟨_, _, rfl, asDouble_eq_ok_iff.1 hlat, asDouble_eq_ok_iff.1 hlng⟩
    case h_4 => cases h
  · rintro ⟨lat, lng, rfl, hlat, hlng⟩
    unfold pairOfJson
    simp only [bind_eq_ok_iff]
    exact ⟨_, asDouble_eq_ok_iff.2 hlat, _, asDouble_eq_ok_iff.2 hlng, rfl⟩

/-- A value is taken as a list of pairs of numbers iff it is one. -/
theorem pathOfJson_eq_ok_iff {v : Json} {pairs : List (Float × Float)} :
    pathOfJson v = .ok pairs ↔ IsPath v pairs := by
  have hitems (items : List Json) : items.mapM pairOfJson = .ok pairs ↔
      List.Forall₂ IsPair items pairs := by
    simp only [mapM_eq_ok_iff, pairOfJson_eq_ok_iff]
  constructor
  · intro h
    unfold pathOfJson at h
    split at h
    case h_1 items => exact ⟨items, rfl, (hitems items).1 h⟩
    case h_2 => cases h
  · rintro ⟨items, rfl, hpairs⟩
    exact (hitems items).2 hpairs

/-- A value is taken as a route iff it is one. -/
theorem ofJson_eq_ok_iff {v : Json} {payload : Payload} :
    ofJson v = .ok payload ↔ Written v payload := by
  constructor
  · intro h
    unfold ofJson at h
    split at h
    case h_1 members =>
      simp only [bind_eq_ok_iff] at h
      obtain ⟨distance?, hdistance, path?, hpath, h⟩ := h
      split at h
      case h_1 =>
        cases h
        obtain ⟨distance, hdistance, hdistanceDouble⟩ := mapM_member_eq_ok_iff.1 hdistance
        obtain ⟨path, hpath, hpathPairs⟩ := mapM_member_eq_ok_iff.1 hpath
        exact .object hdistance hpath (asDouble_eq_ok_iff.1 hdistanceDouble)
          (pathOfJson_eq_ok_iff.1 hpathPairs)
      all_goals cases h
    case h_2 => cases h
    case h_3 =>
      obtain ⟨_, -, h⟩ := bind_eq_ok_iff.1 h
      cases h
    case h_4 rest =>
      simp only [bind_eq_ok_iff] at h
      obtain ⟨distance, hdistance, path, hpath, h⟩ := h
      split at h
      case isFalse => cases h
      case isTrue hrest =>
        cases h
        obtain rfl := List.isEmpty_iff.1 hrest
        exact .list (asDouble_eq_ok_iff.1 hdistance) (pathOfJson_eq_ok_iff.1 hpath)
    case h_5 => cases h
  · rintro (⟨hdistance, hpath, hdistanceDouble, hpathPairs⟩ | ⟨hdistance, hpath⟩)
    case object =>
      unfold ofJson
      simp only [bind_eq_ok_iff]
      exact ⟨_, mapM_member_eq_ok_iff.2 ⟨_, hdistance, asDouble_eq_ok_iff.2 hdistanceDouble⟩,
        _, mapM_member_eq_ok_iff.2 ⟨_, hpath, pathOfJson_eq_ok_iff.2 hpathPairs⟩, rfl⟩
    case list =>
      unfold ofJson
      simp only [bind_eq_ok_iff]
      exact ⟨_, asDouble_eq_ok_iff.2 hdistance, _, pathOfJson_eq_ok_iff.2 hpath, rfl⟩

/-- A route does not stand for "nothing". -/
theorem Written.not_falsy {v : Json} {payload : Payload} (h : Written v payload) : ¬ v.Falsy := by
  rintro (_ | _ | _ | _ | _ | _)
  case object =>
    cases h with
    | object hdistance =>
      obtain ⟨before, after, hmembers, -⟩ := hdistance
      exact List.append_ne_nil_of_right_ne_nil _ (List.cons_ne_nil _ _) hmembers.symm
  all_goals cases h

/-- The distance of a route that is read is finite. -/
theorem Written.isFinite_distance {v : Json} {payload : Payload} (h : Written v payload) :
    payload.distance.isFinite = true := by
  cases h with
  | object _ _ hdistance => exact hdistance.isFinite
  | list hdistance => exact hdistance.isFinite

/-- The points of a route, as a service sends them. -/
def points (payload : Payload) : List Point := payload.path.map fun pair => ⟨pair.1, pair.2⟩

end Payload

/-- A body has a route: it is the JSON of it. -/
def NamesRoute (body : ByteArray) (payload : Payload) : Prop :=
  ∃ v, IsJson body v ∧ Payload.Written v payload

namespace NamesRoute

variable {body : ByteArray} {payload : Payload}

/-- A body has one route at most. -/
theorem unique {payload' : Payload} (h : NamesRoute body payload) (h' : NamesRoute body payload') :
    payload = payload' := by
  obtain ⟨v, hv, hwritten⟩ := h
  obtain ⟨v', hv', hwritten'⟩ := h'
  obtain rfl := hv.unique hv'
  exact Except.ok.inj ((Payload.ofJson_eq_ok_iff.2 hwritten).symm.trans
    (Payload.ofJson_eq_ok_iff.2 hwritten'))

/-- A route that a body has may be drawn iff it has two points, a distance that is not below zero,
and points on the globe only. -/
theorem drawable_iff (h : NamesRoute body payload) : Drawable payload.distance payload.points ↔
    2 ≤ payload.path.length ∧ ¬ payload.distance < 0.0 ∧
      ∀ pair ∈ payload.path, Point.OnGlobe ⟨pair.1, pair.2⟩ := by
  obtain ⟨v, -, hwritten⟩ := h
  constructor
  · rintro ⟨hends, ⟨-, hsign⟩, hglobe⟩
    exact ⟨by simpa [Payload.points] using hends, hsign,
      fun pair hpair => hglobe _ (List.mem_map_of_mem hpair)⟩
  · rintro ⟨hends, hsign, hglobe⟩
    refine ⟨by simpa [Payload.points] using hends, ⟨hwritten.isFinite_distance, hsign⟩, ?_⟩
    intro p hp
    obtain ⟨pair, hpair, rfl⟩ := List.mem_map.1 hp
    exact hglobe pair hpair

/-- A route that a body has makes a route on the map iff it may be drawn, and that of its distance
and its points. -/
theorem ofPayload_eq_ok_iff (h : NamesRoute body payload) {g : Geometry} :
    Geometry.ofPayload payload = .ok g ↔ (2 ≤ payload.path.length ∧ ¬ payload.distance < 0.0 ∧
      ∀ pair ∈ payload.path, Point.OnGlobe ⟨pair.1, pair.2⟩) ∧
      g.meters = payload.distance ∧ g.path = payload.points := by
  rw [← h.drawable_iff]
  exact Geometry.build_eq_ok_iff

/-- A route that a body has is refused iff it has fewer than two points, a distance below zero, or a
point that is not on the globe. -/
theorem ofPayload_refused_iff (h : NamesRoute body payload) :
    (∃ fault, Geometry.ofPayload payload = .error fault) ↔
      payload.path.length < 2 ∨ payload.distance < 0.0 ∨
        ∃ pair ∈ payload.path, ¬ Point.OnGlobe ⟨pair.1, pair.2⟩ := by
  have hnot : (∃ fault, Geometry.ofPayload payload = .error fault) ↔
      ¬ Drawable payload.distance payload.points := by
    constructor
    · rintro ⟨fault, hfault⟩
      exact (Geometry.first_of_build hfault).not_drawable
    · intro hnot
      obtain ⟨fault, -, hfault⟩ := Geometry.build_eq_error hnot
      exact ⟨fault, hfault⟩
  rw [hnot, h.drawable_iff, not_and_or, not_and_or, Nat.not_le, not_not]
  simp only [not_forall, exists_prop]

end NamesRoute

namespace Reply

variable {url : String} {source destination : UInt64} {reply : Reply} {body : ByteArray}

/-- A reply is answered with a route iff its body has that route. -/
theorem route_eq_ok_iff (hbody : reply.Carries body) {payload : Payload} :
    reply.route url source destination = .ok payload ↔ NamesRoute body payload := by
  constructor
  · intro h
    unfold Reply.route at h
    split at h
    · cases h
    · cases h
    case h_3 v hfound =>
    split at h
    · cases h
    case h_2 payload' hpayload =>
    cases h
    obtain ⟨body', hcarries, hjson, -⟩ := found_eq_some_iff.1 hfound
    obtain rfl := hbody.unique hcarries
    exact ⟨v, hjson, Payload.ofJson_eq_ok_iff.1 hpayload⟩
  · rintro ⟨v, hjson, hwritten⟩
    have hfound : reply.found url = .ok (some v) :=
      found_eq_some_iff.2 ⟨body, hbody, hjson, hwritten.not_falsy⟩
    have hpayload := Payload.ofJson_eq_ok_iff.2 hwritten
    simp only [Reply.route, hfound, hpayload]

/-- A reply is answered with "no route" iff its body says so. -/
theorem route_eq_noRoute_iff (hbody : reply.Carries body) :
    reply.route url source destination = .error (.noRoute source destination) ↔
      SaysNothing body := by
  have hnothing : reply.found url = .ok none ↔ SaysNothing body := by
    rw [found_of_carries hbody, bodyFound_eq_none_iff]
  rw [← hnothing]
  constructor
  · intro h
    unfold Reply.route at h
    split at h
    · cases h
    case h_2 hfound => exact hfound
    case h_3 =>
    split at h <;> cases h
  · intro hfound
    simp only [Reply.route, hfound]

/-- A reply is answered with "no route", with a route, or with a failure of the transport. -/
theorem route_cases (url : String) (source destination : UInt64) (reply : Reply) :
    reply.route url source destination = .error (.noRoute source destination) ∨
      (∃ payload, reply.route url source destination = .ok payload) ∨
      ∃ fault, reply.route url source destination = .error (.transport fault) := by
  unfold Reply.route
  split
  · exact .inr (.inr ⟨_, rfl⟩)
  · exact .inl rfl
  split
  · exact .inr (.inr ⟨_, rfl⟩)
  · exact .inr (.inl ⟨_, rfl⟩)

/-- A reply is answered with a failure of the transport iff its body neither says that there is no
route nor has one. -/
theorem route_eq_transport_iff (hbody : reply.Carries body) :
    (∃ fault, reply.route url source destination = .error (.transport fault)) ↔
      ¬ SaysNothing body ∧ ∀ payload, ¬ NamesRoute body payload := by
  constructor
  · rintro ⟨fault, hfault⟩
    constructor
    · intro hnothing
      cases ((route_eq_noRoute_iff hbody).2 hnothing).symm.trans hfault
    · intro payload hnames
      cases ((route_eq_ok_iff hbody).2 hnames).symm.trans hfault
  · rintro ⟨hnothing, hnone⟩
    rcases route_cases url source destination reply with hanswer | ⟨payload, hanswer⟩ | hfault
    · exact absurd ((route_eq_noRoute_iff hbody).1 hanswer) hnothing
    · exact absurd ((route_eq_ok_iff hbody).1 hanswer) (hnone payload)
    · exact hfault

/-- Whether a route may be drawn is not decided where the reply is read. -/
theorem route_ne_invalidPath (fault : PathFault) :
    reply.route url source destination ≠ .error (.invalidPath fault) := by
  intro h
  rcases route_cases url source destination reply with hanswer | ⟨payload, hanswer⟩ |
    ⟨fault', hanswer⟩ <;> cases hanswer.symm.trans h

end Reply

end Waymark
