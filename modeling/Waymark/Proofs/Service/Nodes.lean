import Waymark.Proofs.Routes
import Waymark.Proofs.Service.Answers
import Waymark.Proofs.Service.Bodies

/-!
# Nodes that a service sends

Every reply to a lookup is one of three things: it says that there is no node, it names a node on
the globe, or it is no answer to the question (`closest_answer`). Which of them it is depends on its
body alone, if it carries one, and `Place.Written` says which values are nodes.
-/

namespace Waymark

open Json

/-- A value is a node: an object whose members of the names `lat`, `lng` and `id` are two numbers
and a natural one, or a list of these three. Of a repeated name the last member counts, and members
of other names do not. -/
inductive Place.Written : Json → Place → Prop
  /-- An object. -/
  | object {members : List (String × Json)} {lat lng id : Json} {place : Place}
      (hlat : LastMember "lat" members lat) (hlng : LastMember "lng" members lng)
      (hid : LastMember "id" members id) (hlatDouble : IsDouble lat place.lat)
      (hlngDouble : IsDouble lng place.lng) (hidNatural : IsNatural id place.id) :
    Written (.object members) place
  /-- A list. -/
  | list {lat lng id : Json} {place : Place} (hlatDouble : IsDouble lat place.lat)
      (hlngDouble : IsDouble lng place.lng) (hidNatural : IsNatural id place.id) :
    Written (.array [lat, lng, id]) place

/-- A body names a node: it is the JSON of one that lies on the globe, with just these numbers. -/
def NamesNode (body : ByteArray) (node : Node) : Prop :=
  ∃ v place, IsJson body v ∧ Place.Written v place ∧ Point.OnGlobe ⟨place.lat, place.lng⟩ ∧
    node = ⟨⟨place.lat, place.lng⟩, place.id⟩

namespace Place

/-- A value is taken as a node iff it is one. -/
theorem ofJson_eq_ok_iff {v : Json} {place : Place} :
    ofJson v = .ok place ↔ Written v place := by
  constructor
  · intro h
    unfold ofJson at h
    split at h
    case h_1 members =>
      -- The members are read in the order of their names.
      simp only [bind_eq_ok_iff] at h
      obtain ⟨id?, hid, lat?, hlat, lng?, hlng, h⟩ := h
      split at h
      case h_1 =>
        cases h
        obtain ⟨id, hid, hidNatural⟩ := mapM_member_eq_ok_iff.1 hid
        obtain ⟨lat, hlat, hlatDouble⟩ := mapM_member_eq_ok_iff.1 hlat
        obtain ⟨lng, hlng, hlngDouble⟩ := mapM_member_eq_ok_iff.1 hlng
        exact .object hlat hlng hid (asDouble_eq_ok_iff.1 hlatDouble)
          (asDouble_eq_ok_iff.1 hlngDouble) (asNatural_eq_ok_iff.1 hidNatural)
      all_goals cases h
    case h_2 => cases h
    case h_3 =>
      obtain ⟨_, -, h⟩ := bind_eq_ok_iff.1 h
      cases h
    case h_4 =>
      simp only [bind_eq_ok_iff] at h
      obtain ⟨_, -, _, -, h⟩ := h
      cases h
    case h_5 rest =>
      simp only [bind_eq_ok_iff] at h
      obtain ⟨lat, hlat, lng, hlng, id, hid, h⟩ := h
      split at h
      case isFalse => cases h
      case isTrue hrest =>
        cases h
        obtain rfl := List.isEmpty_iff.1 hrest
        exact .list (asDouble_eq_ok_iff.1 hlat) (asDouble_eq_ok_iff.1 hlng)
          (asNatural_eq_ok_iff.1 hid)
    case h_6 => cases h
  · rintro (⟨hlat, hlng, hid, hlatDouble, hlngDouble, hidNatural⟩ | ⟨hlat, hlng, hid⟩)
    case object =>
      unfold ofJson
      simp only [bind_eq_ok_iff]
      exact ⟨_, mapM_member_eq_ok_iff.2 ⟨_, hid, asNatural_eq_ok_iff.2 hidNatural⟩,
        _, mapM_member_eq_ok_iff.2 ⟨_, hlat, asDouble_eq_ok_iff.2 hlatDouble⟩,
        _, mapM_member_eq_ok_iff.2 ⟨_, hlng, asDouble_eq_ok_iff.2 hlngDouble⟩, rfl⟩
    case list =>
      unfold ofJson
      simp only [bind_eq_ok_iff]
      exact ⟨_, asDouble_eq_ok_iff.2 hlat, _, asDouble_eq_ok_iff.2 hlng,
        _, asNatural_eq_ok_iff.2 hid, rfl⟩

/-- A node does not stand for "nothing". -/
theorem Written.not_falsy {v : Json} {place : Place} (h : Written v place) : ¬ v.Falsy := by
  rintro (_ | _ | _ | _ | _ | _)
  case object =>
    cases h with
    | object hlat =>
      obtain ⟨before, after, hmembers, -⟩ := hlat
      exact List.append_ne_nil_of_right_ne_nil _ (List.cons_ne_nil _ _) hmembers.symm
  all_goals cases h

/-- A place is that of a node iff it is on the globe. -/
theorem node_eq_ok_iff {place : Place} {node : Node} : place.node = .ok node ↔
    Point.OnGlobe ⟨place.lat, place.lng⟩ ∧ node = ⟨⟨place.lat, place.lng⟩, place.id⟩ := by
  constructor
  · intro h
    unfold Place.node at h
    split at h
    case h_1 point hpoint =>
      cases h
      obtain ⟨rfl, hadmits⟩ := Point.check_eq_ok_iff.1 hpoint
      exact ⟨hadmits.onGlobe, rfl⟩
    case h_2 => cases h
  · rintro ⟨hglobe, rfl⟩
    have hcheck := hglobe.check
    unfold Place.node
    simp only [hcheck]

end Place

namespace Reply

variable {url : String} {near : Point} {reply : Reply}

/-- A reply is answered with a node iff it carries a body that names it. -/
theorem node_eq_ok_iff {node : Node} :
    reply.node url near = .ok node ↔ ∃ body, reply.Carries body ∧ NamesNode body node := by
  constructor
  · intro h
    unfold Reply.node at h
    split at h
    · cases h
    · cases h
    case h_3 v hfound =>
    split at h
    · cases h
    case h_2 place hplace =>
    split at h
    · cases h
    case h_2 node' hnode =>
    cases h
    obtain ⟨body, hcarries, hjson, -⟩ := found_eq_some_iff.1 hfound
    obtain ⟨hglobe, rfl⟩ := Place.node_eq_ok_iff.1 hnode
    exact ⟨body, hcarries, v, place, hjson, Place.ofJson_eq_ok_iff.1 hplace, hglobe, rfl⟩
  · rintro ⟨body, hcarries, v, place, hjson, hwritten, hglobe, rfl⟩
    have hfound : reply.found url = .ok (some v) :=
      found_eq_some_iff.2 ⟨body, hcarries, hjson, hwritten.not_falsy⟩
    have hplace := Place.ofJson_eq_ok_iff.2 hwritten
    have hnode := Place.node_eq_ok_iff.2 ⟨hglobe, rfl⟩
    simp only [Reply.node, hfound, hplace, hnode]

/-- A reply is answered with "no node" iff it carries a body that says so. -/
theorem node_eq_noNeighbour_iff : reply.node url near = .error (.noNeighbour near.lat near.lng) ↔
    ∃ body, reply.Carries body ∧ SaysNothing body := by
  refine Iff.trans ?_ (found_eq_none_iff : reply.found url = .ok none ↔ _)
  constructor
  · intro h
    unfold Reply.node at h
    split at h
    · cases h
    case h_2 hfound => exact hfound
    case h_3 =>
    split at h
    · cases h
    split at h <;> cases h
  · intro hfound
    simp only [Reply.node, hfound]

/-- A reply is answered with "no node", with a node, or with a failure of the transport. -/
theorem node_cases (url : String) (near : Point) (reply : Reply) :
    reply.node url near = .error (.noNeighbour near.lat near.lng) ∨
      (∃ node, reply.node url near = .ok node) ∨
      ∃ fault, reply.node url near = .error (.transport fault) := by
  unfold Reply.node
  split
  · exact .inr (.inr ⟨_, rfl⟩)
  · exact .inl rfl
  split
  · exact .inr (.inr ⟨_, rfl⟩)
  split
  · exact .inr (.inr ⟨_, rfl⟩)
  · exact .inr (.inl ⟨_, rfl⟩)

/-- A reply is answered with a failure of the transport iff it carries no body that says that there
is no node or that names one. -/
theorem node_eq_transport_iff : (∃ fault, reply.node url near = .error (.transport fault)) ↔
    ∀ body, reply.Carries body → ¬ SaysNothing body ∧ ∀ node, ¬ NamesNode body node := by
  constructor
  · rintro ⟨fault, hfault⟩ body hcarries
    constructor
    · intro hnothing
      have hanswer : reply.node url near = .error (.noNeighbour near.lat near.lng) :=
        node_eq_noNeighbour_iff.2 ⟨body, hcarries, hnothing⟩
      cases hanswer.symm.trans hfault
    · intro node hnode
      have hanswer : reply.node url near = .ok node :=
        node_eq_ok_iff.2 ⟨body, hcarries, hnode⟩
      cases hanswer.symm.trans hfault
  · intro hnone
    rcases node_cases url near reply with hanswer | ⟨node, hanswer⟩ | hfault
    · obtain ⟨body, hcarries, hnothing⟩ := node_eq_noNeighbour_iff.1 hanswer
      exact absurd hnothing (hnone body hcarries).1
    · obtain ⟨body, hcarries, hnode⟩ := node_eq_ok_iff.1 hanswer
      exact absurd hnode ((hnone body hcarries).2 node)
    · exact hfault

end Reply

namespace Service

/-- For all settings, whatever their rule is, every point and everything that may come back: one
request is sent at most, and its answer is one of three things. There is no node next to this point,
iff what came back is complete and of success and its body is blank or the JSON of a value that
stands for "nothing". It is a node, iff the body is instead the JSON of just this node and it lies
on the globe. And it is a failure of the transport in all other cases. -/
theorem closest_answer (settings : Settings) (reply : Reply) (p : Point) (urls : List Url) :
    let service := ofSettings settings
    ∃ found received sent,
      ((service.resolver (noted reply)).closest p).run urls = (found, urls ++ sent) ∧
      Exchanged (service.endpoint service.closestPath) (pointQuery p) reply sent received ∧
      (found.answer = .error (.noNeighbour p.lat p.lng) ∨ (∃ node, found.answer = .ok node) ∨
        ∃ fault, found.answer = .error (.transport fault)) ∧
      (found.answer = .error (.noNeighbour p.lat p.lng) ↔
        ∃ body, received.Carries body ∧ SaysNothing body) ∧
      (∀ node, found.answer = .ok node ↔ ∃ body, received.Carries body ∧ NamesNode body node) ∧
      ((∃ fault, found.answer = .error (.transport fault)) ↔
        ∀ body, received.Carries body → ¬ SaysNothing body ∧ ∀ node, ¬ NamesNode body node) := by
  intro service
  obtain ⟨received, sent, hrun, hexchanged⟩ := service.run_closest_exchanged reply p urls
  exact ⟨_, received, sent, hrun, hexchanged, Reply.node_cases _ _ _,
    Reply.node_eq_noNeighbour_iff, fun node => Reply.node_eq_ok_iff, Reply.node_eq_transport_iff⟩

/-- Of a repeated name the last member counts, others do not, and a node may lie in the west. -/
example :
    let body := "\x7b\"lat\":91,\"id\":7,\"lng\":-9.1,\"lat\":48.1,\"name\":null\x7d"
    (match (Reply.answer 200 body.toUTF8 true).node "" ⟨48.0, 9.0⟩ with
      | .ok node => node.id == 7 && node.point.lat == 48.1 && node.point.lng == -9.1
      | .error _ => false) = true := by
  decide +kernel

end Service

end Waymark
