import Waymark.Proofs.Points
import Waymark.Service.Basic

/-!
# What the lookup service is asked and answers

A lookup sends at most one request, and its query is that of the point that is looked up. Whatever
comes back, a node is found only on the globe (`run_closest`). What is found depends on nothing but
what comes back, for a node (`run_closest_exchanged`) and for a route (`run_route_exchanged`).
-/

namespace Waymark

/-- A node that a reply names lies on the globe. -/
theorem Reply.node_onGlobe {url : String} {near : Point} {reply : Reply} {node : Node}
    (h : reply.node url near = .ok node) : node.point.OnGlobe := by
  unfold Reply.node at h
  split at h
  · cases h
  · cases h
  case h_3 v hfound =>
  split at h
  · cases h
  case h_2 place hplace =>
  split at h
  · cases h
  case h_2 node' hnode =>
  cases h
  unfold Place.node at hnode
  split at hnode
  case h_1 point hpoint =>
    cases hnode
    obtain ⟨rfl, hadmits⟩ := Point.check_eq_ok_iff.1 hpoint
    exact hadmits.onGlobe
  case h_2 => cases hnode

/-- What is known in time of an answer is the answer itself, if it is no failure. -/
theorem Delayed.answer_of_within {α : Type} {limit : Nat} {d : Delayed α} {a : α}
    (h : d.within limit = .ok a) : d.answer = .ok a := by
  unfold within at h
  split at h
  · split at h
    · exact h
    · cases h
  · cases h

namespace Service

/-- Sends a request: its address is noted, and what comes back is the reply that is to come. -/
def noted (reply : Reply) (url : Url) : StateM (List Url) Reply :=
  modifyGet fun urls => (reply, urls ++ [url])

/-- What is sent for an address with a query, and what comes back of it. -/
inductive Exchanged (address : String) (query : List (String × String)) (reply : Reply) :
    List Url → Reply → Prop
  /-- Nothing is sent, for want of an address that is short enough, and nothing comes back. -/
  | unsent (hlong : ∀ base, Url.parse? address = some base →
      Url.maxBytes < (base.addQuery query).text.utf8ByteSize) :
    Exchanged address query reply [] .silence
  /-- One request is sent, with the query, and what comes back is the reply. -/
  | sent {base : Url} (hbase : Url.parse? address = some base) :
    Exchanged address query reply [base.addQuery query] reply

/-- At most one request is sent, with the given query. -/
theorem run_ask (reply : Reply) (address : String) (query : List (String × String))
    (urls : List Url) :
    ∃ received sent, (ask (noted reply) address query).run urls = (received, urls ++ sent) ∧
      Exchanged address query reply sent received := by
  unfold ask
  cases hparse : Url.parse? address with
  | none =>
    refine ⟨.silence, [], by rw [List.append_nil]; rfl, .unsent fun base hbase => ?_⟩
    rw [hparse] at hbase
    cases hbase
  | some base =>
    simp only [Option.map_some]
    split
    case isTrue => exact ⟨reply, [base.addQuery query], rfl, .sent hparse⟩
    case isFalse hlong =>
      refine ⟨.silence, [], by rw [List.append_nil]; rfl, .unsent fun base' hbase' => ?_⟩
      rw [hparse] at hbase'
      cases hbase'
      exact Nat.not_le.1 hlong

/-- The node that a lookup finds is that of what comes back. -/
theorem run_closest_exchanged (service : Service) (reply : Reply) (p : Point) (urls : List Url) :
    ∃ received sent,
      ((service.resolver (noted reply)).closest p).run urls =
        ({ answer := received.node (service.endpoint service.closestPath) p }, urls ++ sent) ∧
      Exchanged (service.endpoint service.closestPath) (pointQuery p) reply sent received := by
  obtain ⟨received, sent, hask, hexchanged⟩ :=
    run_ask reply (service.endpoint service.closestPath) (pointQuery p) urls
  refine ⟨received, sent, ?_, hexchanged⟩
  unfold resolver closest
  simp only [StateT.run_bind, hask]
  rfl

/-- The route that is found is that of what comes back. -/
theorem run_route_exchanged (service : Service) (reply : Reply) (source destination : UInt64)
    (urls : List Url) :
    ∃ received sent,
      ((service.resolver (noted reply)).route source destination).run urls =
        ({ answer := received.route (service.endpoint service.routePath) source destination },
          urls ++ sent) ∧
      Exchanged (service.endpoint service.routePath) (nodesQuery source destination) reply sent
        received := by
  obtain ⟨received, sent, hask, hexchanged⟩ :=
    run_ask reply (service.endpoint service.routePath) (nodesQuery source destination) urls
  refine ⟨received, sent, ?_, hexchanged⟩
  unfold resolver route
  simp only [StateT.run_bind, hask]
  rfl

/-- The route that is found is that of the reply, if a request was sent. -/
theorem route_answer_of_sent {service : Service} {reply : Reply} {source destination : UInt64}
    {fetched : Delayed Payload × List Url}
    (hrun : ((service.resolver (noted reply)).route source destination).run [] = fetched)
    (hsent : fetched.2 ≠ []) : fetched.1.answer =
      reply.route (service.endpoint service.routePath) source destination := by
  obtain ⟨received, sent, hexchange, hexchanged⟩ :=
    service.run_route_exchanged reply source destination []
  obtain rfl := hrun.symm.trans hexchange
  cases hexchanged with
  | unsent => exact absurd rfl hsent
  | sent => rfl

/-- A lookup asks for nothing but the node next to its point, and finds nodes on the globe only. -/
theorem run_closest (service : Service) (reply : Reply) (p : Point) (urls : List Url) :
    ∃ found sent, ((service.resolver (noted reply)).closest p).run urls = (found, urls ++ sent) ∧
      (∀ url ∈ sent, ∃ base, Url.parse? (service.endpoint service.closestPath) = some base ∧
        url = base.addQuery (pointQuery p)) ∧
      ∀ node, found.answer = .ok node → node.point.OnGlobe := by
  obtain ⟨received, sent, hrun, hexchanged⟩ := service.run_closest_exchanged reply p urls
  refine ⟨_, sent, hrun, fun url hurl => ?_, fun node => Reply.node_onGlobe⟩
  cases hexchanged with
  | unsent => cases hurl
  | sent hbase => exact ⟨_, hbase, List.mem_singleton.1 hurl⟩

end Service

end Waymark
