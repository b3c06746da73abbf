import Waymark.Proofs.Session.Latest
import Waymark.Proofs.Session.Requests
import Waymark.Session.Direct

/-!
# Operations that fail

A failure leaves the map as it was. An operation can fail in three ways (`Failure`): it is refused
and nothing has happened, or it is the answer of a lookup or of a route request that counted, which
is used up by it and nothing else. A gesture that waits for its answer fails in the same ways, after
it may have numbered its request.
-/

namespace Waymark.Session

variable {σ : Type}

/-- What shows the same as what shows the same shows the same. -/
theorem SameMap.trans {s t u : Session σ} (h : s.SameMap t) (h' : t.SameMap u) : s.SameMap u :=
  ⟨h'.active.trans h.active, h'.markers.trans h.markers, h'.overlay.trans h.overlay,
    h'.surface.trans h.surface⟩

/-- A failure leaves the map as it was. -/
theorem Failure.sameMap {s t : Session σ} {operation : Operation} (h : Failure s operation t) :
    s.SameMap t := by
  cases h with
  | refused | lookup | route => exact ⟨rfl, rfl, rfl, rfl⟩

variable [Surface σ]

/-- A lookup whose ticket was current stays stale once no ticket is, whatever follows. -/
theorem completeLookup_stale_later {s : Session σ} {ticket : Ticket}
    (hissued : ticket.seq ≤ s.selection.issued) (hcurrent : s.selection.current = none)
    (operations : List Operation) (answer : Except Error Node) :
    let later := (s.run operations).2
    later.completeLookup ticket answer = (.ok (.stale ticket.seq), later) := by
  -- A number that was given is not given again, so that what is not current never is again.
  refine completeLookup_stale (fun hlate => ?_) answer
  have hstill := ((run_current_iff hissued operations).2.1 hlate).1
  rw [hcurrent] at hstill
  cases hstill

/-- A route request that was current stays stale once none is, whatever follows. -/
theorem completeRoute_stale_later {s : Session σ} {request : RouteRequest}
    (hissued : request.seq ≤ s.routesIssued) (hcurrent : s.routeCurrent = none)
    (operations : List Operation) (answer : Except Error Payload) :
    let later := (s.run operations).2
    later.completeRoute request answer = (.ok (.stale request.seq), later) := by
  refine completeRoute_stale (fun hlate => ?_) answer
  have hstill := ((run_routeCurrent_iff hissued operations).2.1 hlate).1
  rw [hcurrent] at hstill
  cases hstill

/-- The answer of a lookup that fails leaves the map as it was when the lookup was asked for. -/
theorem SameMap.completeLookup_error {s t : Session σ} (hbegun : s.SameMap t) {ticket : Ticket}
    {answer : Except Error Node} {e : Error} (h : (t.completeLookup ticket answer).1 = .error e) :
    s.SameMap (t.completeLookup ticket answer).2 := by
  have hact : (t.act (.completeLookup ticket answer)).1.error? = some e := by
    simp [act, h, Response.error?]
  exact hbegun.trans (act_failure hact).sameMap

/-- The answer of a route request that fails leaves the map as it was when the route was asked
for. -/
theorem SameMap.completeRoute_error {s t : Session σ} (hbegun : s.SameMap t)
    {request : RouteRequest} {answer : Except Error Payload} {e : Error}
    (h : (t.completeRoute request answer).1 = .error e) :
    s.SameMap (t.completeRoute request answer).2 := by
  have hact : (t.act (.completeRoute request answer)).1.error? = some e := by
    simp [act, h, Response.error?]
  exact hbegun.trans (act_failure hact).sameMap

section Direct

variable {τ : Type} (r : Resolver (StateM τ)) (world : τ) (s : Session σ) {e : Error}

/-- A lookup that waits for its answer and fails leaves the map as it was before the gesture. -/
theorem finishLookup_sameMap {begun : Except Error Lookup × Session σ} (hbegun : s.SameMap begun.2)
    (h : ((finishLookup r begun).run world).1.1 = .error e) :
    s.SameMap ((finishLookup r begun).run world).1.2 := by
  obtain ⟨answer, t⟩ := begun
  cases answer with
  | error e => exact hbegun
  | ok lookup => exact hbegun.completeLookup_error h

/-- A click that waits for its answer and fails leaves the map as it was. -/
theorem pick_sameMap (lat lng : Float) (h : ((pick r s lat lng).run world).1.1 = .error e) :
    s.SameMap ((pick r s lat lng).run world).1.2 := by
  unfold pick at h ⊢
  refine finishLookup_sameMap r world s ?_ h
  rcases s.beginClick_cases lat lng with ⟨fault, -, hs⟩ | ⟨point, -, hs⟩ <;> rw [hs] <;>
    exact ⟨rfl, rfl, rfl, rfl⟩

/-- A form entry that waits for its answer and fails leaves the map as it was. -/
theorem submit_sameMap (role : Role) (lat lng : String)
    (h : ((submit r s role lat lng).run world).1.1 = .error e) :
    s.SameMap ((submit r s role lat lng).run world).1.2 := by
  unfold submit at h ⊢
  refine finishLookup_sameMap r world s ?_ h
  rcases s.beginSubmit_cases role lat lng with ⟨fault, -, hs⟩ | ⟨point, -, hs⟩ <;> rw [hs] <;>
    exact ⟨rfl, rfl, rfl, rfl⟩

/-- A request for a route that waits for its answer and fails leaves the map as it was. -/
theorem calcRoute_sameMap (h : ((calcRoute r s).run world).1.1 = .error e) :
    s.SameMap ((calcRoute r s).run world).1.2 := by
  unfold calcRoute at h ⊢
  rcases s.beginRoute_cases with ⟨role, -, hs⟩ | ⟨source, destination, -, -, hs⟩ <;>
    simp only [hs] at h ⊢
  · exact ⟨rfl, rfl, rfl, rfl⟩
  · have hbegun : s.SameMap s.requested := ⟨rfl, rfl, rfl, rfl⟩
    exact hbegun.completeRoute_error h

end Direct

/-- Every operation of every session that fails leaves the map as it was: the active role, the
markers, the route and the surface with all that is on it. If it was the answer of a lookup or of a
route request, then this counted and does so no more, so that every later answer to it is stale; and
nothing else about the session has changed. If it was anything else, then nothing at all has changed,
so that whatever was on its way still counts. Nor does it change the map when a gesture that waits
for its answer fails, whatever a resolver replies and when. -/
theorem failure_keeps_map (surface : σ) (settings : Settings) (past : List Operation) :
    let s := ((start surface settings).run past).2
    (∀ operation e, (s.act operation).1.error? = some e →
      let t := (s.act operation).2
      s.SameMap t ∧
      match operation with
      | .completeLookup ticket _ =>
        s.selection.current = some ticket.seq ∧
        t = { s with selection := { s.selection with current := none } } ∧
        ∀ operations answer, let later := (t.run operations).2
          later.completeLookup ticket answer = (.ok (.stale ticket.seq), later)
      | .completeRoute request _ =>
        s.routeCurrent = some request.seq ∧
        t = { s with routeCurrent := none } ∧
        ∀ operations answer, let later := (t.run operations).2
          later.completeRoute request answer = (.ok (.stale request.seq), later)
      | _ => t = s) ∧
    ∀ (τ : Type) (r : Resolver (StateM τ)) (world : τ) (e : Error),
      (∀ lat lng, ((pick r s lat lng).run world).1.1 = .error e →
        s.SameMap ((pick r s lat lng).run world).1.2) ∧
      (∀ role lat lng, ((submit r s role lat lng).run world).1.1 = .error e →
        s.SameMap ((submit r s role lat lng).run world).1.2) ∧
      (((calcRoute r s).run world).1.1 = .error e →
        s.SameMap ((calcRoute r s).run world).1.2) := by
  intro s
  have htallied : s.Tallied ((start surface settings).run past).1 :=
    run_tallied surface settings past
  refine ⟨fun operation e h => ?_, fun τ r world e =>
    ⟨pick_sameMap r world s, submit_sameMap r world s, calcRoute_sameMap r world s⟩⟩
  intro t
  have hfailure : Failure s operation t := act_failure h
  refine ⟨hfailure.sameMap, ?_⟩
  clear_value t
  cases hfailure with
  | refused hrequest =>
    cases operation with
    | completeLookup | completeRoute => cases hrequest .done
    | beginClick | beginSubmit | beginRoute | showRoute | showPayload | clearRoute | reset => rfl
  | @lookup ticket answer hcurrent =>
    -- What counts is the last that was handed out.
    have hissued : ticket.seq ≤ s.selection.issued := by
      rw [htallied.issued]
      exact Nat.le_of_eq (htallied.lookups.current _ hcurrent).1
    exact ⟨hcurrent, rfl, completeLookup_stale_later (s := s.unticketed) hissued rfl⟩
  | @route request answer hcurrent =>
    have hissued : request.seq ≤ s.routesIssued := by
      rw [htallied.routesIssued]
      exact Nat.le_of_eq (htallied.routes.current _ hcurrent).1
    exact ⟨hcurrent, rfl, completeRoute_stale_later (s := s.unrequested) hissued rfl⟩

/-- A lookup and a route request are on their way when a route comes that may not be drawn: both
markers stay, the route request is used up for ever, and the lookup still counts. A click beside the
map changes nothing, nor does a click that nobody answers move a marker. -/
theorem failure_keeps_map_pending :
    let q : RouteRequest := ⟨1, 7, 8⟩
    let past : List Operation := [
      .beginClick 48.0 9.0, .completeLookup ⟨1, .toggle .source⟩ (.ok ⟨⟨48.0, 9.0⟩, 7⟩),
      .beginClick 48.1 9.2, .completeLookup ⟨2, .toggle .destination⟩ (.ok ⟨⟨48.1, 9.2⟩, 8⟩),
      .beginRoute, .beginClick 48.2 9.1]
    let s := ((start Layers.empty .default).run past).2
    let failed := s.completeRoute q (.ok ⟨1.0, []⟩)
    let silent : Resolver (StateM Unit) := {
      closest := fun _ => pure ⟨none, .error .sessionClosed⟩
      route := fun _ _ => pure ⟨none, .error .sessionClosed⟩ }
    failed.1 = .error (.invalidPath (.tooShort 0)) ∧ s.SameMap failed.2 ∧
      failed.2.markers.count = 2 ∧ failed.2.selection.current = some 3 ∧
      (∀ operations answer,
        ((failed.2.run operations).2.completeRoute q answer).1 = .ok (.stale 1)) ∧
      (s.act (.beginClick 95.0 9.0)).2 = s ∧
      s.SameMap ((pick silent s 48.2 9.1).run ()).1.2 := by
  intro q past s failed silent
  obtain ⟨hact, hdirect⟩ := failure_keeps_map Layers.empty .default past
  obtain ⟨hsame, -, -, hstale⟩ :=
    hact (.completeRoute q (.ok ⟨1.0, []⟩)) (.invalidPath (.tooShort 0)) rfl
  obtain ⟨-, hkept⟩ := hact (.beginClick 95.0 9.0) (.invalidPoint (.latitude 95.0)) rfl
  have hpick := (hdirect Unit silent () (.transport (.timedOut s.timeoutMs))).1 48.2 9.1 rfl
  refine ⟨rfl, hsame, rfl, rfl, fun operations answer => ?_, hkept, hpick⟩
  exact congrArg Prod.fst (hstale operations answer)

end Waymark.Session
