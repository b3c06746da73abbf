import Waymark.Proofs.Session.Frame
import Waymark.Surface.Layers

/-!
# The latest route request wins

A route that arrives late is shown only if nothing has taken the place of its request: no newer
request, no route that was shown meanwhile, no reset, and no earlier answer to the same request. As
with lookups, one number decides, and what takes it away does so for ever (`act_routeCurrent_iff`).
What is refused takes nothing away.
-/

namespace Waymark.Session

namespace Entry

/-- Whether the route request of a number no longer counts after an entry: another request is handed
out, an answer comes with the number, a route is shown, or everything is removed. -/
def Outdates (n : Nat) (e : Entry) : Prop :=
  (∃ request, e.issues = some (.route request)) ∨
    (∃ request, e.completes = some (.route request) ∧ request.seq = n) ∨
    (∃ g, e.response = .shown (.ok g)) ∨ e.operation = .reset

/-- Whether an entry takes the place of a route request: a newer one is handed out, a route is
shown, everything is removed, or the request is answered. -/
def Supersedes (request : RouteRequest) (e : Entry) : Prop :=
  (∃ newer, e.issues = some (.route newer)) ∨ (∃ g, e.response = .shown (.ok g)) ∨
    e.operation = .reset ∨ e.completes = some (.route request)

end Entry

variable {σ : Type} [Surface σ]

/-- An operation about lookups takes the place of no route request. -/
theorem not_outdates_of_isLookup (s : Session σ) {operation : Operation}
    (h : operation.isLookup = true) (n : Nat) : ¬ (s.entry operation).Outdates n := by
  cases operation with
  | beginClick lat lng =>
    rcases s.beginClick_cases lat lng with ⟨fault, -, hs⟩ | ⟨point, -, hs⟩ <;>
      simp [entry, act, hs, Entry.Outdates, Entry.issues, Entry.completes]
  | beginSubmit role lat lng =>
    rcases s.beginSubmit_cases role lat lng with ⟨fault, -, hs⟩ | ⟨point, -, hs⟩ <;>
      simp [entry, act, hs, Entry.Outdates, Entry.issues, Entry.completes]
  | completeLookup => simp [entry, act, Entry.Outdates, Entry.issues, Entry.completes]
  | beginRoute | completeRoute | showRoute | showPayload | clearRoute | reset => cases h

/-- An answer takes the place of the request that it comes with. -/
theorem outdates_completeRoute (s : Session σ) (request : RouteRequest)
    (answer : Except Error Payload) (n : Nat) :
    (s.entry (.completeRoute request answer)).Outdates n ↔ request.seq = n := by
  simp [entry, act, Entry.Outdates, Entry.issues, Entry.completes]

/-- The number of a route request that was handed out is current after an operation exactly when it
was so before and the operation does not take its place. -/
theorem act_routeCurrent_iff {n : Nat} (s : Session σ) (operation : Operation)
    (hn : n ≤ s.routesIssued) :
    n ≤ (s.act operation).2.routesIssued ∧
      ((s.act operation).2.routeCurrent = some n ↔
        s.routeCurrent = some n ∧ ¬ (s.entry operation).Outdates n) := by
  cases operation with
  | beginClick | beginSubmit | completeLookup =>
    rw [(s.act_of_isLookup rfl).2.1, (s.act_of_isLookup rfl).2.2]
    exact ⟨hn, (and_iff_left (s.not_outdates_of_isLookup rfl n)).symm⟩
  | beginRoute =>
    rcases s.beginRoute_cases with ⟨role, -, hs⟩ | ⟨source, destination, -, -, hs⟩
    · simp [entry, act, hs, Entry.Outdates, Entry.issues, Entry.completes, hn]
    · -- The new number is above all that were given.
      have hne : s.routesIssued + 1 ≠ n := by omega
      simp [entry, act, hs, Entry.Outdates, Entry.issues, requested, hne]
      omega
  | completeRoute request answer =>
    -- Only the answer with the current number takes it away.
    obtain ⟨-, -, hissued⟩ := s.completeRoute_selection request answer
    refine ⟨Nat.le_trans hn (Nat.le_of_eq hissued.symm), ?_⟩
    show (s.completeRoute request answer).2.routeCurrent = some n ↔ _
    rw [completeRoute_routeCurrent, outdates_completeRoute]
    by_cases hc : s.routeCurrent = some request.seq
    · simp [hc]
    · simp only [if_neg hc, iff_self_and]
      rintro hcurrent rfl
      exact hc hcurrent
  | showRoute meters path =>
    rcases s.showRoute_cases meters path with ⟨fault, -, hs⟩ | ⟨g, -, hs⟩ <;>
      simp [entry, act, hs, Entry.Outdates, Entry.issues, Entry.completes, hn, display, unrequested]
  | showPayload payload =>
    rcases s.showPayload_cases payload with ⟨fault, -, hs⟩ | ⟨g, -, hs⟩ <;>
      simp [entry, act, hs, Entry.Outdates, Entry.issues, Entry.completes, hn, display, unrequested]
  | clearRoute =>
    simp [entry, act, Entry.Outdates, Entry.issues, Entry.completes, hn, clearRoute]
  | reset => simp [entry, act, reset, Entry.Outdates, hn]

/-- The number of a route request that was handed out is current after some operations exactly when
it was so before and no entry of theirs takes its place. -/
theorem run_routeCurrent_iff {s : Session σ} {n : Nat} (hn : n ≤ s.routesIssued)
    (operations : List Operation) :
    n ≤ (s.run operations).2.routesIssued ∧
      ((s.run operations).2.routeCurrent = some n ↔
        s.routeCurrent = some n ∧ ∀ e ∈ (s.run operations).1, ¬ e.Outdates n) :=
  run_iff (fun s => n ≤ s.routesIssued) (fun s => s.routeCurrent = some n) (Entry.Outdates n)
    (fun s operation hn => s.act_routeCurrent_iff operation hn) hn operations

/-- What is refused leaves the session as it was: a route that may not be drawn, and a request for a
route between markers that are not there. -/
theorem act_of_refused {s : Session σ} {operation : Operation} {e : Error}
    (h : (s.act operation).1 = .shown (.error e) ∨ (s.act operation).1 = .request (.error e)) :
    (s.act operation).2 = s := by
  have herror : (s.act operation).1.error? = some e := by
    rcases h with h | h <;> rw [h] <;> rfl
  generalize hlater : (s.act operation).2 = later
  have hfailure := act_failure herror
  rw [hlater] at hfailure
  cases hfailure with
  | refused => rfl
  | lookup | route => rcases h with h | h <;> cases h

/-- A request for a route that is handed out has the next number, which is current from then on. -/
theorem beginRoute_eq_ok {s : Session σ} {q : RouteRequest}
    (h : (s.act .beginRoute).1 = .request (.ok q)) :
    q.seq = s.routesIssued + 1 ∧ (s.act .beginRoute).2 = s.requested := by
  rcases s.beginRoute_cases with ⟨role, -, hs⟩ | ⟨source, destination, -, -, hs⟩ <;>
    simp only [act, hs] at h ⊢ <;> cases h
  exact ⟨rfl, rfl⟩

omit [Surface σ] in
/-- When no number was given twice, what takes the place of the request of a number is what takes
the place of that request. -/
theorem outdates_iff_supersedes {requests : List Request} {q : RouteRequest}
    (hnodup : ((routeRequests requests).map RouteRequest.seq).Nodup) (hq : .route q ∈ requests)
    {e : Entry} (handed_out : ∀ p, e.completes = some (.route p) → .route p ∈ requests) :
    e.Outdates q.seq ↔ e.Supersedes q := by
  have hanswer : (∃ p, e.completes = some (.route p) ∧ p.seq = q.seq) ↔
      e.completes = some (.route q) := by
    refine ⟨?_, fun h => ⟨q, h, rfl⟩⟩
    rintro ⟨p, hp, hseq⟩
    have hmem := mem_routeRequests.2 (handed_out p hp)
    rwa [List.inj_on_of_nodup_map hnodup hmem (mem_routeRequests.2 hq) hseq] at hp
  unfold Entry.Outdates Entry.Supersedes
  rw [hanswer]
  tauto

/-- For every route request that was handed out, and after any operations since, where answers come
only to requests that were handed out. If anything took its place since, then its answer is stale
and changes nothing, now and after whatever follows. If nothing did and the route was not removed
since, then a route that may be drawn is applied and is the one that is shown, and anything else is
the error that it is and leaves the route and the surface as they were. What is refused changes
nothing at all, so that no request becomes stale by it. -/
theorem route_latest (surface : σ) (settings : Settings) (before after : List Operation) :
    let made := ((start surface settings).run before).2
    let later := (made.act .beginRoute).2.run after
    let history := ((start surface settings).run (before ++ .beginRoute :: after)).1
    ∀ q, (made.act .beginRoute).1 = .request (.ok q) →
      (∀ e ∈ history, ∀ p, e.completes = some (.route p) → .route p ∈ issued history) →
      ((∃ e ∈ later.1, e.Supersedes q) → ∀ operations answer,
        let s := (later.2.run operations).2
        s.completeRoute q answer = (.ok (.stale q.seq), s)) ∧
      ((∀ e ∈ later.1, ¬ e.Supersedes q ∧ e.operation ≠ .clearRoute) → ∀ answer,
        let outcome := later.2.completeRoute q answer
        (∀ payload g, answer = .ok payload → Geometry.ofPayload payload = .ok g →
          outcome.1 = .ok (.applied g) ∧ outcome.2 = later.2.unrequested.display g ∧
          outcome.2.route = some g) ∧
        (∀ payload fault, answer = .ok payload → Geometry.ofPayload payload = .error fault →
          outcome.1 = .error (.invalidPath fault) ∧ outcome.2.route = later.2.route ∧
          outcome.2.surface = later.2.surface) ∧
        ∀ e, answer = .error e → outcome.1 = .error e ∧ outcome.2.route = later.2.route ∧
          outcome.2.surface = later.2.surface) ∧
      ∀ operation e, (later.2.act operation).1 = .shown (.error e) ∨
        (later.2.act operation).1 = .request (.error e) → (later.2.act operation).2 = later.2 := by
  intro made later history q hq handed_out
  obtain ⟨hseq, hmade⟩ := beginRoute_eq_ok hq
  -- The history is what was before the request, its entry, and what was later.
  have hhistory : history =
      ((start surface settings).run before).1 ++ ⟨.beginRoute, .request (.ok q)⟩ :: later.1 := by
    show ((start surface settings).run (before ++ .beginRoute :: after)).1 = _
    rw [run_append, run_cons, ← hq]
  have htallied := run_tallied surface settings (before ++ .beginRoute :: after)
  -- The request is current when it is made, so that the entries since decide whether it still is.
  obtain ⟨hissued, hcurrent⟩ := run_routeCurrent_iff (s := (made.act .beginRoute).2) (n := q.seq)
    (by rw [hmade, hseq]; exact Nat.le_refl _) after
  rw [show (made.act .beginRoute).2.routeCurrent = some q.seq by rw [hmade, hseq]; rfl,
    eq_self_iff_true, true_and] at hcurrent
  have hmem : .route q ∈ issued history := by
    rw [hhistory]
    simp [issued, Entry.issues]
  have hsupersedes : ∀ e ∈ later.1, (e.Outdates q.seq ↔ e.Supersedes q) := fun e he =>
    outdates_iff_supersedes htallied.routes.made_nodup hmem
      (handed_out e (by rw [hhistory]; simp [he]))
  refine ⟨?_, ?_, fun operation e => act_of_refused⟩
  · rintro ⟨e, he, hsuperseded⟩ operations answer
    refine completeRoute_stale (fun hlate => ?_) answer
    have hstill := hcurrent.1 ((run_routeCurrent_iff hissued operations).2.1 hlate).1
    exact hstill e he ((hsupersedes e he).2 hsuperseded)
  · intro hnone answer
    have hfresh : later.2.routeCurrent = some q.seq :=
      hcurrent.2 fun e he houtdated => (hnone e he).1 ((hsupersedes e he).1 houtdated)
    refine ⟨?_, ?_, ?_⟩
    · rintro payload g rfl hg
      simp only [completeRoute_ok hfresh hg]
      exact ⟨trivial, trivial, rfl⟩
    · rintro payload fault rfl hfault
      simp only [completeRoute_refused hfresh hfault]
      exact ⟨trivial, rfl, rfl⟩
    · rintro e rfl
      simp only [completeRoute_error hfresh]
      exact ⟨trivial, rfl, rfl⟩

/-- A route is asked for between two nodes, and then a click and a route of no points are refused.
The answer to the request is applied nevertheless; after a second request it is stale for ever. -/
theorem route_latest_after_refusals :
    let before : List Operation := [
      .beginClick 48.0 9.0, .completeLookup ⟨1, .toggle .source⟩ (.ok ⟨⟨48.0, 9.0⟩, 7⟩),
      .beginClick 48.1 9.2, .completeLookup ⟨2, .toggle .destination⟩ (.ok ⟨⟨48.1, 9.2⟩, 8⟩)]
    let refused : List Operation := [.beginClick 95.0 9.0, .showPayload ⟨1.0, []⟩]
    let made := ((start Layers.empty .default).run before).2
    let later := (made.act .beginRoute).2.run refused
    let again := (made.act .beginRoute).2.run (refused ++ [.beginRoute])
    let q : RouteRequest := ⟨1, 7, 8⟩
    (made.act .beginRoute).1 = .request (.ok q) ∧
      (∀ payload g, Geometry.ofPayload payload = .ok g →
        (later.2.completeRoute q (.ok payload)).2.route = some g) ∧
      ∀ operations answer,
        ((again.2.run operations).2.completeRoute q answer).1 = .ok (.stale 1) := by
  intro before refused made later again q
  have hq : (made.act .beginRoute).1 = .request (.ok q) := rfl
  -- Nothing but the two lookups is answered.
  have hfirst := route_latest Layers.empty .default before refused q hq
    (by simp [before, refused, run_cons, run, Entry.completes])
  have hsecond := route_latest Layers.empty .default before (refused ++ [.beginRoute]) q hq
    (by simp [before, refused, run_cons, run, Entry.completes])
  refine ⟨hq, fun payload g hg => ?_, fun operations answer => ?_⟩
  · have hentries : later.1 = [
        ⟨.beginClick 95.0 9.0, .lookup (.error (.invalidPoint (.latitude 95.0)))⟩,
        ⟨.showPayload ⟨1.0, []⟩, .shown (.error (.invalidPath (.tooShort 0)))⟩] := rfl
    have hkept : ∀ e ∈ later.1, ¬ e.Supersedes q ∧ e.operation ≠ .clearRoute := by
      simp [hentries, Entry.Supersedes, Entry.issues, Entry.completes]
    exact ((hfirst.2.1 hkept (.ok payload)).1 payload g rfl hg).2.2
  · have hnewer : ∃ e ∈ again.1, e.Supersedes q :=
      ⟨⟨.beginRoute, .request (.ok ⟨2, 7, 8⟩)⟩, List.mem_of_getLast? rfl, .inl ⟨_, rfl⟩⟩
    exact congrArg Prod.fst (hsecond.1 hnewer operations answer)

end Waymark.Session
