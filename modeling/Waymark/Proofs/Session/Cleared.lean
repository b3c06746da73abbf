import Waymark.Proofs.Session.Frame
import Waymark.Proofs.Surface.Lines
import Waymark.Surface.Layers

/-!
# Routes that were removed

Of a session on a recorded surface, the one line is that of the route that is shown (`run_drawn`).
Once the route is removed it takes a route that is shown, or the answer to a request that counts, to
draw a line again. Unlike a reset and a route that is shown, the removal of the route leaves the
request that counts as it is: so the route stays away exactly when no request was on its way.
-/

namespace Waymark.Session

namespace Entry

/-- Whether an entry shows a route that was asked for in `later`: at once, or by a request that was
handed out there. -/
def Redraws (later : List Entry) (e : Entry) : Prop :=
  (∃ g, e.response = .shown (.ok g)) ∨
    ∃ q g, .route q ∈ issued later ∧ e.completes = some (.route q) ∧
      e.response = .route (.ok (.applied g))

/-- Whether an entry shows a route: at once, or by a request with a number above `n`. -/
def ShowsAfter (n : Nat) (e : Entry) : Prop :=
  (∃ g, e.response = .shown (.ok g)) ∨
    ∃ q g, n < q.seq ∧ e.completes = some (.route q) ∧ e.response = .route (.ok (.applied g))

end Entry

variable {σ : Type}

/-- No route is shown, and the request that counts, if one does, is none of the first `n`. -/
structure Bare (n : Nat) (s : Session σ) : Prop where
  /-- No route is shown. -/
  route : s.route = none
  /-- So many requests were handed out. -/
  issued : n ≤ s.routesIssued
  /-- What counts is another one. -/
  current : ∀ m, s.routeCurrent = some m → n < m

/-- The one line on the surface is that of the route that is shown. -/
def Drawn (s : Session (Recorded σ)) : Prop := s.surface.lines = s.overlay.line?.toList

/-- No line is on the surface when no route is shown. -/
theorem Drawn.lines_eq_nil {s : Session (Recorded σ)} (h : s.Drawn) (hroute : s.route = none) :
    s.surface.lines = [] := by
  have hcurrent : s.overlay.current = none := Option.map_eq_none_iff.1 hroute
  rw [h, Overlay.line?, hcurrent]
  rfl

/-- What leaves the lines on the surface and the route that is shown leaves the one to be the line
of the other. -/
theorem Drawn.of_lines {s t : Session (Recorded σ)} (h : s.Drawn)
    (hlines : t.surface.lines = s.surface.lines) (hoverlay : t.overlay = s.overlay) : t.Drawn := by
  unfold Drawn
  rw [hlines, hoverlay]
  exact h

variable [Surface σ]

/-- The line of a route that is shown is the only one. -/
theorem Drawn.display {s : Session (Recorded σ)} (h : s.Drawn) (g : Geometry) :
    (s.display g).Drawn :=
  Overlay.lines_display h g

/-- The line of a route goes with it. -/
theorem Drawn.clearRoute {s : Session (Recorded σ)} (h : s.Drawn) : s.clearRoute.Drawn := by
  have hline : s.clearRoute.overlay.line? = none := by
    show (s.overlay.clear s.surface).1.line? = none
    rw [Overlay.clear_fst]
    rfl
  unfold Drawn
  rw [hline]
  exact Overlay.lines_clear h

/-- Whatever touches the map keeps the line of the route as the only one. -/
theorem Drawn.touch {s t : Session (Recorded σ)} (h : s.Drawn) {e : Entry} (r : Touch s e t) :
    t.Drawn := by
  cases r with
  | keep he same => exact h.of_lines (by rw [same.surface]) same.overlay
  | place he => exact h.of_lines (Markers.lines_assign _ _ _) rfl
  | display g he => exact Drawn.display (s := s.unrequested) h g
  | clear => exact h.clearRoute
  | reset =>
    -- The markers leave the lines, so that what is left to do is to remove the route.
    have hmarkers : Drawn { s with surface := (s.markers.clear s.surface).2 } :=
      h.of_lines (Markers.lines_clear _ _) rfl
    exact hmarkers.clearRoute

/-- The one line on the surface is that of the route that is shown, after any operations. -/
theorem run_drawn (surface : σ) (settings : Settings) (operations : List Operation) :
    ((start (⟨surface, []⟩ : Recorded σ) settings).run operations).2.Drawn := by
  have hfirst : (start (⟨surface, []⟩ : Recorded σ) settings).Drawn := rfl
  exact run_induction (P := fun _ s => s.Drawn)
    (fun _ s operation h => h.touch (s.act_touch operation)) operations [] hfirst

/-- No route is shown after an operation that shows none. -/
theorem Bare.act {n : Nat} {s : Session σ} (h : s.Bare n) (operation : Operation)
    (hentry : ¬ (s.entry operation).ShowsAfter n) : (s.act operation).2.Bare n := by
  cases operation with
  | beginClick | beginSubmit | completeLookup =>
    refine ⟨?_, ?_, ?_⟩
    · unfold Session.route
      rw [(s.act_of_isLookup rfl).1]
      exact h.route
    · rw [(s.act_of_isLookup rfl).2.2]
      exact h.issued
    · rw [(s.act_of_isLookup rfl).2.1]
      exact h.current
  | beginRoute =>
    rcases s.beginRoute_cases with ⟨role, -, hs⟩ | ⟨source, destination, -, -, hs⟩ <;>
      simp only [Session.act, hs]
    · exact h
    · refine ⟨h.route, Nat.le_succ_of_le h.issued, ?_⟩
      rintro m ⟨⟩
      exact Nat.lt_succ_of_le h.issued
  | completeRoute request answer =>
    rcases s.completeRoute_cases request answer with
      ⟨-, hs⟩ | ⟨hc, ⟨e, hs⟩ | ⟨payload, g, -, -, hs⟩⟩
    · simp only [Session.act, hs]
      exact h
    · simp only [Session.act, hs]
      exact ⟨h.route, h.issued, by rintro m ⟨⟩⟩
    · -- Its request counted, so that it is none of the first.
      refine absurd (.inr ⟨request, g, h.current _ hc, rfl, ?_⟩) hentry
      simp [entry, Session.act, hs]
  | showRoute meters path =>
    rcases s.showRoute_cases meters path with ⟨fault, -, hs⟩ | ⟨g, -, hs⟩
    · simp only [Session.act, hs]
      exact h
    · refine absurd (.inl ⟨g, ?_⟩) hentry
      simp [entry, Session.act, hs]
  | showPayload payload =>
    rcases s.showPayload_cases payload with ⟨fault, -, hs⟩ | ⟨g, -, hs⟩
    · simp only [Session.act, hs]
      exact h
    · refine absurd (.inl ⟨g, ?_⟩) hentry
      simp [entry, Session.act, hs]
  | clearRoute => exact ⟨s.clearRoute_route, h.issued, h.current⟩
  | reset => exact ⟨s.reset_route, h.issued, by rintro m ⟨⟩⟩

/-- No route is shown after operations that show none. -/
theorem Bare.run {n : Nat} {s : Session σ} (h : s.Bare n) (operations : List Operation)
    (hentries : ∀ e ∈ (s.run operations).1, ¬ e.ShowsAfter n) : (s.run operations).2.Bare n := by
  induction operations generalizing s with
  | nil => exact h
  | cons operation rest ih =>
    rw [run_cons, List.forall_mem_cons] at hentries
    exact ih (h.act operation hentries.1) hentries.2

omit [Surface σ] in
/-- The route requests that were handed out have numbers up to how many there were. -/
theorem Tallied.seq_le {s : Session σ} {past : List Entry} (h : s.Tallied past)
    {q : RouteRequest} (hq : .route q ∈ Session.issued past) : q.seq ≤ s.routesIssued := by
  have hseq := List.mem_map_of_mem (f := RouteRequest.seq) (mem_routeRequests.2 hq)
  rw [h.routes.numbers, List.mem_range'_1, ← h.routesIssued] at hseq
  omega

/-- A route that is removed stays away, and no line is left, until a route is shown at once or by a
request that is made after that: this holds of a removal, whatever follows, exactly when no route
request is on its way. -/
theorem clearRoute_lasts_iff (surface : σ) (settings : Settings) (before : List Operation) :
    let past := (start (⟨surface, []⟩ : Recorded σ) settings).run before
    (∀ operations,
      let later := past.2.clearRoute.run operations
      (∀ e ∈ later.1, ∀ q, e.completes = some (.route q) → .route q ∈ issued (past.1 ++ later.1)) →
      (∀ e ∈ later.1, ¬ e.Redraws later.1) →
      later.2.route = none ∧ later.2.surface.lines = []) ↔
    past.2.routeCurrent = none := by
  intro past
  have htallied : past.2.Tallied past.1 := run_tallied _ settings before
  constructor
  · -- A request that is on its way could be answered next, with a route.
    intro hlasts
    by_contra hcurrent
    obtain ⟨n, hn⟩ := Option.ne_none_iff_exists'.1 hcurrent
    obtain ⟨q, -, hlast, rfl⟩ := htallied.routes.unique hn
    have hq : .route q ∈ issued past.1 := mem_routeRequests.1 (List.mem_of_getLast? hlast)
    obtain ⟨g, hg⟩ : ∃ g, Geometry.ofPayload ⟨1.0, [(0.0, 0.0), (0.0, 0.0)]⟩ = .ok g := ⟨_, rfl⟩
    have hanswer := completeRoute_ok (s := past.2.clearRoute) hn hg
    obtain ⟨hroute, -⟩ := hlasts [.completeRoute q (.ok ⟨1.0, [(0.0, 0.0), (0.0, 0.0)]⟩)]
      (by
        intro e he p hp
        obtain rfl := List.mem_singleton.1 he
        obtain rfl : q = p := by simpa [Entry.completes] using hp
        rw [issued, List.filterMap_append]
        exact List.mem_append_left _ hq)
      (by simp [run, act, hanswer, Entry.Redraws, issued, Entry.issues])
    simp only [run, act, hanswer] at hroute
    cases hroute
  · intro hcurrent operations later handed_out hnone
    have hcleared : past.2.clearRoute.Bare past.2.routesIssued :=
      ⟨clearRoute_route _, Nat.le_refl _, by rintro m hm; cases hcurrent.symm.trans hm⟩
    have hbare : later.2.Bare past.2.routesIssued := by
      refine hcleared.run operations fun e he => ?_
      rintro (hshown | ⟨q, g, hlt, hq, hg⟩)
      · exact hnone e he (.inl hshown)
      · -- The request was handed out, but not before the removal.
        have hmem := handed_out e he q hq
        rw [issued, List.filterMap_append, List.mem_append] at hmem
        rcases hmem with hmem | hmem
        · exact absurd (htallied.seq_le hmem) (Nat.not_le.2 hlt)
        · exact hnone e he (.inr ⟨q, g, hmem, hq, hg⟩)
    have hdrawn : later.2.Drawn := by
      have hrun := run_drawn surface settings (before ++ .clearRoute :: operations)
      rw [run_append] at hrun
      exact hrun
    exact ⟨hbare.route, hdrawn.lines_eq_nil hbare.route⟩

/-- Two nodes are chosen, the route between them is asked for and the route is removed. Then the
answer comes, and shows a route and draws a line, although no route was asked for since. -/
theorem clearRoute_undone :
    let q : RouteRequest := ⟨1, 7, 8⟩
    let past := (start (⟨Layers.empty, []⟩ : Recorded Layers) .default).run [
      .beginClick 48.0 9.0, .completeLookup ⟨1, .toggle .source⟩ (.ok ⟨⟨48.0, 9.0⟩, 7⟩),
      .beginClick 48.1 9.2, .completeLookup ⟨2, .toggle .destination⟩ (.ok ⟨⟨48.1, 9.2⟩, 8⟩),
      .beginRoute]
    let later := past.2.clearRoute.run [
      .completeRoute q (.ok ⟨1200.5, [(48.0, 9.0), (48.1, 9.2)]⟩)]
    .route q ∈ issued past.1 ∧ past.2.clearRoute.route = none ∧
      (∀ e ∈ later.1, e.completes = some (.route q) ∧ ¬ e.Redraws later.1) ∧
      later.2.route.isSome ∧ later.2.surface.lines.length = 1 := by
  intro q past later
  have hissued : issued later.1 = [] := rfl
  refine ⟨by decide, clearRoute_route _, fun e he => ?_, rfl, rfl⟩
  obtain rfl := List.mem_singleton.1 he
  refine ⟨rfl, ?_⟩
  rintro (⟨g, hg⟩ | ⟨p, g, hp, -⟩)
  · cases hg
  · rw [hissued] at hp
    cases hp

end Waymark.Session
