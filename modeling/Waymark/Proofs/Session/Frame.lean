import Waymark.Proofs.Session.History

/-!
# What an operation leaves alone

The operations of a session come in two groups and one. Those about lookups leave the route and its
requests alone, those about the route leave the selection and the markers alone, and only a reset
touches both. What is said of lookups is therefore proved by cases of the first group and of the
reset, and what is said of routes by cases of the second group and of the reset.

`run_iff` goes from one operation to a run of them, for what holds until an entry of the history
ends it.

No operation at all changes what a session took from its settings (`SameSettings`).

What an operation does to the map is less still. Most operations only number requests and count which
of them matter; of the others there are four kinds, and `Touch` lists them. One that fails is none of
these, and `Failure` lists what it may take away instead.
-/

namespace Waymark.Session

/-- The marker that was placed by an entry of a history, if one was. -/
def Entry.marker? : Entry → Option Marker
  | ⟨_, .marker (.ok (.applied m))⟩ => some m
  | _ => none

/-- The failure that a response reports, if it reports one. -/
def Response.error? : Response → Option Error
  | .lookup (.error e) | .marker (.error e) | .request (.error e) | .route (.error e)
  | .shown (.error e) => some e
  | _ => none

/-- Two sessions show the same: the same role is active, and the markers, the route and the surface
are the same. They may differ in the requests that they have counted. -/
structure SameMap {σ : Type} (s t : Session σ) : Prop where
  /-- The same role is active. -/
  active : t.active = s.active
  /-- The markers are the same. -/
  markers : t.markers = s.markers
  /-- The route is the same, with its line. -/
  overlay : t.overlay = s.overlay
  /-- The surface is the same. -/
  surface : t.surface = s.surface

/-- Two sessions have taken the same from their settings, whatever surfaces they are on. -/
structure SameSettings {σ τ : Type} (s : Session σ) (t : Session τ) : Prop where
  /-- The rule for points is the same. -/
  rule : t.rule = s.rule
  /-- Requests may take as long. -/
  timeoutMs : t.timeoutMs = s.timeoutMs
  /-- The first click goes to the same role. -/
  first : t.selection.first = s.selection.first
  /-- New markers are shown at the same zoom. -/
  focusZoom : t.markers.focusZoom = s.markers.focusZoom
  /-- Routes are drawn in the same style. -/
  style : t.overlay.style = s.overlay.style

/-- Of three sessions, the first has the settings of the third if both have those of the second. -/
theorem SameSettings.trans {σ τ υ : Type} {s : Session σ} {t : Session τ} {u : Session υ}
    (h : s.SameSettings t) (h' : t.SameSettings u) : s.SameSettings u :=
  ⟨h'.rule.trans h.rule, h'.timeoutMs.trans h.timeoutMs, h'.first.trans h.first,
    h'.focusZoom.trans h.focusZoom, h'.style.trans h.style⟩

/-- The ways in which an operation fails, with the session afterwards. -/
inductive Failure {σ : Type} (s : Session σ) : Operation → Session σ → Prop where
  /-- It is refused. -/
  | refused {operation : Operation}
      (hrequest : ∀ response, Entry.completes ⟨operation, response⟩ = none) : Failure s operation s
  /-- A lookup that counted has failed. -/
  | lookup {ticket : Ticket} {answer : Except Error Node}
      (hcurrent : s.selection.current = some ticket.seq) :
    Failure s (.completeLookup ticket answer) s.unticketed
  /-- A route request that counted has failed. -/
  | route {request : RouteRequest} {answer : Except Error Payload}
      (hcurrent : s.routeCurrent = some request.seq) :
    Failure s (.completeRoute request answer) s.unrequested

namespace Operation

/-- Whether an operation begins or answers a lookup. -/
def isLookup : Operation → Bool
  | .beginClick _ _ | .beginSubmit _ _ _ | .completeLookup _ _ => true
  | _ => false

/-- Whether an operation is about the route or about requests for one. -/
def isRoute : Operation → Bool
  | .beginRoute | .completeRoute _ _ | .showRoute _ _ | .showPayload _ | .clearRoute => true
  | _ => false

end Operation

variable {σ : Type} [Surface σ]

/-- The entry of an operation that a session goes through. -/
def entry (s : Session σ) (operation : Operation) : Entry := ⟨operation, (s.act operation).1⟩

/-- An operation about lookups leaves the route and its requests alone. -/
theorem act_of_isLookup (s : Session σ) {operation : Operation} (h : operation.isLookup = true) :
    (s.act operation).2.overlay = s.overlay ∧
      (s.act operation).2.routeCurrent = s.routeCurrent ∧
      (s.act operation).2.routesIssued = s.routesIssued := by
  cases operation with
  | beginClick lat lng =>
    rcases s.beginClick_cases lat lng with ⟨fault, -, hs⟩ | ⟨point, -, hs⟩ <;>
      simp only [act, hs] <;> exact ⟨rfl, rfl, rfl⟩
  | beginSubmit role lat lng =>
    rcases s.beginSubmit_cases role lat lng with ⟨fault, -, hs⟩ | ⟨point, -, hs⟩ <;>
      simp only [act, hs] <;> exact ⟨rfl, rfl, rfl⟩
  | completeLookup ticket answer => exact s.completeLookup_route ticket answer
  | beginRoute | completeRoute | showRoute | showPayload | clearRoute | reset => cases h

/-- An operation about the route leaves the selection and the markers alone. -/
theorem act_of_isRoute (s : Session σ) {operation : Operation} (h : operation.isRoute = true) :
    (s.act operation).2.selection = s.selection ∧ (s.act operation).2.markers = s.markers := by
  cases operation with
  | beginRoute =>
    rcases s.beginRoute_cases with ⟨role, -, hs⟩ | ⟨source, destination, -, -, hs⟩ <;>
      simp only [act, hs] <;> exact ⟨rfl, rfl⟩
  | completeRoute request answer =>
    obtain ⟨hselection, hmarkers, -⟩ := s.completeRoute_selection request answer
    exact ⟨hselection, hmarkers⟩
  | showRoute meters path =>
    rcases s.showRoute_cases meters path with ⟨fault, -, hs⟩ | ⟨g, -, hs⟩ <;>
      simp only [act, hs] <;> exact ⟨rfl, rfl⟩
  | showPayload payload =>
    rcases s.showPayload_cases payload with ⟨fault, -, hs⟩ | ⟨g, -, hs⟩ <;>
      simp only [act, hs] <;> exact ⟨rfl, rfl⟩
  | clearRoute => exact ⟨rfl, rfl⟩
  | beginClick | beginSubmit | completeLookup | reset => cases h

/-- A node that is placed leaves what was taken from the settings. -/
theorem placed_sameSettings (s : Session σ) (target : Target) (node : Node) :
    s.SameSettings (s.placed target node) := by
  refine ⟨rfl, rfl, ?_, Markers.put_focusZoom _ _ _, rfl⟩
  cases target <;> rfl

/-- A route that is shown leaves what was taken from the settings. -/
theorem display_sameSettings (s : Session σ) (g : Geometry) :
    s.SameSettings (s.unrequested.display g) := by
  refine ⟨rfl, rfl, rfl, rfl, ?_⟩
  show (s.overlay.display s.surface g).1.style = _
  rw [Overlay.display_eq]

/-- A route that is removed leaves what was taken from the settings. -/
theorem clearRoute_sameSettings (s : Session σ) : s.SameSettings s.clearRoute := by
  refine ⟨rfl, rfl, rfl, rfl, ?_⟩
  show (s.overlay.clear s.surface).1.style = _
  rw [Overlay.clear_fst]

/-- A reset leaves what was taken from the settings. -/
theorem reset_sameSettings (s : Session σ) : s.SameSettings s.reset := by
  refine ⟨rfl, rfl, rfl, rfl, ?_⟩
  show (s.overlay.clear (s.markers.clear s.surface).2).1.style = _
  rw [Overlay.clear_fst]

/-- Every operation leaves what was taken from the settings. -/
theorem act_sameSettings (s : Session σ) (operation : Operation) :
    s.SameSettings (s.act operation).2 := by
  cases operation with
  | beginClick lat lng =>
    rcases s.beginClick_cases lat lng with ⟨fault, -, hs⟩ | ⟨point, -, hs⟩ <;>
      simp only [act, hs] <;> exact ⟨rfl, rfl, rfl, rfl, rfl⟩
  | beginSubmit role lat lng =>
    rcases s.beginSubmit_cases role lat lng with ⟨fault, -, hs⟩ | ⟨point, -, hs⟩ <;>
      simp only [act, hs] <;> exact ⟨rfl, rfl, rfl, rfl, rfl⟩
  | completeLookup ticket answer =>
    rcases s.completeLookup_cases ticket answer with
      ⟨-, hs⟩ | ⟨-, ⟨e, -, hs⟩ | ⟨node, -, hs⟩⟩ <;> simp only [act, hs]
    · exact ⟨rfl, rfl, rfl, rfl, rfl⟩
    · exact ⟨rfl, rfl, rfl, rfl, rfl⟩
    · exact s.placed_sameSettings ticket.target node
  | beginRoute =>
    rcases s.beginRoute_cases with ⟨role, -, hs⟩ | ⟨source, destination, -, -, hs⟩ <;>
      simp only [act, hs] <;> exact ⟨rfl, rfl, rfl, rfl, rfl⟩
  | completeRoute request answer =>
    rcases s.completeRoute_cases request answer with
      ⟨-, hs⟩ | ⟨-, ⟨e, hs⟩ | ⟨payload, g, -, -, hs⟩⟩ <;> simp only [act, hs]
    · exact ⟨rfl, rfl, rfl, rfl, rfl⟩
    · exact ⟨rfl, rfl, rfl, rfl, rfl⟩
    · exact s.display_sameSettings g
  | showRoute meters path =>
    rcases s.showRoute_cases meters path with ⟨fault, -, hs⟩ | ⟨g, -, hs⟩ <;> simp only [act, hs]
    · exact ⟨rfl, rfl, rfl, rfl, rfl⟩
    · exact s.display_sameSettings g
  | showPayload payload =>
    rcases s.showPayload_cases payload with ⟨fault, -, hs⟩ | ⟨g, -, hs⟩ <;> simp only [act, hs]
    · exact ⟨rfl, rfl, rfl, rfl, rfl⟩
    · exact s.display_sameSettings g
  | clearRoute => exact s.clearRoute_sameSettings
  | reset => exact s.reset_sameSettings

/-- Operations leave what was taken from the settings. -/
theorem run_sameSettings (s : Session σ) (operations : List Operation) :
    s.SameSettings (s.run operations).2 :=
  run_induction (P := fun _ t => s.SameSettings t)
    (fun _ t operation h => h.trans (t.act_sameSettings operation)) operations []
    ⟨rfl, rfl, rfl, rfl, rfl⟩

/-- What holds until an entry ends it: it holds after some operations exactly when it held before
them and no entry of theirs has ended it. -/
theorem run_iff (Safe Holds : Session σ → Prop) (ends : Entry → Prop)
    (hstep : ∀ s operation, Safe s → Safe (s.act operation).2 ∧
      (Holds (s.act operation).2 ↔ Holds s ∧ ¬ ends (s.entry operation)))
    {s : Session σ} (hs : Safe s) (operations : List Operation) :
    Safe (s.run operations).2 ∧
      (Holds (s.run operations).2 ↔ Holds s ∧ ∀ e ∈ (s.run operations).1, ¬ ends e) := by
  induction operations generalizing s with
  | nil => simpa [run] using hs
  | cons operation rest ih =>
    obtain ⟨hsafe, hholds⟩ := hstep s operation hs
    obtain ⟨hsafe', hholds'⟩ := ih hsafe
    refine ⟨hsafe', ?_⟩
    rw [run_cons, hholds', hholds, List.forall_mem_cons, and_assoc]
    rfl

/-- The ways in which an operation touches the map: the entry that it leaves in the history, and the
session afterwards. -/
inductive Touch (s : Session σ) : Entry → Session σ → Prop where
  /-- It does not touch it. -/
  | keep {e : Entry} {t : Session σ} (he : e.marker? = none) (same : s.SameMap t) : Touch s e t
  /-- A node is placed. -/
  | place {e : Entry} {target : Target} {node : Node}
      (he : e.marker? = some (s.placedMarker target node)) : Touch s e (s.placed target node)
  /-- A route is shown. -/
  | display {e : Entry} (g : Geometry) (he : e.marker? = none) :
    Touch s e (s.unrequested.display g)
  /-- The route is removed. -/
  | clear : Touch s ⟨.clearRoute, .done⟩ s.clearRoute
  /-- Everything is removed. -/
  | reset : Touch s ⟨.reset, .done⟩ s.reset

/-- Every operation touches the map in one of these ways. -/
theorem act_touch (s : Session σ) (operation : Operation) :
    Touch s (s.entry operation) (s.act operation).2 := by
  unfold entry
  cases operation with
  | beginClick lat lng =>
    rcases s.beginClick_cases lat lng with ⟨fault, -, hs⟩ | ⟨point, -, hs⟩ <;>
      simp only [act, hs] <;> exact .keep rfl ⟨rfl, rfl, rfl, rfl⟩
  | beginSubmit role lat lng =>
    rcases s.beginSubmit_cases role lat lng with ⟨fault, -, hs⟩ | ⟨point, -, hs⟩ <;>
      simp only [act, hs] <;> exact .keep rfl ⟨rfl, rfl, rfl, rfl⟩
  | completeLookup ticket answer =>
    rcases s.completeLookup_cases ticket answer with ⟨-, hs⟩ | ⟨-, ⟨e, -, hs⟩ | ⟨node, -, hs⟩⟩ <;>
      simp only [act, hs]
    · exact .keep rfl ⟨rfl, rfl, rfl, rfl⟩
    · exact .keep rfl ⟨rfl, rfl, rfl, rfl⟩
    · exact .place rfl
  | beginRoute =>
    rcases s.beginRoute_cases with ⟨role, -, hs⟩ | ⟨source, destination, -, -, hs⟩ <;>
      simp only [act, hs] <;> exact .keep rfl ⟨rfl, rfl, rfl, rfl⟩
  | completeRoute request answer =>
    rcases s.completeRoute_cases request answer with
      ⟨-, hs⟩ | ⟨-, ⟨e, hs⟩ | ⟨payload, g, -, -, hs⟩⟩ <;> simp only [act, hs]
    · exact .keep rfl ⟨rfl, rfl, rfl, rfl⟩
    · exact .keep rfl ⟨rfl, rfl, rfl, rfl⟩
    · exact .display g rfl
  | showRoute meters path =>
    rcases s.showRoute_cases meters path with ⟨fault, -, hs⟩ | ⟨g, -, hs⟩ <;> simp only [act, hs]
    · exact .keep rfl ⟨rfl, rfl, rfl, rfl⟩
    · exact .display g rfl
  | showPayload payload =>
    rcases s.showPayload_cases payload with ⟨fault, -, hs⟩ | ⟨g, -, hs⟩ <;> simp only [act, hs]
    · exact .keep rfl ⟨rfl, rfl, rfl, rfl⟩
    · exact .display g rfl
  | clearRoute => exact .clear
  | reset => exact .reset

/-- An operation fails in one of these ways. -/
theorem act_failure {s : Session σ} {operation : Operation} {e : Error}
    (h : (s.act operation).1.error? = some e) : Failure s operation (s.act operation).2 := by
  cases operation with
  | beginClick lat lng =>
    rcases s.beginClick_cases lat lng with ⟨fault, -, hs⟩ | ⟨point, -, hs⟩ <;>
      simp only [act, hs] at h ⊢
    · exact .refused fun _ => rfl
    · cases h
  | beginSubmit role lat lng =>
    rcases s.beginSubmit_cases role lat lng with ⟨fault, -, hs⟩ | ⟨point, -, hs⟩ <;>
      simp only [act, hs] at h ⊢
    · exact .refused fun _ => rfl
    · cases h
  | completeLookup ticket answer =>
    rcases s.completeLookup_cases ticket answer with
      ⟨-, hs⟩ | ⟨hc, ⟨e, -, hs⟩ | ⟨node, -, hs⟩⟩ <;> simp only [act, hs] at h ⊢
    · cases h
    · exact .lookup hc
    · cases h
  | beginRoute =>
    rcases s.beginRoute_cases with ⟨role, -, hs⟩ | ⟨source, destination, -, -, hs⟩ <;>
      simp only [act, hs] at h ⊢
    · exact .refused fun _ => rfl
    · cases h
  | completeRoute request answer =>
    rcases s.completeRoute_cases request answer with
      ⟨-, hs⟩ | ⟨hc, ⟨e, hs⟩ | ⟨payload, g, -, -, hs⟩⟩ <;> simp only [act, hs] at h ⊢
    · cases h
    · exact .route hc
    · cases h
  | showRoute meters path =>
    rcases s.showRoute_cases meters path with ⟨fault, -, hs⟩ | ⟨g, -, hs⟩ <;>
      simp only [act, hs] at h ⊢
    · exact .refused fun _ => rfl
    · cases h
  | showPayload payload =>
    rcases s.showPayload_cases payload with ⟨fault, -, hs⟩ | ⟨g, -, hs⟩ <;>
      simp only [act, hs] at h ⊢
    · exact .refused fun _ => rfl
    · cases h
  | clearRoute | reset => cases h

end Waymark.Session
