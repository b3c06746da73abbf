import Mathlib.Logic.Relation
import Waymark.Proofs.Session.Effects
import Waymark.Proofs.Surface.Calls

/-!
# Surfaces that are shared

A surface belongs to others as well: it may carry layers of theirs, and they may add and remove some
at any time. What it promises is that it gives out no handle twice (`Surface.Fresh`). This is enough
for the markers and the route to keep their own layers in order (`Keeps`), and to leave those of
others alone: a handle that others were given is `Foreign` for ever.
-/

namespace Waymark

namespace Surface

variable {σ : Type} [Surface σ]

/-- One operation of a surface leads from a state to another. -/
inductive Step : σ → σ → Prop where
  /-- A marker is placed. -/
  | addMarker (point : Point) (label : String) (s : σ) : Step s (addMarker point label s).2
  /-- A marker is removed. -/
  | removeMarker (handle : MarkerHandle) (s : σ) : Step s (removeMarker handle s)
  /-- A line is drawn. -/
  | addLine (points : List Point) (style : LineStyle) (label : String) (s : σ) :
    Step s (addLine points style label s).2
  /-- A line is removed. -/
  | removeLine (handle : LineHandle) (s : σ) : Step s (removeLine handle s)
  /-- The view is moved. -/
  | centerOn (point : Point) (zoom : UInt8) (s : σ) : Step s (centerOn point zoom s)

/-- No handle is given out twice, where `given` are those that a surface has given out so far: what
is added gets a handle that was not given out and is from then on, and no operation takes one
back. -/
structure Fresh (given : σ → Handle → Prop) : Prop where
  /-- The handle of a new marker was not given out. -/
  new_marker : ∀ point label s, ¬ given s (.marker (addMarker point label s).1)
  /-- It is given out from then on. -/
  given_marker : ∀ point label s,
    given (addMarker point label s).2 (.marker (addMarker point label s).1)
  /-- The handle of a new line was not given out. -/
  new_line : ∀ points style label s, ¬ given s (.line (addLine points style label s).1)
  /-- It is given out from then on. -/
  given_line : ∀ points style label s,
    given (addLine points style label s).2 (.line (addLine points style label s).1)
  /-- What was given out stays so. -/
  step : ∀ s t, Step s t → ∀ handle, given s handle → given t handle

end Surface

variable {σ : Type} {given : σ → Handle → Prop}

/-- A handle that was given out to others: it was given out, but no call of a recorded surface has
got it. -/
structure Foreign (given : σ → Handle → Prop) (handle : Handle) (r : Recorded σ) : Prop where
  /-- It was given out. -/
  given : given r.surface handle
  /-- No call has got it. -/
  others : ∀ call ∈ r.calls, call.adds ≠ some handle

/-- The calls of a recorded surface keep the markers and the route, and the view follows the
markers. -/
structure Keeps (given : σ → Handle → Prop) (ms : Markers) (o : Overlay) (r : Recorded σ) : Prop
    extends Kept (given r.surface) ms o r.calls where
  /-- The view follows the markers. -/
  followed : Call.Followed ms.focusZoom r.calls

/-- Nothing that others do to a surface takes from others what is theirs. -/
theorem Foreign.of_surface {handle : Handle} {r : Recorded σ} (h : Foreign given handle r) {s : σ}
    (hgiven : ∀ handle, given r.surface handle → given s handle) :
    Foreign given handle { r with surface := s } :=
  ⟨hgiven _ h.given, h.others⟩

/-- Nothing that others do to a surface changes what the calls were. -/
theorem Keeps.of_surface {ms : Markers} {o : Overlay} {r : Recorded σ} (h : Keeps given ms o r)
    {s : σ} (hgiven : ∀ handle, given r.surface handle → given s handle) :
    Keeps given ms o { r with surface := s } :=
  ⟨h.mono hgiven, h.followed⟩

/-- No call has got a handle that was not given out. -/
theorem Keeps.not_adds {ms : Markers} {o : Overlay} {r : Recorded σ} (h : Keeps given ms o r)
    {handle : Handle} (hnew : ¬ given r.surface handle) :
    ∀ call ∈ r.calls, call.adds ≠ some handle :=
  fun call hcall hadds => hnew (h.given call hcall handle hadds)

variable [Surface σ]

section Steps

open Relation (ReflTransGen)

/-- The removal of a marker is made of operations of the surface. -/
theorem Markers.removeFrom_steps (surface : σ) (old : Option Marker) :
    ReflTransGen Surface.Step surface (removeFrom surface old) := by
  cases old with
  | none => exact .refl
  | some m => exact .single (.removeMarker m.handle surface)

/-- The placing of a marker is made of operations of the surface. -/
theorem Markers.assign_steps (ms : Markers) (surface : σ) (a : Assignment) :
    ReflTransGen Surface.Step surface (ms.assign surface a).2.2 :=
  ((removeFrom_steps surface (ms.get a.role)).tail (.addMarker _ _ _)).tail (.centerOn _ _ _)

/-- The removal of both markers is made of operations of the surface. -/
theorem Markers.clear_steps (ms : Markers) (surface : σ) :
    ReflTransGen Surface.Step surface (ms.clear surface).2 :=
  (removeFrom_steps surface ms.source).trans (removeFrom_steps _ ms.destination)

/-- The removal of the route is made of operations of the surface. -/
theorem Overlay.clear_steps (o : Overlay) (surface : σ) :
    ReflTransGen Surface.Step surface (o.clear surface).2 := by
  obtain ⟨style, current⟩ := o
  cases current with
  | none => exact .refl
  | some shown => exact .single (.removeLine shown.2 surface)

/-- The showing of a route is made of operations of the surface. -/
theorem Overlay.display_steps (o : Overlay) (surface : σ) (g : Geometry) :
    ReflTransGen Surface.Step surface (o.display surface g).2 :=
  (o.clear_steps surface).tail (.addLine _ _ _ _)

end Steps

/-- What belongs to others does so for ever. -/
theorem Foreign.step (fresh : Surface.Fresh given) {handle : Handle} {r r' : Recorded σ}
    (h : Foreign given handle r) (hstep : Surface.Step r r') : Foreign given handle r' := by
  have hothers : ∀ {call : Call}, call.adds ≠ some handle →
      ∀ c ∈ r.calls ++ [call], c.adds ≠ some handle := fun hcall =>
    List.forall_mem_append.2 ⟨h.others, List.forall_mem_singleton.2 hcall⟩
  cases hstep with
  | addMarker point label =>
    refine ⟨fresh.step _ _ (.addMarker point label r.surface) _ h.given, hothers ?_⟩
    -- The handle of a new marker is none that was given out.
    rintro ⟨⟩
    exact fresh.new_marker point label r.surface h.given
  | removeMarker old =>
    exact ⟨fresh.step _ _ (.removeMarker old r.surface) _ h.given, hothers nofun⟩
  | addLine points style label =>
    refine ⟨fresh.step _ _ (.addLine points style label r.surface) _ h.given, hothers ?_⟩
    rintro ⟨⟩
    exact fresh.new_line points style label r.surface h.given
  | removeLine old =>
    exact ⟨fresh.step _ _ (.removeLine old r.surface) _ h.given, hothers nofun⟩
  | centerOn point zoom =>
    exact ⟨fresh.step _ _ (.centerOn point zoom r.surface) _ h.given, hothers nofun⟩

namespace Keeps

variable {ms : Markers} {o : Overlay} {r : Recorded σ}

/-- The marker of a role is removed, if there is one. -/
theorem removeFrom (h : Keeps given ms o r) (fresh : Surface.Fresh given) (role : Role) :
    Keeps given (ms.put role none) o (Markers.removeFrom r (ms.get role)) := by
  cases hm : ms.get role with
  | none =>
    rw [← hm, Markers.put_get, hm]
    exact h
  | some m =>
    refine ⟨(h.removeMarker hm).mono (fresh.step _ _ (.removeMarker m.handle r.surface)), ?_⟩
    rw [Markers.put_focusZoom]
    exact h.followed.concat nofun

/-- A marker is placed for a role that had none, and the view moves to it. -/
theorem place (h : Keeps given ms o r) (fresh : Surface.Fresh given) {role : Role}
    (hnone : ms.get role = none) (point : Point) (node : Option UInt64) :
    let added := Surface.addMarker point (Markers.label role point) r
    Keeps given (ms.put role (some ⟨role, point, node, added.1⟩)) o
      (Surface.centerOn point ms.focusZoom added.2) := by
  intro added
  have hadd := (h.mono (fresh.step _ _ (.addMarker point _ r.surface))).addMarker
    (m := ⟨role, point, node, added.1⟩) hnone (fresh.given_marker point _ r.surface)
    (h.not_adds (fresh.new_marker point _ r.surface)) point
  have hcenter := (hadd.centerOn point ms.focusZoom).mono
    (fresh.step _ _ (.centerOn point ms.focusZoom added.2.surface))
  refine ⟨hcenter, ?_⟩
  rw [Markers.put_focusZoom]
  exact h.followed.place role added.1 point

/-- A marker takes the place of that of its role. -/
theorem assign (h : Keeps given ms o r) (fresh : Surface.Fresh given) (a : Assignment) :
    Keeps given (ms.assign r a).2.1 o (ms.assign r a).2.2 := by
  have hplace := (h.removeFrom fresh a.role).place fresh (ms.get_put a.role none) a.point a.node
  simp only [Markers.put_put, Markers.put_focusZoom] at hplace
  exact hplace

/-- Both markers are removed. -/
theorem clearMarkers (h : Keeps given ms o r) (fresh : Surface.Fresh given) :
    Keeps given (ms.clear r).1 o (ms.clear r).2 :=
  (h.removeFrom fresh .source).removeFrom fresh .destination

/-- The route is removed. -/
theorem clear (h : Keeps given ms o r) (fresh : Surface.Fresh given) :
    Keeps given ms (o.clear r).1 (o.clear r).2 := by
  obtain ⟨style, current⟩ := o
  cases current with
  | none => exact h
  | some shown =>
    exact ⟨(h.removeLine rfl).mono (fresh.step _ _ (.removeLine shown.2 r.surface)),
      h.followed.concat nofun⟩

/-- A route takes the place of the one before. -/
theorem display (h : Keeps given ms o r) (fresh : Surface.Fresh given) (g : Geometry) :
    Keeps given ms (o.display r g).1 (o.display r g).2 := by
  have hclear := h.clear fresh
  rw [Overlay.clear_fst] at hclear
  rw [Overlay.display_eq]
  generalize (o.clear r).2 = r' at hclear
  generalize Overlay.label g = label
  have hadd := (hclear.mono (fresh.step _ _ (.addLine g.path o.style label r'.surface))).addLine
    rfl (fresh.given_line g.path o.style label r'.surface)
    (hclear.not_adds (fresh.new_line g.path o.style label r'.surface)) g g.path o.style label
  exact ⟨hadd, hclear.followed.concat nofun⟩

end Keeps

end Waymark
