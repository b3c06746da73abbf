import Waymark.Proofs.Session.Frame
import Waymark.Proofs.Surface.Shared
import Waymark.Surface.Layers

/-!
# Sessions on a surface that is shared

A session shares its surface with others, who may change it between its operations as they like, as
long as no handle is taken back. Its own layers stay in order all the same, at every point of its
calls, and those of others stay theirs (`share_tidy`).
-/

namespace Waymark

/-- The handles that were given out for layers, which are numbered together. -/
def Layers.given (s : Layers) : Handle → Prop
  | .marker handle => handle.id ≤ s.issued
  | .line handle => handle.id ≤ s.issued

/-- Layers get handles that were not given out. -/
theorem Layers.fresh : Surface.Fresh Layers.given where
  new_marker := fun _ _ s => Nat.not_succ_le_self s.issued
  given_marker := fun _ _ s => Nat.le_refl (s.issued + 1)
  new_line := fun _ _ _ s => Nat.not_succ_le_self s.issued
  given_line := fun _ _ _ s => Nat.le_refl (s.issued + 1)
  step := by
    intro s t hstep handle hgiven
    have hle : s.issued ≤ t.issued := by
      cases hstep with
      | addMarker | addLine => exact Nat.le_succ s.issued
      | removeMarker | removeLine | centerOn => exact Nat.le_refl s.issued
    cases handle with
    | marker | line => exact Nat.le_trans hgiven hle

namespace Session

variable {σ : Type}

/-- What others do to a surface: anything that takes back no handle. -/
structure Intrusion (given : σ → Handle → Prop) where
  /-- What they do. -/
  change : σ → σ
  /-- What was given out stays so. -/
  keeps : ∀ s handle, given s handle → given (change s) handle

/-- What happens on a surface that is shared. -/
inductive Move (given : σ → Handle → Prop) where
  /-- The session goes through an operation. -/
  | operation (operation : Operation)
  /-- Others change the surface. -/
  | others (intrusion : Intrusion given)

/-- Every call of a session so far kept its markers and its route, and new markers are shown at some
zoom. -/
structure Orderly (given : σ → Handle → Prop) (zoom : UInt8) (s : Session (Recorded σ)) :
    Prop where
  /-- The calls kept the markers and the route. -/
  keeps : Keeps given s.markers s.overlay s.surface
  /-- New markers are shown at this zoom. -/
  focusZoom : s.markers.focusZoom = zoom

variable [Surface σ] {given : σ → Handle → Prop}

/-- A session after something happened on a surface that is shared. -/
def move (s : Session (Recorded σ)) : Move given → Session (Recorded σ)
  | .operation operation => (s.act operation).2
  | .others intrusion =>
    { s with surface := { s.surface with surface := intrusion.change s.surface.surface } }

/-- A session after some moves on a surface that is shared. -/
def share (s : Session (Recorded σ)) (moves : List (Move given)) : Session (Recorded σ) :=
  moves.foldl move s

/-- What no move ends holds after all of them. -/
theorem share_induction {P : Session (Recorded σ) → Prop}
    (hmove : ∀ s (m : Move given), P s → P (s.move m)) (moves : List (Move given))
    {s : Session (Recorded σ)} (hs : P s) : P (s.share moves) := by
  induction moves generalizing s with
  | nil => exact hs
  | cons m rest ih => exact ih (hmove s m hs)

/-- What touches the map is made of operations of the surface. -/
theorem Touch.steps {s t : Session σ} {e : Entry} (touch : Touch s e t) :
    Relation.ReflTransGen Surface.Step s.surface t.surface := by
  cases touch with
  | keep he same =>
    rw [same.surface]
  | place he => exact s.markers.assign_steps _ _
  | display g he => exact s.overlay.display_steps _ g
  | clear => exact s.overlay.clear_steps _
  | reset => exact (s.markers.clear_steps _).trans (s.overlay.clear_steps _)

/-- What belongs to others does so after every move. -/
theorem foreign_move (fresh : Surface.Fresh given) {handle : Handle} (s : Session (Recorded σ))
    (m : Move given) (h : Foreign given handle s.surface) :
    Foreign given handle (s.move m).surface := by
  cases m with
  | operation operation =>
    exact (s.act_touch operation).steps.rec h fun _ hstep ih => ih.step fresh hstep
  | others intrusion => exact h.of_surface (intrusion.keeps _)

namespace Orderly

variable {zoom : UInt8} {s t : Session (Recorded σ)}

/-- A session stays orderly when its map is touched. -/
theorem touch (h : s.Orderly given zoom) (fresh : Surface.Fresh given) {e : Entry}
    (touch : Touch s e t) : t.Orderly given zoom := by
  cases touch with
  | keep he same =>
    refine ⟨?_, ?_⟩
    · rw [same.markers, same.overlay, same.surface]
      exact h.keeps
    · rw [same.markers]
      exact h.focusZoom
  | @place e target node he =>
    exact ⟨h.keeps.assign fresh _, (Markers.put_focusZoom _ _ _).trans h.focusZoom⟩
  | display g he => exact ⟨h.keeps.display fresh g, h.focusZoom⟩
  | clear => exact ⟨h.keeps.clear fresh, h.focusZoom⟩
  | reset => exact ⟨(h.keeps.clearMarkers fresh).clear fresh, h.focusZoom⟩

/-- A session stays orderly after every move. -/
theorem move (h : s.Orderly given zoom) (fresh : Surface.Fresh given) (m : Move given) :
    (s.move m).Orderly given zoom := by
  cases m with
  | operation operation => exact h.touch fresh (s.act_touch operation)
  | others intrusion => exact ⟨h.keeps.of_surface (intrusion.keeps _), h.focusZoom⟩

/-- A session is orderly when it starts. -/
theorem start (surface : σ) (settings : Settings) :
    (start (⟨surface, []⟩ : Recorded σ) settings).Orderly given settings.focusZoom :=
  ⟨⟨(Kept.nil settings.focusZoom settings.style).centerOn settings.center settings.initialZoom,
    (Call.Followed.nil settings.focusZoom).concat nofun⟩, rfl⟩

end Orderly

/-- On a surface that gives out no handle twice, and after any operations of a session, between which
others may change the surface. At every point of the calls of the session so far, also within an
operation, there is at most one marker of each role and at most one line that it added and has not
removed, and what it removes it has got from the call that added it and has not removed before. The
view was moved to every marker at once. Nothing that belonged to others at some point was removed by
the session, and of its own it has not removed just the markers and the line that it keeps. -/
theorem share_tidy (fresh : Surface.Fresh given) (surface : σ) (settings : Settings)
    (before after : List (Move given)) :
    let earlier := (start (⟨surface, []⟩ : Recorded σ) settings).share before
    let s := earlier.share after
    let calls := s.surface.calls
    (∀ seen, seen <+: calls → Call.Tidy seen) ∧
    Call.Followed settings.focusZoom calls ∧
    (∀ handle, Foreign given handle earlier.surface →
      ∀ call ∈ calls, call.removes ≠ some handle) ∧
    (∀ role, Call.markersOf role calls = ((s.marker role).map (·.handle)).toList) ∧
    Call.linesOf calls = s.overlay.line?.toList := by
  intro earlier s calls
  have hearlier : earlier.Orderly given settings.focusZoom :=
    share_induction (fun _ m h => h.move fresh m) before (.start surface settings)
  have h : s.Orderly given settings.focusZoom :=
    share_induction (fun _ m h => h.move fresh m) after hearlier
  refine ⟨h.keeps.tidy, ?_, ?_, h.keeps.markers, h.keeps.lines⟩
  · rw [← h.focusZoom]
    exact h.keeps.followed
  · intro handle hforeign call hcall hremoves
    have hstill : Foreign given handle s.surface :=
      share_induction (P := fun s => Foreign given handle s.surface) (foreign_move fresh) after
        hforeign
    -- It would have been added by the session before.
    obtain ⟨add, hadd, hadds⟩ := Call.exists_adds_of_removes h.keeps.tidy hcall hremoves
    exact hstill.others add hadd hadds

/-- Others place a marker at first, and a second one between the two markers of the session. The
session gets other handles for its own, and a reset removes them and no others. -/
theorem share_tidy_among_others :
    let theirs : Intrusion Layers.given := {
      change := fun s => (Layers.addMarker ⟨48.5, 9.5⟩ "theirs" s).2
      keeps := fun s => Layers.fresh.step _ _ (.addMarker ⟨48.5, 9.5⟩ "theirs" s) }
    let before : List (Move Layers.given) := [.others theirs]
    let after : List (Move Layers.given) := [
      .operation (.beginClick 48.0 9.0),
      .operation (.completeLookup ⟨1, .toggle .source⟩ (.ok ⟨⟨48.0, 9.0⟩, 7⟩)),
      .others theirs,
      .operation (.beginClick 48.1 9.2),
      .operation (.completeLookup ⟨2, .toggle .destination⟩ (.ok ⟨⟨48.1, 9.2⟩, 8⟩)),
      .operation .reset]
    let s := ((start ⟨Layers.empty, []⟩ .default).share before).share after
    s.surface.calls.filterMap Call.adds = [.marker ⟨2⟩, .marker ⟨4⟩] ∧
      s.surface.calls.filterMap Call.removes = [.marker ⟨2⟩, .marker ⟨4⟩] ∧
      (∀ seen, seen <+: s.surface.calls → Call.Tidy seen) ∧
      ∀ call ∈ s.surface.calls, call.removes ≠ some (.marker ⟨1⟩) := by
  refine ⟨by decide +kernel, by decide +kernel,
    (share_tidy Layers.fresh Layers.empty .default _ _).1,
    (share_tidy Layers.fresh Layers.empty .default _ _).2.2.1 (.marker ⟨1⟩) ⟨?_, ?_⟩⟩
  · exact Nat.le_refl 1
  · -- At first the session has only moved the view.
    exact List.forall_mem_singleton.2 nofun

end Session

end Waymark
