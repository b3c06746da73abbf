import Mathlib.Order.Monotone.Basic
import Waymark.Proofs.Session.Mirror
import Waymark.Proofs.Surface.Renumber

/-!
# Histories without the route

What is done about the route does not show in the selection. If every operation about the route is
taken out of a history, the others are answered as they were, and the selection, the markers and the
view are what they were after each of them (`routes_leave_selection`).

Only the handles of markers are others, since the line of a route takes the next number of the same
count. They are so in ascending order: a function gives every handle of the shorter history its number
in the longer one. `Routeless` is the relation between the two histories. A marker that is placed
extends the function by one number; nothing else changes it.
-/

namespace Waymark

/-- The numbers that `f` gives up to `k`, and above `n` for those above `k`. -/
def extendAbove (f : Nat → Nat) (k n i : Nat) : Nat := if i ≤ k then f i else n + (i - k)

/-- The numbers that were given stay as they are. -/
theorem extendAbove_of_le {f : Nat → Nat} {k n i : Nat} (h : i ≤ k) : extendAbove f k n i = f i :=
  if_pos h

/-- The next number is the next one of the others. -/
theorem extendAbove_succ (f : Nat → Nat) (k n : Nat) : extendAbove f k n (k + 1) = n + 1 := by
  simp [extendAbove]

/-- The numbers ascend if they did so far and go on above all of those. -/
theorem extendAbove_strictMono {f : Nat → Nat} {k n : Nat} (hf : StrictMono f) (hk : f k ≤ n) :
    StrictMono (extendAbove f k n) := by
  intro a b hab
  unfold extendAbove
  by_cases hb : b ≤ k
  · rw [if_pos hb, if_pos (Nat.le_trans (Nat.le_of_lt hab) hb)]
    exact hf hab
  · rw [if_neg hb]
    by_cases ha : a ≤ k
    · have hle : f a ≤ f k := hf.monotone ha
      rw [if_pos ha]
      omega
    · rw [if_neg ha]
      omega

namespace Session

/-- An answer whose marker has a handle of another number. -/
def Response.renumber (f : Nat → Nat) : Response → Response
  | .marker (.ok (.applied m)) => .marker (.ok (.applied (m.renumber f)))
  | r => r

namespace Entry

/-- An entry whose marker has a handle of another number. -/
def renumber (f : Nat → Nat) (e : Entry) : Entry := { e with response := e.response.renumber f }

/-- Only the handle of the marker that was placed is renumbered. -/
theorem renumber_congr {f g : Nat → Nat} {e : Entry}
    (h : ∀ m, e.marker? = some m → f m.handle.id = g m.handle.id) :
    e.renumber f = e.renumber g := by
  obtain ⟨operation, response⟩ := e
  rcases response with _ | (_ | m | _) | _ | _ | _ | _ <;> try rfl
  simp only [renumber, Response.renumber, Marker.renumber, MarkerHandle.renumber, h m rfl]

/-- An entry that places no marker has nothing to be renumbered. -/
theorem renumber_of_none {e : Entry} (h : e.marker? = none) (f : Nat → Nat) : e.renumber f = e := by
  obtain ⟨operation, response⟩ := e
  rcases response with _ | (_ | m | _) | _ | _ | _ | _ <;> first | rfl | cases h

end Entry

/-- The handles of the markers in a history, in a session and on its layers were given out. -/
structure GivenOut (past : List Entry) (s : Session Layers) : Prop where
  /-- Those of the markers that were placed. -/
  entries : ∀ e ∈ past, ∀ m, e.marker? = some m → m.handle.id ≤ s.surface.issued
  /-- Those of the markers that are set. -/
  markers : ∀ m ∈ s.markers.all, m.handle.id ≤ s.surface.issued
  /-- Those of the markers on the layers. -/
  layers : ∀ e ∈ s.surface.markers, e.1.id ≤ s.surface.issued

namespace GivenOut

variable {past : List Entry} {s t : Session Layers} {e : Entry}

/-- The handles were given out when there are no new markers. -/
theorem shrink (h : GivenOut past s) (he : e.marker? = none)
    (hissued : s.surface.issued ≤ t.surface.issued) (hmarkers : t.markers.all ⊆ s.markers.all)
    (hlayers : t.surface.markers ⊆ s.surface.markers) : GivenOut (past ++ [e]) t := by
  refine ⟨?_, ?_, ?_⟩
  · rw [List.forall_mem_append]
    refine ⟨fun e' he' m hm => Nat.le_trans (h.entries e' he' m hm) hissued, fun e' he' m hm => ?_⟩
    rw [List.mem_singleton.1 he', he] at hm
    cases hm
  · exact fun m hm => Nat.le_trans (h.markers m (hmarkers hm)) hissued
  · exact fun e' he' => Nat.le_trans (h.layers e' (hlayers he')) hissued

/-- The handle of a marker that is placed is given out, too. -/
theorem placed (h : GivenOut past s) {target : Target} {node : Node}
    (he : e.marker? = some (s.placedMarker target node)) :
    GivenOut (past ++ [e]) (s.placed target node) := by
  have hassign := s.markers.assign_layers s.surface (Selection.assignment target.role node)
  have hissued : (s.placed target node).surface.issued = s.surface.issued + 1 := by
    show (s.markers.assign s.surface _).2.2.issued = _
    rw [hassign]
  have hhandle : (s.placedMarker target node).handle = ⟨s.surface.issued + 1⟩ := by
    unfold placedMarker
    rw [hassign]
  have hmarkers : (s.placed target node).markers =
      s.markers.put target.role (some (s.placedMarker target node)) := rfl
  refine ⟨?_, ?_, ?_⟩ <;> rw [hissued]
  · rw [List.forall_mem_append]
    refine ⟨fun e' he' m hm => Nat.le_succ_of_le (h.entries e' he' m hm), fun e' he' m hm => ?_⟩
    rw [List.mem_singleton.1 he', he] at hm
    rw [← Option.some.inj hm, hhandle]
  · intro m hm
    obtain ⟨role, hrole⟩ := Markers.mem_all.1 hm
    rw [hmarkers, Markers.get_put_eq_some] at hrole
    rcases hrole with ⟨-, hnew⟩ | ⟨-, hold⟩
    · rw [← Option.some.inj hnew, hhandle]
    · exact Nat.le_succ_of_le (h.markers m (Markers.mem_all.2 ⟨role, hold⟩))
  · show ∀ e ∈ (s.markers.assign s.surface _).2.2.markers, e.1.id ≤ _
    rw [hassign]
    intro e' he'
    rcases List.mem_append.1 he' with hold | hnew
    · exact Nat.le_succ_of_le (h.layers e' (List.mem_of_mem_filter hold))
    · rw [List.mem_singleton.1 hnew]

end GivenOut

/-- An operation about the route places no marker. -/
theorem marker?_of_isRoute (s : Session Layers) {operation : Operation}
    (h : operation.isRoute = true) : (s.entry operation).marker? = none := by
  cases operation <;> first | rfl | cases h

/-- An operation about the route leaves the markers on the layers, and takes no handle back. -/
theorem act_of_isRoute_layers (s : Session Layers) {operation : Operation}
    (h : operation.isRoute = true) :
    (s.act operation).2.surface.markers = s.surface.markers ∧
      s.surface.issued ≤ (s.act operation).2.surface.issued := by
  have htouch := s.act_touch operation
  have hmarker := s.marker?_of_isRoute h
  generalize he : s.entry operation = e at htouch hmarker
  generalize ht : (s.act operation).2 = t at htouch ⊢
  cases htouch with
  | keep _ same =>
    rw [same.surface]
    exact ⟨rfl, Nat.le_refl _⟩
  | place hplace =>
    rw [hmarker] at hplace
    cases hplace
  | display g _ =>
    show (s.overlay.display s.surface g).2.markers = _ ∧
      _ ≤ (s.overlay.display s.surface g).2.issued
    rw [Overlay.display_layers]
    exact ⟨rfl, Nat.le_succ _⟩
  | clear =>
    show (s.overlay.clear s.surface).2.markers = _ ∧ _ ≤ (s.overlay.clear s.surface).2.issued
    rw [Overlay.clear_layers]
    exact ⟨rfl, Nat.le_refl _⟩
  | reset =>
    obtain rfl : operation = .reset := congrArg Entry.operation he
    cases h

/-- A history and the same one without the operations about the route, each with the session after
it: the answers are the same, and so are the selection, the markers and the view. The handles of the
markers have other numbers, in the same order. -/
structure Routeless (f : Nat → Nat) (past : List Entry) (s : Session Layers) (past' : List Entry)
    (t : Session Layers) : Prop where
  /-- The numbers are in the same order. -/
  ascending : StrictMono f
  /-- The answers are the same. -/
  entries : past.filter (fun e => !e.operation.isRoute) = past'.map (Entry.renumber f)
  /-- The selection is the same. -/
  selection : s.selection = t.selection
  /-- The rule for points is the same. -/
  rule : s.rule = t.rule
  /-- The markers of the session are the same. -/
  markers : s.markers = t.markers.renumber f
  /-- The markers on the layers are the same. -/
  layers : s.surface.markers = Layers.renumberMarkers f t.surface.markers
  /-- The view is the same. -/
  view : s.surface.view = t.surface.view
  /-- The numbers that were given in the shorter history were given in the longer one. -/
  below : f t.surface.issued ≤ s.surface.issued
  /-- No other numbers are in use in the shorter history. -/
  given_out : GivenOut past' t

namespace Routeless

variable {f : Nat → Nat} {past past' : List Entry} {s s' t t' : Session Layers} {e : Entry}
  {operation : Operation}

/-- An operation about the route may be taken out. -/
theorem route (h : Routeless f past s past' t) (hroute : operation.isRoute = true) :
    Routeless f (past ++ [s.entry operation]) (s.act operation).2 past' t := by
  obtain ⟨hselection, hmarkers⟩ := s.act_of_isRoute hroute
  obtain ⟨hlayers, hissued⟩ := s.act_of_isRoute_layers hroute
  have hview := s.act_view (s.marker?_of_isRoute hroute)
  refine ⟨h.ascending, ?_, hselection.trans h.selection,
    (s.act_sameSettings operation).rule.trans h.rule, hmarkers.trans h.markers,
    hlayers.trans h.layers, hview.trans h.view, Nat.le_trans h.below hissued, h.given_out⟩
  rw [List.filter_append, h.entries]
  simp [entry, hroute]

/-- An operation is answered the same if it is not about the route. -/
theorem entries_concat (h : Routeless f past s past' t) (he : e.operation.isRoute = false) :
    (past ++ [e.renumber f]).filter (fun e => !e.operation.isRoute) =
      (past' ++ [e]).map (Entry.renumber f) := by
  rw [List.filter_append, h.entries, List.map_append]
  simp [Entry.renumber, he]

/-- An operation that leaves the map as it was does the same to the selection. -/
theorem keep (h : Routeless f past s past' t) (he : e.operation.isRoute = false)
    (hmarker : e.marker? = none) (hs : s.SameMap s') (ht : t.SameMap t')
    (hselection : s'.selection = t'.selection) (hrule : s'.rule = t'.rule) :
    Routeless f (past ++ [e]) s' (past' ++ [e]) t' := by
  refine ⟨h.ascending, ?_, hselection, hrule, ?_, ?_, ?_, ?_, h.given_out.shrink hmarker ?_ ?_ ?_⟩
  · have hentries := h.entries_concat he
    rwa [Entry.renumber_of_none hmarker] at hentries
  · rw [hs.markers, ht.markers, h.markers]
  · rw [hs.surface, ht.surface, h.layers]
  · rw [hs.surface, ht.surface, h.view]
  · rw [hs.surface, ht.surface]
    exact h.below
  · rw [ht.surface]
  · rw [ht.markers]
    exact List.Subset.refl _
  · rw [ht.surface]
    exact List.Subset.refl _

/-- The numbers may be chosen so that the next one of the shorter history is the next one of the
longer history. -/
theorem recast (h : Routeless f past s past' t) :
    Routeless (extendAbove f t.surface.issued s.surface.issued) past s past' t := by
  have hsame {i : Nat} (hi : i ≤ t.surface.issued) :
      f i = extendAbove f t.surface.issued s.surface.issued i := (extendAbove_of_le hi).symm
  refine ⟨extendAbove_strictMono h.ascending h.below, ?_, h.selection, h.rule, ?_, ?_, h.view, ?_,
    h.given_out⟩
  · rw [h.entries]
    exact List.map_congr_left fun e he =>
      Entry.renumber_congr fun m hm => hsame (h.given_out.entries e he m hm)
  · rw [h.markers]
    exact Markers.renumber_congr fun m hm => hsame (h.given_out.markers m hm)
  · rw [h.layers]
    exact Layers.renumberMarkers_congr fun e he => hsame (h.given_out.layers e he)
  · rw [← hsame (Nat.le_refl _)]
    exact h.below

/-- A node that is placed gets the same marker, under the next number. -/
theorem placed (h : Routeless f past s past' t)
    (hnext : s.surface.issued + 1 = f (t.surface.issued + 1)) (ticket : Ticket) (node : Node) :
    Routeless f
      (past ++ [⟨.completeLookup ticket (.ok node),
        .marker (.ok (.applied (s.placedMarker ticket.target node)))⟩])
      (s.placed ticket.target node)
      (past' ++ [⟨.completeLookup ticket (.ok node),
        .marker (.ok (.applied (t.placedMarker ticket.target node)))⟩])
      (t.placed ticket.target node) := by
  obtain ⟨hmarker, hmarkers, hlayers⟩ := Markers.assign_renumber h.ascending.injective h.layers
    hnext t.markers (Selection.assignment ticket.target.role node)
  rw [← h.markers] at hmarker hmarkers hlayers
  have hassign := s.markers.assign_layers s.surface (Selection.assignment ticket.target.role node)
  have hassign' := t.markers.assign_layers t.surface (Selection.assignment ticket.target.role node)
  refine ⟨h.ascending, ?_, ?_, h.rule, hmarkers, hlayers, ?_, ?_, h.given_out.placed rfl⟩
  · have hentries := h.entries_concat (e := ⟨.completeLookup ticket (.ok node),
      .marker (.ok (.applied (t.placedMarker ticket.target node)))⟩) rfl
    rw [← hentries]
    unfold placedMarker
    rw [hmarker]
    rfl
  · show s.selection.spend ticket.target = t.selection.spend ticket.target
    rw [h.selection]
  · show (s.markers.assign s.surface _).2.2.view = (t.markers.assign t.surface _).2.2.view
    rw [hassign, hassign', h.markers]
    rfl
  · show f (t.markers.assign t.surface _).2.2.issued ≤ (s.markers.assign s.surface _).2.2.issued
    rw [hassign, hassign']
    exact Nat.le_of_eq hnext.symm

/-- A reset removes the same markers. -/
theorem reset (h : Routeless f past s past' t) :
    Routeless f (past ++ [⟨.reset, .done⟩]) s.reset (past' ++ [⟨.reset, .done⟩]) t.reset := by
  obtain ⟨hlayers, hview, hissued⟩ := s.reset_layers
  obtain ⟨hlayers', hview', hissued'⟩ := t.reset_layers
  refine ⟨h.ascending, h.entries_concat (e := ⟨.reset, .done⟩) rfl, ?_, h.rule, ?_, ?_, ?_, ?_,
    h.given_out.shrink rfl ?_ ?_ ?_⟩
  · show s.selection.reset = t.selection.reset
    rw [h.selection]
  · show (s.markers.clear s.surface).1 = (t.markers.clear t.surface).1.renumber f
    rw [h.markers]
    rfl
  · rw [hlayers, hlayers', h.markers, Markers.clear_renumber h.ascending.injective h.layers]
  · rw [hview, hview', h.view]
  · rw [hissued, hissued']
    exact h.below
  · exact Nat.le_of_eq hissued'.symm
  · exact List.nil_subset _
  · rw [hlayers']
    exact (t.markers.clear_sublist t.surface).1.subset

/-- An operation that is not about the route is answered the same and does the same to the selection,
the markers and the view. -/
theorem act (h : Routeless f past s past' t) (hroute : operation.isRoute = false) :
    ∃ f', Routeless f' (past ++ [s.entry operation]) (s.act operation).2
      (past' ++ [t.entry operation]) (t.act operation).2 := by
  have hactive : s.active = t.active := congrArg Selection.active h.selection
  cases operation with
  | beginClick lat lng =>
    cases hp : Point.check t.rule lat lng with
    | error fault =>
      simp only [entry, Session.act, beginClick_error hp, beginClick_error (h.rule ▸ hp)]
      exact ⟨f, h.keep rfl rfl ⟨rfl, rfl, rfl, rfl⟩ ⟨rfl, rfl, rfl, rfl⟩ h.selection h.rule⟩
    | ok point =>
      simp only [entry, Session.act, beginClick_ok hp, beginClick_ok (h.rule ▸ hp), hactive,
        h.selection]
      refine ⟨f, h.keep rfl rfl ⟨rfl, rfl, rfl, rfl⟩ ⟨rfl, rfl, rfl, rfl⟩ ?_ h.rule⟩
      exact congrArg (fun selection => (selection.issue (.toggle t.active)).2) h.selection
  | beginSubmit role lat lng =>
    cases hp : Point.read t.rule lat lng with
    | error fault =>
      simp only [entry, Session.act, beginSubmit_error hp, beginSubmit_error (h.rule ▸ hp)]
      exact ⟨f, h.keep rfl rfl ⟨rfl, rfl, rfl, rfl⟩ ⟨rfl, rfl, rfl, rfl⟩ h.selection h.rule⟩
    | ok point =>
      simp only [entry, Session.act, beginSubmit_ok hp, beginSubmit_ok (h.rule ▸ hp), h.selection]
      refine ⟨f, h.keep rfl rfl ⟨rfl, rfl, rfl, rfl⟩ ⟨rfl, rfl, rfl, rfl⟩ ?_ h.rule⟩
      exact congrArg (fun selection => (selection.issue (.manual role)).2) h.selection
  | completeLookup ticket answer =>
    by_cases hc : t.selection.current = some ticket.seq
    · have hc' : s.selection.current = some ticket.seq := h.selection ▸ hc
      cases answer with
      | error fault =>
        simp only [entry, Session.act, completeLookup_error hc, completeLookup_error hc']
        refine ⟨f, h.keep rfl rfl ⟨rfl, rfl, rfl, rfl⟩ ⟨rfl, rfl, rfl, rfl⟩ ?_ h.rule⟩
        show s.selection.invalidate = t.selection.invalidate
        rw [h.selection]
      | ok node =>
        simp only [entry, Session.act, completeLookup_ok hc, completeLookup_ok hc']
        exact ⟨_, h.recast.placed (extendAbove_succ _ _ _).symm ticket node⟩
    · have hc' : s.selection.current ≠ some ticket.seq := h.selection ▸ hc
      simp only [entry, Session.act, completeLookup_stale hc, completeLookup_stale hc']
      exact ⟨f, h.keep rfl rfl ⟨rfl, rfl, rfl, rfl⟩ ⟨rfl, rfl, rfl, rfl⟩ h.selection h.rule⟩
  | beginRoute | completeRoute | showRoute | showPayload | clearRoute => cases hroute
  | reset => exact ⟨f, h.reset⟩

end Routeless

/-- On layers whose handles were given out, take out of any operations of a new session all that are
about the route. Then every other operation is answered the same, with the same tickets, and
afterwards the selection is the same, with the active role and the current ticket, and so are the
point and the node of the marker of each role, the view and the features of the markers, in their
order. Only the handles of the markers are others, and these keep their order. -/
theorem routes_leave_selection (surface : Layers) (settings : Settings)
    (operations : List Operation) (given_out : ∀ e ∈ surface.markers, e.1.id ≤ surface.issued) :
    let whole := (start surface settings).run operations
    let lookups := (start surface settings).run (operations.filter fun o => !o.isRoute)
    ∃ f : Nat → Nat, StrictMono f ∧
      whole.1.filter (fun e => !e.operation.isRoute) = lookups.1.map (Entry.renumber f) ∧
      whole.2.selection = lookups.2.selection ∧
      (∀ role, whole.2.marker role = (lookups.2.marker role).map (Marker.renumber f)) ∧
      whole.2.surface.view = lookups.2.surface.view ∧
      whole.2.surface.markers = Layers.renumberMarkers f lookups.2.surface.markers ∧
      whole.2.surface.markerLayers.map Layers.markerFeature =
        lookups.2.surface.markerLayers.map Layers.markerFeature := by
  intro whole lookups
  have hfirst : Routeless id [] (start surface settings) [] (start surface settings) := by
    refine ⟨strictMono_id, rfl, rfl, rfl, rfl, (List.map_id _).symm, rfl, Nat.le_refl _, ?_⟩
    exact ⟨by rintro _ ⟨⟩, by rintro _ ⟨⟩, given_out⟩
  have hboth := run_induction_two (p := fun o => !o.isRoute) (g := id)
    (P := fun past s past' t => ∃ f, Routeless f past s past' t)
    (s := start surface settings) (t := start surface settings)
    (fun _ _ _ _ operation ⟨f, h⟩ hroute => ⟨f, h.route (by simpa using hroute)⟩)
    (fun _ _ _ _ operation ⟨_, h⟩ hroute => h.act (by simpa using hroute))
    operations [] [] ⟨id, hfirst⟩
  rw [List.map_id] at hboth
  obtain ⟨f, h⟩ := hboth
  refine ⟨f, h.ascending, h.entries, h.selection, fun role => ?_, h.view, h.layers, ?_⟩
  · show whole.2.markers.get role = _
    rw [h.markers, Markers.get_renumber]
    rfl
  · have hlayers : whole.2.surface.markerLayers = lookups.2.surface.markerLayers := by
      unfold Layers.markerLayers
      rw [h.layers, Layers.renumberMarkers_map_snd]
    rw [hlayers]

/-- A route is shown and asked for between the two clicks of a history, and removed later. Without it
the same tickets are handed out and the same markers are placed, but the second one has handle two
and not three, which was the first free one after the line. -/
theorem routes_leave_selection_line_between :
    let operations : List Operation := [
      .beginClick 48.0 9.0, .completeLookup ⟨1, .toggle .source⟩ (.ok ⟨⟨48.0, 9.0⟩, 7⟩),
      .showPayload ⟨1200.0, [(48.0, 9.0), (48.1, 9.2)]⟩, .beginClick 48.1 9.2, .beginRoute,
      .completeLookup ⟨2, .toggle .destination⟩ (.ok ⟨⟨48.1, 9.2⟩, 8⟩), .clearRoute]
    let lookups := operations.filter fun o => !o.isRoute
    let whole := (start Layers.empty .default).run operations
    let part := (start Layers.empty .default).run lookups
    lookups.length = 4 ∧
      (∃ f : Nat → Nat, StrictMono f ∧ f 2 = 3 ∧
        whole.1.filter (fun e => !e.operation.isRoute) = part.1.map (Entry.renumber f)) ∧
      whole.2.selection = part.2.selection ∧
      (part.2.marker .destination).map (·.handle) = some ⟨2⟩ ∧
      (whole.2.marker .destination).map (·.handle) = some ⟨3⟩ := by
  intro operations lookups whole part
  have hpart : (part.2.marker .destination).map (·.handle) = some ⟨2⟩ := by decide
  have hwhole : (whole.2.marker .destination).map (·.handle) = some ⟨3⟩ := by decide
  obtain ⟨f, hf, hentries, hselection, hmarkers, -⟩ :=
    routes_leave_selection Layers.empty .default operations (by rintro _ ⟨⟩)
  refine ⟨by decide, ⟨f, hf, ?_, hentries⟩, hselection, hpart, hwhole⟩
  obtain ⟨m, hm, hhandle⟩ := Option.map_eq_some_iff.1 hpart
  -- The function gives the second marker the handle that it has in the longer history.
  rw [hmarkers .destination, hm] at hwhole
  simpa [Marker.renumber, MarkerHandle.renumber, hhandle] using hwhole

end Session

end Waymark
