import Waymark.Proofs.Surface.Lines

/-!
# The calls of markers and routes

What the markers and the route of a session do to a surface can be told from its calls alone.
`Call.Tidy` is what holds after each of them: no second marker of a role, no second line, and nothing
removed but what was added before. `Kept` is the invariant that ties the calls so far to the handles
that are kept, with one lemma for each of the calls. What is added must have got a handle that no
call before has got; everything else is up to the session.
-/

namespace Waymark

/-- What a surface calls a layer, be it a marker or a line. -/
inductive Handle where
  /-- The handle of a marker. -/
  | marker (handle : MarkerHandle)
  /-- The handle of a line. -/
  | line (handle : LineHandle)
deriving DecidableEq, Repr

namespace Call

/-- The handle of what a call has added. -/
def adds : Call → Option Handle
  | .addMarker handle _ _ => some (.marker handle)
  | .addLine handle _ _ _ => some (.line handle)
  | .removeMarker _ | .removeLine _ | .centerOn _ _ => none

/-- The handle of what a call was to remove. -/
def removes : Call → Option Handle
  | .removeMarker handle => some (.marker handle)
  | .removeLine handle => some (.line handle)
  | .addMarker _ _ _ | .addLine _ _ _ _ | .centerOn _ _ => none

/-- The markers of a role after a call, of those before it. The label of a marker tells its role. -/
def markersAfter (role : Role) (markers : List MarkerHandle) : Call → List MarkerHandle
  | .addMarker handle point label =>
    if label = Markers.label role point then markers ++ [handle] else markers
  | .removeMarker handle => markers.erase handle
  | .addLine _ _ _ _ | .removeLine _ | .centerOn _ _ => markers

/-- The markers of a role that were placed by some calls and not removed since, in order. -/
def markersOf (role : Role) (calls : List Call) : List MarkerHandle :=
  calls.foldl (markersAfter role) []

/-- The lines that were drawn by some calls and not removed since, in order. -/
def linesOf (calls : List Call) : List LineHandle := calls.foldl linesAfter []

/-- A handle that some calls got for what they added, and with which they removed nothing. -/
structure Owns (calls : List Call) (handle : Handle) : Prop where
  /-- It was got for something. -/
  added : ∃ call ∈ calls, call.adds = some handle
  /-- Nothing was removed with it. -/
  kept : ∀ call ∈ calls, call.removes ≠ some handle

/-- What holds of some calls after the last of them: there is at most one marker for each role and
at most one line, and if something was removed last, it was with a handle that was got before and
not used for a removal yet. -/
structure Tidy (calls : List Call) : Prop where
  /-- There is at most one marker for each role. -/
  markers : ∀ role, (markersOf role calls).length ≤ 1
  /-- There is at most one line. -/
  lines : (linesOf calls).length ≤ 1
  /-- What was removed last was owned. -/
  owned : ∀ seen call handle, calls = seen ++ [call] → call.removes = some handle →
    Owns seen handle

/-- Every marker that was placed has the label of a role, and the view was moved to it at once. -/
def Followed (zoom : UInt8) (calls : List Call) : Prop :=
  ∀ seen handle point label rest, calls = seen ++ .addMarker handle point label :: rest →
    (∃ role, label = Markers.label role point) ∧ rest.head? = some (.centerOn point zoom)

/-- The last call is the last that changes the markers. -/
@[simp] theorem markersOf_concat (role : Role) (calls : List Call) (call : Call) :
    markersOf role (calls ++ [call]) = call.markersAfter role (markersOf role calls) := by
  simp [markersOf]

/-- The last call is the last that changes the lines. -/
@[simp] theorem linesOf_concat (calls : List Call) (call : Call) :
    linesOf (calls ++ [call]) = call.linesAfter (linesOf calls) := by
  simp [linesOf]

/-- Labels of different roles differ. -/
theorem label_inj {role role' : Role} {point : Point}
    (h : Markers.label role point = Markers.label role' point) : role = role' := by
  have hlength := congrArg String.length h
  unfold Markers.label at hlength
  cases role <;> cases role' <;> first
    | rfl
    | simp only [String.length_append, Nat.add_right_cancel_iff] at hlength
      exact absurd hlength (by decide)

/-- A call among some with one more is that one, or it is among them. -/
theorem concat_eq_append_cons {calls seen rest : List Call} {last call : Call}
    (h : calls ++ [last] = seen ++ call :: rest) :
    (calls = seen ∧ last = call ∧ rest = []) ∨
      ∃ init, rest = init ++ [last] ∧ calls = seen ++ call :: init := by
  rcases rest.eq_nil_or_concat with rfl | ⟨init, last', rfl⟩
  · obtain ⟨hcalls, hlast⟩ := List.append_inj' h rfl
    exact .inl ⟨hcalls, List.singleton_inj.1 hlast, rfl⟩
  · rw [List.concat_eq_append, ← List.cons_append, ← List.append_assoc] at h
    obtain ⟨hcalls, hlast⟩ := List.append_inj' h rfl
    obtain rfl := List.singleton_inj.1 hlast
    exact .inr ⟨init, List.concat_eq_append, hcalls⟩

/-- What is owned still is after another call, unless it is removed by it. -/
theorem Owns.concat {calls : List Call} {handle : Handle} (h : Owns calls handle) {call : Call}
    (hcall : call.removes ≠ some handle) : Owns (calls ++ [call]) handle where
  added := by
    obtain ⟨add, hadd, hhandle⟩ := h.added
    exact ⟨add, List.mem_append_left _ hadd, hhandle⟩
  kept := List.forall_mem_append.2 ⟨h.kept, List.forall_mem_singleton.2 hcall⟩

/-- Calls with one more are tidy if the last removes only what is owned, and leaves no second marker
and no second line. -/
theorem Tidy.concat {calls : List Call} {call : Call}
    (howned : ∀ handle, call.removes = some handle → Owns calls handle)
    (hmarkers : ∀ role, (call.markersAfter role (markersOf role calls)).length ≤ 1)
    (hlines : (call.linesAfter (linesOf calls)).length ≤ 1) : Tidy (calls ++ [call]) where
  markers := fun role => by
    rw [markersOf_concat]
    exact hmarkers role
  lines := by
    rw [linesOf_concat]
    exact hlines
  owned := by
    intro seen last handle heq
    obtain ⟨rfl, hlast⟩ := List.append_inj' heq rfl
    obtain rfl := List.singleton_inj.1 hlast
    exact howned handle

/-- What was removed in calls that are tidy throughout was added in them. -/
theorem exists_adds_of_removes {calls : List Call} (htidy : ∀ seen, seen <+: calls → Tidy seen)
    {call : Call} (hcall : call ∈ calls) {handle : Handle} (h : call.removes = some handle) :
    ∃ add ∈ calls, add.adds = some handle := by
  obtain ⟨seen, rest, rfl⟩ := List.append_of_mem hcall
  have hprefix : seen ++ [call] <+: seen ++ call :: rest := ⟨rest, by simp⟩
  obtain ⟨add, hadd, hhandle⟩ := ((htidy _ hprefix).owned _ _ _ rfl h).added
  exact ⟨add, List.mem_append_left _ hadd, hhandle⟩

/-- No calls ask for nothing to follow. -/
theorem Followed.nil (zoom : UInt8) : Followed zoom [] := by
  intro seen handle point label rest heq
  simp at heq

/-- A call that places no marker asks for nothing to follow. -/
theorem Followed.concat {zoom : UInt8} {calls : List Call} (h : Followed zoom calls) {call : Call}
    (hcall : ∀ handle point label, call ≠ .addMarker handle point label) :
    Followed zoom (calls ++ [call]) := by
  intro seen handle point label rest heq
  rcases concat_eq_append_cons heq with ⟨-, hlast, -⟩ | ⟨init, rfl, hcalls⟩
  · exact absurd hlast (hcall handle point label)
  · obtain ⟨hlabel, hhead⟩ := h _ _ _ _ _ hcalls
    exact ⟨hlabel, by rw [List.head?_append, hhead]; rfl⟩

/-- A marker is placed, and the view moves to it. -/
theorem Followed.place {zoom : UInt8} {calls : List Call} (h : Followed zoom calls) (role : Role)
    (handle : MarkerHandle) (point : Point) :
    Followed zoom (calls ++ [.addMarker handle point (Markers.label role point)] ++
      [.centerOn point zoom]) := by
  intro seen handle' point' label rest heq
  rcases concat_eq_append_cons heq with ⟨-, hlast, -⟩ | ⟨init, rfl, hcalls⟩
  · cases hlast
  · rcases concat_eq_append_cons hcalls with ⟨-, hadd, rfl⟩ | ⟨init', rfl, hcalls'⟩
    · -- The marker is the new one.
      cases hadd
      exact ⟨⟨role, rfl⟩, rfl⟩
    · obtain ⟨hlabel, hhead⟩ := h _ _ _ _ _ hcalls'
      exact ⟨hlabel, by rw [List.head?_append, List.head?_append, hhead]; rfl⟩

end Call

/-- Some calls were tidy throughout, and what they added and did not remove are the markers of the
two roles and the line of the route. -/
structure Kept (given : Handle → Prop) (ms : Markers) (o : Overlay) (calls : List Call) : Prop where
  /-- The calls were tidy throughout. -/
  tidy : ∀ seen, seen <+: calls → Call.Tidy seen
  /-- Every handle that they got was given out. -/
  given : ∀ call ∈ calls, ∀ handle, call.adds = some handle → given handle
  /-- The markers of a role that are left are that of the role. -/
  markers : ∀ role, Call.markersOf role calls = ((ms.get role).map (·.handle)).toList
  /-- The lines that are left are that of the route. -/
  lines : Call.linesOf calls = o.line?.toList
  /-- The marker of a role is owned. -/
  ownsMarker : ∀ role m, ms.get role = some m → Call.Owns calls (.marker m.handle)
  /-- The line of the route is owned. -/
  ownsLine : ∀ handle, o.line? = some handle → Call.Owns calls (.line handle)
  /-- Markers of different roles have different handles. -/
  distinct : ∀ role role' m m', role ≠ role' → ms.get role = some m → ms.get role' = some m' →
    m.handle ≠ m'.handle

namespace Kept

variable {given : Handle → Prop} {ms : Markers} {o : Overlay} {calls : List Call}

/-- No calls keep no markers and no route. -/
theorem nil (zoom : UInt8) (style : LineStyle) : Kept given (.empty zoom) ⟨style, none⟩ [] where
  tidy := by
    intro seen hseen
    obtain rfl := List.prefix_nil.1 hseen
    exact ⟨fun _ => Nat.zero_le 1, Nat.zero_le 1, by simp⟩
  given := nofun
  markers := by
    intro role
    cases role <;> rfl
  lines := rfl
  ownsMarker := by rintro (_ | _) m ⟨⟩
  ownsLine := nofun
  distinct := by rintro (_ | _) role' m m' - ⟨⟩

/-- More handles may be given out. -/
theorem mono (h : Kept given ms o calls) {given' : Handle → Prop}
    (hgiven : ∀ handle, given handle → given' handle) : Kept given' ms o calls :=
  { h with given := fun call hcall handle hadds => hgiven _ (h.given call hcall handle hadds) }

/-- The calls are tidy throughout with one more, if they are so at the end. -/
theorem tidy_concat (h : Kept given ms o calls) {call : Call} (htidy : Call.Tidy (calls ++ [call])) :
    ∀ seen, seen <+: calls ++ [call] → Call.Tidy seen := by
  intro seen hseen
  rcases List.prefix_concat_iff.1 hseen with rfl | hseen
  · exact htidy
  · exact h.tidy seen hseen

/-- The handles of the calls were given out with one more, if that of the last was. -/
theorem given_concat (h : Kept given ms o calls) {call : Call}
    (hcall : ∀ handle, call.adds = some handle → given handle) :
    ∀ c ∈ calls ++ [call], ∀ handle, c.adds = some handle → given handle :=
  List.forall_mem_append.2 ⟨h.given, List.forall_mem_singleton.2 hcall⟩

/-- There is at most one marker of a role. -/
theorem length_markersOf_le (h : Kept given ms o calls) (role : Role) :
    (Call.markersOf role calls).length ≤ 1 := by
  rw [h.markers]
  cases ms.get role <;> simp

/-- There is at most one line. -/
theorem length_linesOf_le (h : Kept given ms o calls) : (Call.linesOf calls).length ≤ 1 := by
  rw [h.lines]
  cases o.line? <;> simp

/-- A handle that was not got before is owned with the call that gets it. -/
theorem owns_concat (h : Kept given ms o calls) {call : Call} {handle : Handle}
    (hcall : call.adds = some handle) (hremoves : call.removes ≠ some handle)
    (hnew : ∀ call ∈ calls, call.adds ≠ some handle) : Call.Owns (calls ++ [call]) handle where
  added := ⟨call, List.mem_append_right _ (List.mem_singleton.2 rfl), hcall⟩
  kept := by
    refine List.forall_mem_append.2 ⟨fun c hc hhandle => ?_, List.forall_mem_singleton.2 hremoves⟩
    -- It would have been got before it was used for a removal.
    obtain ⟨add, hadd, hadds⟩ := Call.exists_adds_of_removes h.tidy hc hhandle
    exact hnew add hadd hadds

/-- The view moves. -/
theorem centerOn (h : Kept given ms o calls) (point : Point) (zoom : UInt8) :
    Kept given ms o (calls ++ [.centerOn point zoom]) where
  tidy := h.tidy_concat (.concat nofun h.length_markersOf_le h.length_linesOf_le)
  given := h.given_concat nofun
  markers := fun role => (Call.markersOf_concat _ _ _).trans (h.markers role)
  lines := (Call.linesOf_concat _ _).trans h.lines
  ownsMarker := fun role m hm => (h.ownsMarker role m hm).concat nofun
  ownsLine := fun handle hhandle => (h.ownsLine handle hhandle).concat nofun
  distinct := h.distinct

/-- The marker of a role is removed. -/
theorem removeMarker (h : Kept given ms o calls) {role : Role} {m : Marker}
    (hm : ms.get role = some m) :
    Kept given (ms.put role none) o (calls ++ [.removeMarker m.handle]) where
  tidy := by
    refine h.tidy_concat (.concat ?_ (fun role' => ?_) h.length_linesOf_le)
    · rintro handle ⟨⟩
      exact h.ownsMarker role m hm
    · exact Nat.le_trans (List.length_erase_le ..) (h.length_markersOf_le role')
  given := h.given_concat nofun
  markers := by
    intro role'
    rw [Call.markersOf_concat, h.markers role']
    by_cases hrole : role' = role
    · subst hrole
      simp [hm, Call.markersAfter]
    · -- The marker of the other role has another handle.
      rw [Markers.get_put_of_ne ms hrole]
      refine List.erase_of_not_mem fun hmem => ?_
      obtain ⟨m', hm', heq⟩ := Option.map_eq_some_iff.1 (Option.mem_toList.1 hmem)
      exact h.distinct _ _ _ _ hrole hm' hm heq
  lines := (Call.linesOf_concat _ _).trans h.lines
  ownsMarker := by
    intro role' m' hm'
    obtain ⟨-, hnone⟩ | ⟨hrole, hm'⟩ := Markers.get_put_eq_some.1 hm'
    · cases hnone
    · refine (h.ownsMarker role' m' hm').concat fun heq => ?_
      exact h.distinct _ _ _ _ hrole hm' hm (Handle.marker.inj (Option.some.inj heq)).symm
  ownsLine := fun handle hhandle => (h.ownsLine handle hhandle).concat nofun
  distinct := by
    intro role₁ role₂ m₁ m₂ hne hm₁ hm₂
    obtain ⟨-, hnone⟩ | ⟨-, hm₁⟩ := Markers.get_put_eq_some.1 hm₁
    · cases hnone
    obtain ⟨-, hnone⟩ | ⟨-, hm₂⟩ := Markers.get_put_eq_some.1 hm₂
    · cases hnone
    exact h.distinct _ _ _ _ hne hm₁ hm₂

/-- A marker is placed for a role that had none, with a handle that was not got before. -/
theorem addMarker (h : Kept given ms o calls) {role : Role} (hnone : ms.get role = none)
    {m : Marker} (hgiven : given (.marker m.handle))
    (hnew : ∀ call ∈ calls, call.adds ≠ some (.marker m.handle)) (point : Point) :
    Kept given (ms.put role (some m)) o
      (calls ++ [.addMarker m.handle point (Markers.label role point)]) := by
  have hother : ∀ role' m', ms.get role' = some m' → m'.handle ≠ m.handle := by
    intro role' m' hm' heq
    obtain ⟨call, hcall, hadds⟩ := (h.ownsMarker role' m' hm').added
    exact hnew call hcall (heq ▸ hadds)
  have hmarkers : ∀ role', (Call.addMarker m.handle point (Markers.label role point)).markersAfter
      role' (Call.markersOf role' calls) =
        (((ms.put role (some m)).get role').map (·.handle)).toList := by
    intro role'
    rw [h.markers role']
    by_cases hrole : role' = role
    · subst hrole
      simp [hnone, Call.markersAfter]
    · -- By its label, the new marker is of no other role.
      have hlabel : Markers.label role point ≠ Markers.label role' point := fun heq =>
        hrole (Call.label_inj heq).symm
      rw [Markers.get_put_of_ne ms hrole]
      simp [Call.markersAfter, hlabel]
  refine ⟨h.tidy_concat (.concat nofun (fun role' => ?_) h.length_linesOf_le), h.given_concat ?_,
    fun role' => (Call.markersOf_concat _ _ _).trans (hmarkers role'),
    (Call.linesOf_concat _ _).trans h.lines, ?_,
    fun handle hhandle => (h.ownsLine handle hhandle).concat nofun, ?_⟩
  · rw [hmarkers]
    cases (ms.put role (some m)).get role' <;> simp
  · rintro handle ⟨⟩
    exact hgiven
  · intro role' m' hm'
    obtain ⟨-, ⟨⟩⟩ | ⟨-, hm'⟩ := Markers.get_put_eq_some.1 hm'
    · exact h.owns_concat rfl nofun hnew
    · exact (h.ownsMarker role' m' hm').concat nofun
  · intro role₁ role₂ m₁ m₂ hne hm₁ hm₂
    obtain ⟨rfl, ⟨⟩⟩ | ⟨-, hm₁⟩ := Markers.get_put_eq_some.1 hm₁
    · obtain ⟨rfl, -⟩ | ⟨-, hm₂⟩ := Markers.get_put_eq_some.1 hm₂
      · exact absurd rfl hne
      · exact (hother role₂ m₂ hm₂).symm
    · obtain ⟨-, ⟨⟩⟩ | ⟨-, hm₂⟩ := Markers.get_put_eq_some.1 hm₂
      · exact hother role₁ m₁ hm₁
      · exact h.distinct _ _ _ _ hne hm₁ hm₂

/-- The line of the route is removed. -/
theorem removeLine (h : Kept given ms o calls) {handle : LineHandle}
    (hline : o.line? = some handle) :
    Kept given ms { o with current := none } (calls ++ [.removeLine handle]) where
  tidy := by
    refine h.tidy_concat (.concat ?_ h.length_markersOf_le ?_)
    · rintro handle ⟨⟩
      exact h.ownsLine _ hline
    · exact Nat.le_trans (List.length_erase_le ..) h.length_linesOf_le
  given := h.given_concat nofun
  markers := fun role => (Call.markersOf_concat _ _ _).trans (h.markers role)
  lines := by
    rw [Call.linesOf_concat, h.lines, hline]
    exact List.erase_cons_head handle []
  ownsMarker := fun role m hm => (h.ownsMarker role m hm).concat nofun
  ownsLine := nofun
  distinct := h.distinct

/-- The line of a route is drawn where there was none, with a handle that was not got before. -/
theorem addLine (h : Kept given ms o calls) (hnone : o.line? = none) {handle : LineHandle}
    (hgiven : given (.line handle)) (hnew : ∀ call ∈ calls, call.adds ≠ some (.line handle))
    (g : Geometry) (points : List Point) (style : LineStyle) (label : String) :
    Kept given ms { o with current := some (g, handle) }
      (calls ++ [.addLine handle points style label]) where
  tidy := by
    refine h.tidy_concat (.concat nofun h.length_markersOf_le ?_)
    rw [h.lines, hnone]
    exact Nat.le_refl 1
  given := by
    refine h.given_concat ?_
    rintro handle ⟨⟩
    exact hgiven
  markers := fun role => (Call.markersOf_concat _ _ _).trans (h.markers role)
  lines := by
    rw [Call.linesOf_concat, h.lines, hnone]
    rfl
  ownsMarker := fun role m hm => (h.ownsMarker role m hm).concat nofun
  ownsLine := by
    rintro handle ⟨⟩
    exact h.owns_concat rfl nofun hnew
  distinct := h.distinct

end Kept

end Waymark
