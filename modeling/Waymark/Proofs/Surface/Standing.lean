import Waymark.Proofs.Surface.Calls
import Waymark.Surface.Layers

/-!
# Layers that stand

The calls of a surface are its whole history. `Kind.standing` tells from them alone which layers of
a kind stand in the end: those that a call has added and that no later call has removed, in the
order in which they were added. `Accounted` is the invariant that ties `Layers` to this account. The
handles in it have ascending numbers, since markers and lines are numbered together
(`Kind.standing_numbers`).
-/

namespace Waymark

/-- The number of a handle. -/
def Handle.id : Handle → Nat
  | .marker handle => handle.id
  | .line handle => handle.id

namespace Call

/-- The number of the handle that a call got for what it added. -/
def number? (call : Call) : Option Nat := call.adds.map Handle.id

/-- The numbers of all handles that some calls got, in order. -/
def numbers (calls : List Call) : List Nat := calls.filterMap number?

/-- The view that a call has set. -/
def view? : Call → Option View
  | .centerOn point zoom => some ⟨point, zoom⟩
  | .addMarker _ _ _ | .removeMarker _ | .addLine _ _ _ _ | .removeLine _ => none

/-- The view that some calls leave, which is the last that one of them has set. -/
def lastView? (calls : List Call) : Option View := (calls.filterMap view?).getLast?

end Call

/-- A kind of layers, by what calls do to them. -/
structure Kind (κ α : Type) where
  /-- The layer that a call has added, with its handle. -/
  added : Call → Option (κ × α)
  /-- The handle of the layer that a call was to remove. -/
  removed : Call → Option κ
  /-- The number of a handle. -/
  number : κ → Nat
  /-- The number of what a call has added is that which the call got. -/
  number_added : ∀ call e, added call = some e → call.number? = some (number e.1)

namespace Kind

/-- Markers. -/
def markers : Kind MarkerHandle MarkerLayer where
  added
    | .addMarker handle point label => some (handle, ⟨point, label⟩)
    | .removeMarker _ | .addLine _ _ _ _ | .removeLine _ | .centerOn _ _ => none
  removed
    | .removeMarker handle => some handle
    | .addMarker _ _ _ | .addLine _ _ _ _ | .removeLine _ | .centerOn _ _ => none
  number := MarkerHandle.id
  number_added := by rintro (_ | _ | _ | _ | _) e ⟨⟩; rfl

/-- Lines. -/
def lines : Kind LineHandle LineLayer where
  added
    | .addLine handle points style label => some (handle, ⟨points, style, label⟩)
    | .addMarker _ _ _ | .removeMarker _ | .removeLine _ | .centerOn _ _ => none
  removed
    | .removeLine handle => some handle
    | .addMarker _ _ _ | .removeMarker _ | .addLine _ _ _ _ | .centerOn _ _ => none
  number := LineHandle.id
  number_added := by rintro (_ | _ | _ | _ | _) e ⟨⟩; rfl

variable {κ α : Type} [DecidableEq κ] (k : Kind κ α)

/-- The layers of a kind that some calls have added and that no later call has removed, with their
handles, in the order in which they were added. -/
def standing : List Call → List (κ × α)
  | [] => []
  | call :: rest =>
    (k.added call).toList.filter (fun e => rest.all fun c => k.removed c != some e.1) ++
      standing rest

/-- The layers of a kind after a call, of those before it. -/
def after (layers : List (κ × α)) (call : Call) : List (κ × α) :=
  layers.filter (fun e => k.removed call != some e.1) ++ (k.added call).toList

variable {layers : List (κ × α)} {call : Call}

/-- A call that removes nothing of a kind leaves all its layers. -/
theorem filter_of_removed (hremoved : k.removed call = none) :
    layers.filter (fun e => k.removed call != some e.1) = layers := by
  rw [hremoved]
  exact List.filter_eq_self.2 fun e _ => rfl

/-- A call that adds a layer of a kind puts it at the end. -/
theorem after_add {e : κ × α} (hremoved : k.removed call = none) (hadded : k.added call = some e) :
    k.after layers call = layers ++ [e] := by
  rw [after, k.filter_of_removed hremoved, hadded]
  rfl

/-- A call that has nothing to do with a kind leaves its layers. -/
theorem after_other (hremoved : k.removed call = none) (hadded : k.added call = none) :
    k.after layers call = layers := by
  rw [after, k.filter_of_removed hremoved, hadded]
  exact List.append_nil _

/-- A call that removes a layer of a kind leaves those of all other handles. -/
theorem after_remove {handle : κ} (hremoved : k.removed call = some handle)
    (hadded : k.added call = none) :
    k.after layers call = layers.filter fun e => e.1 != handle := by
  rw [after, hremoved, hadded]
  refine (List.append_nil _).trans (List.filter_congr fun e _ => ?_)
  rw [bne_comm]
  exact congrArg not (Option.some_beq_some ..)

/-- One more call changes what stands as it changes any layers. -/
theorem standing_concat (calls : List Call) (call : Call) :
    k.standing (calls ++ [call]) = k.after (k.standing calls) call := by
  unfold after
  induction calls with
  | nil => simp [standing]
  | cons first rest ih =>
    -- What the first call adds stands if neither the rest nor the last call removes it.
    have hfirst : (k.added first).toList.filter
          (fun e => (rest ++ [call]).all fun c => k.removed c != some e.1) =
        ((k.added first).toList.filter fun e => rest.all fun c => k.removed c != some e.1).filter
          fun e => k.removed call != some e.1 := by
      rw [List.filter_filter]
      simp [Bool.and_comm]
    rw [List.cons_append, standing, standing, ih, hfirst, List.filter_append, List.append_assoc]

/-- The numbers of the layers that stand are among those that the calls got, in the same order. -/
theorem standing_sublist (calls : List Call) :
    ((k.standing calls).map fun e => k.number e.1).Sublist (Call.numbers calls) := by
  induction calls with
  | nil => exact .refl _
  | cons first rest ih =>
    have hfirst : ((k.added first).toList.map fun e => k.number e.1).Sublist
        first.number?.toList := by
      rcases hadded : k.added first with _ | e
      · exact List.nil_sublist _
      · rw [k.number_added first e hadded]
        exact .refl _
    have hnumbers : Call.numbers (first :: rest) = first.number?.toList ++ Call.numbers rest := by
      unfold Call.numbers
      rcases hnumber : first.number? with _ | n
      · exact List.filterMap_cons_none hnumber
      · exact List.filterMap_cons_some hnumber
    -- What a later call removes is left out, and this changes no order.
    rw [standing, List.map_append, hnumbers]
    exact ((List.filter_sublist.map _).trans hfirst).append ih

/-- If calls got the numbers from one up to a last one, the layers that stand have ascending numbers
up to this. -/
theorem standing_numbers {calls : List Call} {last : Nat}
    (h : Call.numbers calls = List.range' 1 last) :
    (k.standing calls).Pairwise (fun e e' => k.number e.1 < k.number e'.1) ∧
      ∀ e ∈ k.standing calls, k.number e.1 ≤ last := by
  have hsublist := k.standing_sublist calls
  rw [h] at hsublist
  constructor
  · exact List.pairwise_map.1 ((List.pairwise_lt_range' 1).sublist hsublist)
  · intro e he
    have hmem := hsublist.subset (List.mem_map_of_mem he)
    rw [List.mem_range'_1] at hmem
    omega

end Kind

/-- Calls got the numbers in their order, and layers hold what stands after them. -/
structure Accounted (s : Layers) (calls : List Call) : Prop where
  /-- The numbers that were got are those from one up to the last. -/
  numbers : Call.numbers calls = List.range' 1 s.issued
  /-- The markers are those that stand. -/
  markers : s.markers = Kind.markers.standing calls
  /-- The lines are those that stand. -/
  lines : s.lines = Kind.lines.standing calls
  /-- The view is the last that was set. -/
  view : s.view = Call.lastView? calls

namespace Surface

/-- An operation that is asked of a surface. -/
inductive Operation where
  /-- To place a marker. -/
  | addMarker (point : Point) (label : String)
  /-- To remove a marker. -/
  | removeMarker (handle : MarkerHandle)
  /-- To draw a line. -/
  | addLine (points : List Point) (style : LineStyle) (label : String)
  /-- To remove a line. -/
  | removeLine (handle : LineHandle)
  /-- To move the view. -/
  | centerOn (point : Point) (zoom : UInt8)

/-- Whether an operation adds a layer. -/
def Operation.adds : Operation → Bool
  | .addMarker _ _ | .addLine _ _ _ => true
  | .removeMarker _ | .removeLine _ | .centerOn _ _ => false

variable {σ : Type} [Surface σ]

/-- The surface after an operation. -/
def perform (s : σ) : Operation → σ
  | .addMarker point label => (addMarker point label s).2
  | .removeMarker handle => removeMarker handle s
  | .addLine points style label => (addLine points style label s).2
  | .removeLine handle => removeLine handle s
  | .centerOn point zoom => centerOn point zoom s

/-- The surface after some operations, one after the other. -/
def performAll (s : σ) (operations : List Operation) : σ := operations.foldl perform s

end Surface

/-- The operation that a call was made for. -/
def Call.operation : Call → Surface.Operation
  | .addMarker _ point label => .addMarker point label
  | .removeMarker handle => .removeMarker handle
  | .addLine _ points style label => .addLine points style label
  | .removeLine handle => .removeLine handle
  | .centerOn point zoom => .centerOn point zoom

namespace Accounted

open Surface

/-- New layers are accounted for by no calls. -/
theorem empty : Accounted .empty [] := ⟨rfl, rfl, rfl, rfl⟩

/-- The markers have ascending numbers up to the last that was given out. -/
theorem markers_numbers {s : Layers} {calls : List Call} (h : Accounted s calls) :
    s.markers.Pairwise (fun e e' => e.1.id < e'.1.id) ∧ ∀ e ∈ s.markers, e.1.id ≤ s.issued := by
  rw [h.markers]
  exact Kind.markers.standing_numbers h.numbers

/-- The lines have ascending numbers up to the last that was given out. -/
theorem lines_numbers {s : Layers} {calls : List Call} (h : Accounted s calls) :
    s.lines.Pairwise (fun e e' => e.1.id < e'.1.id) ∧ ∀ e ∈ s.lines, e.1.id ≤ s.issued := by
  rw [h.lines]
  exact Kind.lines.standing_numbers h.numbers

/-- Layers are accounted for after one more call if they have changed by what the call tells. -/
theorem concat {s t : Layers} {calls : List Call} (h : Accounted s calls) {call : Call}
    (hnumbers : List.range' 1 t.issued = List.range' 1 s.issued ++ call.number?.toList)
    (hmarkers : t.markers = Kind.markers.after s.markers call)
    (hlines : t.lines = Kind.lines.after s.lines call)
    (hview : t.view = call.view?.or s.view) : Accounted t (calls ++ [call]) where
  numbers := by
    rw [hnumbers, ← h.numbers]
    unfold Call.numbers
    rw [List.filterMap_append]
    rcases hnumber : call.number? with _ | n
    · simp [hnumber]
    · simp [hnumber]
  markers := by rw [hmarkers, h.markers, Kind.standing_concat]
  lines := by rw [hlines, h.lines, Kind.standing_concat]
  view := by
    rw [hview, h.view]
    unfold Call.lastView?
    rw [List.filterMap_append, List.getLast?_append]
    rcases hcall : call.view? with _ | view
    · simp [hcall]
    · simp [hcall]

/-- What is accounted for still is after one more operation. -/
theorem perform {r : Recorded Layers} (h : Accounted r.surface r.calls) (operation : Operation) :
    Accounted (perform r operation).surface (perform r operation).calls := by
  have hnext : List.range' 1 (r.surface.issued + 1) =
      List.range' 1 r.surface.issued ++ [r.surface.issued + 1] := by
    rw [List.range'_1_concat, Nat.add_comm]
  have hnone : List.range' 1 r.surface.issued = List.range' 1 r.surface.issued ++ [] :=
    (List.append_nil _).symm
  cases operation with
  | addMarker point label =>
    exact h.concat hnext (Kind.markers.after_add rfl rfl).symm
      (Kind.lines.after_other rfl rfl).symm rfl
  | removeMarker handle =>
    exact h.concat hnone (Kind.markers.after_remove rfl rfl).symm
      (Kind.lines.after_other rfl rfl).symm rfl
  | addLine points style label =>
    exact h.concat hnext (Kind.markers.after_other rfl rfl).symm
      (Kind.lines.after_add rfl rfl).symm rfl
  | removeLine handle =>
    exact h.concat hnone (Kind.markers.after_other rfl rfl).symm
      (Kind.lines.after_remove rfl rfl).symm rfl
  | centerOn point zoom =>
    exact h.concat hnone (Kind.markers.after_other rfl rfl).symm
      (Kind.lines.after_other rfl rfl).symm rfl

/-- What is accounted for still is after some more operations. -/
theorem performAll {r : Recorded Layers} (h : Accounted r.surface r.calls)
    (operations : List Operation) :
    Accounted (performAll r operations).surface (performAll r operations).calls := by
  induction operations generalizing r with
  | nil => exact h
  | cons operation rest ih => exact ih (h.perform operation)

end Accounted

namespace Surface

/-- An operation is the last call afterwards. -/
theorem exists_calls_perform {σ : Type} [Surface σ] (r : Recorded σ) (operation : Operation) :
    ∃ call : Call, call.operation = operation ∧ (perform r operation).calls = r.calls ++ [call] := by
  cases operation with
  | addMarker | removeMarker | addLine | removeLine | centerOn => exact ⟨_, rfl, rfl⟩

/-- Calls are made for the operations that are asked, in their order. -/
theorem map_operation_performAll {σ : Type} [Surface σ] (r : Recorded σ)
    (operations : List Operation) :
    (performAll r operations).calls.map Call.operation =
      r.calls.map Call.operation ++ operations := by
  induction operations generalizing r with
  | nil => exact (List.append_nil _).symm
  | cons operation rest ih =>
    obtain ⟨call, hcall, hcalls⟩ := exists_calls_perform r operation
    calc (performAll (perform r operation) rest).calls.map Call.operation
        = (perform r operation).calls.map Call.operation ++ rest := ih _
      _ = r.calls.map Call.operation ++ operation :: rest := by
        rw [hcalls, List.map_append, List.map_singleton, hcall, List.append_assoc]
        rfl

/-- An operation takes a number if it adds a layer. -/
theorem issued_perform (r : Recorded Layers) (operation : Operation) :
    (perform r operation).surface.issued =
      r.surface.issued + if operation.adds then 1 else 0 := by
  cases operation with
  | addMarker | removeMarker | addLine | removeLine | centerOn => rfl

/-- As many numbers are taken as layers are added. -/
theorem issued_performAll (r : Recorded Layers) (operations : List Operation) :
    (performAll r operations).surface.issued =
      r.surface.issued + operations.countP Operation.adds := by
  induction operations generalizing r with
  | nil => rfl
  | cons operation rest ih =>
    calc (performAll (perform r operation) rest).surface.issued
        = (perform r operation).surface.issued + rest.countP Operation.adds := ih _
      _ = r.surface.issued + (operation :: rest).countP Operation.adds := by
        rw [issued_perform, List.countP_cons]
        omega

end Surface

/-! ### What is asked of layers -/

/-- What a surface that keeps its layers tells of them. -/
@[ext] structure Contents where
  /-- The markers in order. -/
  markers : List MarkerLayer
  /-- The lines in order. -/
  lines : List LineLayer
  /-- The marker of a handle. -/
  marker? : MarkerHandle → Option MarkerLayer
  /-- The line of a handle. -/
  line? : LineHandle → Option LineLayer
  /-- How many markers there are. -/
  markerCount : Nat
  /-- How many lines there are. -/
  lineCount : Nat
  /-- The last view, if there was one. -/
  view : Option View

/-- What layers in lists tell. -/
def Layers.contents (s : Layers) : Contents where
  markers := s.markerLayers
  lines := s.lineLayers
  marker? handle := s.marker? handle
  line? handle := s.line? handle
  markerCount := s.markers.length
  lineCount := s.lines.length
  view := s.view

/-- What is told are the layers and the view that some calls leave. -/
structure Contents.LeftBy (c : Contents) (calls : List Call) : Prop where
  /-- The markers are those that stand, in order. -/
  markers : c.markers = (Kind.markers.standing calls).map (·.2)
  /-- The lines are those that stand, in order. -/
  lines : c.lines = (Kind.lines.standing calls).map (·.2)
  /-- A handle finds a marker if it stands under this handle. -/
  marker? : ∀ handle layer,
    c.marker? handle = some layer ↔ (handle, layer) ∈ Kind.markers.standing calls
  /-- A handle finds a line if it stands under this handle. -/
  line? : ∀ handle layer,
    c.line? handle = some layer ↔ (handle, layer) ∈ Kind.lines.standing calls
  /-- There are as many markers as are listed. -/
  markerCount : c.markerCount = c.markers.length
  /-- There are as many lines as are listed. -/
  lineCount : c.lineCount = c.lines.length
  /-- The view is the last that was set. -/
  view : c.view = Call.lastView? calls

/-- Of entries with distinct keys, a key finds the one that has it. -/
theorem find?_eq_some_iff_mem {κ α : Type} [DecidableEq κ] {l : List (κ × α)}
    (h : l.Pairwise fun e e' => e.1 ≠ e'.1) {key : κ} {value : α} :
    (l.find? fun e => e.1 == key).map (·.2) = some value ↔ (key, value) ∈ l := by
  induction l with
  | nil => simp
  | cons first rest ih =>
    obtain ⟨hfirst, hrest⟩ := List.pairwise_cons.1 h
    obtain ⟨key', value'⟩ := first
    rw [List.mem_cons]
    by_cases hkey : key' = key
    · -- No other entry has the key.
      have hnot : (key, value) ∉ rest := fun hmem => hfirst _ hmem hkey
      rw [List.find?_cons_of_pos (by simpa using hkey)]
      simp [hkey, hnot, eq_comm]
    · rw [List.find?_cons_of_neg (by simpa using hkey), ih hrest]
      simp [Ne.symm hkey]

/-- Of entries none of which a key finds, none has it. -/
theorem filter_of_find?_eq_none {κ α : Type} [DecidableEq κ] {l : List (κ × α)} {key : κ}
    (h : (l.find? fun e => e.1 == key).map (·.2) = none) : l.filter (fun e => e.1 != key) = l := by
  have hnone := List.find?_eq_none.1 (Option.map_eq_none_iff.1 h)
  refine List.filter_eq_self.2 fun e he => ?_
  have hne := hnone e he
  simpa using hne

/-- Nothing changes if no marker of a handle is there to be removed. -/
theorem Layers.removeMarker_of_none {s : Layers} {handle : MarkerHandle}
    (h : s.marker? handle = none) : removeMarker handle s = s :=
  congrArg (fun markers => { s with markers }) (filter_of_find?_eq_none h)

/-- Nothing changes if no line of a handle is there to be removed. -/
theorem Layers.removeLine_of_none {s : Layers} {handle : LineHandle} (h : s.line? handle = none) :
    removeLine handle s = s :=
  congrArg (fun lines => { s with lines }) (filter_of_find?_eq_none h)

/-- Layers that are accounted for tell what the calls leave. -/
theorem Accounted.leftBy {s : Layers} {calls : List Call} (h : Accounted s calls) :
    s.contents.LeftBy calls where
  markers := by
    rw [← h.markers]
    rfl
  lines := by
    rw [← h.lines]
    rfl
  marker? := by
    intro handle layer
    rw [← h.markers]
    refine find?_eq_some_iff_mem (h.markers_numbers.1.imp fun hlt heq => ?_)
    rw [heq] at hlt
    exact Nat.lt_irrefl _ hlt
  line? := by
    intro handle layer
    rw [← h.lines]
    refine find?_eq_some_iff_mem (h.lines_numbers.1.imp fun hlt heq => ?_)
    rw [heq] at hlt
    exact Nat.lt_irrefl _ hlt
  markerCount := (List.length_map _).symm
  lineCount := (List.length_map _).symm
  view := h.view

end Waymark
