import Waymark.Selection
import Waymark.Surface.Basic

/-!
# Markers

There is at most one marker for each role. A new marker of a role takes the place of the old one,
which is removed before, and the view moves to it.
-/

namespace Waymark

/-- The marker of a role. -/
structure Marker where
  /-- The role. -/
  role : Role
  /-- Where it stands. -/
  point : Point
  /-- The number of its node, if it is known. -/
  node : Option UInt64
  /-- What the surface calls it. -/
  handle : MarkerHandle

/-- The markers of the two roles. -/
structure Markers where
  /-- The marker of the source. -/
  source : Option Marker := none
  /-- The marker of the destination. -/
  destination : Option Marker := none
  /-- The zoom of the view of a new marker. -/
  focusZoom : UInt8 := 0

namespace Markers

/-- No markers, with a zoom for the view of new ones. -/
def empty (focusZoom : UInt8) : Markers := { focusZoom }

/-- The marker of a role. -/
def get (ms : Markers) : Role → Option Marker
  | .source => ms.source
  | .destination => ms.destination

/-- The markers with another one for a role. -/
def put (ms : Markers) (role : Role) (marker : Option Marker) : Markers :=
  match role with
  | .source => { ms with source := marker }
  | .destination => { ms with destination := marker }

/-- The marker that is put for a role is the marker of it. -/
@[simp] theorem get_put (ms : Markers) (role : Role) (m : Option Marker) :
    (ms.put role m).get role = m := by
  cases role <;> rfl

/-- The markers of the other roles stay when one is put for a role. -/
theorem get_put_of_ne (ms : Markers) {role role' : Role} (h : role' ≠ role) (m : Option Marker) :
    (ms.put role m).get role' = ms.get role' := by
  cases role <;> cases role' <;> first | rfl | exact absurd rfl h

/-- What is the marker of a role after one was put for a role: the one that was put, or that of
another role. -/
theorem get_put_eq_some {ms : Markers} {role role' : Role} {marker : Option Marker} {m : Marker} :
    (ms.put role marker).get role' = some m ↔
      (role' = role ∧ marker = some m) ∨ (role' ≠ role ∧ ms.get role' = some m) := by
  by_cases h : role' = role
  · subst h
    simp
  · simp [get_put_of_ne ms h, h]

/-- Nothing changes when the marker of a role is put again. -/
@[simp] theorem put_get (ms : Markers) (role : Role) : ms.put role (ms.get role) = ms := by
  cases role <;> rfl

/-- Of two markers that are put for a role the last one counts. -/
@[simp] theorem put_put (ms : Markers) (role : Role) (m m' : Option Marker) :
    (ms.put role m).put role m' = ms.put role m' := by
  cases role <;> rfl

/-- A marker that is put leaves the zoom for new ones. -/
@[simp] theorem put_focusZoom (ms : Markers) (role : Role) (m : Option Marker) :
    (ms.put role m).focusZoom = ms.focusZoom := by
  cases role <;> rfl

/-- The number of the node of a role, if there is a marker and it is known. -/
def nodeId (ms : Markers) (role : Role) : Option UInt64 := (ms.get role).bind (·.node)

/-- How many roles have a marker. -/
def count (ms : Markers) : Nat := ms.source.toList.length + ms.destination.toList.length

/-- The label of the marker of a role at a point. -/
def label (role : Role) (point : Point) : String := role.label ++ ": " ++ point.text

variable {σ : Type} [Surface σ]

/-- Removes a marker from a surface, if there is one. -/
def removeFrom (surface : σ) : Option Marker → σ
  | some marker => Surface.removeMarker marker.handle surface
  | none => surface

/-- Places the marker of an assignment: the old one of its role goes first, and the view moves to
the new one. -/
def assign (ms : Markers) (surface : σ) (a : Assignment) : Marker × Markers × σ :=
  let surface := removeFrom surface (ms.get a.role)
  let (handle, surface) := Surface.addMarker a.point (label a.role a.point) surface
  let surface := Surface.centerOn a.point ms.focusZoom surface
  let marker : Marker := ⟨a.role, a.point, a.node, handle⟩
  (marker, ms.put a.role (some marker), surface)

/-- Removes both markers, the source first. -/
def clear (ms : Markers) (surface : σ) : Markers × σ :=
  let surface := removeFrom surface ms.source
  let surface := removeFrom surface ms.destination
  ({ ms with source := none, destination := none }, surface)

end Markers

end Waymark
