import Waymark.Error

/-!
# Routes

A `Payload` is a route as a service sends it: a distance and a list of pairs. A `Geometry` is a
route that may be drawn: at least two points, all of them geographic, and a distance that is
finite and not below zero. `Geometry.build` is the only way from the one to the other, and on
refusal it names the first fault, in the order length, distance, points.
-/

namespace Waymark

/-- A route as a service sends it. -/
structure Payload where
  /-- The distance in meters. -/
  distance : Float
  /-- Pairs of a latitude and a longitude, in order. -/
  path : List (Float × Float)

namespace Point

/-- Whether a point satisfies a rule. -/
def satisfies (rule : Rule) (p : Point) : Bool :=
  match check rule p.lat p.lng with
  | .ok _ => true
  | .error _ => false

end Point

/-- Whether a number is a length: finite and not below zero. -/
def isLength (x : Float) : Bool := x.isFinite && !(x < 0.0)

/-- The first point of a path that is not geographic, `index` being the place of the head. -/
def firstFault (index : Nat) : List Point → Option PathFault
  | [] => none
  | p :: rest =>
    match Point.check .geographic p.lat p.lng with
    | .error fault => some (.point index fault)
    | .ok _ => firstFault (index + 1) rest

/-- A path without a fault has geographic points only. -/
theorem all_satisfies_of_firstFault {index : Nat} {path : List Point}
    (h : firstFault index path = none) : path.all (Point.satisfies .geographic) = true := by
  induction path generalizing index with
  | nil => rfl
  | cons p rest ih =>
    unfold firstFault at h
    split at h
    · exact absurd h (by simp)
    · rename_i q hq
      simp [Point.satisfies, hq, ih h]

/-- A route that may be drawn. -/
structure Geometry where
  /-- The distance in meters. -/
  meters : Float
  /-- The points, in order. -/
  path : List Point
  /-- A route has two ends. -/
  two_le_length : 2 ≤ path.length
  /-- The distance is a length. -/
  isLength_meters : isLength meters = true
  /-- Every point is geographic. -/
  all_satisfies : path.all (Point.satisfies .geographic) = true

namespace Geometry

/-- The route of a distance and a path, if it may be drawn. -/
def build (meters : Float) (path : List Point) : Except PathFault Geometry :=
  if short : path.length < 2 then .error (.tooShort path.length)
  else if length : isLength meters = true then
    match fine : firstFault 0 path with
    | some fault => .error fault
    | none => .ok ⟨meters, path, by omega, length, all_satisfies_of_firstFault fine⟩
  else .error (.distance meters)

/-- The route that a service sent, if it may be drawn. -/
def ofPayload (p : Payload) : Except PathFault Geometry :=
  build p.distance (p.path.map fun (lat, lng) => ⟨lat, lng⟩)

end Geometry

end Waymark
