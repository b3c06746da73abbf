import Waymark.Proofs.Points

/-!
# What it takes to be a route

A distance and a path make a route iff they satisfy `Drawable`, and then the route is of that
distance and that path (`Geometry.build_eq_ok_iff`). Otherwise the first demand that they fail is
reported, in the order length, distance, points (`Geometry.build_eq_error`).
-/

namespace Waymark

open Decimal

/-- The geographic rule demands of a point that it is one of the globe. -/
theorem Rule.admits_geographic {p : Point} : Rule.geographic.Admits p ↔ p.OnGlobe :=
  ⟨fun h => h.onGlobe, fun h => ⟨h, nofun⟩⟩

/-- A point of the globe is accepted as it is. -/
theorem Point.OnGlobe.check {p : Point} (h : p.OnGlobe) :
    Point.check .geographic p.lat p.lng = .ok p :=
  Point.check_eq_ok_iff.2 ⟨rfl, Rule.admits_geographic.2 h⟩

/-- A point that is refused is not one of the globe. -/
theorem Point.not_onGlobe_of_check {p : Point} {fault : PointFault}
    (h : Point.check .geographic p.lat p.lng = .error fault) : ¬ p.OnGlobe := by
  intro hp
  rw [hp.check] at h
  cases h

/-- What a distance and a path must satisfy to make a route. -/
structure Drawable (meters : Float) (path : List Point) : Prop where
  /-- There are two ends. -/
  ends : 2 ≤ path.length
  /-- The distance is finite and not below zero. -/
  length : meters.isFinite = true ∧ ¬ meters < 0.0
  /-- Every point is one of the globe. -/
  onGlobe : ∀ p ∈ path, p.OnGlobe

/-- A fault is the first one of a distance and a path, if all that is examined before is as it
should be: the number of points, then the distance, then one point after the other. -/
inductive PathFault.First (meters : Float) (path : List Point) : PathFault → Prop
  /-- There are not two ends. -/
  | tooShort (hshort : path.length < 2) : First meters path (.tooShort path.length)
  /-- The distance is not finite, or below zero. -/
  | distance (hends : 2 ≤ path.length) (hmeters : ¬ (meters.isFinite = true ∧ ¬ meters < 0.0)) :
    First meters path (.distance meters)
  /-- A point is not one of the globe, and those before it are. -/
  | point (hends : 2 ≤ path.length) (hmeters : meters.isFinite = true ∧ ¬ meters < 0.0)
    {before after : List Point} {p : Point} (hpath : path = before ++ p :: after)
    (hbefore : ∀ q ∈ before, q.OnGlobe) {fault : PointFault}
    (hfault : Point.check .geographic p.lat p.lng = .error fault) :
    First meters path (.point before.length fault)

/-- What has a fault is not a route. -/
theorem PathFault.First.not_drawable {meters : Float} {path : List Point} {fault : PathFault}
    (h : fault.First meters path) : ¬ Drawable meters path := by
  intro hd
  cases h with
  | tooShort hshort => exact absurd hd.ends (Nat.not_le.2 hshort)
  | distance _ hmeters => exact hmeters hd.length
  | point _ _ hpath _ hfault =>
    subst hpath
    have hglobe := hd.onGlobe _ (List.mem_append_right _ List.mem_cons_self)
    exact Point.not_onGlobe_of_check hfault hglobe

/-- A point of a path is reported under its place, in the words in which the point itself is
refused. -/
theorem PathFault.message_point (index : Nat) (fault : PointFault) :
    (Error.invalidPath (.point index fault)).message =
      "Invalid path: Point " ++ natText index ++ ": " ++ (Error.invalidPoint fault).message := by
  have hpath : "Invalid path: Point " = "Invalid path: " ++ "Point " := rfl
  have hpoint : ": Invalid coordinate: " = ": " ++ "Invalid coordinate: " := rfl
  show "Invalid path: " ++ ("Point " ++ natText index ++ ": Invalid coordinate: " ++
    fault.message) = "Invalid path: Point " ++ natText index ++ ": " ++
      ("Invalid coordinate: " ++ fault.message)
  rw [hpath, hpoint]
  simp only [String.append_assoc]

/-- The first point of a path that is refused is the first one that is not on the globe. -/
theorem firstFault_eq_some {index : Nat} {path : List Point} {fault : PathFault}
    (h : firstFault index path = some fault) :
    ∃ before p after f, path = before ++ p :: after ∧ (∀ q ∈ before, q.OnGlobe) ∧
      Point.check .geographic p.lat p.lng = .error f ∧
      fault = .point (index + before.length) f := by
  -- The index grows by one with each point that is accepted.
  induction path generalizing index with
  | nil => cases h
  | cons p rest ih =>
    unfold firstFault at h
    split at h
    case h_1 f hf =>
      cases h
      exact ⟨[], p, rest, f, rfl, nofun, hf, rfl⟩
    case h_2 q hq =>
      obtain ⟨before, p', after, f, rfl, hbefore, hf, rfl⟩ := ih h
      refine ⟨p :: before, p', after, f, rfl, ?_, hf, ?_⟩
      · rintro q' (- | ⟨_, hq'⟩)
        · exact (Point.check_eq_ok_iff.1 hq).2.onGlobe
        · exact hbefore q' hq'
      · rw [List.length_cons, Nat.add_assoc, Nat.add_comm 1]

/-- No point of a path is refused that runs on the globe. -/
theorem firstFault_eq_none {path : List Point} (h : ∀ p ∈ path, p.OnGlobe) (index : Nat) :
    firstFault index path = none := by
  induction path generalizing index with
  | nil => rfl
  | cons p rest ih =>
    unfold firstFault
    rw [(h p List.mem_cons_self).check]
    exact ih (fun q hq => h q (List.mem_cons_of_mem _ hq)) _

namespace Geometry

variable {meters : Float} {path : List Point}

/-- A route is as it must be. -/
theorem drawable (g : Geometry) : Drawable g.meters g.path :=
  ⟨g.two_le_length, g.meters_length, g.onGlobe⟩

/-- A distance and a path that are as they must be make a route of just these. -/
theorem exists_build (h : Drawable meters path) :
    ∃ g : Geometry, g.meters = meters ∧ g.path = path ∧ build meters path = .ok g := by
  have hshort : ¬ path.length < 2 := Nat.not_lt.2 h.ends
  have hlength : isLength meters = true := by
    simpa [isLength] using h.length
  have hfine := firstFault_eq_none h.onGlobe 0
  refine ⟨⟨meters, path, h.ends, hlength, all_satisfies_of_firstFault hfine⟩, rfl, rfl, ?_⟩
  unfold build
  rw [dif_neg hshort, dif_pos hlength]
  split
  case h_1 fault hfault =>
    rw [hfine] at hfault
    cases hfault
  case h_2 => rfl

/-- What is refused is refused for its first fault. -/
theorem first_of_build {fault : PathFault} (h : build meters path = .error fault) :
    fault.First meters path := by
  unfold build at h
  split at h
  case isTrue hshort =>
    cases h
    exact .tooShort hshort
  case isFalse hends =>
  have hends : 2 ≤ path.length := Nat.not_lt.1 hends
  split at h
  case isFalse hlength =>
    cases h
    exact .distance hends fun hmeters => hlength (by simpa [isLength] using hmeters)
  case isTrue hlength =>
  split at h
  case h_2 => cases h
  case h_1 fault' hfirst =>
    cases h
    obtain ⟨before, p, after, f, hpath, hbefore, hf, rfl⟩ := firstFault_eq_some hfirst
    rw [Nat.zero_add]
    exact .point hends (by simpa [isLength] using hlength) hpath hbefore hf

/-- What makes a route is as it must be, and the route is of just this. -/
theorem build_eq_ok_iff {g : Geometry} :
    build meters path = .ok g ↔ Drawable meters path ∧ g.meters = meters ∧ g.path = path := by
  constructor
  · intro h
    have hg : g.meters = meters ∧ g.path = path := by
      unfold build at h
      split at h
      · cases h
      split at h
      case isFalse => cases h
      split at h
      · cases h
      · cases h
        exact ⟨rfl, rfl⟩
    obtain ⟨rfl, rfl⟩ := hg
    exact ⟨g.drawable, rfl, rfl⟩
  · rintro ⟨h, rfl, rfl⟩
    obtain ⟨g', hmeters, hpath, hg'⟩ := exists_build h
    rw [hg']
    cases g
    cases g'
    cases hmeters
    cases hpath
    rfl

/-- What is not as it must be is refused for its first fault. -/
theorem build_eq_error (h : ¬ Drawable meters path) :
    ∃ fault, fault.First meters path ∧ build meters path = .error fault := by
  cases hbuild : build meters path with
  | ok g => exact absurd (build_eq_ok_iff.1 hbuild).1 h
  | error fault => exact ⟨fault, first_of_build hbuild, rfl⟩

end Geometry

end Waymark
