import Waymark.Route.Geometry

/-!
# What it takes to be a point

`Point.check` accepts a pair of numbers under a rule iff they satisfy `Rule.Admits`, and then it
gives that pair. Everything that a rule admits is finite and within bounds, and so is everything that
lies on a route which may be drawn (`Geometry.onGlobe`).
-/

namespace Waymark

/-- A latitude: finite, and from -90 to 90. -/
structure IsLatitude (x : Float) : Prop where
  /-- It is finite. -/
  finite : x.isFinite = true
  /-- It is not too far south. -/
  low : -90.0 ≤ x
  /-- It is not too far north. -/
  high : x ≤ 90.0

/-- A longitude: finite, and from -180 to 180. -/
structure IsLongitude (x : Float) : Prop where
  /-- It is finite. -/
  finite : x.isFinite = true
  /-- It is not too far west. -/
  low : -180.0 ≤ x
  /-- It is not too far east. -/
  high : x ≤ 180.0

/-- A point of the globe. -/
structure Point.OnGlobe (p : Point) : Prop where
  /-- Its first number is a latitude. -/
  lat : IsLatitude p.lat
  /-- Its second number is a longitude. -/
  lng : IsLongitude p.lng

/-- What a rule demands of a point: that it is one of the globe, and if the rule says so that neither
number is below zero. -/
structure Rule.Admits (rule : Rule) (p : Point) : Prop where
  /-- It is a point of the globe. -/
  onGlobe : p.OnGlobe
  /-- Neither number is below zero if the rule forbids that. -/
  sign : rule = .nonNegative → ¬ p.lat < 0.0 ∧ ¬ p.lng < 0.0

/-- Exactly the points that a rule admits are accepted, and they are not changed. -/
theorem Point.check_eq_ok_iff {rule : Rule} {lat lng : Float} {p : Point} :
    Point.check rule lat lng = .ok p ↔ p = ⟨lat, lng⟩ ∧ rule.Admits ⟨lat, lng⟩ := by
  unfold Point.check
  constructor
  · intro h
    split at h
    · cases h
    case isFalse hfinite =>
    split at h
    · cases h
    case isFalse hlat =>
    split at h
    · cases h
    case isFalse hlng =>
    split at h
    · cases h
    case isFalse hsign =>
    simp only [Bool.not_eq_true, Bool.or_eq_false_iff, Bool.not_eq_false', Bool.and_eq_true,
      decide_eq_true_eq] at hfinite hlat hlng
    refine ⟨(Except.ok.inj h).symm, ⟨⟨hfinite.1, hlat.1, hlat.2⟩, ⟨hfinite.2, hlng.1, hlng.2⟩⟩,
      fun hrule => ?_⟩
    simpa [hrule] using hsign
  · rintro ⟨rfl, ⟨⟨hlat, hlatLow, hlatHigh⟩, ⟨hlng, hlngLow, hlngHigh⟩⟩, hsign⟩
    simp only at *
    rw [if_neg (by simp [hlat, hlng]), if_neg (by simp [hlatLow, hlatHigh]),
      if_neg (by simp [hlngLow, hlngHigh]), if_neg]
    simpa using hsign

/-- A point that is read from a form is one that the rule admits. -/
theorem Point.admits_of_read {rule : Rule} {lat lng : String} {p : Point}
    (h : Point.read rule lat lng = .ok p) : rule.Admits p := by
  unfold Point.read at h
  cases hlat : readAxis .latitude lat with
  | error fault =>
    rw [hlat] at h
    cases h
  | ok x =>
    cases hlng : readAxis .longitude lng with
    | error fault =>
      rw [hlat, hlng] at h
      cases h
    | ok y =>
      rw [hlat, hlng] at h
      obtain ⟨rfl, hadmits⟩ := Point.check_eq_ok_iff.1 h
      exact hadmits

/-- Every point of a route is one of the globe. -/
theorem Geometry.onGlobe (g : Geometry) : ∀ p ∈ g.path, p.OnGlobe := by
  intro p hp
  have hsatisfies := List.all_eq_true.1 g.all_satisfies p hp
  unfold Point.satisfies at hsatisfies
  split at hsatisfies
  case h_1 q hq => exact (Point.check_eq_ok_iff.1 hq).2.onGlobe
  case h_2 => cases hsatisfies

/-- The distance of a route is finite and not below zero. -/
theorem Geometry.meters_length (g : Geometry) : g.meters.isFinite = true ∧ ¬ g.meters < 0.0 := by
  simpa [isLength] using g.isLength_meters

end Waymark
