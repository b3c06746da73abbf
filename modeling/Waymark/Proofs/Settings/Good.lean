import Waymark.Proofs.Decimal.Doubles
import Waymark.Proofs.Points
import Waymark.Settings.Basic

/-!
# Good settings

`Settings.check` demands a few things of single values (`Settings.Good`) and nothing of two values
together. So settings that take each value from one of two good ones are good
(`Good.mix`), and the default settings are good.
-/

namespace Waymark.Settings

/-- What is demanded of settings. -/
structure Good (s : Settings) : Prop where
  /-- There is an address. -/
  address : Text.allBlank s.baseUrl = false
  /-- A request may take some time. -/
  time : s.timeoutMs ≠ 0
  /-- The center of the first view is on the globe. -/
  center : s.center.OnGlobe
  /-- The map has the first zoom. -/
  initialZoom : s.initialZoom ≤ maxZoom
  /-- The map has the zoom for new markers. -/
  focusZoom : s.focusZoom ≤ maxZoom
  /-- The opacity is not below zero. -/
  opacity_low : 0.0 ≤ s.opacity
  /-- The opacity is not above one. -/
  opacity_high : s.opacity ≤ 1.0

/-- Exactly the good settings pass the check. -/
theorem check_eq_ok_iff {s : Settings} : s.check = .ok () ↔ s.Good := by
  have hcenter : (∃ p, Point.check .geographic s.centerLat s.centerLng = .ok p) ↔
      s.center.OnGlobe := by
    constructor
    · rintro ⟨p, hp⟩
      exact (Point.check_eq_ok_iff.1 hp).2.onGlobe
    · exact fun h => ⟨_, Point.check_eq_ok_iff.2 ⟨rfl, h, by simp⟩⟩
  unfold check
  constructor
  · -- Each check that is passed is one of the demands.
    intro h
    split at h
    · cases h
    case isFalse haddress =>
    split at h
    · cases h
    case isFalse htime =>
    split at h
    · cases h
    case h_2 p hp =>
    split at h
    · cases h
    case isFalse hinitial =>
    split at h
    · cases h
    case isFalse hfocus =>
    split at h
    · cases h
    case isFalse hopacity =>
    simp only [Bool.not_eq_true, Bool.not_eq_false', Bool.and_eq_true, decide_eq_true_eq]
      at haddress hopacity
    exact ⟨haddress, htime, hcenter.1 ⟨p, hp⟩, UInt8.not_lt.1 hinitial, UInt8.not_lt.1 hfocus,
      hopacity.1, hopacity.2⟩
  · rintro ⟨haddress, htime, honGlobe, hinitial, hfocus, hlow, hhigh⟩
    obtain ⟨p, hp⟩ := hcenter.2 honGlobe
    rw [if_neg (by simp [haddress]), if_neg htime, hp]
    simp only
    rw [if_neg (UInt8.not_lt.2 hinitial), if_neg (UInt8.not_lt.2 hfocus),
      if_neg (by simp [hlow, hhigh])]

/-- The opacity of good settings is finite. -/
theorem Good.opacity_finite {s : Settings} (h : s.Good) : s.opacity.isFinite = true := by
  have hzero : (0.0 : Float).isFinite = true := by decide
  have hone : (1.0 : Float).isFinite = true := by decide
  exact Decimal.isFinite_of_bounds hzero hone h.opacity_low h.opacity_high

/-- The default settings are good. -/
theorem good_default : default.Good := check_eq_ok_iff.1 rfl

/-- The settings with the values of some keys from one and those of all others from another. -/
def mix (keep : Key → Bool) (s t : Settings) : Settings where
  baseUrl := if keep .baseUrl then s.baseUrl else t.baseUrl
  closestPath := if keep .closestPath then s.closestPath else t.closestPath
  routePath := if keep .routePath then s.routePath else t.routePath
  timeoutMs := if keep .timeoutMs then s.timeoutMs else t.timeoutMs
  centerLat := if keep .centerLat then s.centerLat else t.centerLat
  centerLng := if keep .centerLng then s.centerLng else t.centerLng
  initialZoom := if keep .initialZoom then s.initialZoom else t.initialZoom
  focusZoom := if keep .focusZoom then s.focusZoom else t.focusZoom
  color := if keep .color then s.color else t.color
  weight := if keep .weight then s.weight else t.weight
  opacity := if keep .opacity then s.opacity else t.opacity
  firstRole := if keep .firstRole then s.firstRole else t.firstRole
  validation := if keep .validation then s.validation else t.validation

/-- With all keys from the first settings, these are the first settings. -/
@[simp] theorem mix_true (s t : Settings) : mix (fun _ => true) s t = s := rfl

/-- With no key from the first settings, these are the second settings. -/
@[simp] theorem mix_false (s t : Settings) : mix (fun _ => false) s t = t := rfl

/-- Settings that take every value from one of two good ones are good. -/
theorem Good.mix {s t : Settings} (hs : s.Good) (ht : t.Good) (keep : Key → Bool) :
    (Settings.mix keep s t).Good := by
  have hone {α : Type} {p : α → Prop} {a b : α} (ha : p a) (hb : p b) (k : Key) :
      p (if keep k then a else b) := by
    split
    · exact ha
    · exact hb
  exact ⟨hone (p := fun a => Text.allBlank a = false) hs.address ht.address _,
    hone (p := fun a => a ≠ 0) hs.time ht.time _,
    ⟨hone (p := IsLatitude) hs.center.lat ht.center.lat _,
      hone (p := IsLongitude) hs.center.lng ht.center.lng _⟩,
    hone (p := fun a => a ≤ maxZoom) hs.initialZoom ht.initialZoom _,
    hone (p := fun a => a ≤ maxZoom) hs.focusZoom ht.focusZoom _,
    hone (p := fun a => 0.0 ≤ a) hs.opacity_low ht.opacity_low _,
    hone (p := fun a => a ≤ 1.0) hs.opacity_high ht.opacity_high _⟩

end Waymark.Settings
