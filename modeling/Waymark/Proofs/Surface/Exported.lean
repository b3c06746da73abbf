import Waymark.Program.Pick
import Waymark.Proofs.Decimal.Documented
import Waymark.Proofs.Json.Written

/-!
# Exported layers

What GeoJSON says of layers is described apart from how it is made (`IsCollection`): the features of
the markers and then those of the lines, each with the position and the properties of its layer. A
value is such a description of one list of markers and one list of lines only
(`IsCollection.unique`), and the text of a surface is read back as one of its layers
(`export_lossless`), if all numbers in them are finite.
-/

namespace Waymark

open Decimal Json

/-- Both numbers of a point are finite. -/
structure Point.IsFinite (p : Point) : Prop where
  /-- The latitude is finite. -/
  lat : p.lat.isFinite = true
  /-- The longitude is finite. -/
  lng : p.lng.isFinite = true

namespace Json

/-- A value is a number, and this is the double nearest to it. -/
def Denotes (v : Json) (x : Float) : Prop := ∃ n, v = .number n ∧ n.toFloat = x

/-- A number denotes one double. -/
theorem Denotes.unique {v : Json} {x y : Float} (hx : v.Denotes x) (hy : v.Denotes y) : x = y := by
  obtain ⟨n, rfl, rfl⟩ := hx
  obtain ⟨_, ⟨⟩, rfl⟩ := hy
  rfl

/-- A finite double is written as a number that denotes it. -/
theorem ofFloat_denotes {x : Float} (hx : x.isFinite = true) : (ofFloat x).Denotes x := by
  obtain ⟨n, hn, -, hnearest⟩ := Numeral.ofFloat?_of_finite hx
  refine ⟨n, ?_, hnearest⟩
  rw [ofFloat, hn]

/-- A double is written so that it is read back, as `null` if it is not finite. -/
theorem writable_ofFloat {depth : Nat} (x : Float) : Writable depth (ofFloat x) := by
  by_cases hx : x.isFinite = true
  · obtain ⟨n, hn, hplain, -⟩ := Numeral.ofFloat?_of_finite hx
    rw [ofFloat, hn]
    exact .number hplain
  · have hnone : Numeral.ofFloat? x = none := by
      unfold Numeral.ofFloat?
      split
      · rfl
      · rfl
      case h_3 negative v hv => exact absurd (Shape.isFinite_iff.2 ⟨negative, v, hv⟩) hx
    rw [ofFloat, hnone]
    exact .null

end Json

namespace Layers

/-! ### Descriptions -/

/-- A value is the position of a point: its longitude, then its latitude. -/
def IsPosition (p : Point) (v : Json) : Prop :=
  ∃ lng lat, v = .array [lng, lat] ∧ lng.Denotes p.lng ∧ lat.Denotes p.lat

/-- A value is a feature with a geometry of some kind and some properties. -/
def IsFeature (kind : String) (coordinates : Json) (properties : List (String × Json)) (v : Json) :
    Prop :=
  v = .object [("type", .string "Feature"),
    ("geometry", .object [("type", .string kind), ("coordinates", coordinates)]),
    ("properties", .object properties)]

/-- A value is the feature of a marker: a point where the marker stands, with its label. -/
def IsMarker (m : MarkerLayer) (v : Json) : Prop :=
  ∃ position, IsFeature "Point" position [("popup", .string m.label)] v ∧
    IsPosition m.point position

/-- A value is the feature of a line: the positions of its points in their order, with its style and
its label. -/
def IsLine (l : LineLayer) (v : Json) : Prop :=
  ∃ positions opacity weight,
    IsFeature "LineString" (.array positions) [("color", .string l.style.color),
      ("opacity", opacity), ("popup", .string l.label),
      ("weight", .number ⟨false, weight, [], none⟩)] v ∧
    List.Forall₂ IsPosition l.points positions ∧
    opacity.Denotes l.style.opacity ∧ valueOf weight = l.style.weight.toNat

/-- A value is the collection of some markers and then some lines, and of nothing else. -/
def IsCollection (markers : List MarkerLayer) (lines : List LineLayer) (v : Json) : Prop :=
  ∃ first second, v = .object [("type", .string "FeatureCollection"),
      ("features", .array (first ++ second))] ∧
    List.Forall₂ IsMarker markers first ∧ List.Forall₂ IsLine lines second

/-- A value is the position of one point only. -/
theorem IsPosition.unique {p q : Point} {v : Json} (hp : IsPosition p v) (hq : IsPosition q v) :
    p = q := by
  obtain ⟨lng, lat, rfl, hlng, hlat⟩ := hp
  obtain ⟨_, _, ⟨⟩, hlng', hlat'⟩ := hq
  obtain ⟨plat, plng⟩ := p
  obtain ⟨qlat, qlng⟩ := q
  obtain rfl : plng = qlng := hlng.unique hlng'
  obtain rfl : plat = qlat := hlat.unique hlat'
  rfl

/-- A value is the feature of one marker only. -/
theorem IsMarker.unique {m m' : MarkerLayer} {v : Json} (h : IsMarker m v) (h' : IsMarker m' v) :
    m = m' := by
  obtain ⟨point, label⟩ := m
  obtain ⟨point', label'⟩ := m'
  obtain ⟨position, rfl, hposition⟩ := h
  obtain ⟨_, hfeature, hposition'⟩ := h'
  obtain ⟨rfl, rfl⟩ : position = _ ∧ label = label' := by simpa [IsFeature] using hfeature
  obtain rfl : point = point' := hposition.unique hposition'
  rfl

/-- A value is the feature of one line only. -/
theorem IsLine.unique {l l' : LineLayer} {v : Json} (h : IsLine l v) (h' : IsLine l' v) :
    l = l' := by
  obtain ⟨points, ⟨color, weight, opacity⟩, label⟩ := l
  obtain ⟨points', ⟨color', weight', opacity'⟩, label'⟩ := l'
  obtain ⟨positions, number, digits, rfl, hpoints, hopacity, hweight⟩ := h
  obtain ⟨_, _, _, hfeature, hpoints', hopacity', hweight'⟩ := h'
  obtain ⟨rfl, rfl, rfl, rfl, rfl⟩ : positions = _ ∧ color = color' ∧ number = _ ∧
      label = label' ∧ digits = _ := by
    simpa [IsFeature] using hfeature
  obtain rfl : points = points' :=
    List.left_unique_forall₂' (fun _ _ _ h h' => h.unique h') hpoints hpoints'
  obtain rfl : opacity = opacity' := hopacity.unique hopacity'
  obtain rfl : weight = weight' := UInt32.toNat_inj.1 (hweight.symm.trans hweight')
  rfl

/-- No value is the feature of a marker and of a line. -/
theorem IsMarker.not_isLine {m : MarkerLayer} {l : LineLayer} {v : Json} (h : IsMarker m v) :
    ¬ IsLine l v := by
  obtain ⟨position, rfl, -⟩ := h
  rintro ⟨positions, opacity, weight, hfeature, -⟩
  simp [IsFeature] at hfeature

/-- The features of markers end where those of lines begin. -/
theorem append_unique {first first' second second' : List Json}
    (h : first ++ second = first' ++ second') {markers markers' : List MarkerLayer}
    {lines lines' : List LineLayer} (hfirst : List.Forall₂ IsMarker markers first)
    (hfirst' : List.Forall₂ IsMarker markers' first') (hsecond : List.Forall₂ IsLine lines second)
    (hsecond' : List.Forall₂ IsLine lines' second') : first = first' ∧ second = second' := by
  induction hfirst generalizing first' markers' with
  | nil =>
    cases hfirst' with
    | nil => exact ⟨rfl, h⟩
    | cons hmarker _ =>
      -- The first feature would be one of a line on the left.
      obtain rfl : second = _ := h
      cases hsecond with
      | cons hline _ => exact absurd hline hmarker.not_isLine
  | cons hmarker _ ih =>
    cases hfirst' with
    | nil =>
      obtain rfl : _ = second' := h
      cases hsecond' with
      | cons hline _ => exact absurd hline hmarker.not_isLine
    | cons _ hrest =>
      obtain ⟨rfl, hrest'⟩ := List.cons.inj h
      obtain ⟨rfl, rfl⟩ := ih hrest' hrest
      exact ⟨rfl, rfl⟩

/-- A value is the collection of one list of markers and one list of lines only. -/
theorem IsCollection.unique {markers markers' : List MarkerLayer} {lines lines' : List LineLayer}
    {v : Json} (h : IsCollection markers lines v) (h' : IsCollection markers' lines' v) :
    markers = markers' ∧ lines = lines' := by
  obtain ⟨first, second, rfl, hmarkers, hlines⟩ := h
  obtain ⟨first', second', hvalue, hmarkers', hlines'⟩ := h'
  have hfeatures : first ++ second = first' ++ second' := by simpa using hvalue
  obtain ⟨rfl, rfl⟩ := append_unique hfeatures hmarkers hmarkers' hlines hlines'
  exact ⟨List.left_unique_forall₂' (fun _ _ _ h h' => h.unique h') hmarkers hmarkers',
    List.left_unique_forall₂' (fun _ _ _ h h' => h.unique h') hlines hlines'⟩

/-! ### Exports -/

/-- All numbers in some layers are finite. -/
structure IsFinite (s : Layers) : Prop where
  /-- The points of the markers are finite. -/
  markers : ∀ m ∈ s.markerLayers, m.point.IsFinite
  /-- The points of the lines are finite. -/
  points : ∀ l ∈ s.lineLayers, ∀ p ∈ l.points, p.IsFinite
  /-- The opacities of the lines are finite. -/
  opacities : ∀ l ∈ s.lineLayers, l.style.opacity.isFinite = true

/-- The texts as which a surface is exported: without blanks, in lines, and in lines the last of
which is ended. -/
def exports (s : Layers) : List String :=
  [s.featureCollection.compact, s.featureCollection.pretty, s.featureCollection.pretty ++ "\n"]

/-- The position of a finite point is one of it. -/
theorem isPosition_position {p : Point} (h : p.IsFinite) : IsPosition p (position p) :=
  ⟨_, _, rfl, ofFloat_denotes h.lng, ofFloat_denotes h.lat⟩

/-- The feature of a marker at a finite point is one of it. -/
theorem isMarker_markerFeature {m : MarkerLayer} (h : m.point.IsFinite) :
    IsMarker m (markerFeature m) :=
  ⟨_, rfl, isPosition_position h⟩

/-- The feature of a line through finite points is one of it. -/
theorem isLine_lineFeature {l : LineLayer} (hpoints : ∀ p ∈ l.points, p.IsFinite)
    (hopacity : l.style.opacity.isFinite = true) : IsLine l (lineFeature l) := by
  have hpositions : List.Forall₂ IsPosition l.points (l.points.map position) :=
    forall₂_map fun p hp => isPosition_position (hpoints p hp)
  exact ⟨_, _, _, rfl, hpositions, ofFloat_denotes hopacity, valueOf_digitsOf _⟩

/-- Finite layers are exported as the collection of their markers and their lines. -/
theorem IsFinite.isCollection {s : Layers} (h : s.IsFinite) :
    IsCollection s.markerLayers s.lineLayers s.featureCollection := by
  refine ⟨_, _, rfl, ?_, ?_⟩
  · exact forall₂_map fun m hm => isMarker_markerFeature (h.markers m hm)
  · exact forall₂_map fun l hl => isLine_lineFeature (h.points l hl) (h.opacities l hl)

/-- The position of a point is a list of numbers. -/
theorem writable_position {depth : Nat} (p : Point) : Writable (depth + 1) (position p) :=
  .array (by simp [writable_ofFloat])

/-- A feature is nested two levels deeper than its coordinates and the values of its properties. -/
theorem writable_feature {depth : Nat} {coordinates : Json} {properties : List (String × Json)}
    (hcoordinates : Writable depth coordinates)
    (hproperties : ∀ m ∈ properties, Writable depth m.2) (kind : String) :
    Writable (depth + 2) (feature kind coordinates properties) := by
  have hgeometry : Writable (depth + 1)
      (.object [("type", .string kind), ("coordinates", coordinates)]) :=
    .object (by simp [Writable.string, hcoordinates])
  exact .object (by simp [Writable.string, hgeometry, Writable.object hproperties])

/-- A collection of features is nested six levels deep. -/
theorem writable_featureCollection {depth : Nat} (s : Layers) :
    Writable (depth + 6) s.featureCollection := by
  have hmarker (m : MarkerLayer) : Writable (depth + 4) (markerFeature m) :=
    writable_feature (writable_position _) (by simp [Writable.string]) _
  have hline (l : LineLayer) : Writable (depth + 4) (lineFeature l) := by
    refine writable_feature (.array ?_) ?_ _
    · exact List.forall_mem_map.2 fun p _ => writable_position p
    · have hweight : Writable (depth + 2) (.ofNat l.style.weight.toNat) :=
        .number (plainWhole_digitsOf _)
      simp [Writable.string, writable_ofFloat, hweight]
  have hfeatures : Writable (depth + 5)
      (.array (s.markerLayers.map markerFeature ++ s.lineLayers.map lineFeature)) := by
    refine .array fun v hv => ?_
    obtain hv | hv := List.mem_append.1 hv
    · exact List.forall_mem_map.2 (fun m _ => hmarker m) v hv
    · exact List.forall_mem_map.2 (fun l _ => hline l) v hv
  exact .object (by simp [Writable.string, hfeatures])

/-- Every text as which a surface is exported is read back as the same value. -/
theorem read?_exports {depth : Nat} (hdepth : 6 ≤ depth) (s : Layers) :
    ∀ text ∈ s.exports, read? depth text = some s.featureCollection := by
  obtain ⟨k, rfl⟩ : ∃ k, depth = k + 6 := ⟨depth - 6, by omega⟩
  have hwritable : Writable (k + 6) s.featureCollection := writable_featureCollection s
  have hcompact := read?_compact hwritable
  obtain ⟨hpretty, hended⟩ := read?_pretty hwritable
  simp [exports, hcompact, hpretty, hended]

/-- A surface is exported on which all numbers are finite. Whether its text is written without
blanks or in lines, as the program prints it, a reader that goes six levels deep reads it as one and
the same value: the collection of one point for each marker in order, where the marker stands and
with its label, then of one line for each line in order, with its positions in order, its style and
its label, and of nothing else. The numbers are those whose nearest doubles stand on the surface. So
no two surfaces have a text in common unless they have the same markers and the same lines. -/
theorem export_lossless {s : Layers} (hs : s.IsFinite) :
    (∀ session : Session Layers, session.surface = s →
      Program.Format.geoJson.output session ∈ s.exports) ∧
    (∃ v, IsCollection s.markerLayers s.lineLayers v ∧
      ∀ depth, 6 ≤ depth → ∀ text ∈ s.exports, read? depth text = some v) ∧
    ∀ t : Layers, t.IsFinite → ∀ text ∈ s.exports, text ∈ t.exports →
      s.markerLayers = t.markerLayers ∧ s.lineLayers = t.lineLayers := by
  refine ⟨?_, ⟨s.featureCollection, hs.isCollection, fun depth hdepth => read?_exports hdepth s⟩,
    fun t ht text hmem hmem' => ?_⟩
  · rintro session rfl
    simp [exports, Program.Format.output]
  · have hread : read? 6 text = some s.featureCollection :=
      read?_exports (Nat.le_refl 6) s text hmem
    have hread' : read? 6 text = some t.featureCollection :=
      read?_exports (Nat.le_refl 6) t text hmem'
    have hsame : s.featureCollection = t.featureCollection :=
      Option.some.inj (hread.symm.trans hread')
    have hcollection := ht.isCollection
    rw [← hsame] at hcollection
    exact hs.isCollection.unique hcollection

/-- A marker on the equator whose label has quotation marks, a control and a character beyond the
basic plane, a line without points, and a line through points that are written with powers of ten.
They are told apart from the same layers with another sign of zero. -/
theorem export_lossless_signed_zero :
    let style : LineStyle := ⟨"#ff7800", 4294967295, 0.65⟩
    let s : Layers := {
      markers := [(⟨1⟩, ⟨⟨0.0, 9.2⟩, "\"a\"\t\u0001 \\ 😀"⟩)]
      lines := [(⟨2⟩, ⟨[], style, ""⟩), (⟨4⟩, ⟨[⟨5e-324, -1e-7⟩, ⟨1.5e300, 48.1⟩], style, "é"⟩)]
      issued := 4 }
    let t : Layers := { s with markers := [(⟨1⟩, ⟨⟨-0.0, 9.2⟩, "\"a\"\t\u0001 \\ 😀"⟩)] }
    s.IsFinite ∧ t.IsFinite ∧
    (∃ v, IsCollection s.markerLayers s.lineLayers v ∧
      read? 6 s.featureCollection.compact = some v ∧ read? 6 s.featureCollection.pretty = some v) ∧
    ∀ text ∈ s.exports, text ∉ t.exports := by
  intro style s t
  have hlines : ∀ l ∈ s.lineLayers, (∀ p ∈ l.points, p.IsFinite) ∧
      l.style.opacity.isFinite = true := by
    have hfirst : Point.IsFinite ⟨5e-324, -1e-7⟩ := ⟨by decide +kernel, by decide +kernel⟩
    have hsecond : Point.IsFinite ⟨1.5e300, 48.1⟩ := ⟨by decide +kernel, by decide +kernel⟩
    have hopacity : (0.65 : Float).isFinite = true := by decide +kernel
    simp [s, style, lineLayers, hfirst, hsecond, hopacity]
  have hs : s.IsFinite := by
    refine ⟨?_, fun l hl => (hlines l hl).1, fun l hl => (hlines l hl).2⟩
    have hpoint : Point.IsFinite ⟨0.0, 9.2⟩ := ⟨by decide +kernel, by decide +kernel⟩
    simp [s, markerLayers, hpoint]
  have ht : t.IsFinite := by
    refine ⟨?_, fun l hl => (hlines l hl).1, fun l hl => (hlines l hl).2⟩
    have hpoint : Point.IsFinite ⟨-0.0, 9.2⟩ := ⟨by decide +kernel, by decide +kernel⟩
    simp [t, markerLayers, hpoint]
  obtain ⟨-, ⟨v, hv, hread⟩, hinjective⟩ := export_lossless hs
  refine ⟨hs, ht, ⟨v, hv, hread 6 (Nat.le_refl 6) _ (by simp [exports]),
    hread 6 (Nat.le_refl 6) _ (by simp [exports])⟩, fun text hmem hmem' => ?_⟩
  -- The two zeros are the same number but not the same double.
  obtain ⟨hmarkers, -⟩ := hinjective t ht text hmem hmem'
  have hbits : (0.0 : Float).toBits = (-0.0 : Float).toBits := by
    have hpoint : ((s.markerLayers.map (·.point)).map (·.lat)).map Float.toBits =
        ((t.markerLayers.map (·.point)).map (·.lat)).map Float.toBits := by rw [hmarkers]
    simpa [s, t, markerLayers] using hpoint
  exact absurd hbits (by decide +kernel)

end Layers

end Waymark
