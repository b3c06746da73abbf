import Waymark.Program.Pick
import Waymark.Proofs.Decimal.Typed
import Waymark.Proofs.Points
import Waymark.Proofs.Session.Effects

/-!
# Points that are typed

The point of a click and the point of a form entry are typed in the same way, and they are read by
different means: a click is made of whatever numbers there are, not-a-number standing for those that
are missing, and then checked; a form entry is given up at the first number that is missing. Both
accept exactly the texts that name a point which the rule admits (`clickPoint_eq_ok_iff`,
`formPoint_eq_ok_iff`), hence the same ones, and the text in which a point is shown is one of these
(`names_text`).
-/

namespace Waymark

namespace Text

/-- What stands around a separator is found if it is the first one. -/
theorem cutAt?_append {sep : Char} {before : List Char} (h : sep ∉ before) (after : List Char) :
    cutAt? sep (String.ofList (before ++ sep :: after)) =
      some (String.ofList before, String.ofList after) := by
  have hother : ∀ c ∈ before, (c != sep) = true := fun c hc => by
    simpa using fun heq : c = sep => h (heq ▸ hc)
  have hspan : (before ++ sep :: after).span (· != sep) = (before, sep :: after) := by
    rw [List.span_eq_takeWhile_dropWhile, List.takeWhile_append_of_pos hother,
      List.dropWhile_append_of_pos hother, List.takeWhile_cons_of_neg (by simp),
      List.dropWhile_cons_of_neg (by simp), List.append_nil]
  simp only [cutAt?, String.toList_ofList, hspan]

/-- Nothing is stripped from characters of which none satisfies the condition. -/
theorem strip_eq_self {p : Char → Bool} {cs : List Char} (h : ∀ c ∈ cs, p c = false) :
    strip p cs = cs := by
  have hdrop : ∀ ds : List Char, (∀ c ∈ ds, p c = false) → ds.dropWhile p = ds := by
    intro ds hds
    cases ds with
    | nil => rfl
    | cons d ds => exact List.dropWhile_cons_of_neg (by simp [hds d List.mem_cons_self])
  have hreverse : ∀ c ∈ cs.reverse, p c = false := fun c hc => h c (List.mem_reverse.1 hc)
  rw [strip, hdrop cs h, hdrop cs.reverse hreverse, List.reverse_reverse]

/-- A text without blanks is left as it is when blanks are trimmed. -/
theorem trim_eq_self {s : String} (h : ∀ c ∈ s.toList, isBlank c = false) : trim s = s := by
  rw [trim, strip_eq_self h, String.ofList_toList]

/-- A blank in front is trimmed. -/
theorem trim_blank_cons {c : Char} (hc : isBlank c = true) (cs : List Char) :
    trim (String.ofList (c :: cs)) = trim (String.ofList cs) := by
  have hstrip : strip isBlank (c :: cs) = strip isBlank cs := by
    rw [strip, List.dropWhile_cons_of_pos hc, strip]
  rw [trim, trim, String.toList_ofList, String.toList_ofList, hstrip]

end Text

namespace Program

open Decimal

/-- The point of a click with a text. -/
def clickPoint (rule : Rule) (text : String) : Except PointFault Point :=
  let (lat, lng) := clickNumbers text
  Point.check rule lat lng

/-- The point of a form entry with a text. -/
def formPoint (rule : Rule) (text : String) : Except PointFault Point :=
  match formTexts text with
  | .error fault => .error fault
  | .ok (lat, lng) => Point.read rule lat lng

/-- A text names a point: before and after its first comma stand the numbers of the point, with
blanks around them or without. -/
def Names (text : String) (p : Point) : Prop :=
  ∃ lat lng, Text.cutAt? ',' text = some (lat, lng) ∧
    readFloat? (Text.trim lat) = some p.lat ∧ readFloat? (Text.trim lng) = some p.lng

/-- A finite number of a click is what its text is read as. -/
theorem clickNumber_eq_iff {text : String} {x : Float} (hx : x.isFinite = true) :
    clickNumber text = x ↔ readFloat? (Text.trim text) = some x := by
  unfold clickNumber
  rcases readFloat? (Text.trim text) with _ | y
  · have hnan : (0.0 / 0.0 : Float).isFinite = false := by decide
    constructor
    · rintro rfl
      exact absurd (hnan.symm.trans hx) (by decide)
    · nofun
  · simp

/-- The number of an axis is read from a text without the blanks around it. -/
theorem readAxis_eq_ok_iff {axis : Axis} {text : String} {x : Float} :
    Point.readAxis axis text = .ok x ↔ readFloat? (Text.trim text) = some x := by
  have hnothing : readFloat? "" = none := by decide
  unfold Point.readAxis
  dsimp only
  by_cases hempty : (Text.trim text).isEmpty = true
  · -- The empty text is no number either.
    rw [if_pos hempty, String.isEmpty_iff.1 hempty, hnothing]
    simp
  · rw [if_neg hempty]
    rcases readFloat? (Text.trim text) with _ | y
    · simp
    · simp

/-- A click is accepted if its text names a point that the rule admits. -/
theorem clickPoint_eq_ok_iff {rule : Rule} {text : String} {p : Point} :
    clickPoint rule text = .ok p ↔ Names text p ∧ rule.Admits p := by
  unfold clickPoint clickNumbers Names
  rcases hcut : Text.cutAt? ',' text with _ | ⟨lat, lng⟩
  · -- Without a comma there are no numbers, and nothing that is finite.
    have hnot : ¬ rule.Admits ⟨0.0 / 0.0, 0.0 / 0.0⟩ := fun h =>
      absurd h.onGlobe.lat.finite (by decide)
    simp only [Point.check_eq_ok_iff]
    constructor
    · rintro ⟨-, hadmits⟩
      exact absurd hadmits hnot
    · rintro ⟨⟨lat, lng, hnone, -⟩, -⟩
      exact absurd hnone (by simp)
  · obtain ⟨x, y⟩ := p
    have hnumbers (h : rule.Admits ⟨x, y⟩) : (⟨x, y⟩ : Point) = ⟨clickNumber lat, clickNumber lng⟩ ↔
        readFloat? (Text.trim lat) = some x ∧ readFloat? (Text.trim lng) = some y := by
      have hx : x.isFinite = true := h.onGlobe.lat.finite
      have hy : y.isFinite = true := h.onGlobe.lng.finite
      rw [Point.mk.injEq, eq_comm, clickNumber_eq_iff hx, @eq_comm _ y, clickNumber_eq_iff hy]
    simp only [Point.check_eq_ok_iff]
    constructor
    · rintro ⟨hpoint, hadmits⟩
      rw [← hpoint] at hadmits
      exact ⟨⟨lat, lng, rfl, (hnumbers hadmits).1 hpoint⟩, hadmits⟩
    · rintro ⟨⟨lat', lng', hsame, hread⟩, hadmits⟩
      obtain ⟨rfl, rfl⟩ := Prod.mk.inj (Option.some.inj hsame)
      have hpoint := (hnumbers hadmits).2 hread
      exact ⟨hpoint, hpoint ▸ hadmits⟩

/-- A form entry is accepted if its text names a point that the rule admits. -/
theorem formPoint_eq_ok_iff {rule : Rule} {text : String} {p : Point} :
    formPoint rule text = .ok p ↔ Names text p ∧ rule.Admits p := by
  unfold formPoint formTexts Names
  rcases hcut : Text.cutAt? ',' text with _ | ⟨lat, lng⟩
  · constructor
    · intro h
      cases h
    · rintro ⟨⟨lat, lng, hnone, -⟩, -⟩
      exact absurd hnone (by simp)
  · have hread : Point.read rule lat lng = .ok p ↔
        (readFloat? (Text.trim lat) = some p.lat ∧ readFloat? (Text.trim lng) = some p.lng) ∧
          rule.Admits p := by
      unfold Point.read
      rw [← @readAxis_eq_ok_iff .latitude, ← @readAxis_eq_ok_iff .longitude]
      rcases Point.readAxis .latitude lat with fault | x
      · simp [bind, Except.bind]
      rcases Point.readAxis .longitude lng with fault | y
      · simp [bind, Except.bind]
      -- Both numbers are there, and what is left is the check.
      show Point.check rule x y = .ok p ↔ _
      rw [Point.check_eq_ok_iff]
      constructor
      · rintro ⟨rfl, hadmits⟩
        exact ⟨⟨rfl, rfl⟩, hadmits⟩
      · rintro ⟨⟨hx, hy⟩, hadmits⟩
        obtain rfl := Except.ok.inj hx
        obtain rfl := Except.ok.inj hy
        exact ⟨rfl, hadmits⟩
    show Point.read rule lat lng = .ok p ↔ _
    rw [hread]
    simp

/-- A point of the globe is named by the text in which it is shown. -/
theorem names_text {p : Point} (h : p.OnGlobe) : Names p.text p := by
  have hlat := plain_of_mem_floatText h.lat.finite
  have hlng := plain_of_mem_floatText h.lng.finite
  have htext : p.text =
      String.ofList ((floatText p.lat).toList ++ ',' :: ' ' :: (floatText p.lng).toList) := by
    rw [Point.text, ← String.toList_inj, String.toList_ofList, String.toList_append,
      String.toList_append, List.append_assoc]
    rfl
  have hcut : Text.cutAt? ',' p.text =
      some (floatText p.lat, String.ofList (' ' :: (floatText p.lng).toList)) := by
    rw [htext, Text.cutAt?_append fun hcomma => (hlat _ hcomma).ne_comma rfl, String.ofList_toList]
  have htrim : Text.trim (String.ofList (' ' :: (floatText p.lng).toList)) = floatText p.lng := by
    rw [Text.trim_blank_cons (by decide), String.ofList_toList,
      Text.trim_eq_self fun c hc => (hlng c hc).not_blank]
  refine ⟨_, _, hcut, ?_, ?_⟩
  · rw [Text.trim_eq_self fun c hc => (hlat c hc).not_blank]
    exact readFloat?_floatText h.lat.finite
  · rw [htrim]
    exact readFloat?_floatText h.lng.finite

section Sessions

variable {σ : Type}

/-- A click with a text is made in a session. -/
def clicked (s : Session σ) (text : String) : Except Error Lookup × Session σ :=
  s.beginClick (clickNumbers text).1 (clickNumbers text).2

/-- A form entry with a text is made in a session, unless the text is no pair. -/
def entered (s : Session σ) (role : Role) (text : String) : Except Error Lookup × Session σ :=
  match formTexts text with
  | .error fault => (.error (.invalidPoint fault), s)
  | .ok (lat, lng) => s.beginSubmit role lat lng

/-- A click is looked up at the point of its text, or it is refused and nothing changes. -/
theorem clicked_cases (s : Session σ) (text : String) :
    (∃ p ticket, clickPoint s.rule text = .ok p ∧ (clicked s text).1 = .ok ⟨ticket, p⟩) ∨
      (∀ p, clickPoint s.rule text ≠ .ok p) ∧
        ∃ fault, clicked s text = (.error (.invalidPoint fault), s) := by
  have hpoint : clickPoint s.rule text =
      Point.check s.rule (clickNumbers text).1 (clickNumbers text).2 := rfl
  unfold clicked
  obtain ⟨fault, hcheck, hclick⟩ | ⟨p, hcheck, hclick⟩ :=
    s.beginClick_cases (clickNumbers text).1 (clickNumbers text).2
  · refine .inr ⟨fun p => ?_, fault, hclick⟩
    rw [hpoint, hcheck]
    nofun
  · exact .inl ⟨p, _, hpoint.trans hcheck, congrArg Prod.fst hclick⟩

/-- A form entry is looked up at the point of its text, or it is refused and nothing changes. -/
theorem entered_cases (s : Session σ) (role : Role) (text : String) :
    (∃ p ticket, formPoint s.rule text = .ok p ∧ (entered s role text).1 = .ok ⟨ticket, p⟩) ∨
      (∀ p, formPoint s.rule text ≠ .ok p) ∧
        ∃ fault, entered s role text = (.error (.invalidPoint fault), s) := by
  unfold formPoint entered
  rcases formTexts text with fault | ⟨lat, lng⟩
  · exact .inr ⟨nofun, fault, rfl⟩
  · obtain ⟨fault, hread, hsubmit⟩ | ⟨p, hread, hsubmit⟩ := s.beginSubmit_cases role lat lng
    · refine .inr ⟨fun p => ?_, fault, hsubmit⟩
      show Point.read s.rule lat lng ≠ .ok p
      rw [hread]
      nofun
    · exact .inl ⟨p, _, hread, congrArg Prod.fst hsubmit⟩

end Sessions

/-- Clicks and form entries read points alike. A text is accepted by both or by none, whatever the
rule is, and by both if it names a point that the rule admits; this is the point that both give. In
a session the two are looked up at the same point, or both are refused since there is no point, and
nothing changes. The text in which a point is shown is accepted by both under every rule that admits
the point, and gives the point back. -/
theorem entered_alike :
    (∀ (rule : Rule) (text : String) (p : Point),
      (clickPoint rule text = .ok p ↔ formPoint rule text = .ok p) ∧
      (clickPoint rule text = .ok p ↔ Names text p ∧ rule.Admits p)) ∧
    (∀ {σ : Type} (s : Session σ) (role : Role) (text : String),
      (∃ p ticket ticket', clickPoint s.rule text = .ok p ∧
        (clicked s text).1 = .ok ⟨ticket, p⟩ ∧ (entered s role text).1 = .ok ⟨ticket', p⟩) ∨
      ∃ fault fault', clicked s text = (.error (.invalidPoint fault), s) ∧
        entered s role text = (.error (.invalidPoint fault'), s)) ∧
    ∀ (rule : Rule) (p : Point), rule.Admits p →
      clickPoint rule p.text = .ok p ∧ formPoint rule p.text = .ok p := by
  have halike (rule : Rule) (text : String) (p : Point) :
      clickPoint rule text = .ok p ↔ formPoint rule text = .ok p :=
    clickPoint_eq_ok_iff.trans formPoint_eq_ok_iff.symm
  refine ⟨fun rule text p => ⟨halike rule text p, clickPoint_eq_ok_iff⟩, fun s role text => ?_,
    fun rule p h => ?_⟩
  · obtain ⟨p, ticket, hpoint, hclick⟩ | ⟨hnone, fault, hclick⟩ := clicked_cases s text
    · obtain ⟨p', ticket', hpoint', henter⟩ | ⟨hnone', -⟩ := entered_cases s role text
      · have hform := (halike s.rule text p).1 hpoint
        obtain rfl : p = p' := Except.ok.inj (hform.symm.trans hpoint')
        exact .inl ⟨p, ticket, ticket', hpoint, hclick, henter⟩
      · exact absurd ((halike s.rule text p).1 hpoint) (hnone' p)
    · obtain ⟨p', ticket', hpoint', -⟩ | ⟨-, fault', henter⟩ := entered_cases s role text
      · exact absurd ((halike s.rule text p').2 hpoint') (hnone p')
      · exact .inr ⟨fault, fault', hclick, henter⟩
  · have hnames := names_text h.onGlobe
    exact ⟨clickPoint_eq_ok_iff.2 ⟨hnames, h⟩, formPoint_eq_ok_iff.2 ⟨hnames, h⟩⟩

/-- A point on the edge of the globe, with a zero that has a sign, is admitted by the stricter rule,
and read back from its text by both. -/
theorem entered_alike_edge :
    let p : Point := ⟨90.0, -0.0⟩
    p.text = "90, -0" ∧ Rule.nonNegative.Admits p ∧
      clickPoint .nonNegative "90, -0" = .ok p ∧ formPoint .nonNegative "90, -0" = .ok p := by
  intro p
  have htext : p.text = "90, -0" := by decide +kernel
  have hadmits : Rule.nonNegative.Admits p :=
    ⟨⟨⟨by decide, by decide, by decide⟩, by decide, by decide, by decide⟩, fun _ => by decide⟩
  have hboth := entered_alike.2.2 .nonNegative p hadmits
  rw [htext] at hboth
  exact ⟨htext, hadmits, hboth⟩

end Program

end Waymark
