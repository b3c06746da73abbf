import Mathlib.Data.List.Forall2
import Waymark.Json.Mismatch
import Waymark.Json.Reader
import Waymark.Proofs.Decimal.Finite

/-!
# What a JSON value is taken as

What it takes for a value to be taken as a double (`IsDouble`), as a natural number (`IsNatural`) or
as "nothing" (`Falsy`), and which value counts for a name (`LastMember`). The functions that read
records meet these descriptions, and the proofs about what a service sends take them in place of the
functions. A double that is read is always finite (`IsDouble.isFinite`), and a text of blanks is no
JSON (`read?_blank`).
-/

namespace Waymark.Json

open Decimal

/-- A value is a number, and this is the double that it stands for. -/
def IsDouble (v : Json) (x : Float) : Prop := ∃ n, v = .number n ∧ real? n = some x

/-- A value is a number of digits only, and this is the number that the digits say. -/
def IsNatural (v : Json) (i : UInt64) : Prop :=
  ∃ digits, v = .number ⟨false, digits, [], none⟩ ∧ valueOf digits = i.toNat

/-- A value is the last one of a name. -/
def LastMember (name : String) (members : List (String × Json)) (v : Json) : Prop :=
  ∃ before after, members = before ++ (name, v) :: after ∧ ∀ w, (name, w) ∉ after

/-- A value stands for "nothing". -/
inductive Falsy : Json → Prop
  /-- The literal `null`. -/
  | null : Falsy .null
  /-- The literal `false`. -/
  | no : Falsy (.bool false)
  /-- A number whose double is zero, of either sign. -/
  | zero {n : Numeral} {x : Float} (hx : real? n = some x) (hzero : (x == 0.0) = true) :
    Falsy (.number n)
  /-- The empty text. -/
  | text : Falsy (.string "")
  /-- The empty list. -/
  | list : Falsy (.array [])
  /-- The object without members. -/
  | object : Falsy (.object [])

/-- Exactly the values that are described stand for "nothing". -/
theorem isFalsy_iff {v : Json} : v.isFalsy = true ↔ v.Falsy := by
  constructor
  · intro h
    unfold isFalsy at h
    split at h
    · exact .null
    case h_2 b =>
      cases b with
      | false => exact .no
      | true => cases h
    case h_3 n =>
      split at h
      case h_1 x hx => exact .zero hx h
      case h_2 => cases h
    case h_4 s =>
      obtain rfl := String.isEmpty_iff.1 h
      exact .text
    case h_5 items =>
      obtain rfl := List.isEmpty_iff.1 h
      exact .list
    case h_6 members =>
      obtain rfl := List.isEmpty_iff.1 h
      exact .object
  · rintro (_ | _ | ⟨hx, hzero⟩ | _ | _ | _)
    case zero =>
      unfold isFalsy
      simp only [hx, hzero]
    all_goals rfl

/-- A value is taken as a double iff it is the number of that double. -/
theorem asDouble_eq_ok_iff {v : Json} {x : Float} : asDouble v = .ok x ↔ IsDouble v x := by
  constructor
  · intro h
    unfold asDouble at h
    split at h
    case h_2 => cases h
    case h_1 n =>
      split at h
      case h_2 => cases h
      case h_1 y hy =>
        cases h
        exact ⟨n, rfl, hy⟩
  · rintro ⟨n, rfl, hn⟩
    simp only [asDouble, hn]

/-- A double that is read is finite. -/
theorem IsDouble.isFinite {v : Json} {x : Float} (h : IsDouble v x) : x.isFinite = true := by
  obtain ⟨n, -, hn⟩ := h
  exact n.isFinite_of_quick? hn

/-- A number is a natural one of 64 bits iff it is written with digits only and not too large. -/
theorem integer?_eq_ofNat_iff {n : Numeral} {i : Nat} : integer? n = some (.ofNat i) ↔
    ∃ digits, n = ⟨false, digits, [], none⟩ ∧ valueOf digits = i ∧ i < 2 ^ 64 := by
  obtain ⟨negative, whole, fraction, exponent⟩ := n
  constructor
  · intro h
    unfold integer? at h
    dsimp only at h
    split at h
    case h_2 => cases h
    case h_1 =>
      split at h
      case isTrue =>
        split at h
        case isFalse => cases h
        case isTrue hpos =>
          have hi : -((valueOf whole : Nat) : Int) = i := Option.some.inj h
          omega
      case isFalse hsign =>
        split at h
        case isFalse => cases h
        case isTrue hlt =>
          obtain rfl := Int.ofNat.inj (Option.some.inj h)
          exact ⟨whole, by simpa using hsign, rfl, hlt⟩
  · rintro ⟨digits, hn, rfl, hlt⟩
    cases hn
    exact if_pos hlt

/-- A value is taken as a natural number iff it is that number. -/
theorem asNatural_eq_ok_iff {v : Json} {i : UInt64} : asNatural v = .ok i ↔ IsNatural v i := by
  constructor
  · intro h
    unfold asNatural at h
    split at h
    case h_2 => cases h
    case h_1 n =>
      split at h
      case h_2 => cases h
      case h_3 => cases h
      case h_1 k hk =>
        obtain ⟨digits, rfl, rfl, hlt⟩ := integer?_eq_ofNat_iff.1 hk
        cases h
        exact ⟨digits, rfl, (UInt64.toNat_ofNat_of_lt hlt).symm⟩
  · rintro ⟨digits, rfl, hdigits⟩
    have hinteger := integer?_eq_ofNat_iff.2 ⟨digits, rfl, hdigits, i.toNat_lt⟩
    simp only [asNatural, hinteger, UInt64.ofNat_toNat]

/-- The value that counts for a name is the last one of that name. -/
theorem member?_eq_some_iff {name : String} {members : List (String × Json)} {v : Json} :
    member? name members = some v ↔ LastMember name members v := by
  unfold member?
  rw [Option.map_eq_some_iff]
  constructor
  · rintro ⟨⟨key, _⟩, hfind, rfl⟩
    obtain ⟨hkey, after, before, hmembers, hafter⟩ := List.find?_eq_some_iff_append.1 hfind
    obtain rfl : key = name := by simpa using hkey
    refine ⟨before.reverse, after.reverse, ?_, fun w hw => ?_⟩
    · rw [← List.reverse_reverse members, hmembers]
      simp
    · simpa using hafter _ (List.mem_reverse.1 hw)
  · rintro ⟨before, after, rfl, hafter⟩
    refine ⟨(name, v), List.find?_eq_some_iff_append.2 ⟨by simp, after.reverse, before.reverse,
      by simp, ?_⟩, rfl⟩
    rintro ⟨key, w⟩ hw
    have hne : key ≠ name := by
      rintro rfl
      exact hafter w (List.mem_reverse.1 hw)
    simpa using hne

/-- A computation in two steps succeeds iff both steps do. -/
theorem bind_eq_ok_iff {ε α β : Type} {x : Except ε α} {f : α → Except ε β} {b : β} :
    (x >>= f) = .ok b ↔ ∃ a, x = .ok a ∧ f a = .ok b := by
  cases x <;> simp [bind, Except.bind]

/-- A member that must be there is read iff the last one of its name can be. -/
theorem mapM_member_eq_ok_iff {ε α : Type} {name : String} {members : List (String × Json)}
    {f : Json → Except ε α} {y : α} :
    (member? name members).mapM f = .ok (some y) ↔
      ∃ v, LastMember name members v ∧ f v = .ok y := by
  simp only [← member?_eq_some_iff]
  cases member? name members with
  | none => simp [pure, Except.pure]
  | some v => cases hv : f v <;> simp [hv, Functor.map, Except.map]

/-- A list is read item by item. -/
theorem mapM_eq_ok_iff {ε α β : Type} {f : α → Except ε β} {xs : List α} {ys : List β} :
    xs.mapM f = .ok ys ↔ List.Forall₂ (fun x y => f x = .ok y) xs ys := by
  induction xs generalizing ys with
  | nil => cases ys <;> simp [pure, Except.pure]
  | cons x xs ih =>
    rw [List.mapM_cons, List.forall₂_cons_left_iff]
    simp only [bind_eq_ok_iff, ih]
    constructor
    · rintro ⟨y, hy, ys', hys, hcons⟩
      exact ⟨y, ys', hy, hys, (Except.ok.inj hcons).symm⟩
    · rintro ⟨y, ys', hy, hys, rfl⟩
      exact ⟨y, hy, ys', hys, rfl⟩

/-- A text of blanks is no JSON. A form feed counts as a blank here, though it is none between the
parts of a JSON text. -/
theorem read?_blank {text : String} (h : ∀ c ∈ text.toList, isSpace c = true ∨ c = Char.ofNat 12)
    (depth : Nat) : read? depth text = none := by
  have hrest : scalar .refused (skipSpace text.toList) = none ∧
      ∀ c rest, skipSpace text.toList = c :: rest → c = Char.ofNat 12 := by
    cases hskip : skipSpace text.toList with
    | nil => exact ⟨rfl, nofun⟩
    | cons c rest =>
      have hdrop : text.toList.dropWhile isSpace = c :: rest := hskip
      have hmem : c ∈ text.toList :=
        (List.dropWhile_sublist isSpace).subset (hdrop ▸ List.mem_cons_self)
      have hnot : isSpace c = false := by
        have hhead := List.head_dropWhile_not isSpace (l := text.toList) (by rw [hdrop]; nofun)
        simpa only [hdrop, List.head_cons] using hhead
      obtain rfl := (h c hmem).resolve_left (by rw [hnot]; nofun)
      refine ⟨rfl, ?_⟩
      rintro _ _ ⟨⟩
      rfl
  have hvalue : value .refused depth text.toList = none := by
    cases depth with
    | zero => exact hrest.1
    | succ depth =>
      unfold value
      split
      case h_1 rest hbracket => exact absurd (hrest.2 _ _ hbracket) (by decide)
      case h_2 rest hbrace => exact absurd (hrest.2 _ _ hbrace) (by decide)
      case h_3 => exact hrest.1
  rw [read?, hvalue]

end Waymark.Json
