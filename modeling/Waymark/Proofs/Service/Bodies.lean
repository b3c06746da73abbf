import Waymark.Proofs.Json.Decoded
import Waymark.Service.Answer

/-!
# What a body says

A reply says something only if it is complete and of success (`Reply.Carries`). What it says depends
on its body alone: nothing, if the body is blank or the JSON of a value that stands for "nothing"
(`SaysNothing`), and otherwise the value of its JSON (`IsJson`). A body is never both blank and JSON
(`IsJson.not_blank`).
-/

namespace Waymark

open Json

/-- A body is blank. -/
def IsBlank (body : ByteArray) : Prop := ∀ b ∈ body.toList, isBlankByte b = true

/-- A body is the JSON text of a value, with every number in the range of doubles. -/
def IsJson (body : ByteArray) (v : Json) : Prop :=
  ∃ text : String, body = text.toUTF8 ∧ Json.read? maxDepth text = some v ∧ v.inRange = true

/-- A body says that nothing was found. -/
def SaysNothing (body : ByteArray) : Prop := IsBlank body ∨ ∃ v, IsJson body v ∧ v.Falsy

/-- A reply is complete and of success, with a body. -/
def Reply.Carries (reply : Reply) (body : ByteArray) : Prop :=
  ∃ status, reply = .answer status body true ∧ 200 ≤ status ∧ status < 300

/-! ### Blanks -/

/-- The bytes from a place on are listed after those before it. -/
theorem toList_loop (bytes : ByteArray) (i : Nat) (before : List UInt8) :
    ByteArray.toList.loop bytes i before = before.reverse ++ bytes.data.toList.drop i := by
  fun_induction ByteArray.toList.loop bytes i before with
  | case1 i before hlt ih =>
    have hlist : i < bytes.data.toList.length := hlt
    rw [ih, List.drop_eq_getElem_cons hlist, List.reverse_cons, List.append_assoc]
    simp only [List.singleton_append, ByteArray.get!, Array.getElem_toList]
    rw [getElem!_pos bytes.data i hlt]
  | case2 i before hle =>
    have hlist : bytes.data.toList.length ≤ i := Nat.not_lt.1 hle
    rw [List.drop_eq_nil_of_le hlist, List.append_nil]

/-- The bytes of a text are those of its characters. -/
theorem mem_toUTF8 {text : String} {b : UInt8} :
    b ∈ text.toUTF8.toList ↔ ∃ c ∈ text.toList, b ∈ String.utf8EncodeChar c := by
  have hbytes : text.toUTF8 = (text.toList.flatMap String.utf8EncodeChar).toByteArray := by
    conv_lhs => rw [← String.ofList_toList (s := text)]
    exact String.toByteArray_ofList
  rw [hbytes, ByteArray.toList, toList_loop, List.reverse_nil, List.nil_append, List.drop_zero,
    List.toList_data_toByteArray, List.mem_flatMap]

/-- Which bytes are blank. -/
theorem isBlankByte_iff {b : UInt8} : isBlankByte b = true ↔
    b.toNat = 9 ∨ b.toNat = 10 ∨ b.toNat = 12 ∨ b.toNat = 13 ∨ b.toNat = 32 := by
  simp [isBlankByte, ← UInt8.toNat_inj, or_assoc]

/-- The first byte of a character is that character if it is one of ASCII, and above all of these
otherwise. -/
theorem utf8EncodeChar_head (c : Char) : ∃ (b : UInt8) (rest : List UInt8),
    String.utf8EncodeChar c = b :: rest ∧ (b.toNat = c.toNat ∨ 128 ≤ b.toNat) := by
  unfold String.utf8EncodeChar
  show ∃ (b : UInt8) (rest : List UInt8), _ ∧ (b.toNat = c.val.toNat ∨ _)
  dsimp only
  split
  · exact ⟨_, _, rfl, .inl (by rw [UInt8.toNat_ofNat']; omega)⟩
  split
  · exact ⟨_, _, rfl, .inr (by rw [UInt8.toNat_ofNat']; omega)⟩
  split
  · exact ⟨_, _, rfl, .inr (by rw [UInt8.toNat_ofNat']; omega)⟩
  · exact ⟨_, _, rfl, .inr (by rw [UInt8.toNat_ofNat']; omega)⟩

/-- A character of blank bytes is a blank of JSON or a form feed. -/
theorem blank_of_utf8EncodeChar {c : Char}
    (h : ∀ b ∈ String.utf8EncodeChar c, isBlankByte b = true) :
    isSpace c = true ∨ c = Char.ofNat 12 := by
  obtain ⟨b, rest, hencode, hhead⟩ := utf8EncodeChar_head c
  have hbyte := isBlankByte_iff.1 (h b (hencode ▸ List.mem_cons_self))
  have hcode : c.toNat = 9 ∨ c.toNat = 10 ∨ c.toNat = 12 ∨ c.toNat = 13 ∨ c.toNat = 32 := by omega
  have hc : c = Char.ofNat c.toNat := (Char.ofNat_toNat c).symm
  rcases hcode with hcode | hcode | hcode | hcode | hcode <;> rw [hcode] at hc <;> subst hc <;>
    decide

/-- A body that is JSON is not blank. -/
theorem IsJson.not_blank {body : ByteArray} {v : Json} (h : IsJson body v) : ¬ IsBlank body := by
  obtain ⟨text, rfl, hread, -⟩ := h
  intro hblank
  -- A form feed is blank in a body and yet no blank of JSON; a text that has one is refused.
  have hspaces : ∀ c ∈ text.toList, isSpace c = true ∨ c = Char.ofNat 12 := fun c hc =>
    blank_of_utf8EncodeChar fun b hb => hblank b (mem_toUTF8.2 ⟨c, hc, hb⟩)
  rw [read?_blank hspaces maxDepth] at hread
  cases hread

/-! ### Values -/

/-- A body is read as the value of its JSON. -/
theorem bodyJson?_eq_some_iff {body : ByteArray} {v : Json} :
    bodyJson? body = some v ↔ IsJson body v := by
  constructor
  · intro h
    unfold bodyJson? at h
    obtain ⟨text, htext, h⟩ := Option.bind_eq_some_iff.1 h
    obtain ⟨w, hread, h⟩ := Option.bind_eq_some_iff.1 h
    split at h
    case isFalse => cases h
    case isTrue hrange =>
      cases h
      refine ⟨text, ?_, hread, hrange⟩
      unfold String.fromUTF8? at htext
      split at htext
      · cases htext
        rfl
      · cases htext
  · rintro ⟨text, rfl, hread, hrange⟩
    have htext : String.fromUTF8? text.toUTF8 = some text := dif_pos text.isValidUTF8
    exact Option.bind_eq_some_iff.2 ⟨text, htext,
      Option.bind_eq_some_iff.2 ⟨v, hread, if_pos hrange⟩⟩

/-- A body is the JSON of one value at most. -/
theorem IsJson.unique {body : ByteArray} {v w : Json} (hv : IsJson body v) (hw : IsJson body w) :
    v = w :=
  Option.some.inj ((bodyJson?_eq_some_iff.2 hv).symm.trans (bodyJson?_eq_some_iff.2 hw))

/-- What is found in a body that is not blank depends on the value of its JSON. -/
theorem bodyFound_of_not_blank {body : ByteArray} (h : ¬ IsBlank body) :
    bodyFound body = match bodyJson? body with
      | none => .error .notJson
      | some v => .ok (if v.isFalsy then none else some v) :=
  if_neg (by rwa [List.all_eq_true])

/-- Nothing is found in a body iff it says so. -/
theorem bodyFound_eq_none_iff {body : ByteArray} :
    bodyFound body = .ok none ↔ SaysNothing body := by
  by_cases hblank : IsBlank body
  · have hfound : bodyFound body = .ok none := if_pos (List.all_eq_true.2 hblank)
    exact ⟨fun _ => .inl hblank, fun _ => hfound⟩
  · rw [bodyFound_of_not_blank hblank]
    constructor
    · intro h
      split at h
      case h_1 => cases h
      case h_2 v hv =>
        refine .inr ⟨v, bodyJson?_eq_some_iff.1 hv, isFalsy_iff.1 ?_⟩
        by_contra hfalsy
        rw [if_neg hfalsy] at h
        cases h
    · rintro (h | ⟨v, hv, hfalsy⟩)
      · exact absurd h hblank
      · simp only [bodyJson?_eq_some_iff.2 hv, if_pos (isFalsy_iff.2 hfalsy)]

/-- A value is found in a body iff the body is its JSON and it does not stand for "nothing". -/
theorem bodyFound_eq_some_iff {body : ByteArray} {v : Json} :
    bodyFound body = .ok (some v) ↔ IsJson body v ∧ ¬ v.Falsy := by
  constructor
  · intro h
    have hblank : ¬ IsBlank body := by
      intro hblank
      rw [bodyFound_eq_none_iff.2 (.inl hblank)] at h
      cases h
    rw [bodyFound_of_not_blank hblank] at h
    split at h
    case h_1 => cases h
    case h_2 w hw =>
      by_cases hfalsy : w.isFalsy = true
      · rw [if_pos hfalsy] at h
        cases h
      · rw [if_neg hfalsy] at h
        cases h
        exact ⟨bodyJson?_eq_some_iff.1 hw, fun hv => hfalsy (isFalsy_iff.2 hv)⟩
  · rintro ⟨hv, hfalsy⟩
    rw [bodyFound_of_not_blank hv.not_blank]
    simp only [bodyJson?_eq_some_iff.2 hv, if_neg (mt isFalsy_iff.1 hfalsy)]

namespace Reply

/-- A reply has one body at most. -/
theorem Carries.unique {reply : Reply} {body body' : ByteArray} (h : reply.Carries body)
    (h' : reply.Carries body') : body = body' := by
  obtain ⟨status, rfl, -⟩ := h
  obtain ⟨status', heq, -⟩ := h'
  cases heq
  rfl

/-- Only what a reply carries is looked at. -/
theorem found_of_carries {reply : Reply} {body : ByteArray} (h : reply.Carries body)
    (url : String) : reply.found url = bodyFound body := by
  obtain ⟨status, rfl, hlow, hhigh⟩ := h
  have hsuccess : isSuccess status = true := by simp [isSuccess, hlow, hhigh]
  simp [found, hsuccess]

/-- A reply is found to say something only if it carries a body that says so. -/
theorem found_eq_ok_iff {reply : Reply} {url : String} {r : Option Json} :
    reply.found url = .ok r ↔ ∃ body, reply.Carries body ∧ bodyFound body = .ok r := by
  constructor
  · intro h
    cases reply with
    | silence => cases h
    | answer status body complete =>
      have hcarries : (answer status body complete).Carries body := by
        unfold found at h
        dsimp only at h
        split at h
        case isTrue => cases h
        case isFalse hsuccess =>
        split at h
        case isTrue => cases h
        case isFalse hcomplete =>
          obtain rfl : complete = true := by simpa using hcomplete
          exact ⟨status, rfl, by simpa [isSuccess] using hsuccess⟩
      exact ⟨body, hcarries, (found_of_carries hcarries url).symm.trans h⟩
  · rintro ⟨body, hcarries, h⟩
    rw [found_of_carries hcarries, h]

/-- A reply says that nothing was found iff it carries a body that says so. -/
theorem found_eq_none_iff {reply : Reply} {url : String} :
    reply.found url = .ok none ↔ ∃ body, reply.Carries body ∧ SaysNothing body := by
  simp only [found_eq_ok_iff, bodyFound_eq_none_iff]

/-- A reply has a value iff it carries the JSON of it and that does not stand for "nothing". -/
theorem found_eq_some_iff {reply : Reply} {url : String} {v : Json} :
    reply.found url = .ok (some v) ↔ ∃ body, reply.Carries body ∧ IsJson body v ∧ ¬ v.Falsy := by
  simp only [found_eq_ok_iff, bodyFound_eq_some_iff]

end Reply

end Waymark
