import Waymark.Json.Printer
import Waymark.Json.Reader
import Waymark.Proofs.Decimal.Typed

/-!
# Numbers and texts of JSON

A number is read back up to where it ends, with its digits, its point and its power of ten as they
were written (`numeral_chars`). A text is read back character by character (`stringBody_escaped`):
every character is written as itself, as an escape of one letter or, if it is a control, by its
number. No escape is half of a character, since only controls have their numbers written.
-/

namespace Waymark.Json

open Decimal

/-! ### Numbers -/

/-- A text does not go on with a number that comes before it. -/
def EndsNumber (cs : List Char) : Prop :=
  ∀ c ∈ cs.head?, Digit.ofChar? c = none ∧ c ≠ '.' ∧ c ≠ 'e' ∧ c ≠ 'E'

/-- No number goes on with a character that is not one of a number. -/
theorem EndsNumber.cons {c : Char}
    (h : Digit.ofChar? c = none ∧ c ≠ '.' ∧ c ≠ 'e' ∧ c ≠ 'E') (cs : List Char) :
    EndsNumber (c :: cs) := by
  simpa [EndsNumber] using h

/-- What does not go on with a number does not go on with digits. -/
theorem EndsNumber.noDigit {cs : List Char} (h : EndsNumber cs) : NoDigit cs :=
  fun c hc => (h c hc).1

/-- The characters of a power of ten, if there is one. -/
def powerChars : Option Int → List Char
  | none => []
  | some e => Numeral.exponentChars e

/-- A numeral is a sign, digits around a point and a power of ten. -/
theorem chars_eq_append (n : Numeral) :
    n.chars = (if n.negative then ['-'] else []) ++
      (digitChars n.whole ++ (pointChars n.fraction ++ powerChars n.exponent)) := by
  obtain ⟨negative, whole, fraction, exponent⟩ := n
  cases fraction <;> cases exponent <;> simp [Numeral.chars, pointChars, powerChars]

/-- A power of ten is read back. -/
theorem exponentPart_powerChars (exponent : Option Int) {rest : List Char} (h : EndsNumber rest) :
    exponentPart (powerChars exponent ++ rest) = some (exponent, rest) := by
  cases exponent with
  | none =>
    cases rest with
    | nil => rfl
    | cons c rest =>
      obtain ⟨-, -, hlower, hupper⟩ := h c rfl
      show exponentPart (c :: rest) = _
      rw [exponentPart, if_neg (not_or.2 ⟨hlower, hupper⟩)]
  | some e =>
    have hdigits := takeDigits_digitChars (digitsOf e.natAbs) h.noDigit
    obtain ⟨d, ds, hds⟩ := List.exists_cons_of_ne_nil (digitsOf_ne_nil e.natAbs)
    have hvalue : valueOf (d :: ds) = e.natAbs := by rw [← hds, valueOf_digitsOf]
    rw [hds] at hdigits
    -- The sign is always written, and the digits are those of the absolute value.
    by_cases hsign : 0 ≤ e
    · have hread : power ('+' :: (digitChars (d :: ds) ++ rest)) = some (e, rest) := by
        simp only [power, hdigits, hvalue, Bool.false_eq_true, if_false, Int.ofNat_eq_natCast]
        rw [Int.natAbs_of_nonneg hsign]
      simp [powerChars, Numeral.exponentChars, exponentPart, hsign, hds, hread]
    · have hread : power ('-' :: (digitChars (d :: ds) ++ rest)) = some (e, rest) := by
        simp only [power, hdigits, hvalue, if_true, Int.ofNat_eq_natCast]
        rw [Int.ofNat_natAbs_of_nonpos (by omega), Int.neg_neg]
      simp [powerChars, Numeral.exponentChars, exponentPart, hsign, hds, hread]

/-- The digits after the point are read back. -/
theorem fractionPart_pointChars (fraction : List Digit) {rest : List Char} (h : NoDigit rest)
    (hpoint : ∀ c ∈ rest.head?, c ≠ '.') :
    fractionPart (pointChars fraction ++ rest) = some (fraction, rest) := by
  cases fraction with
  | nil =>
    show fractionPart rest = _
    rw [fractionPart.eq_def]
    split
    · exact absurd rfl (hpoint '.' rfl)
    · rfl
  | cons d ds =>
    show fractionPart ('.' :: (digitChars (d :: ds) ++ rest)) = _
    simp only [fractionPart, takeDigits_digitChars (d :: ds) h]

/-- A number is read back up to where it ends. -/
theorem numeral_chars {n : Numeral} (hwhole : PlainWhole n.whole) {rest : List Char}
    (h : EndsNumber rest) : numeral (n.chars ++ rest) = some (n, rest) := by
  obtain ⟨negative, whole, fraction, exponent⟩ := n
  obtain ⟨d, ds, rfl⟩ := List.exists_cons_of_ne_nil hwhole.ne_nil
  have hpower := exponentPart_powerChars exponent h
  -- What follows on the digits of a part is the end of the number or the mark of the next part.
  have hexponent : NoDigit (powerChars exponent ++ rest) ∧
      ∀ c ∈ (powerChars exponent ++ rest).head?, c ≠ '.' := by
    cases exponent with
    | none => exact ⟨h.noDigit, fun c hc => (h c hc).2.1⟩
    | some e => exact ⟨NoDigit.cons (by decide) _, by rintro c ⟨⟩; decide⟩
  have hfraction := fractionPart_pointChars fraction hexponent.1 hexponent.2
  have hpoint : NoDigit (pointChars fraction ++ (powerChars exponent ++ rest)) := by
    cases fraction with
    | nil => exact hexponent.1
    | cons e es => exact NoDigit.cons (by decide) _
  have hdigits := takeDigits_digitChars (d :: ds) hpoint
  have hplain : ¬ (d = .zero ∧ ds ≠ []) := by
    rintro ⟨rfl, hne⟩
    obtain heq | ⟨-, hhead⟩ := hwhole
    · exact hne (List.cons.inj heq).2
    · exact hhead rfl
  have hbody : numeral ((if negative then ['-'] else []) ++
      (digitChars (d :: ds) ++ (pointChars fraction ++ (powerChars exponent ++ rest)))) =
        some (⟨negative, d :: ds, fraction, exponent⟩, rest) := by
    have hdash : d.toChar ≠ '-' := d.toChar_ne (by decide)
    unfold numeral
    split
    rename_i negative' body hsign
    have hsame : negative' = negative ∧ body =
        digitChars (d :: ds) ++ (pointChars fraction ++ (powerChars exponent ++ rest)) := by
      cases negative with
      | true =>
        obtain ⟨rfl, rfl⟩ := Prod.mk.inj hsign
        exact ⟨rfl, rfl⟩
      | false =>
        -- Without a sign the first character is a digit.
        split at hsign
        · exact absurd (List.cons.inj ‹_›).1 hdash
        · obtain ⟨rfl, rfl⟩ := Prod.mk.inj hsign
          exact ⟨rfl, rfl⟩
    obtain ⟨rfl, rfl⟩ := hsame
    simp only [hdigits, if_neg hplain, hfraction, hpower, Option.bind_eq_bind, Option.bind_some]
    rfl
  rw [chars_eq_append]
  simpa only [List.append_assoc] using hbody

/-! ### Texts -/

/-- A unit of a text stands for a character: it is this character, or the number of it if it is a
control. -/
inductive Piece.Spells : Piece → Char → Prop
  /-- The character. -/
  | char (c : Char) : Spells (.char c) c
  /-- The number of a control. -/
  | control {c : Char} (h : c.toNat < 32) : Spells (.code c.toNat) c

/-- The number of a control in hexadecimal digits. -/
theorem hexUnit?_control {n : Nat} (h : n < 32) :
    hexUnit? '0' '0' (hexDigit (n / 16)) (hexDigit (n % 16)) = some n := by
  have hall : ∀ n : Fin 32,
      hexUnit? '0' '0' (hexDigit (n / 16)) (hexDigit (n % 16)) = some n.val := by
    decide
  exact hall ⟨n, h⟩

/-- A character of a text is written as an escape of one letter, as an escape of four digits, or as
itself. -/
theorem escapedChar_cases (c : Char) :
    (∃ e, escapedChar c = ['\\', e] ∧ e ≠ 'u' ∧ escape? e = some c) ∨
    (∃ x y, escapedChar c = ['\\', 'u', '0', '0', x, y] ∧ hexUnit? '0' '0' x y = some c.toNat ∧
      c.toNat < 32) ∨
    (escapedChar c = [c] ∧ 32 ≤ c.toNat ∧ c ≠ '"' ∧ c ≠ '\\') := by
  have hchar : Char.ofNat c.toNat = c := Char.ofNat_toNat c
  unfold escapedChar
  split
  · exact .inl ⟨'"', rfl, by decide, rfl⟩
  · exact .inl ⟨'\\', rfl, by decide, rfl⟩
  · exact .inl ⟨'n', rfl, by decide, rfl⟩
  · exact .inl ⟨'r', rfl, by decide, rfl⟩
  · exact .inl ⟨'t', rfl, by decide, rfl⟩
  · split
    case isTrue h =>
      rw [h] at hchar
      exact .inl ⟨'b', rfl, by decide, by rw [← hchar]; rfl⟩
    split
    case isTrue h =>
      rw [h] at hchar
      exact .inl ⟨'f', rfl, by decide, by rw [← hchar]; rfl⟩
    split
    case isTrue h => exact .inr (.inl ⟨_, _, rfl, hexUnit?_control h, h⟩)
    case isFalse h => exact .inr (.inr ⟨rfl, by omega, by assumption, by assumption⟩)

/-- A character of a text is read back as one unit. -/
theorem pieces_escapedChar (c : Char) : ∃ piece : Piece, piece.Spells c ∧ ∀ rest,
    pieces (escapedChar c ++ rest) = (pieces rest).map fun (ps, rest) => (piece :: ps, rest) := by
  obtain ⟨e, hc, hu, he⟩ | ⟨x, y, hc, hxy, hlt⟩ | ⟨hc, hle, hmark, hslash⟩ := escapedChar_cases c
  · refine ⟨.char c, .char c, fun rest => ?_⟩
    rw [hc]
    show pieces ('\\' :: e :: rest) = _
    rw [pieces, he]
    · cases pieces rest <;> rfl
    · exact fun _ _ _ _ _ heq => absurd heq hu
  · refine ⟨.code c.toNat, .control hlt, fun rest => ?_⟩
    rw [hc]
    show pieces ('\\' :: 'u' :: '0' :: '0' :: x :: y :: rest) = _
    rw [pieces, hxy]
    cases pieces rest <;> rfl
  · refine ⟨.char c, .char c, fun rest => ?_⟩
    have hplain : ¬ (c.toNat < 32 ∨ c = '\\') := not_or.2 ⟨by omega, hslash⟩
    rw [hc]
    show pieces (c :: rest) = _
    rw [pieces, if_neg hplain]
    · cases pieces rest <;> rfl
    · exact hmark
    · exact fun _ _ _ _ _ heq => absurd heq hslash
    · exact fun _ _ heq => absurd heq hslash

/-- The units of a text are read up to and with its closing quotation mark. -/
theorem pieces_escaped (cs rest : List Char) :
    ∃ ps, pieces (cs.flatMap escapedChar ++ '"' :: rest) = some (ps, rest) ∧
      List.Forall₂ Piece.Spells ps cs := by
  induction cs with
  | nil => exact ⟨[], rfl, .nil⟩
  | cons c cs ih =>
    obtain ⟨ps, hps, hspells⟩ := ih
    obtain ⟨piece, hpiece, hread⟩ := pieces_escapedChar c
    refine ⟨piece :: ps, ?_, .cons hpiece hspells⟩
    rw [List.flatMap_cons, List.append_assoc, hread, hps]
    rfl

/-- The number of a control is put together as that control, whatever comes after it. -/
theorem joinPieces_code (halves : Halves) {n : Nat} (h : n < 32) (ps : List Piece) :
    joinPieces halves (.code n :: ps) = (joinPieces halves ps).map (Char.ofNat n :: ·) := by
  have hhalf : ¬ (0xD800 ≤ n ∧ n < 0xE000) := by omega
  match ps with
  | [] => simp [joinPieces, hhalf]
  | .char c :: rest =>
    simp only [joinPieces, if_neg hhalf]
    cases joinPieces halves rest <;> rfl
  | .code low :: rest =>
    have hhigh : ¬ (0xD800 ≤ n ∧ n < 0xDC00 ∧ 0xDC00 ≤ low ∧ low < 0xE000) := by omega
    rw [joinPieces, if_neg hhigh, if_neg hhalf]

/-- Units that stand for characters are put together as these. -/
theorem joinPieces_of_spells (halves : Halves) {ps : List Piece} {cs : List Char}
    (h : List.Forall₂ Piece.Spells ps cs) : joinPieces halves ps = some cs := by
  induction h with
  | nil => rfl
  | cons hpiece _ ih =>
    cases hpiece with
    | char c => rw [joinPieces, ih, Option.map_some]
    | control hlt => rw [joinPieces_code halves hlt, ih, Option.map_some, Char.ofNat_toNat]

/-- A text is read back up to and with its closing quotation mark. -/
theorem stringBody_escaped (halves : Halves) (s : String) (rest : List Char) :
    stringBody halves (s.toList.flatMap escapedChar ++ '"' :: rest) = some (s, rest) := by
  obtain ⟨ps, hps, hspells⟩ := pieces_escaped s.toList rest
  simp [stringBody, hps, joinPieces_of_spells halves hspells]

end Waymark.Json
