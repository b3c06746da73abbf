import Waymark.Toml.Text

/-!
# Texts that are read back

A text is written in the first of its forms that needs no escapes, or with escapes, and each form is
read up to its closing marks (`string?_stringChars`). Between single marks this goes character by
character. Between tripled ones, up to two marks in a row may belong to the text, so the induction
carries the length of the run of marks just before.
-/

namespace Waymark.Toml

/-- Puts a text in front of one that was read. -/
def appendRead (cs : List Char) (r : List Char × List Char) : List Char × List Char :=
  (cs ++ r.1, r.2)

/-- A text does not begin with a quotation mark or an apostrophe. -/
def NoMark (cs : List Char) : Prop := ∀ c ∈ cs.head?, c ≠ '"' ∧ c ≠ '\''

/-- A text that begins with another character than a mark. -/
theorem NoMark.cons {c : Char} (h : c ≠ '"' ∧ c ≠ '\'') (cs : List Char) : NoMark (c :: cs) := by
  simpa [NoMark] using h

/-! ### Escapes -/

/-- The code of a control in hexadecimal digits. -/
theorem hexChar?_control {n : Nat} (h : n < 128) :
    hexChar? ['0', '0', upperHex (n / 16), upperHex (n % 16)] = some (Char.ofNat n) := by
  have hall : ∀ n : Fin 128,
      hexChar? ['0', '0', upperHex (n / 16), upperHex (n % 16)] = some (Char.ofNat n) := by
    decide
  exact hall ⟨n, h⟩

/-- A character between quotation marks is an escape of one letter, an escape of four digits, or
itself. -/
theorem escaped_cases (c : Char) :
    (∃ e, escaped c = ['\\', e] ∧ escape? e = some c) ∨
    (∃ x y, escaped c = ['\\', 'u', '0', '0', x, y] ∧ hexChar? ['0', '0', x, y] = some c) ∨
    (escaped c = [c] ∧ needsEscape c = false ∧ c ≠ '\\') := by
  have hchar : Char.ofNat c.toNat = c := Char.ofNat_toNat c
  unfold escaped
  split
  · exact .inl ⟨'t', rfl, rfl⟩
  · exact .inl ⟨'r', rfl, rfl⟩
  · exact .inl ⟨'\\', rfl, rfl⟩
  · split
    case isTrue h =>
      rw [h] at hchar
      exact .inl ⟨'b', rfl, by rw [← hchar]; rfl⟩
    split
    case isTrue h =>
      rw [h] at hchar
      exact .inl ⟨'f', rfl, by rw [← hchar]; rfl⟩
    split
    case isTrue h =>
      refine .inr (.inl ⟨_, _, rfl, ?_⟩)
      rw [hexChar?_control (by omega), hchar]
    case isFalse h =>
      refine .inr (.inr ⟨rfl, ?_, by assumption⟩)
      simp [needsEscape]
      omega

/-- An escape of one letter is not the beginning of one with digits, nor of a folded line. -/
theorem escape?_letter {e c : Char} (h : escape? e = some c) :
    e ≠ 'u' ∧ e ≠ 'U' ∧ e ≠ ' ' ∧ e ≠ '\t' ∧ e ≠ '\n' ∧ e ≠ '\r' := by
  refine ⟨?_, ?_, ?_, ?_, ?_, ?_⟩ <;> rintro rfl <;> cases h

/-! ### Single marks -/

/-- A character that needs no escape is read as itself. -/
theorem basicBody_plain {c : Char} (hmark : c ≠ '"') (hescape : needsEscape c = false)
    (hline : c ≠ '\n') (hslash : c ≠ '\\') (rest : List Char) :
    basicBody (c :: rest) = (basicBody rest).map (consRead c) := by
  rw [basicBody.eq_def]
  split <;> simp_all

/-- An escape of one letter is read. -/
theorem basicBody_letter {e c : Char} (h : escape? e = some c) (rest : List Char) :
    basicBody ('\\' :: e :: rest) = (basicBody rest).map (consRead c) := by
  obtain ⟨hu, hU, -⟩ := escape?_letter h
  rw [basicBody, h]
  · cases basicBody rest <;> rfl
  · exact fun _ _ _ _ _ heq => absurd heq hu
  · exact fun _ _ _ _ _ _ _ _ _ heq => absurd heq hU

/-- A character that is written between quotation marks is read back. -/
theorem basicBody_escaped {c : Char} (hmark : c ≠ '"') (hline : c ≠ '\n') (rest : List Char) :
    basicBody (escaped c ++ rest) = (basicBody rest).map (consRead c) := by
  obtain ⟨e, hc, he⟩ | ⟨x, y, hc, hxy⟩ | ⟨hc, hescape, hslash⟩ := escaped_cases c
  · rw [hc]
    exact basicBody_letter he rest
  · rw [hc]
    show basicBody ('\\' :: 'u' :: '0' :: '0' :: x :: y :: rest) = _
    rw [basicBody, hxy]
    cases basicBody rest <;> rfl
  · rw [hc]
    exact basicBody_plain hmark hescape hline hslash rest

/-- A text is read back from between quotation marks. -/
theorem basicBody_escapedChars (cs rest : List Char) (run : Nat) :
    basicBody (escapedChars false run cs ++ '"' :: rest) = some (cs, rest) := by
  induction cs generalizing run with
  | nil => rfl
  | cons c cs ih =>
    by_cases hmark : c = '"'
    · subst hmark
      rw [escapedChars, if_pos (by simp)]
      show basicBody ('\\' :: '"' :: (escapedChars false 0 cs ++ '"' :: rest)) = _
      rw [basicBody_letter rfl, ih]
      rfl
    by_cases hline : c = '\n'
    · subst hline
      rw [escapedChars, if_neg (by simp)]
      show basicBody ('\\' :: 'n' :: (escapedChars false 0 cs ++ '"' :: rest)) = _
      rw [basicBody_letter rfl, ih]
      rfl
    · rw [escapedChars, List.append_assoc, basicBody_escaped hmark hline, ih]
      · rfl
      · exact hmark
      · exact hline

/-- A text without escapes, newlines and apostrophes is read back from between apostrophes. -/
theorem literalBody_append {cs : List Char}
    (h : ∀ c ∈ cs, c ≠ '\'' ∧ needsEscape c = false ∧ c ≠ '\n') (rest : List Char) :
    literalBody (cs ++ '\'' :: rest) = some (cs, rest) := by
  induction cs with
  | nil => rfl
  | cons c cs ih =>
    obtain ⟨hmark, hescape, hline⟩ := h c List.mem_cons_self
    rw [List.cons_append, literalBody, ih fun c hc => h c (List.mem_cons_of_mem _ hc)]
    · simp [hescape, hline, consRead]
    · exact hmark

/-! ### Tripled marks -/

/-- Up to two marks before another character belong to the text, if one does that at most one other
follows. -/
theorem read_marks {read : List Char → Option (List Char × List Char)} {q : Char}
    (hmark : ∀ rest, (∀ tail, rest ≠ q :: q :: tail) →
      read (q :: rest) = (read rest).map (consRead q))
    {run : Nat} (hrun : run ≤ 2) {body : List Char} (h : body.head? ≠ some q) :
    read (List.replicate run q ++ body) =
      (read body).map (appendRead (List.replicate run q)) := by
  have hone := hmark body fun tail heq => h (by rw [heq]; rfl)
  match run, hrun with
  | 0, _ =>
    show read body = _
    cases read body <;> rfl
  | 1, _ => exact hone
  | 2, _ =>
    have htwo := hmark (q :: body) fun tail heq => h (by rw [(List.cons.inj heq).2]; rfl)
    show read (q :: q :: body) = _
    rw [htwo, hone, Option.map_map]
    rfl

/-- A mark that at most one other follows belongs to the text. -/
theorem tripledBasicBody_mark (rest : List Char) (h : ∀ tail, rest ≠ '"' :: '"' :: tail) :
    tripledBasicBody .kept ('"' :: rest) = (tripledBasicBody .kept rest).map (consRead '"') := by
  rw [tripledBasicBody.eq_def]
  split <;> simp_all
  next heq =>
    obtain ⟨rfl, rfl⟩ := heq
    rfl

/-- A character that needs no escape is read as itself. -/
theorem tripledBasicBody_plain {c : Char} (hmark : c ≠ '"') (hescape : needsEscape c = false)
    (hslash : c ≠ '\\') (rest : List Char) :
    tripledBasicBody .kept (c :: rest) = (tripledBasicBody .kept rest).map (consRead c) := by
  have hreturn : c ≠ '\r' := by
    rintro rfl
    exact absurd hescape (by decide)
  rw [tripledBasicBody.eq_def]
  split <;> simp_all

/-- An escape of one letter is read. -/
theorem tripledBasicBody_letter {e c : Char} (h : escape? e = some c) (rest : List Char) :
    tripledBasicBody .kept ('\\' :: e :: rest) =
      (tripledBasicBody .kept rest).map (consRead c) := by
  obtain ⟨hu, hU, hspace, htab, hline, hreturn⟩ := escape?_letter h
  rw [tripledBasicBody, h]
  · cases tripledBasicBody .kept rest <;> rfl
  · exact fun _ _ _ _ _ heq => absurd heq hu
  · exact fun _ _ _ _ _ _ _ _ _ heq => absurd heq hU
  · exact hline
  · exact fun _ heq => absurd heq hreturn
  · exact hspace
  · exact htab
  · exact nofun

/-- A character that is written between tripled quotation marks is read back. -/
theorem tripledBasicBody_escaped {c : Char} (hmark : c ≠ '"') (rest : List Char) :
    tripledBasicBody .kept (escaped c ++ rest) =
      (tripledBasicBody .kept rest).map (consRead c) := by
  obtain ⟨e, hc, he⟩ | ⟨x, y, hc, hxy⟩ | ⟨hc, hescape, hslash⟩ := escaped_cases c
  · rw [hc]
    exact tripledBasicBody_letter he rest
  · rw [hc]
    show tripledBasicBody .kept ('\\' :: 'u' :: '0' :: '0' :: x :: y :: rest) = _
    rw [tripledBasicBody, hxy]
    · cases tripledBasicBody .kept rest <;> rfl
    · exact nofun
  · rw [hc]
    exact tripledBasicBody_plain hmark hescape hslash rest

/-- Three marks close a text that ends in at most two. -/
theorem tripledBasicBody_close {run : Nat} (hrun : run ≤ 2) {rest : List Char} (h : NoMark rest) :
    tripledBasicBody .kept (List.replicate run '"' ++ '"' :: '"' :: '"' :: rest) =
      some (List.replicate run '"', rest) := by
  have hhead (tail : List Char) : rest ≠ '"' :: tail := fun heq =>
    (h '"' (by rw [heq]; rfl)).1 rfl
  match run, hrun with
  | 0, _ =>
    show tripledBasicBody .kept ('"' :: '"' :: '"' :: rest) = some ([], rest)
    rw [tripledBasicBody]
    · exact fun tail heq => hhead _ heq
    · exact fun tail heq => hhead _ heq
    · exact nofun
  | 1, _ =>
    show tripledBasicBody .kept ('"' :: '"' :: '"' :: '"' :: rest) = some (['"'], rest)
    rw [tripledBasicBody]
    · exact fun tail heq => hhead _ heq
    · exact nofun
  | 2, _ => rfl

/-- What is written for a character begins with a backslash or is the character. -/
theorem head?_escaped (c : Char) (rest : List Char) :
    (escaped c ++ rest).head? = some '\\' ∨
      (escaped c ++ rest).head? = some c ∧ needsEscape c = false := by
  obtain ⟨e, hc, -⟩ | ⟨x, y, hc, -⟩ | ⟨hc, hescape, -⟩ := escaped_cases c
  · exact .inl (by rw [hc]; rfl)
  · exact .inl (by rw [hc]; rfl)
  · exact .inr ⟨by rw [hc]; rfl, hescape⟩

/-- What is written for a character that is no mark does not begin with one. -/
theorem head?_escaped_ne {c : Char} (hmark : c ≠ '"') (rest : List Char) :
    (escaped c ++ rest).head? ≠ some '"' := by
  rcases head?_escaped c rest with h | ⟨h, -⟩ <;> rw [h]
  · decide
  · exact fun heq => hmark (Option.some.inj heq)

/-- A text is read back from between tripled quotation marks, after up to two marks. -/
theorem tripledBasicBody_escapedChars (cs : List Char) {rest : List Char} (h : NoMark rest)
    {run : Nat} (hrun : run ≤ 2) :
    tripledBasicBody .kept
        (List.replicate run '"' ++ (escapedChars true run cs ++ '"' :: '"' :: '"' :: rest)) =
      some (List.replicate run '"' ++ cs, rest) := by
  induction cs generalizing run with
  | nil =>
    rw [escapedChars, List.nil_append, tripledBasicBody_close hrun h, List.append_nil]
  | cons c cs ih =>
    have hnone : tripledBasicBody .kept (escapedChars true 0 cs ++ '"' :: '"' :: '"' :: rest) =
        some (cs, rest) := ih (Nat.zero_le 2)
    by_cases hmark : c = '"'
    · subst hmark
      -- A third mark in a row is escaped and ends the run; any other one makes it longer.
      by_cases hthird : 2 ≤ run
      · rw [escapedChars, if_pos rfl, if_pos hthird]
        show tripledBasicBody .kept (List.replicate run '"' ++ '\\' :: '"' ::
          (escapedChars true 0 cs ++ '"' :: '"' :: '"' :: rest)) = _
        rw [read_marks tripledBasicBody_mark hrun (by simp), tripledBasicBody_letter rfl, hnone]
        rfl
      · have hmore := @ih (run + 1) (by omega)
        rw [List.replicate_succ', List.append_assoc, List.append_assoc] at hmore
        rw [escapedChars, if_pos rfl, if_neg hthird]
        exact hmore
    by_cases hline : c = '\n'
    · subst hline
      rw [escapedChars, if_pos rfl, List.cons_append, read_marks tripledBasicBody_mark hrun (by simp),
        tripledBasicBody_plain hmark rfl (by decide), hnone]
      rfl
    · rw [escapedChars, List.append_assoc,
        read_marks tripledBasicBody_mark hrun (head?_escaped_ne hmark _),
        tripledBasicBody_escaped hmark, hnone]
      · rfl
      · exact hmark
      · exact hline

/-- A run goes on at least as long as it has been. -/
theorem le_longestRun (q : Char) (run : Nat) (cs : List Char) : run ≤ longestRun q run cs := by
  induction cs generalizing run with
  | nil => exact Nat.le_refl run
  | cons c cs ih =>
    rw [longestRun]
    split
    · have := ih (run + 1)
      omega
    · omega

/-- A text without a run of a character does not have it. -/
theorem not_mem_of_longestRun {q : Char} {cs : List Char} {run : Nat}
    (h : longestRun q run cs = 0) : q ∉ cs := by
  induction cs generalizing run with
  | nil => simp
  | cons c cs ih =>
    rw [longestRun] at h
    split at h
    · have := le_longestRun q (run + 1) cs
      omega
    case isFalse hne =>
      rw [List.mem_cons, not_or]
      exact ⟨fun heq => hne heq.symm, @ih 0 (by omega)⟩

/-- An apostrophe that at most one other follows belongs to the text. -/
theorem tripledLiteralBody_mark (rest : List Char) (h : ∀ tail, rest ≠ '\'' :: '\'' :: tail) :
    tripledLiteralBody ('\'' :: rest) = (tripledLiteralBody rest).map (consRead '\'') := by
  rw [tripledLiteralBody.eq_def]
  split <;> simp_all
  next heq =>
    obtain ⟨rfl, rfl⟩ := heq
    rfl

/-- A character that may stand between apostrophes is read as itself. -/
theorem tripledLiteralBody_plain {c : Char} (hmark : c ≠ '\'') (hescape : needsEscape c = false)
    (rest : List Char) :
    tripledLiteralBody (c :: rest) = (tripledLiteralBody rest).map (consRead c) := by
  have hreturn : c ≠ '\r' := by
    rintro rfl
    exact absurd hescape (by decide)
  rw [tripledLiteralBody.eq_def]
  split <;> simp_all

/-- Three apostrophes close a text that ends in at most two. -/
theorem tripledLiteralBody_close {run : Nat} (hrun : run ≤ 2) {rest : List Char}
    (h : NoMark rest) :
    tripledLiteralBody (List.replicate run '\'' ++ '\'' :: '\'' :: '\'' :: rest) =
      some (List.replicate run '\'', rest) := by
  have hhead (tail : List Char) : rest ≠ '\'' :: tail := fun heq =>
    (h '\'' (by rw [heq]; rfl)).2 rfl
  match run, hrun with
  | 0, _ =>
    show tripledLiteralBody ('\'' :: '\'' :: '\'' :: rest) = some ([], rest)
    rw [tripledLiteralBody]
    · exact fun tail heq => hhead _ heq
    · exact fun tail heq => hhead _ heq
  | 1, _ =>
    show tripledLiteralBody ('\'' :: '\'' :: '\'' :: '\'' :: rest) = some (['\''], rest)
    rw [tripledLiteralBody]
    exact fun tail heq => hhead _ heq
  | 2, _ => rfl

/-- A text without controls that has at most two apostrophes in a row is read back from between
tripled apostrophes, after up to two apostrophes. -/
theorem tripledLiteralBody_append {cs rest : List Char} (h : NoMark rest) {run : Nat}
    (hrun : longestRun '\'' run cs ≤ 2) (hescape : ∀ c ∈ cs, needsEscape c = false) :
    tripledLiteralBody (List.replicate run '\'' ++ (cs ++ '\'' :: '\'' :: '\'' :: rest)) =
      some (List.replicate run '\'' ++ cs, rest) := by
  induction cs generalizing run with
  | nil =>
    have hclose : run ≤ 2 := hrun
    rw [List.nil_append, tripledLiteralBody_close hclose h, List.append_nil]
  | cons c cs ih =>
    have hle := le_longestRun '\'' run (c :: cs)
    have hescapes : ∀ c ∈ cs, needsEscape c = false := fun c hc =>
      hescape c (List.mem_cons_of_mem _ hc)
    rw [longestRun] at hrun
    split at hrun
    case isTrue hmark =>
      subst hmark
      have hmore := ih hrun hescapes
      rw [List.replicate_succ', List.append_assoc, List.append_assoc] at hmore
      exact hmore
    case isFalse hmark =>
      have hnone := @ih 0 (by omega) hescapes
      rw [List.replicate_zero, List.nil_append, List.nil_append] at hnone
      rw [List.cons_append, read_marks tripledLiteralBody_mark (by omega) (by simpa using hmark),
        tripledLiteralBody_plain hmark (hescape c List.mem_cons_self), hnone]
      rfl

/-! ### The four forms -/

/-- Between single quotation marks, no text begins with a mark. -/
theorem head?_escapedChars_ne (c : Char) (cs rest : List Char) (run : Nat) :
    (escapedChars false run (c :: cs) ++ rest).head? ≠ some '"' := by
  by_cases hmark : c = '"'
  · subst hmark
    simp [escapedChars]
  by_cases hline : c = '\n'
  · subst hline
    simp [escapedChars]
  · rw [escapedChars, List.append_assoc]
    · exact head?_escaped_ne hmark _
    · exact hmark
    · exact hline

/-- Between single quotation marks, a text is read back. -/
theorem string?_single (cs : List Char) {rest : List Char} (h : NoMark rest) :
    string? ('"' :: (escapedChars false 0 cs ++ ['"']) ++ rest) = some (cs, rest) := by
  have hbody := basicBody_escapedChars cs rest 0
  rw [List.cons_append, List.append_assoc]
  show string? ('"' :: (escapedChars false 0 cs ++ '"' :: rest)) = _
  rw [string?, hbody]
  -- The marks are not the first two of three.
  intro tail htail
  cases cs with
  | nil => exact (h '"' (by rw [(List.cons.inj htail).2]; rfl)).1 rfl
  | cons c cs => exact head?_escapedChars_ne c cs _ 0 (by rw [htail]; rfl)

/-- Between single apostrophes, a text without escapes, newlines and apostrophes is read back. -/
theorem string?_literal {cs rest : List Char} (h : NoMark rest)
    (hcs : ∀ c ∈ cs, c ≠ '\'' ∧ needsEscape c = false ∧ c ≠ '\n') :
    string? ('\'' :: (cs ++ ['\'']) ++ rest) = some (cs, rest) := by
  have hbody := literalBody_append hcs rest
  rw [List.cons_append, List.append_assoc]
  show string? ('\'' :: (cs ++ '\'' :: rest)) = _
  rw [string?, hbody]
  intro tail htail
  cases cs with
  | nil => exact (h '\'' (by rw [(List.cons.inj htail).2]; rfl)).2 rfl
  | cons c cs => exact (hcs c List.mem_cons_self).1 (List.cons.inj htail).1

/-- A newline right after tripled marks is not part of the text, and one is put there whenever the
text has any. -/
theorem skipOpening_opening {cs body : List Char} (h : '\n' ∉ cs → body.head? ≠ some '\n')
    (h' : body.head? ≠ some '\r') : skipOpening (opening cs ++ body) = body := by
  unfold opening
  split
  · rfl
  case isFalse hnot =>
    have hhead := h (by simpa using hnot)
    rw [List.nil_append, skipOpening.eq_def]
    split <;> simp_all

/-- Between tripled quotation marks, a text begins with a line break only if it is a newline. -/
theorem head?_escapedChars_true (cs rest : List Char) :
    (escapedChars true 0 cs ++ '"' :: rest).head? ≠ some '\r' ∧
      ('\n' ∉ cs → (escapedChars true 0 cs ++ '"' :: rest).head? ≠ some '\n') := by
  cases cs with
  | nil => simp [escapedChars]
  | cons c cs =>
    by_cases hmark : c = '"'
    · subst hmark
      simp [escapedChars]
    by_cases hline : c = '\n'
    · subst hline
      simp [escapedChars]
    · rw [escapedChars, List.append_assoc]
      · rcases head?_escaped c (escapedChars true 0 cs ++ '"' :: rest) with h | ⟨h, hescape⟩ <;>
          rw [h]
        · exact ⟨by decide, fun _ => by decide⟩
        · refine ⟨fun heq => ?_, fun _ heq => hline (Option.some.inj heq)⟩
          obtain rfl := Option.some.inj heq
          exact absurd hescape (by decide)
      · exact hmark
      · exact hline

/-- Between tripled quotation marks, a text is read back. -/
theorem string?_tripled (cs : List Char) {rest : List Char} (h : NoMark rest) :
    string? (['"', '"', '"'] ++ opening cs ++ escapedChars true 0 cs ++ ['"', '"', '"'] ++ rest) =
      some (cs, rest) := by
  have hbody := tripledBasicBody_escapedChars cs h (Nat.zero_le 2)
  obtain ⟨hreturn, hline⟩ := head?_escapedChars_true cs ('"' :: '"' :: rest)
  rw [List.replicate_zero, List.nil_append, List.nil_append] at hbody
  rw [List.append_assoc, List.append_assoc, List.append_assoc]
  show tripledBasicBody .kept (skipOpening (opening cs ++
    (escapedChars true 0 cs ++ '"' :: '"' :: '"' :: rest))) = _
  rw [skipOpening_opening hline hreturn, hbody]

/-- Between tripled apostrophes, a text without escapes that has at most two apostrophes in a row is
read back. -/
theorem string?_tripledLiteral {cs rest : List Char} (h : NoMark rest)
    (hrun : longestRun '\'' 0 cs ≤ 2) (hescape : ∀ c ∈ cs, needsEscape c = false) :
    string? (['\'', '\'', '\''] ++ opening cs ++ cs ++ ['\'', '\'', '\''] ++ rest) =
      some (cs, rest) := by
  have hbody := tripledLiteralBody_append h hrun hescape
  rw [List.replicate_zero, List.nil_append, List.nil_append] at hbody
  rw [List.append_assoc, List.append_assoc, List.append_assoc]
  show tripledLiteralBody (skipOpening (opening cs ++ (cs ++ '\'' :: '\'' :: '\'' :: rest))) = _
  rw [skipOpening_opening, hbody]
  · intro hline
    cases cs with
    | nil => simp
    | cons c cs => exact fun heq => hline (by rw [← Option.some.inj heq]; exact List.mem_cons_self)
  · cases cs with
    | nil => simp
    | cons c cs =>
      have hfirst := hescape c List.mem_cons_self
      intro heq
      obtain rfl := Option.some.inj heq
      exact absurd hfirst (by decide)

/-- A text is read back, whatever follows it but a mark. -/
theorem string?_stringChars (cs : List Char) {rest : List Char} (h : NoMark rest) :
    string? (stringChars cs ++ rest) = some (cs, rest) := by
  unfold stringChars
  extract_lets controls newline slash marks apostrophes single tripled
  -- The forms in the order in which they are tried; where apostrophes are the marks, nothing in the
  -- text needs an escape.
  split
  · exact string?_single cs h
  split
  case isTrue hliteral =>
    simp only [Bool.and_eq_true, Bool.not_eq_true', beq_iff_eq] at hliteral
    obtain ⟨⟨hcontrols, hapostrophes⟩, hnewline⟩ := hliteral
    refine string?_literal h fun c hc => ⟨?_, ?_, ?_⟩
    · rintro rfl
      exact not_mem_of_longestRun hapostrophes hc
    · simpa using List.any_eq_false.1 hcontrols c hc
    · rintro rfl
      exact Bool.false_ne_true (hnewline.symm.trans (List.contains_iff_mem.2 hc))
  split
  · exact string?_tripled cs h
  split
  case isTrue hliteral =>
    simp only [Bool.and_eq_true, Bool.not_eq_true', decide_eq_true_eq] at hliteral
    obtain ⟨hcontrols, hapostrophes⟩ := hliteral
    refine string?_tripledLiteral h hapostrophes fun c hc => ?_
    simpa using List.any_eq_false.1 hcontrols c hc
  split
  · exact string?_tripled cs h
  · exact string?_single cs h

end Waymark.Toml
