import Waymark.Proofs.Json.Scalars

/-!
# Values that are read back

A value is read back from its text, whether this is written without blanks or with one item or
member a line (`read?_compact`, `read?_pretty`). The two layouts differ in nothing but blanks: both
are lists of parts between brackets (`bracketed`), and a reader of parts skips what blanks there
are (`enclosed_bracketed`). All that is needed of a value is that it is not nested deeper than the
reader goes, and that its numbers have no zero in front (`Writable`).
-/

namespace Waymark.Json

open Decimal

/-- A reader takes a text as a value, and leaves what comes after it. -/
def Reads {α : Type} (part : List Char → Option (α × List Char)) (x : α) (cs : List Char) : Prop :=
  ∀ rest, EndsNumber rest → part (cs ++ rest) = some (x, rest)

/-- A value that is read back with at most `depth` levels of lists and objects. -/
inductive Writable : Nat → Json → Prop
  /-- The literal `null`. -/
  | null {depth : Nat} : Writable depth .null
  /-- A truth value. -/
  | bool {depth : Nat} (value : Bool) : Writable depth (.bool value)
  /-- A number without a zero in front. -/
  | number {depth : Nat} {n : Numeral} (h : PlainWhole n.whole) : Writable depth (.number n)
  /-- A text. -/
  | string {depth : Nat} (value : String) : Writable depth (.string value)
  /-- A list of such values. -/
  | array {depth : Nat} {items : List Json} (h : ∀ v ∈ items, Writable depth v) :
    Writable (depth + 1) (.array items)
  /-- An object of such values. -/
  | object {depth : Nat} {members : List (String × Json)} (h : ∀ m ∈ members, Writable depth m.2) :
    Writable (depth + 1) (.object members)

/-- Things are each related to what is made of them. -/
theorem forall₂_map {α β : Type} {r : α → β → Prop} {f : α → β} {xs : List α}
    (h : ∀ x ∈ xs, r x (f x)) : List.Forall₂ r xs (xs.map f) :=
  List.forall₂_map_right_iff.2 (List.forall₂_same.2 h)

/-! ### Blanks -/

/-- A text consists of blanks. -/
def Blanks (cs : List Char) : Prop := ∀ c ∈ cs, isSpace c = true

/-- Nothing at all consists of blanks. -/
theorem blanks_nil : Blanks [] := nofun

/-- A new line consists of blanks. -/
theorem blanks_newLine (level : Nat) : Blanks (newLine level) := by
  intro c hc
  obtain rfl | hc := List.mem_cons.1 hc
  · rfl
  · rw [List.eq_of_mem_replicate hc]
    rfl

/-- Blanks in front are skipped. -/
theorem skipSpace_append {lead : List Char} (h : Blanks lead) (cs : List Char) :
    skipSpace (lead ++ cs) = skipSpace cs :=
  List.dropWhile_append_of_pos h

/-- What begins with another character stays as it is. -/
theorem skipSpace_cons {c : Char} (h : isSpace c = false) (cs : List Char) :
    skipSpace (c :: cs) = c :: cs :=
  List.dropWhile_cons_of_neg (by simp [h])

/-- A blank is one of four characters. -/
theorem isSpace_cases {c : Char} (h : isSpace c = true) :
    c = ' ' ∨ c = '\t' ∨ c = '\n' ∨ c = '\r' := by
  simpa [isSpace, or_assoc] using h

/-- No number goes on with blanks. -/
theorem EndsNumber.blanks {trail rest : List Char} (htrail : Blanks trail) (h : EndsNumber rest) :
    EndsNumber (trail ++ rest) := by
  cases trail with
  | nil => exact h
  | cons c trail =>
    refine EndsNumber.cons ?_ _
    obtain rfl | rfl | rfl | rfl := isSpace_cases (htrail c List.mem_cons_self) <;> decide

/-! ### Brackets -/

/-- A character closes a list or an object. -/
def Closes (c : Char) : Prop := c = ']' ∨ c = '\x7d'

/-- A text begins with a character that is neither a blank nor a closing bracket. -/
def Begins (cs : List Char) : Prop :=
  ∃ c rest, cs = c :: rest ∧ isSpace c = false ∧ ¬ Closes c

/-- A closing bracket is no blank and no comma, and no number goes on with it. -/
theorem Closes.stops {close : Char} (h : Closes close) :
    isSpace close = false ∧ ',' ≠ close ∧
      (Digit.ofChar? close = none ∧ close ≠ '.' ∧ close ≠ 'e' ∧ close ≠ 'E') := by
  obtain rfl | rfl := h <;> decide

/-- The characters behind an opening bracket: some parts, each after `lead` and with commas between
them, then `trail` and the closing bracket. Nothing but the bracket stands behind an opening one if
there are no parts. -/
def bracketed (lead trail : List Char) (close : Char) : List (List Char) → List Char
  | [] => [close]
  | cs :: css =>
    lead ++ (cs ++ ((css.flatMap fun cs => ',' :: (lead ++ cs)) ++ (trail ++ [close])))

section Parts

variable {α : Type} {part : List Char → Option (α × List Char)} {lead trail : List Char}
  {close : Char}

/-- Parts are read up to and with the closing bracket. -/
theorem parts_bracketed (hclose : Closes close) (htrail : Blanks trail)
    (hskip : ∀ cs, part (lead ++ cs) = part cs) {x : α} {cs : List Char} (hx : Reads part x cs)
    {xs : List α} {css : List (List Char)} (h : List.Forall₂ (Reads part) xs css) {fuel : Nat}
    (hfuel : css.length < fuel) (rest : List Char) :
    parts part close fuel
        (cs ++ ((css.flatMap fun cs => ',' :: (lead ++ cs)) ++ (trail ++ close :: rest))) =
      some (x :: xs, rest) := by
  obtain ⟨hspace, hcomma, hends⟩ := hclose.stops
  -- Each part is read up to a comma or to the blanks before the bracket.
  induction h generalizing x cs fuel with
  | nil =>
    obtain ⟨fuel, rfl⟩ : ∃ k, fuel = k + 1 := ⟨fuel - 1, by simp at hfuel; omega⟩
    have hread := hx (trail ++ close :: rest) (.blanks htrail (.cons hends rest))
    have hstop : skipSpace (trail ++ close :: rest) = close :: rest := by
      rw [skipSpace_append htrail, skipSpace_cons hspace]
    show parts part close (fuel + 1) (cs ++ (trail ++ close :: rest)) = _
    simp [parts, hread, hstop]
  | @cons y cs' ys css' hy _ ih =>
    obtain ⟨fuel, rfl⟩ : ∃ k, fuel = k + 1 := ⟨fuel - 1, by simp at hfuel; omega⟩
    set more := cs' ++ ((css'.flatMap fun cs => ',' :: (lead ++ cs)) ++ (trail ++ close :: rest))
      with hmore
    have hread := hx (',' :: (lead ++ more)) (.cons (by decide) _)
    have hstop : skipSpace (',' :: (lead ++ more)) = ',' :: (lead ++ more) :=
      skipSpace_cons (by decide) _
    have hnext : parts part close fuel (lead ++ more) = some (y :: ys, rest) := by
      rw [← ih hy (by simpa using hfuel), ← hmore]
      -- The reader of a part skips the blanks itself.
      cases fuel with
      | zero => rfl
      | succ fuel => simp only [parts, hskip]
    have htext : cs ++ (((cs' :: css').flatMap fun cs => ',' :: (lead ++ cs)) ++
        (trail ++ close :: rest)) = cs ++ ',' :: (lead ++ more) := by
      simp [hmore]
    rw [htext]
    simp [parts, hread, hstop, hcomma, hnext]

/-- What stands between brackets is read up to and with the closing one. -/
theorem enclosed_bracketed (hclose : Closes close) (hlead : Blanks lead) (htrail : Blanks trail)
    (hskip : ∀ cs, part (lead ++ cs) = part cs) {xs : List α} {css : List (List Char)}
    (h : List.Forall₂ (Reads part) xs css) (hbegins : ∀ cs ∈ css, Begins cs) (rest : List Char) :
    enclosed part close (bracketed lead trail close css ++ rest) = some (xs, rest) := by
  cases h with
  | nil =>
    show enclosed part close (close :: rest) = _
    rw [enclosed, skipSpace_cons hclose.stops.1]
    exact if_pos rfl
  | @cons x cs xs css hx h =>
    obtain ⟨c, cs', rfl, hspace, hopen⟩ := hbegins cs List.mem_cons_self
    have hne : c ≠ close := by
      rintro rfl
      exact hopen hclose
    have hlength : css.length ≤ (css.flatMap fun cs => ',' :: (lead ++ cs)).length := by
      clear h hbegins
      induction css with
      | nil => exact Nat.le_refl 0
      | cons cs css ih =>
        rw [List.flatMap_cons, List.length_append, List.length_cons, List.length_cons]
        omega
    set more := (css.flatMap fun cs => ',' :: (lead ++ cs)) ++ (trail ++ close :: rest) with hmore
    have htext : bracketed lead trail close ((c :: cs') :: css) ++ rest =
        lead ++ (c :: (cs' ++ more)) := by
      simp [bracketed, hmore]
    have hfuel : css.length < (cs' ++ more).length + 1 := by
      rw [hmore, List.length_append, List.length_append]
      omega
    have hparts := parts_bracketed hclose htrail hskip hx h hfuel rest
    rw [htext, enclosed, skipSpace_append hlead, skipSpace_cons hspace]
    exact (if_neg hne).trans hparts

end Parts

/-! ### Layouts -/

/-- The characters of a member, with `gap` after the colon. -/
def memberChars (gap : List Char) (chars : Json → List Char) (m : String × Json) : List Char :=
  stringChars m.1 ++ ':' :: (gap ++ chars m.2)

/-- What is written part by part, each after a comma and `lead`, are the parts behind the first one
of those between brackets. -/
theorem more_eq_flatMap {α : Type} {more : List α → List Char} {lead : List Char}
    {chars : α → List Char} (hnil : more [] = [])
    (hcons : ∀ x xs, more (x :: xs) = ',' :: (lead ++ (chars x ++ more xs))) (xs : List α) :
    more xs = (xs.map chars).flatMap fun cs => ',' :: (lead ++ cs) := by
  induction xs with
  | nil => exact hnil
  | cons x xs ih =>
    rw [hcons, ih, List.map_cons, List.flatMap_cons, List.cons_append, List.append_assoc]

/-- Without blanks, a list is its items between brackets. -/
theorem compactChars_array (items : List Json) :
    compactChars (.array items) = '[' :: bracketed [] [] ']' (items.map compactChars) := by
  have hcons (v : Json) (items : List Json) :
      compactMore (v :: items) = ',' :: ([] ++ (compactChars v ++ compactMore items)) := by
    simp [compactMore]
  cases items with
  | nil => rfl
  | cons v items =>
    simp [compactChars, compactItems, bracketed, more_eq_flatMap rfl hcons items]

/-- Without blanks, an object is its members between brackets. -/
theorem compactChars_object (members : List (String × Json)) :
    compactChars (.object members) =
      '\x7b' :: bracketed [] [] '\x7d' (members.map (memberChars [] compactChars)) := by
  have hcons (m : String × Json) (members : List (String × Json)) :
      compactMoreMembers (m :: members) =
        ',' :: ([] ++ (memberChars [] compactChars m ++ compactMoreMembers members)) := by
    simp [compactMoreMembers, memberChars]
  cases members with
  | nil => rfl
  | cons m members =>
    simp [compactChars, compactMembers, memberChars, bracketed, more_eq_flatMap rfl hcons members]

/-- In lines, a list is its items between brackets, each on a line. -/
theorem prettyChars_array (level : Nat) (items : List Json) :
    prettyChars level (.array items) = '[' :: bracketed (newLine (level + 1)) (newLine level) ']'
      (items.map (prettyChars (level + 1))) := by
  have hcons (v : Json) (items : List Json) : prettyMore level (v :: items) =
      ',' :: (newLine (level + 1) ++ (prettyChars (level + 1) v ++ prettyMore level items)) := by
    simp [prettyMore]
  cases items with
  | nil => rfl
  | cons v items => simp [prettyChars, bracketed, more_eq_flatMap rfl hcons items]

/-- In lines, an object is its members between brackets, each on a line. -/
theorem prettyChars_object (level : Nat) (members : List (String × Json)) :
    prettyChars level (.object members) =
      '\x7b' :: bracketed (newLine (level + 1)) (newLine level) '\x7d'
        (members.map (memberChars [' '] (prettyChars (level + 1)))) := by
  have hcons (m : String × Json) (members : List (String × Json)) :
      prettyMoreMembers level (m :: members) = ',' :: (newLine (level + 1) ++
        (memberChars [' '] (prettyChars (level + 1)) m ++ prettyMoreMembers level members)) := by
    simp [prettyMoreMembers, memberChars]
  cases members with
  | nil => rfl
  | cons m members => simp [prettyChars, memberChars, bracketed, more_eq_flatMap rfl hcons members]

/-! ### Values -/

section Values

variable {halves : Halves} {depth : Nat}

/-- Blanks before a value are skipped. -/
theorem value_append {lead : List Char} (h : Blanks lead) (cs : List Char) :
    value halves depth (lead ++ cs) = value halves depth cs := by
  cases depth with
  | zero => rw [value, value, skipSpace_append h]
  | succ depth => rw [value, value, skipSpace_append h]

/-- Blanks before a member are skipped. -/
theorem member_append {lead : List Char} (h : Blanks lead)
    (read : List Char → Option (Json × List Char)) (cs : List Char) :
    member halves read (lead ++ cs) = member halves read cs := by
  simp only [member, name, skipSpace_append h]

/-- A text of other characters than blanks and opening brackets is read as a scalar. -/
theorem value_scalar {c : Char} (hspace : isSpace c = false) (hopen : c ≠ '[' ∧ c ≠ '\x7b')
    (cs : List Char) : value halves depth (c :: cs) = scalar halves (c :: cs) := by
  cases depth with
  | zero => rw [value, skipSpace_cons hspace]
  | succ depth =>
    rw [value, skipSpace_cons hspace]
    split
    · exact absurd (List.cons.inj ‹_›).1 hopen.1
    · exact absurd (List.cons.inj ‹_›).1 hopen.2
    · rfl

/-- A number begins with a dash or with a digit. -/
theorem chars_eq_cons {n : Numeral} (hwhole : PlainWhole n.whole) :
    ∃ c rest, n.chars = c :: rest ∧ (c = '-' ∨ ∃ d : Digit, c = d.toChar) := by
  obtain ⟨d, ds, hds⟩ := List.exists_cons_of_ne_nil hwhole.ne_nil
  rw [chars_eq_append, hds]
  cases n.negative with
  | true => exact ⟨_, _, rfl, .inl rfl⟩
  | false => exact ⟨_, _, rfl, .inr ⟨d, rfl⟩⟩

/-- What a number begins with is neither a blank nor a mark of any other value. -/
theorem number_head {c : Char} (h : c = '-' ∨ ∃ d : Digit, c = d.toChar) :
    isSpace c = false ∧ (c ≠ '[' ∧ c ≠ '\x7b') ∧ (c ≠ ']' ∧ c ≠ '\x7d') ∧
      (c ≠ '"' ∧ c ≠ 'n' ∧ c ≠ 't' ∧ c ≠ 'f') := by
  have hdigit : ∀ d : Digit, isSpace d.toChar = false ∧ (d.toChar ≠ '[' ∧ d.toChar ≠ '\x7b') ∧
      (d.toChar ≠ ']' ∧ d.toChar ≠ '\x7d') ∧
      (d.toChar ≠ '"' ∧ d.toChar ≠ 'n' ∧ d.toChar ≠ 't' ∧ d.toChar ≠ 'f') := by decide
  obtain rfl | ⟨d, rfl⟩ := h
  · decide
  · exact hdigit d

/-- A number is read back. -/
theorem reads_number {n : Numeral} (hwhole : PlainWhole n.whole) :
    Reads (value halves depth) (.number n) n.chars := by
  intro rest hrest
  obtain ⟨c, cs, hchars, hc⟩ := chars_eq_cons hwhole
  obtain ⟨hspace, hopen, -, hquote, hnull, htrue, hfalse⟩ := number_head hc
  have hread := numeral_chars hwhole hrest
  rw [hchars, List.cons_append] at hread ⊢
  rw [value_scalar hspace hopen, scalar.eq_def]
  -- No other kind of scalar begins as a number does.
  split
  · exact absurd (List.cons.inj ‹_›).1 hquote
  · exact absurd (List.cons.inj ‹_›).1 hnull
  · exact absurd (List.cons.inj ‹_›).1 htrue
  · exact absurd (List.cons.inj ‹_›).1 hfalse
  · rw [hread]
    rfl

/-- The literal `null` is read back. -/
theorem reads_null : Reads (value halves depth) .null "null".toList := by
  intro rest _
  show value halves depth ('n' :: 'u' :: 'l' :: 'l' :: rest) = _
  rw [value_scalar (by decide) (by decide)]
  rfl

/-- A truth value is read back. -/
theorem reads_bool (b : Bool) : Reads (value halves depth) (.bool b) (scalarChars (.bool b)) := by
  intro rest _
  cases b with
  | true =>
    show value halves depth ('t' :: 'r' :: 'u' :: 'e' :: rest) = _
    rw [value_scalar (by decide) (by decide)]
    rfl
  | false =>
    show value halves depth ('f' :: 'a' :: 'l' :: 's' :: 'e' :: rest) = _
    rw [value_scalar (by decide) (by decide)]
    rfl

/-- A text between quotation marks is its characters and the closing mark, after the opening one. -/
theorem stringChars_append (s : String) (rest : List Char) :
    stringChars s ++ rest = '"' :: (s.toList.flatMap escapedChar ++ '"' :: rest) := by
  simp [stringChars]

/-- A text is read back. -/
theorem reads_string (s : String) : Reads (value halves depth) (.string s) (stringChars s) := by
  intro rest _
  rw [stringChars_append, value_scalar (by decide) (by decide)]
  simp only [scalar, stringBody_escaped, Option.map_some]

/-- A member is read back if its value is. -/
theorem reads_member {gap : List Char} (hgap : Blanks gap) {chars : Json → List Char}
    {m : String × Json} (h : Reads (value halves depth) m.2 (chars m.2)) :
    Reads (member halves (value halves depth)) m (memberChars gap chars m) := by
  obtain ⟨key, v⟩ := m
  intro rest hrest
  have hvalue : value halves depth (gap ++ (chars v ++ rest)) = some (v, rest) := by
    rw [value_append hgap]
    exact h rest hrest
  have htext : memberChars gap chars (key, v) ++ rest =
      '"' :: (key.toList.flatMap escapedChar ++ '"' :: ':' :: (gap ++ (chars v ++ rest))) := by
    simp [memberChars, stringChars]
  have hname : name halves (memberChars gap chars (key, v) ++ rest) =
      some (key, gap ++ (chars v ++ rest)) := by
    have hcolon (cs : List Char) : skipSpace (':' :: cs) = ':' :: cs := skipSpace_cons (by decide) _
    rw [htext, name, skipSpace_cons (by decide)]
    simp only [stringBody_escaped, Option.bind_eq_bind, Option.bind_some, hcolon]
    rfl
  simp only [member, hname, Option.bind_eq_bind, Option.bind_some, hvalue]
  rfl

/-- A member begins with a quotation mark. -/
theorem begins_member (gap : List Char) (chars : Json → List Char) (m : String × Json) :
    Begins (memberChars gap chars m) :=
  ⟨'"', _, rfl, by decide, by unfold Closes; decide⟩

/-- A list is read back if its items are, which is said of each layout by `chars`. -/
theorem reads_array {lead trail : List Char} (hlead : Blanks lead) (htrail : Blanks trail)
    {chars : Json → List Char} {items : List Json}
    (h : ∀ v ∈ items, Reads (value halves depth) v (chars v))
    (hbegins : ∀ v ∈ items, Begins (chars v)) :
    Reads (value halves (depth + 1)) (.array items)
      ('[' :: bracketed lead trail ']' (items.map chars)) := by
  intro rest _
  have hitems : List.Forall₂ (Reads (value halves depth)) items (items.map chars) := forall₂_map h
  have hread := enclosed_bracketed (.inl rfl) hlead htrail (value_append hlead) hitems
    (List.forall_mem_map.2 hbegins) rest
  rw [List.cons_append, value, skipSpace_cons (by decide)]
  simp only [hread, Option.map_some]

/-- An object is read back if the values of its members are. -/
theorem reads_object {lead trail gap : List Char} (hlead : Blanks lead) (htrail : Blanks trail)
    (hgap : Blanks gap) {chars : Json → List Char} {members : List (String × Json)}
    (h : ∀ m ∈ members, Reads (value halves depth) m.2 (chars m.2)) :
    Reads (value halves (depth + 1)) (.object members)
      ('\x7b' :: bracketed lead trail '\x7d' (members.map (memberChars gap chars))) := by
  intro rest _
  have hmembers : List.Forall₂ (Reads (member halves (value halves depth))) members
      (members.map (memberChars gap chars)) :=
    forall₂_map fun m hm => reads_member hgap (h m hm)
  have hread := enclosed_bracketed (.inr rfl) hlead htrail (member_append hlead _) hmembers
    (List.forall_mem_map.2 fun m _ => begins_member gap chars m) rest
  rw [List.cons_append, value, skipSpace_cons (by decide)]
  simp only [hread, Option.map_some]

end Values

namespace Writable

variable {halves : Halves} {depth : Nat} {v : Json}

/-- The characters of a value begin with no blank and no closing bracket, in every layout. -/
theorem begins (h : Writable depth v) (level : Nat) :
    Begins (compactChars v) ∧ Begins (prettyChars level v) := by
  have hbegins {c : Char} {rest : List Char} (h : isSpace c = false ∧ c ≠ ']' ∧ c ≠ '\x7d') :
      Begins (c :: rest) := ⟨c, rest, rfl, h.1, not_or.2 h.2⟩
  cases h with
  | null => exact ⟨hbegins (by decide), hbegins (by decide)⟩
  | bool b => cases b <;> exact ⟨hbegins (by decide), hbegins (by decide)⟩
  | string s => exact ⟨hbegins (by decide), hbegins (by decide)⟩
  | @number _ n hwhole =>
    obtain ⟨c, cs, hchars, hc⟩ := chars_eq_cons hwhole
    obtain ⟨hspace, -, hclose, -⟩ := number_head hc
    have hnumber : Begins n.chars := by
      rw [hchars]
      exact hbegins ⟨hspace, hclose⟩
    exact ⟨hnumber, hnumber⟩
  | array =>
    rw [compactChars_array, prettyChars_array]
    exact ⟨hbegins (by decide), hbegins (by decide)⟩
  | object =>
    rw [compactChars_object, prettyChars_object]
    exact ⟨hbegins (by decide), hbegins (by decide)⟩

/-- A value is read back in both layouts. -/
theorem reads (h : Writable depth v) : Reads (value halves depth) v (compactChars v) ∧
    ∀ level, Reads (value halves depth) v (prettyChars level v) := by
  have hblank : Blanks [' '] := by simp [Blanks, isSpace]
  induction h with
  | null => exact ⟨reads_null, fun _ => reads_null⟩
  | bool b => exact ⟨reads_bool b, fun _ => reads_bool b⟩
  | number hwhole => exact ⟨reads_number hwhole, fun _ => reads_number hwhole⟩
  | string s => exact ⟨reads_string s, fun _ => reads_string s⟩
  | array hitems ih =>
    refine ⟨?_, fun level => ?_⟩
    · rw [compactChars_array]
      exact reads_array blanks_nil blanks_nil (fun v hv => (ih v hv).1)
        fun v hv => ((hitems v hv).begins 0).1
    · rw [prettyChars_array]
      exact reads_array (blanks_newLine _) (blanks_newLine _) (fun v hv => (ih v hv).2 _)
        fun v hv => ((hitems v hv).begins _).2
  | object _ ih =>
    refine ⟨?_, fun level => ?_⟩
    · rw [compactChars_object]
      exact reads_object blanks_nil blanks_nil blanks_nil fun m hm => (ih m hm).1
    · rw [prettyChars_object]
      exact reads_object (blanks_newLine _) (blanks_newLine _) hblank fun m hm => (ih m hm).2 _

end Writable

/-- A text that is read as a value is the JSON of that value, with blanks after it or without. -/
theorem read?_of_reads {depth : Nat} {v : Json} {cs trail : List Char}
    (h : Reads (value .refused depth) v cs) (htrail : Blanks trail) :
    read? depth (String.ofList (cs ++ trail)) = some v := by
  have hends : EndsNumber (trail ++ []) := .blanks htrail (by simp [EndsNumber])
  have hskip : skipSpace (trail ++ []) = [] := skipSpace_append htrail []
  rw [List.append_nil] at hends hskip
  rw [read?, String.toList_ofList, h trail hends]
  exact if_pos hskip

/-- A value is read back from its text without blanks. -/
theorem read?_compact {depth : Nat} {v : Json} (h : Writable depth v) :
    read? depth v.compact = some v := by
  have hread := read?_of_reads h.reads.1 blanks_nil
  rwa [List.append_nil] at hread

/-- A value is read back from its text in lines, also if the last line is ended. -/
theorem read?_pretty {depth : Nat} {v : Json} (h : Writable depth v) :
    read? depth v.pretty = some v ∧ read? depth (v.pretty ++ "\n") = some v := by
  have hread {trail : List Char} (htrail : Blanks trail) :
      read? depth (String.ofList (prettyChars 0 v ++ trail)) = some v :=
    read?_of_reads (h.reads.2 0) htrail
  have hend : v.pretty ++ "\n" = String.ofList (prettyChars 0 v ++ ['\n']) :=
    String.ofList_append.symm
  refine ⟨?_, ?_⟩
  · have hunended := hread blanks_nil
    rwa [List.append_nil] at hunended
  · rw [hend]
    exact hread (by simp [Blanks, isSpace])

end Waymark.Json
