import Waymark.Proofs.Toml.Numbers
import Waymark.Proofs.Toml.Texts
import Waymark.Toml.Reader

/-!
# Documents that are read back

A document whose names and keys need no marks and occur once is read back as its table of tables
(`read?_text`). Every line is read by itself, whatever comes after it (`Reads`), so the lines of the
document are read one after the other (`lines_flatMap`), and each section is placed behind those
before it (`assembleFrom_lines`).
-/

namespace Waymark.Toml

open Decimal

/-- A key that needs no marks. -/
def Bare (key : String) : Prop := key.toList ≠ [] ∧ ∀ c ∈ key.toList, isBare c = true

instance (key : String) : Decidable (Bare key) := inferInstanceAs (Decidable (_ ∧ _))

/-- A value that TOML can hold: any text, an integer of 64 bits, a finite double. -/
def Scalar.Writable : Scalar → Prop
  | .string _ => True
  | .integer n => -2 ^ 63 ≤ n ∧ n < 2 ^ 63
  | .float x => x.isFinite = true

/-- A section whose name and keys need no marks, with no key twice. -/
structure Part.Plain (p : Part) : Prop where
  /-- The name needs no marks. -/
  name : Bare p.name
  /-- The keys need no marks. -/
  keys : ∀ e ∈ p.entries, Bare e.1
  /-- The values can be written. -/
  values : ∀ e ∈ p.entries, e.2.Writable
  /-- No key occurs twice. -/
  nodup : (p.entries.map (·.1)).Nodup

/-- A document of such sections, with no name twice. -/
structure Document.Plain (d : Document) : Prop where
  /-- The sections are plain. -/
  parts : ∀ p ∈ d, p.Plain
  /-- No name occurs twice. -/
  nodup : (d.map (·.name)).Nodup

/-! ### Values -/

/-- A value that begins with none of the characters of other values is a text or a number. -/
theorem value_cons {c : Char} (h : c ≠ '[' ∧ c ≠ '\x7b' ∧ c ≠ 't' ∧ c ≠ 'f') (cs : List Char) :
    value (levels - 1) (c :: cs) =
      if c = '"' ∨ c = '\'' then
        (string? (c :: cs)).map fun (s, rest) => (.scalar (.string (String.ofList s)), rest)
      else number? (c :: cs) := by
  obtain ⟨hlist, htable, htrue, hfalse⟩ := h
  show value (78 + 1) (c :: cs) = _
  rw [value.eq_def]
  simp only
  split
  · simp_all
  · simp_all
  · rw [simpleValue.eq_def]
    split <;> simp_all

/-- A text begins with a mark. -/
theorem stringChars_head (cs : List Char) :
    ∃ c tail, stringChars cs = c :: tail ∧ (c = '"' ∨ c = '\'') := by
  unfold stringChars
  extract_lets controls newline slash marks apostrophes single tripled
  repeat' split
  all_goals first
    | exact ⟨'"', _, rfl, .inl rfl⟩
    | exact ⟨'\'', _, rfl, .inr rfl⟩

/-- A sign or a digit. -/
def SignOrDigit (c : Char) : Prop := c = '-' ∨ ∃ d : Digit, c = d.toChar

/-- A number begins with a sign or a digit. -/
theorem signChars_head (negative : Bool) {ds : List Digit} (hds : ds ≠ []) (rest : List Char) :
    ∃ c tail, signChars negative ++ (digitChars ds ++ rest) = c :: tail ∧ SignOrDigit c := by
  obtain ⟨d, ds, rfl⟩ := List.exists_cons_of_ne_nil hds
  cases negative with
  | true => exact ⟨'-', _, rfl, .inl rfl⟩
  | false => exact ⟨d.toChar, _, rfl, .inr ⟨d, rfl⟩⟩

/-- A sign or a digit is another character than `c`, unless that is one. -/
theorem SignOrDigit.ne {a c : Char} (h : SignOrDigit a) (hdigit : Digit.ofChar? c = none)
    (hsign : c ≠ '-') : a ≠ c := by
  rcases h with rfl | ⟨d, rfl⟩
  · exact hsign.symm
  · exact d.toChar_ne hdigit

/-- A character that is no blank is not skipped. -/
theorem skipSpace_cons {c : Char} (hspace : c ≠ ' ') (htab : c ≠ '\t') (cs : List Char) :
    skipSpace (c :: cs) = c :: cs := by
  simp [skipSpace, isSpace, hspace, htab]

/-- A value that begins with a sign or a digit is a number, and begins with no blank. -/
theorem value_number {cs tail : List Char} {c : Char} (hcs : cs = c :: tail)
    (h : SignOrDigit c) : value (levels - 1) cs = number? cs ∧ skipSpace cs = cs := by
  have hquote : c ≠ '"' := h.ne (by decide) (by decide)
  have happostrophe : c ≠ '\'' := h.ne (by decide) (by decide)
  have hspace : c ≠ ' ' := h.ne (by decide) (by decide)
  have htab : c ≠ '\t' := h.ne (by decide) (by decide)
  rw [hcs, value_cons ⟨h.ne (by decide) (by decide), h.ne (by decide) (by decide),
    h.ne (by decide) (by decide), h.ne (by decide) (by decide)⟩, if_neg (by simp [*])]
  exact ⟨rfl, skipSpace_cons hspace htab tail⟩

/-- A text at the end of a line is read back, and it begins with no blank. -/
theorem value_string (text : String) (rest : List Char) :
    value (levels - 1) (stringChars text.toList ++ '\n' :: rest) =
        some (.scalar (.string text), '\n' :: rest) ∧
      skipSpace (stringChars text.toList ++ '\n' :: rest) =
        stringChars text.toList ++ '\n' :: rest := by
  obtain ⟨c, tail, hchars, hc⟩ := stringChars_head text.toList
  have hread := string?_stringChars text.toList
    (NoMark.cons (c := '\n') ⟨by decide, by decide⟩ rest)
  have hne : c ≠ '[' ∧ c ≠ '\x7b' ∧ c ≠ 't' ∧ c ≠ 'f' := by
    rcases hc with rfl | rfl <;> decide
  have hspace : c ≠ ' ' ∧ c ≠ '\t' := by
    rcases hc with rfl | rfl <;> decide
  rw [hchars, List.cons_append] at hread ⊢
  rw [value_cons hne, if_pos hc, hread]
  exact ⟨by simp, skipSpace_cons hspace.1 hspace.2 _⟩

/-- An integer of 64 bits at the end of a line is read back, and it begins with no blank. -/
theorem value_integer {n : Int} (hlow : -2 ^ 63 ≤ n) (hhigh : n < 2 ^ 63) (rest : List Char) :
    value (levels - 1) (integerChars n ++ '\n' :: rest) =
        some (.scalar (.integer n), '\n' :: rest) ∧
      skipSpace (integerChars n ++ '\n' :: rest) = integerChars n ++ '\n' :: rest := by
  have hchars := integerChars_append n ('\n' :: rest)
  obtain ⟨c, tail, hcs, hc⟩ := signChars_head (decide (n < 0)) (digitsOf_ne_nil n.natAbs)
    ('\n' :: rest)
  obtain ⟨hvalue, hspace⟩ := value_number (hchars.trans hcs) hc
  exact ⟨hvalue.trans (number?_integerChars hlow hhigh rest), hspace⟩

/-- A finite double at the end of a line is read back, and it begins with no blank. -/
theorem value_float {x : Float} (h : x.isFinite = true) (rest : List Char) :
    value (levels - 1) (floatChars x ++ '\n' :: rest) =
        some (.scalar (.float x), '\n' :: rest) ∧
      skipSpace (floatChars x ++ '\n' :: rest) = floatChars x ++ '\n' :: rest := by
  obtain ⟨negative, v, hshape⟩ := Shape.isFinite_iff.1 h
  obtain ⟨n, hwhole, -, -, -, hchars⟩ := floatChars_of_finite hshape
  obtain ⟨c, tail, hcs, hc⟩ := signChars_head n.negative hwhole.ne_nil
    ('.' :: digitChars n.fraction)
  have hfirst : floatChars x ++ '\n' :: rest = c :: (tail ++ '\n' :: rest) := by
    rw [hchars, hcs]
    rfl
  obtain ⟨hvalue, hspace⟩ := value_number hfirst hc
  exact ⟨hvalue.trans (number?_floatChars h rest), hspace⟩

/-- A value at the end of a line is read back, and it begins with no blank. -/
theorem value_chars {v : Scalar} (h : v.Writable) (rest : List Char) :
    value (levels - 1) (v.chars ++ '\n' :: rest) = some (.scalar v, '\n' :: rest) ∧
      skipSpace (v.chars ++ '\n' :: rest) = v.chars ++ '\n' :: rest := by
  cases v with
  | string text => exact value_string text rest
  | integer n => exact value_integer h.1 h.2 rest
  | float x => exact value_float h rest

/-! ### Keys and lines -/

/-- A key without marks has a first character. -/
theorem Bare.exists_cons {key : String} (h : Bare key) :
    ∃ k ks, key.toList = k :: ks ∧ isBare k = true := by
  obtain ⟨k, ks, hks⟩ := List.exists_cons_of_ne_nil h.1
  exact ⟨k, ks, hks, h.2 k (by rw [hks]; exact List.mem_cons_self)⟩

/-- A character of a key without marks is another than `c`, unless that is one. -/
theorem ne_of_isBare {k c : Char} (hk : isBare k = true) (hc : isBare c = false) : k ≠ c := by
  rintro rfl
  rw [hk] at hc
  cases hc

/-- A key without marks is read up to where it ends. -/
theorem simpleKey_bare {key : String} (h : Bare key) {c : Char} (hc : isBare c = false)
    (rest : List Char) : simpleKey (skipSpace (key.toList ++ c :: rest)) = some (key, c :: rest) := by
  have hspan : (key.toList ++ c :: rest).span isBare = (key.toList, c :: rest) := by
    rw [List.span_eq_takeWhile_dropWhile, List.takeWhile_append_of_pos h.2,
      List.dropWhile_append_of_pos h.2]
    simp [hc]
  have hkey : String.ofList key.toList = key := String.ofList_toList
  obtain ⟨k, ks, hks, hk⟩ := h.exists_cons
  rw [hks] at hspan hkey ⊢
  have hspace : k ≠ ' ' := ne_of_isBare hk (by decide)
  have htab : k ≠ '\t' := ne_of_isBare hk (by decide)
  rw [List.cons_append, skipSpace_cons hspace htab]
  rw [List.cons_append] at hspan
  rw [simpleKey, hspan]
  · simp only [hkey]
  · exact fun _ heq => ne_of_isBare hk (by decide) (List.cons.inj heq).1
  · exact fun _ heq => ne_of_isBare hk (by decide) (List.cons.inj heq).1

/-- A key without marks is a key of one part. The blanks after it are skipped, and no point
follows. -/
theorem key?_bare {key : String} (h : Bare key) {c : Char} (hc : isBare c = false)
    {rest : List Char} (hdot : ∀ tail, skipSpace (c :: rest) ≠ '.' :: tail) :
    key? (key.toList ++ c :: rest) = some (([], key), skipSpace (c :: rest)) := by
  have hparts : keyParts (78 + 1) (key.toList ++ c :: rest) =
      some ([key], skipSpace (c :: rest)) := by
    rw [keyParts, simpleKey_bare h hc]
    simp only [Option.bind_eq_bind, Option.bind_some]
    rfl
  show (keyParts (78 + 1) (key.toList ++ c :: rest)).bind _ = _
  rw [hparts]
  rfl

/-- What stands at the beginning of a text is read as a line, whatever comes after it. -/
structure Reads (chunk : List Char) (l : Line) : Prop where
  /-- It is not empty. -/
  ne_nil : chunk ≠ []
  /-- It is read. -/
  line_append : ∀ rest, line (chunk ++ rest) = some (l, rest)

/-- A line that begins with a key without marks is one of an entry. -/
theorem line_bare {key : String} (h : Bare key) (rest : List Char) :
    line (key.toList ++ rest) = (do
      let ((key, v), rest) ← entry (value (levels - 1)) (key.toList ++ rest)
      let rest ← endOfLine rest
      return (.entry key v, rest)) := by
  obtain ⟨k, ks, hks, hk⟩ := h.exists_cons
  have hspace : k ≠ ' ' := ne_of_isBare hk (by decide)
  have htab : k ≠ '\t' := ne_of_isBare hk (by decide)
  have hmark : k ≠ '#' := ne_of_isBare hk (by decide)
  have hline : k ≠ '\n' := ne_of_isBare hk (by decide)
  have hreturn : k ≠ '\r' := ne_of_isBare hk (by decide)
  rw [hks, List.cons_append, line, skipSpace_cons hspace htab]
  split
  case h_1 heq => cases heq
  case h_2 heq => exact absurd (List.cons.inj heq).1 (ne_of_isBare hk (by decide))
  case h_3 heq =>
    obtain ⟨rfl, rfl⟩ := List.cons.inj heq
    rw [if_neg (by simp [*])]

/-- The line of an entry is read. -/
theorem reads_entry {e : String × Scalar} (hkey : Bare e.1) (hvalue : e.2.Writable) :
    Reads (entryChars e) (.entry ([], e.1) (.scalar e.2)) := by
  refine ⟨by simp [entryChars], fun rest => ?_⟩
  obtain ⟨hread, hskip⟩ := value_chars hvalue rest
  have hchars : entryChars e ++ rest =
      e.1.toList ++ ' ' :: '=' :: ' ' :: (e.2.chars ++ '\n' :: rest) := by
    simp [entryChars]
  have hentry : entry (value (levels - 1)) (e.1.toList ++ ' ' :: '=' :: ' ' ::
      (e.2.chars ++ '\n' :: rest)) = some ((([], e.1), .scalar e.2), '\n' :: rest) := by
    have hspace : skipSpace (' ' :: '=' :: ' ' :: (e.2.chars ++ '\n' :: rest)) =
        '=' :: ' ' :: (e.2.chars ++ '\n' :: rest) := rfl
    have hblank : skipSpace (' ' :: (e.2.chars ++ '\n' :: rest)) = e.2.chars ++ '\n' :: rest :=
      hskip
    have hkey? : key? (e.1.toList ++ ' ' :: '=' :: ' ' :: (e.2.chars ++ '\n' :: rest)) =
        some (([], e.1), skipSpace (' ' :: '=' :: ' ' :: (e.2.chars ++ '\n' :: rest))) :=
      key?_bare hkey (by decide)
        (fun _ heq => absurd (List.cons.inj (hspace.symm.trans heq)).1 (by decide))
    rw [entry, hkey?, hspace]
    simp [expect, hblank, hread]
  rw [hchars, line_bare hkey, hentry]
  rfl

/-- The line of a header is read. -/
theorem reads_header {name : String} (h : Bare name) :
    Reads ('[' :: (name.toList ++ [']', '\n'])) (.header [] name) := by
  refine ⟨by simp, fun rest => ?_⟩
  have hchars : '[' :: (name.toList ++ [']', '\n']) ++ rest =
      '[' :: (name.toList ++ ']' :: '\n' :: rest) := by simp
  have hkey : key? (name.toList ++ ']' :: '\n' :: rest) =
      some (([], name), skipSpace (']' :: '\n' :: rest)) :=
    key?_bare h (by decide) (fun _ heq => absurd (List.cons.inj heq).1 (by decide))
  obtain ⟨k, ks, hks, hk⟩ := h.exists_cons
  rw [hchars]
  show headerLine (name.toList ++ ']' :: '\n' :: rest) = _
  rw [headerLine, hkey]
  · rfl
  · rw [hks]
    exact fun _ heq => ne_of_isBare hk (by decide) (List.cons.inj heq).1

/-- An empty line is read. -/
theorem reads_blank : Reads ['\n'] .blank := ⟨by simp, fun _ => rfl⟩

/-- Chunks that are read as lines are read one after the other. -/
theorem lines_flatMap {chunks : List (List Char × Line)} (h : ∀ p ∈ chunks, Reads p.1 p.2)
    {fuel : Nat} (hfuel : (chunks.flatMap (·.1)).length ≤ fuel) :
    lines fuel (chunks.flatMap (·.1)) = some (chunks.map (·.2)) := by
  induction chunks generalizing fuel with
  | nil => cases fuel <;> rfl
  | cons p chunks ih =>
    obtain ⟨hne, hline⟩ := h p List.mem_cons_self
    obtain ⟨c, cs, hcs⟩ := List.exists_cons_of_ne_nil hne
    rw [List.flatMap_cons, List.length_append, hcs, List.length_cons] at hfuel
    obtain ⟨fuel, rfl⟩ : ∃ f, fuel = f + 1 := ⟨fuel - 1, by omega⟩
    have hrest : lines fuel (chunks.flatMap (·.1)) = some (chunks.map (·.2)) :=
      ih (fun q hq => h q (List.mem_cons_of_mem _ hq)) (by omega)
    rw [List.flatMap_cons, lines, hline, Option.bind_eq_bind, Option.bind_some]
    · simp only [hrest]
      rfl
    · rw [hcs]
      exact nofun

/-! ### Sections and documents -/

/-- The lines of the entries of a section. -/
def Part.entryLines (p : Part) : List Line :=
  p.entries.map fun e => .entry ([], e.1) (.scalar e.2)

/-- The table of a section. -/
def Part.table (p : Part) : Entries := p.entries.map fun e => (e.1, .scalar e.2)

/-- The table of a document. -/
def Document.table (d : Document) : Entries := d.map fun p => (p.name, .table .header p.table)

/-- A section as chunks with the line that each of them is. -/
def Part.chunks (p : Part) : List (List Char × Line) :=
  ('[' :: (p.name.toList ++ [']', '\n']), .header [] p.name) ::
    p.entries.map fun e => (entryChars e, .entry ([], e.1) (.scalar e.2))

/-- A document as chunks with the line that each of them is. -/
def Document.chunks : Document → List (List Char × Line)
  | [] => []
  | [p] => p.chunks
  | p :: q :: rest => p.chunks ++ (['\n'], .blank) :: Document.chunks (q :: rest)

/-- The characters of a section are those of its chunks. -/
theorem Part.flatMap_chunks (p : Part) : p.chunks.flatMap (·.1) = p.chars := by
  simp [chunks, chars, List.flatMap_map]

/-- The characters of a document are those of its chunks. -/
theorem Document.flatMap_chunks (d : Document) : d.chunks.flatMap (·.1) = documentChars d := by
  induction d using Document.chunks.induct with
  | case1 => rfl
  | case2 p => exact p.flatMap_chunks
  | case3 p q rest ih =>
    rw [chunks, List.flatMap_append, List.flatMap_cons, ih, p.flatMap_chunks]
    rfl

/-- The chunks of a plain section are read. -/
theorem Part.Plain.reads {p : Part} (h : p.Plain) : ∀ c ∈ p.chunks, Reads c.1 c.2 := by
  intro c hc
  rcases List.mem_cons.1 hc with rfl | hc
  · exact reads_header h.name
  · obtain ⟨e, he, rfl⟩ := List.mem_map.1 hc
    exact reads_entry (h.keys e he) (h.values e he)

/-- The chunks of a plain document are read. -/
theorem Document.reads {d : Document} (h : ∀ p ∈ d, p.Plain) :
    ∀ c ∈ d.chunks, Reads c.1 c.2 := by
  induction d using Document.chunks.induct with
  | case1 => simp [chunks]
  | case2 p => exact (h p (by simp)).reads
  | case3 p q rest ih =>
    intro c hc
    rcases List.mem_append.1 hc with hc | hc
    · exact (h p (by simp)).reads c hc
    · rcases List.mem_cons.1 hc with rfl | hc
      · exact reads_blank
      · exact ih (fun p hp => h p (List.mem_cons_of_mem _ hp)) c hc

/-- A key that is not among those of some entries has no value there. -/
theorem lookup_eq_none {key : String} {es : Entries} (h : key ∉ es.map (·.1)) :
    lookup key es = none := by
  rw [lookup, List.find?_eq_none.2]
  · rfl
  · intro e he heq
    exact h (List.mem_map.2 ⟨e, he, by simpa using heq⟩)

/-- The first entry with a key has its value. -/
theorem lookup_cons (key : String) (e : String × Value) (es : Entries) :
    lookup key (e :: es) = if e.1 = key then some e.2 else lookup key es := by
  rw [lookup, List.find?_cons]
  split <;> simp_all [lookup]

/-- Entries with different keys for different things have the value of each thing. -/
theorem lookup_map {α : Type} [DecidableEq α] {name : α → String}
    (hname : Function.Injective name) (content : α → Value) (as : List α) (a : α) :
    lookup (name a) (as.map fun b => (name b, content b)) =
      if a ∈ as then some (content a) else none := by
  induction as with
  | nil => rfl
  | cons b as ih =>
    rw [List.map_cons, lookup_cons, ih]
    by_cases heq : b = a
    · subst heq
      simp
    · simp [hname.eq_iff, heq, Ne.symm heq]

/-- New keys are added one after the other. -/
theorem insertAll_scalars {es : List (String × Scalar)} {done : Entries}
    (h : (done.map (·.1) ++ es.map (·.1)).Nodup) :
    insertAll .header done (es.map fun e => (([], e.1), .scalar e.2)) =
      some (done ++ es.map fun e => (e.1, .scalar e.2)) := by
  induction es generalizing done with
  | nil => simp [insertAll]
  | cons e es ih =>
    have hnew : lookup e.1 done = none := lookup_eq_none fun hmem =>
      (List.nodup_append.1 h).2.2 e.1 hmem e.1 (by simp) rfl
    have hinsert : insertKey .header done ([], e.1) (.scalar e.2) =
        some (done ++ [(e.1, .scalar e.2)]) := by
      simp only [insertKey, descend, hnew]
      rfl
    rw [List.map_cons, insertAll, hinsert, Option.bind_eq_bind, Option.bind_some, ih]
    · simp
    · simpa using h

/-- The lines of entries are taken up to what follows them. -/
theorem takeEntries_append (p : Part) (ls : List Line) :
    takeEntries (p.entryLines ++ ls) =
      (p.entries.map (fun e => (([], e.1), .scalar e.2)) ++ (takeEntries ls).1,
        (takeEntries ls).2) := by
  unfold Part.entryLines
  induction p.entries with
  | nil => rfl
  | cons e es ih => rw [List.map_cons, List.cons_append, takeEntries, ih]; rfl

/-- A section is placed behind those before it. -/
theorem assembleFrom_section {p : Part} (h : p.Plain) {root : Entries}
    (hname : p.name ∉ root.map (·.1)) {ls : List Line} (hls : (takeEntries ls).1 = []) :
    assembleFrom root (.header [] p.name :: (p.entryLines ++ ls)) =
      assembleFrom (root ++ [(p.name, .table .header p.table)]) (takeEntries ls).2 := by
  have htake := takeEntries_append p ls
  rw [hls, List.append_nil] at htake
  have hinsert := @insertAll_scalars p.entries [] (by simpa using h.nodup)
  rw [assembleFrom]
  simp only [htake, descend, placeTable, lookup_eq_none hname, hinsert, Option.bind_eq_bind,
    Option.bind_some]
  rfl

/-- The lines of a section are its header and its entries. -/
theorem Part.map_chunks (p : Part) :
    p.chunks.map (·.2) = .header [] p.name :: p.entryLines := by
  simp [chunks, entryLines]

/-- The name of the next section is not among those before it. -/
theorem name_not_mem {root : Entries} {p : Part} {d : Document}
    (h : (root.map (·.1) ++ (p :: d).map (·.name)).Nodup) : p.name ∉ root.map (·.1) := fun hmem =>
  (List.nodup_append.1 h).2.2 p.name hmem p.name (by simp) rfl

/-- The lines of a plain document are put together as its table. -/
theorem assembleFrom_lines {d : Document} (h : ∀ p ∈ d, p.Plain) {root : Entries}
    (hnames : (root.map (·.1) ++ d.map (·.name)).Nodup) :
    assembleFrom root (d.chunks.map (·.2)) = some (root ++ d.table) := by
  induction d using Document.chunks.induct generalizing root with
  | case1 => simp [Document.chunks, Document.table, assembleFrom]
  | case2 p =>
    have hend : (takeEntries []).1 = [] := rfl
    have hsection := assembleFrom_section (h p (by simp)) (name_not_mem hnames) hend
    rw [List.append_nil] at hsection
    rw [Document.chunks, p.map_chunks, hsection]
    simp [takeEntries, assembleFrom, Document.table]
  | case3 p q rest ih =>
    -- The blank line after the entries is skipped, and the header after it ends them.
    have htake : takeEntries (.blank :: (Document.chunks (q :: rest)).map (·.2)) =
        ([], (Document.chunks (q :: rest)).map (·.2)) := by
      cases rest <;> rfl
    have hsection :=
      assembleFrom_section (h p (by simp)) (name_not_mem hnames) (congrArg Prod.fst htake)
    rw [htake] at hsection
    rw [Document.chunks, List.map_append, p.map_chunks, List.map_cons, List.cons_append, hsection,
      ih (fun p hp => h p (List.mem_cons_of_mem _ hp))]
    · simp [Document.table]
    · simpa using hnames

/-- A plain document does not begin with the mark of an encoding. -/
theorem skipMark_documentChars (d : Document) :
    skipMark (documentChars d) = documentChars d := by
  match d with
  | [] => rfl
  | [p] => rfl
  | p :: q :: rest => rfl

/-- A plain document is read back as its table. -/
theorem read?_text {d : Document} (h : d.Plain) : read? d.text = some d.table := by
  have hlines := lines_flatMap (Document.reads h.parts) (Nat.le_succ _)
  have hfirst : (takeEntries (d.chunks.map (·.2))).1 = [] ∧
      (takeEntries (d.chunks.map (·.2))).2 = d.chunks.map (·.2) := by
    match d with
    | [] => exact ⟨rfl, rfl⟩
    | [p] => exact ⟨rfl, rfl⟩
    | p :: q :: rest => exact ⟨rfl, rfl⟩
  have hassemble : assemble (d.chunks.map (·.2)) = some d.table := by
    rw [assemble, hfirst.1, hfirst.2]
    exact @assembleFrom_lines d h.parts [] (by simpa using h.nodup)
  rw [d.flatMap_chunks] at hlines
  rw [read?, Document.text, String.toList_ofList, skipMark_documentChars]
  simp only [hlines, Option.bind_eq_bind, Option.bind_some, hassemble]

end Waymark.Toml
