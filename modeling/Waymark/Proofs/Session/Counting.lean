import Mathlib.Data.List.Nodup

/-!
# Numbered requests

Lookups and route requests are numbered from one on as they are made, some of them are still pending,
and at most one counts. `Counted` says what these three have to do with each other: what counts is
the last that was made, and it is pending. Sessions and loops keep this of their lookups and of their
route requests; only what they mean by pending differs.
-/

namespace Waymark

/-- In a list of different numbers, each finds its own entry only. -/
theorem filter_eq_singleton {α : Type} {number : α → Nat} {l : List α}
    (hl : (l.map number).Nodup) {a : α} (ha : a ∈ l) :
    (l.filter fun b => number b == number a) = [a] := by
  induction l with
  | nil => simp at ha
  | cons c rest ih =>
    obtain ⟨hc, hrest⟩ := List.nodup_cons.1 hl
    rcases List.mem_cons.1 ha with rfl | ha
    · -- It is the first, and its number does not come again.
      rw [List.filter_cons_of_pos (by simp), List.filter_eq_nil_iff.2]
      intro b hb
      have hne : number b ≠ number a := fun he => hc (he ▸ List.mem_map_of_mem hb)
      simpa using hne
    · -- It is one of the others, so that the first has another number.
      have hne : number c ≠ number a := fun he => hc (he ▸ List.mem_map_of_mem ha)
      rw [List.filter_cons_of_neg (by simpa using hne)]
      exact ih hrest ha

/-- What was made so far, what of it is pending, and the number that counts. -/
structure Counted {α : Type} (number : α → Nat) (made pending : List α) (current : Option Nat) :
    Prop where
  /-- What was made is numbered from one on. -/
  numbers : made.map number = List.range' 1 made.length
  /-- What is pending was made, and is in the same order. -/
  sublist : pending.Sublist made
  /-- What counts is the last that was made, and it is pending. -/
  current : ∀ n, current = some n → n = made.length ∧ ∃ a ∈ pending, number a = n

namespace Counted

variable {α : Type} {number : α → Nat} {made pending : List α} {current : Option Nat}

/-- Nothing counts before anything is made. -/
theorem nil : Counted number [] [] none := ⟨rfl, .slnil, by simp⟩

/-- What is made is pending and counts from then on. -/
theorem make (h : Counted number made pending current) {a : α} (ha : number a = made.length + 1) :
    Counted number (made ++ [a]) (pending ++ [a]) (some (number a)) where
  numbers := by
    rw [List.map_append, h.numbers, List.length_append, List.length_singleton,
      List.range'_1_concat, List.map_singleton, ha, Nat.add_comm 1]
  sublist := h.sublist.append_right [a]
  current := by
    rintro n ⟨⟩
    exact ⟨by simp [ha], a, List.mem_append_right _ List.mem_cons_self, rfl⟩

/-- Some may be pending no longer, if what counts still is, or if nothing counts any more. -/
theorem shrink (h : Counted number made pending current) {rest : List α}
    (hrest : rest.Sublist pending) {next : Option Nat}
    (hnext : next = none ∨
      next = current ∧ ∀ a ∈ pending, current = some (number a) → a ∈ rest) :
    Counted number made rest next where
  numbers := h.numbers
  sublist := hrest.trans h.sublist
  current := by
    rintro n rfl
    rcases hnext with hnext | ⟨rfl, hkeep⟩
    · cases hnext
    · obtain ⟨hlast, a, ha, rfl⟩ := h.current n rfl
      exact ⟨hlast, a, hkeep a ha rfl, rfl⟩

/-- It is always sound that nothing counts. -/
theorem forget (h : Counted number made pending current) : Counted number made pending none :=
  h.shrink (.refl _) (.inl rfl)

/-- No number was given twice. -/
theorem made_nodup (h : Counted number made pending current) : (made.map number).Nodup := by
  rw [h.numbers]
  exact List.nodup_range'

/-- Every number is one of the first, as many as were made. -/
theorem number_mem (h : Counted number made pending current) {a : α} (ha : a ∈ made) :
    0 < number a ∧ number a ≤ made.length := by
  have hmem := List.mem_map_of_mem (f := number) ha
  rw [h.numbers, List.mem_range'_1] at hmem
  omega

/-- What is pending has different numbers. -/
theorem pending_nodup (h : Counted number made pending current) : (pending.map number).Nodup :=
  h.made_nodup.sublist (h.sublist.map _)

/-- The last number that was given is how many were made. -/
theorem getLast?_numbers (h : Counted number made pending current) (hmade : made ≠ []) :
    (made.map number).getLast? = some made.length := by
  have hpos : made.length ≠ 0 := by rwa [Ne, List.length_eq_zero_iff]
  rw [h.numbers, List.getLast?_range', if_neg hpos]
  congr 1
  omega

/-- Of what is pending, exactly one has the number that counts, and it is the last that was made. -/
theorem unique (h : Counted number made pending current) {n : Nat} (hn : current = some n) :
    ∃ a, pending.filter (fun b => number b == n) = [a] ∧ made.getLast? = some a ∧
      number a = n := by
  obtain ⟨hlast, a, ha, rfl⟩ := h.current n hn
  refine ⟨a, filter_eq_singleton h.pending_nodup ha, ?_, rfl⟩
  have hmem := h.sublist.subset ha
  -- The number that counts is that of the last, and no other one has it.
  have hend := h.getLast?_numbers (List.ne_nil_of_mem hmem)
  rw [List.getLast?_map, Option.map_eq_some_iff, ← hlast] at hend
  obtain ⟨b, hb, hba⟩ := hend
  rw [hb, List.inj_on_of_nodup_map h.made_nodup (List.mem_of_getLast? hb) hmem hba]

/-- Nothing counts when nothing is pending. -/
theorem current_eq_none (h : Counted number made pending current) (hempty : pending = []) :
    current = none := by
  cases current with
  | none => rfl
  | some n =>
    obtain ⟨-, a, ha, -⟩ := h.current n rfl
    rw [hempty] at ha
    cases ha

end Counted

end Waymark
