import Mathlib.Data.List.Basic
import Waymark.Program.World
import Waymark.Proofs.Program.Pick

/-!
# Files of a world

What is written at the path of a file is read there (`read_write`). The way to the file leads through
directories, since a directory is whatever a file lies in. So nothing is left to be made when a file
is written that is there already (`makeFolder_of_read`).
-/

namespace Waymark.Program

/-- A step of a path that leads to what it names. -/
def IsStep (step : String) : Prop :=
  step ≠ "." ∧ step ≠ ".." ∧ step.utf8ByteSize ≤ World.maxName

instance (step : String) : Decidable (IsStep step) := inferInstanceAs (Decidable (_ ∧ _))

/-- A path from the root that can name a file. -/
structure IsFilePath (path : String) : Prop where
  /-- It starts at the root. -/
  rooted : path.startsWith "/" = true
  /-- There is no null character in it. -/
  noNul : path.contains '\x00' = false
  /-- It is not too long. -/
  short : path.utf8ByteSize ≤ World.maxPath
  /-- Its steps lead to what they name. -/
  steps : ∀ step ∈ stepsOf path, IsStep step
  /-- Its last step is the name of the file. -/
  named : ∀ step ∈ (stepsOf path).getLast?, step ≠ ""

namespace World

variable {w w' : World}

/-- A file that was put somewhere is there. -/
theorem file?_put (w : World) (target : Path) (bytes : ByteArray) :
    (w.put target bytes).file? target = some bytes := by
  rw [file?, put, List.find?_append, List.find?_eq_none.2 ?others]
  · simp
  case others =>
    intro e he
    simpa using (List.mem_filter.1 he).2

/-- What a file lies in is a directory. -/
theorem isFolder_put (w : World) {place target : Path} (bytes : ByteArray)
    (h : place <+: target) (hne : place ≠ target) : (w.put target bytes).isFolder place = true := by
  have hlength : place.length < target.length :=
    Nat.lt_of_le_of_ne h.length_le fun heq => hne (h.eq_of_length heq)
  simp [isFolder, put, List.isPrefixOf_iff_prefix.2 h, hlength]

/-- Through directories, the steps of a path lead to what they name. -/
theorem walk_eq_ok {target : Path} (hfolder : ∀ p, p <+: target → p ≠ target → w.isFolder p = true)
    {steps : List String} (hsteps : ∀ step ∈ steps, IsStep step)
    (hnamed : ∀ step ∈ steps.getLast?, step ≠ "") {place : Path}
    (htarget : place ++ steps.filter (· != "") = target) : w.walk place steps = .ok target := by
  induction steps generalizing place with
  | nil => simpa [walk] using htarget
  | cons step rest ih =>
    obtain ⟨hdot, hdots, hshort⟩ := hsteps step List.mem_cons_self
    -- The last step is not reached yet, so this is still above the target.
    have hmore : (step :: rest).filter (· != "") ≠ [] := by
      obtain ⟨last, hlast⟩ : ∃ last, (step :: rest).getLast? = some last :=
        ⟨_, List.getLast?_eq_some_getLast (List.cons_ne_nil _ _)⟩
      have hmem := List.mem_of_getLast? hlast
      exact List.ne_nil_of_mem (List.mem_filter.2 ⟨hmem, by simpa using hnamed last hlast⟩)
    have hplace : w.isFolder place = true :=
      hfolder place ⟨_, htarget⟩ fun heq => hmore (by simpa [heq] using htarget)
    have hlast : ∀ last ∈ rest.getLast?, last ≠ "" := fun last hlast => hnamed last (by
      cases rest with
      | nil => cases hlast
      | cons s rest => rwa [List.getLast?_cons_cons])
    have hrest {place : Path} (h : place ++ rest.filter (· != "") = target) :
        w.walk place rest = .ok target :=
      ih (fun step h => hsteps step (List.mem_cons_of_mem _ h)) hlast h
    rw [walk, if_pos hplace]
    by_cases hempty : step = ""
    · rw [if_pos (.inl hempty)]
      exact hrest (by simpa [hempty] using htarget)
    · rw [if_neg (by simp [hempty, hdot]), if_neg hdots, if_neg (by omega)]
      exact hrest (by simpa [hempty] using htarget)

/-- The path of a file is walked from the root. -/
theorem locate_of_isFilePath {path : String} (h : IsFilePath path) :
    w.locate path = w.walk [] (stepsOf path) := by
  have hempty : path.isEmpty = false := by
    rw [Bool.eq_false_iff]
    intro hempty
    have hrooted := h.rooted
    rw [String.isEmpty_iff.1 hempty] at hrooted
    exact absurd hrooted (by decide)
  rw [locate, if_neg (by simp [h.noNul]), if_neg (by have := h.short; omega),
    if_neg (by simp [hempty]), if_pos h.rooted]

/-- The bytes of a path are those of the file at the place to which it leads. -/
theorem read_eq_ok_iff {path : String} {bytes : ByteArray} : w.read path = .ok bytes ↔
    ∃ place, w.locate path = .ok place ∧ w.file? place = some bytes := by
  unfold read
  cases hlocate : w.locate path with
  | error fault => exact ⟨nofun, nofun⟩
  | ok place => cases hfile : w.file? place <;> simp [bind, Except.bind, hfile]

/-- What is written at the path of a file is read there. -/
theorem read_write {path : String} (h : IsFilePath path) (w : World) (text : String) :
    (w.write path text).read path = .ok text.toUTF8 := by
  have hlocate : (w.write path text).locate path = .ok (placeOf path) := by
    rw [locate_of_isFilePath h]
    exact walk_eq_ok (fun p hp hne => isFolder_put w _ hp hne) h.steps h.named rfl
  exact read_eq_ok_iff.2 ⟨placeOf path, hlocate, file?_put w _ _⟩

/-- Steps that lead to what they name lead nowhere else. -/
theorem eq_of_walk_eq_ok {steps : List String} (hsteps : ∀ step ∈ steps, IsStep step)
    {place target : Path} (h : w.walk place steps = .ok target) :
    target = place ++ steps.filter (· != "") := by
  induction steps generalizing place with
  | nil =>
    cases h
    exact (List.append_nil _).symm
  | cons step rest ih =>
    obtain ⟨hdot, hdots, hshort⟩ := hsteps step List.mem_cons_self
    have hrest {place : Path} : w.walk place rest = .ok target →
        target = place ++ rest.filter (· != "") :=
      ih fun step h => hsteps step (List.mem_cons_of_mem _ h)
    rw [walk] at h
    by_cases hfolder : w.isFolder place = true
    · rw [if_pos hfolder] at h
      by_cases hempty : step = ""
      · rw [if_pos (.inl hempty)] at h
        simpa [hempty] using hrest h
      · have hstay : ¬ (step = "" ∨ step = ".") := not_or.2 ⟨hempty, hdot⟩
        rw [if_neg hstay, if_neg hdots, if_neg (Nat.not_lt.2 hshort)] at h
        simpa [hempty] using hrest h
    · rw [if_neg hfolder] at h
      cases h

/-- The bytes that are read at the path of a file are those of the file at its place. -/
theorem file?_of_read {path : String} (h : IsFilePath path) {bytes : ByteArray}
    (hread : w.read path = .ok bytes) : w.file? (placeOf path) = some bytes := by
  obtain ⟨place, hlocate, hfile⟩ := read_eq_ok_iff.1 hread
  rw [locate_of_isFilePath h] at hlocate
  obtain rfl : place = placeOf path := eq_of_walk_eq_ok h.steps hlocate
  exact hfile

/-- A file lies in a directory. -/
theorem isFolder_dropLast {place : Path} {bytes : ByteArray} (h : w.file? place = some bytes) :
    w.isFolder place.dropLast = true := by
  obtain ⟨e, hfind, -⟩ := Option.map_eq_some_iff.1 h
  have hmem : e ∈ w.files := List.mem_of_find?_eq_some hfind
  have hplace : e.1 = place := by simpa using List.find?_some hfind
  cases hlast : place with
  | nil => rfl
  | cons step rest =>
    have habove : place.dropLast <+: e.1 := hplace ▸ place.dropLast_prefix
    have hlength : place.length - 1 < e.1.length := by
      rw [hplace, hlast]
      exact Nat.lt_succ_self _
    rw [← hlast, isFolder, Bool.or_eq_true]
    exact .inr (List.any_eq_true.2 ⟨e, hmem, by simp [habove, hlength]⟩)

/-- A directory that is there is left as it is. -/
theorem makeFolder_of_isFolder {path : String} (h : w.isFolder (placeOf path).dropLast = true) :
    w.makeFolder path = w := by
  rw [makeFolder, if_pos h]

/-- The directory of a file that is there need not be made. -/
theorem makeFolder_of_read {path : String} (h : IsFilePath path) {bytes : ByteArray}
    (hread : w.read path = .ok bytes) : w.makeFolder path = w :=
  makeFolder_of_isFolder (isFolder_dropLast (file?_of_read h hread))

/-- Where something is read, there is something. -/
theorem isThere_of_read {path : String} {bytes : ByteArray} (h : w.read path = .ok bytes) :
    w.isThere path = true := by
  obtain ⟨place, hlocate, hfile⟩ := read_eq_ok_iff.1 h
  simp [isThere, hlocate, hfile]

/-- Where reading finds nothing, there is nothing. -/
theorem isThere_of_notFound {path : String} (h : w.read path = .error .notFound) :
    w.isThere path = false := by
  unfold isThere
  cases hlocate : w.locate path with
  | error fault => rfl
  | ok place =>
    have hfile : w.file? place = none := by
      by_contra hsome
      obtain ⟨bytes, hbytes⟩ := Option.ne_none_iff_exists'.1 hsome
      cases h.symm.trans (read_eq_ok_iff.2 ⟨place, hlocate, hbytes⟩)
    -- Neither is there a directory, since reading one fails in another way.
    have hfolder : w.isFolder place = false := by
      by_contra hfolder
      simp [read, bind, Except.bind, hlocate, hfile, hfolder] at h
    simp [hfile, hfolder]

/-- What is a file depends on the files only. -/
theorem file?_congr (hfiles : w'.files = w.files) (place : Path) :
    w'.file? place = w.file? place := by
  rw [file?, file?, hfiles]

/-- What is a directory depends on the files and directories only. -/
theorem isFolder_congr (hfiles : w'.files = w.files) (hfolders : w'.folders = w.folders)
    (place : Path) : w'.isFolder place = w.isFolder place := by
  rw [isFolder, isFolder, hfiles, hfolders]

/-- Where some steps lead depends on the files and directories only. -/
theorem walk_congr (hfiles : w'.files = w.files) (hfolders : w'.folders = w.folders) (place : Path)
    (steps : List String) : w'.walk place steps = w.walk place steps := by
  induction steps generalizing place with
  | nil => rfl
  | cons step rest ih =>
    simp only [walk, isFolder_congr hfiles hfolders, file?_congr hfiles, ih]

/-- What is read depends on the files and directories only. -/
theorem read_congr (hfiles : w'.files = w.files) (hfolders : w'.folders = w.folders)
    (hhere : w'.here = w.here) (path : String) : w'.read path = w.read path := by
  have hlocate : w'.locate path = w.locate path := by
    simp only [locate, hhere, walk_congr hfiles hfolders]
  simp only [read, hlocate, isFolder_congr hfiles hfolders, file?_congr hfiles]

end World

end Waymark.Program
