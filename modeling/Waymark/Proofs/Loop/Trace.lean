import Waymark.Proofs.Loop.Round
import Waymark.Proofs.Session.Counting

/-!
# Runs of the loop

A run is looked at as a list of moments, each of them a loop and the signal that it found. Its events
are those of its moments, one after the other, and what was begun in it is a list, too. `Numbered` is
the first invariant of every run: no two tasks have the same number, and no number is given twice.
-/

namespace Waymark

/-- A loop and the signal that it found. -/
structure Moment (σ : Type) where
  /-- The loop. -/
  before : Loop σ
  /-- The signal. -/
  signal : Signal

namespace Moment

variable {σ : Type}

/-- The work that is started at a moment, if any is. -/
def begins (m : Moment σ) : Option Work := m.before.begins m.signal

/-- The lookups that are begun in some moments, in order. -/
def lookups (moments : List (Moment σ)) : List Lookup :=
  moments.filterMap fun m => m.begins.bind Work.lookup?

/-- The route requests that are begun in some moments, in order. -/
def requests (moments : List (Moment σ)) : List RouteRequest :=
  moments.filterMap fun m => m.begins.bind Work.request?

/-- A further moment adds what there is of it to what there is of the moments before. -/
theorem filterMap_concat {α : Type} (f : Moment σ → Option α) (past : List (Moment σ))
    (m : Moment σ) : (past ++ [m]).filterMap f = past.filterMap f ++ (f m).toList := by
  rw [List.filterMap_append]
  cases h : f m with
  | none => simp [h]
  | some a => simp [h]

variable [Surface σ]

/-- The loop after a moment. -/
def after (m : Moment σ) : Loop σ := (m.before.step m.signal).2

/-- The events of a moment. -/
def events (m : Moment σ) : List Event := (m.before.step m.signal).1.events

/-- A moment is a round, but for the waiters. -/
theorem round (m : Moment σ) :
    ∃ l waiters, Loop.Round m.before m.signal m.begins m.events l ∧
      m.after = { l with waiters } := by
  obtain ⟨hevents, waiters, hafter⟩ := m.before.step_eq m.signal
  refine ⟨_, waiters, ?_, hafter⟩
  unfold events
  rw [hevents]
  exact m.before.act_round m.signal

end Moment

namespace Loop

/-- The tasks of a loop that has started `n` of them have numbers below `n`, all different. -/
structure Numbered (tasks : List Task) (n : Nat) : Prop where
  /-- No two tasks have the same number. -/
  nodup : (tasks.map Task.id).Nodup
  /-- Every number was given to a task that was started. -/
  lt : ∀ t ∈ tasks, t.id < n

namespace Numbered

variable {tasks : List Task} {n : Nat}

/-- A loop has no tasks before any are started. -/
theorem nil : Numbered [] 0 := ⟨List.nodup_nil, by simp⟩

/-- A task that is started gets a number of its own. -/
theorem spawn (h : Numbered tasks n) (w : Work) : Numbered (tasks ++ [⟨n, w⟩]) (n + 1) where
  nodup := by
    rw [List.map_append, List.nodup_append]
    refine ⟨h.nodup, by simp, ?_⟩
    -- All numbers so far are below the new one.
    intro a ha b hb
    obtain ⟨t, ht, rfl⟩ := List.mem_map.1 ha
    obtain rfl : b = n := by simpa using hb
    exact Nat.ne_of_lt (h.lt t ht)
  lt := by
    intro t ht
    rcases List.mem_append.1 ht with ht | ht
    · exact Nat.lt_succ_of_lt (h.lt t ht)
    · obtain rfl : t = ⟨n, w⟩ := by simpa using ht
      exact Nat.lt_succ_self n

/-- A change of the work of some tasks leaves their numbers alone. -/
theorem map (h : Numbered tasks n) {f : Task → Task} (hf : ∀ t, (f t).id = t.id) :
    Numbered (tasks.map f) n where
  nodup := by
    rw [List.map_map, show Task.id ∘ f = Task.id from funext hf]
    exact h.nodup
  lt := by
    intro t ht
    obtain ⟨u, hu, rfl⟩ := List.mem_map.1 ht
    rw [hf]
    exact h.lt u hu

/-- The tasks that are left when some are put away keep their numbers. -/
theorem filter (h : Numbered tasks n) (p : Task → Bool) : Numbered (tasks.filter p) n where
  nodup := h.nodup.sublist (List.filter_sublist.map _)
  lt := fun t ht => h.lt t (List.mem_filter.1 ht).1

/-- A task is put in front of the others. -/
theorem perm_cons_filter (h : Numbered tasks n) {id : Nat} {w : Work} (hw : ⟨id, w⟩ ∈ tasks) :
    tasks.Perm (⟨id, w⟩ :: tasks.filter fun t => t.id != id) := by
  -- Of the tasks, those of the number are the one task only.
  have hsplit := (List.filter_append_perm (fun t : Task => t.id == id) tasks).symm
  rw [filter_eq_singleton h.nodup hw] at hsplit
  exact hsplit

/-- Two tasks of one number are the same. -/
theorem eq_of_id_eq (h : Numbered tasks n) {t u : Task} (ht : t ∈ tasks) (hu : u ∈ tasks)
    (hid : t.id = u.id) : t = u :=
  List.inj_on_of_nodup_map h.nodup ht hu hid

end Numbered

variable {σ : Type}

/-- The number of a task does not change when it ends. -/
theorem finish_id (id : Nat) (ending : Work.Ending) (t : Task) :
    (if t.id = id then { t with work := t.work.finish ending } else t).id = t.id := by
  split <;> rfl

/-- What of some work does not change when it ends does not change for any task when one ends. -/
theorem finish_work {α : Type} {of : Work → α} {ending : Work.Ending}
    (hof : ∀ w, of (w.finish ending) = of w) (id : Nat) (t : Task) :
    of (if t.id = id then { t with work := t.work.finish ending } else t).work = of t.work := by
  split
  · exact hof t.work
  · rfl

variable [Surface σ]

/-- A round keeps the tasks numbered. -/
theorem Round.numbered {l l' : Loop σ} {s : Signal} {w : Option Work} {es : List Event}
    (r : Round l s w es l') (h : Numbered l.tasks l.started) : Numbered l'.tasks l'.started := by
  cases r with
  | refuse | «show» | clear | settle | idle => exact h
  | startLookup => exact h.spawn _
  | startRoute => exact h.spawn _
  | reset => exact h.map fun _ => rfl
  | finish id ending => exact h.map (finish_id id ending)
  | reapLookup | reapRoute | reapCrashed | reapAborted => exact h.filter _

/-- The moments of a run. -/
def trace (l : Loop σ) : List Signal → List (Moment σ)
  | [] => []
  | s :: rest => ⟨l, s⟩ :: (l.step s).2.trace rest

/-- A moment of a run divides it into what was before, and what came from the moment on. -/
theorem trace_split {l : Loop σ} {signals : List Signal} {before later : List (Moment σ)}
    {m : Moment σ} (h : l.trace signals = before ++ m :: later) :
    ∃ past rest, signals = past ++ m.signal :: rest ∧ before = l.trace past ∧
      m.before = (l.run past).2 := by
  induction before generalizing l signals with
  | nil =>
    cases signals with
    | nil => cases h
    | cons s rest =>
      obtain ⟨rfl, -⟩ := List.cons.inj h
      exact ⟨[], rest, rfl, rfl, rfl⟩
  | cons b before ih =>
    cases signals with
    | nil => cases h
    | cons s rest =>
      obtain ⟨rfl, hrest⟩ := List.cons.inj h
      obtain ⟨past, rest, rfl, rfl, hm⟩ := ih hrest
      exact ⟨s :: past, rest, rfl, rfl, hm⟩

/-- The events of a run are those of its moments. -/
theorem run_events (l : Loop σ) (signals : List Signal) :
    (l.run signals).1.events = (l.trace signals).flatMap Moment.events := by
  induction signals generalizing l with
  | nil => rfl
  | cons s rest ih =>
    show (l.step s).1.events ++ _ = _
    rw [ih]
    rfl

/-- What holds at first and is kept by every moment of a run, together with the moments so far,
holds at its end, together with all of them. -/
theorem run_induction {P : List (Moment σ) → Loop σ → Prop} {l : Loop σ} {signals : List Signal}
    (hstep : ∀ past l s, s ∈ signals → P past l → P (past ++ [⟨l, s⟩]) (l.step s).2)
    (past : List (Moment σ)) (hfirst : P past l) :
    P (past ++ l.trace signals) (l.run signals).2 := by
  induction signals generalizing l past with
  | nil => simpa [trace, run] using hfirst
  | cons s rest ih =>
    have hnext := hstep past l s List.mem_cons_self hfirst
    have hrest := ih (fun past l s hs => hstep past l s (List.mem_cons_of_mem _ hs)) _ hnext
    rw [List.append_assoc] at hrest
    exact hrest

end Loop

end Waymark
