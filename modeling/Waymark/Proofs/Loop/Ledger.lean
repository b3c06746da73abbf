import Mathlib.Data.List.Perm.Basic
import Waymark.Proofs.Loop.Trace

/-!
# The books of the loop

Nothing is swallowed by a loop, and nothing is reported twice. `Accounts` says for each kind of signal
what it may start and which events it leaves, and every moment of a run is so. What is started is
conserved: at every head of the loop, the requests that were started are those that were put away and
those that are still there, each once. A request is put away without an event only after a reset that
came later than its start.

The conservation law is an invariant of the run. Its cases are few, since a round adds a task, takes
one out, or lets the tasks go on with the errands that they have.
-/

namespace Waymark

/-- What a task is for: its number, and the lookup or the route request that it carries. -/
def Task.errand (t : Task) : Nat × Option Lookup × Option RouteRequest :=
  (t.id, t.work.lookup?, t.work.request?)

/-- Tasks of one errand have one number. -/
theorem Task.id_eq_of_errand_eq {t u : Task} (h : t.errand = u.errand) : t.id = u.id :=
  congrArg Prod.fst h

/-- The events that may be left when work is put away. Running work is not. -/
def Work.Reports : Work → List Event → Prop
  | .lookup k (.finished _), es =>
    (∃ marker : Marker, marker.role = k.ticket.target.role ∧ es = [.markerPlaced marker]) ∨
      es = [.lookupDiscarded k.ticket.seq] ∨ ∃ n, es = [.notice n]
  | .route q (.finished _), es =>
    (∃ meters points, es = [.routeShown meters points]) ∨
      es = [.routeDiscarded q.seq] ∨ ∃ n, es = [.notice n]
  | .lookup _ .crashed, es | .route _ .crashed, es => es = [Loop.failed (.transport .crashed)]
  | .lookup _ .aborted, es | .route _ .aborted, es => es = []
  | .lookup _ .running, _ | .route _ .running, _ => False

/-- Work that crashed reports a failure. -/
theorem Work.reports_of_isCrashed :
    ∀ {w : Work}, w.isCrashed = true → w.Reports [Loop.failed (.transport .crashed)]
  | .lookup _ .crashed, _ | .route _ .crashed, _ => rfl

/-- Work that was aborted reports nothing. -/
theorem Work.reports_of_isAborted : ∀ {w : Work}, w.isAborted = true → w.Reports []
  | .lookup _ .aborted, _ | .route _ .aborted, _ => rfl

namespace Loop

variable {σ : Type}

/-- The task that a signal puts away, if it puts one away. -/
def reaps? (l : Loop σ) : Signal → Option Task
  | .reaped id => (l.task? id).filter fun t => !t.work.isRunning
  | _ => none

/-- A task that has ended is put away. -/
theorem reaps?_eq_some {l : Loop σ} {id : Nat} {w : Work} (h : l.task? id = some ⟨id, w⟩)
    (hw : w.isRunning = false) : l.reaps? (.reaped id) = some ⟨id, w⟩ := by
  simp [reaps?, h, hw]

/-- Nothing is put away when there is no task of the number, or a running one. -/
theorem reaps?_eq_none {l : Loop σ} {id : Nat}
    (h : ∀ t, l.task? id = some t → t.work.isRunning = true) : l.reaps? (.reaped id) = none := by
  simpa [reaps?] using h

/-- What is put away was there. -/
theorem mem_of_reaps? {l : Loop σ} {s : Signal} {t : Task} (h : l.reaps? s = some t) :
    t ∈ l.tasks := by
  cases s with
  | command c => cases h
  | ended id ending => cases h
  | reaped id => exact (mem_of_task? (Option.filter_eq_some_iff.1 h).1).1

/-- What a signal may do to a loop: the work `w` that it starts, the events `es` that it leaves, and
the tasks that are there afterwards. -/
def Accounts (l : Loop σ) (s : Signal) (w : Option Work) (es : List Event) (tasks : List Task) :
    Prop :=
  let unchanged := w = none ∧ tasks.map Task.errand = l.tasks.map Task.errand
  let refused := unchanged ∧ ∃ n, es = [.notice n]
  match s with
  | .command (.click _ _) | .command (.submit _ _ _) =>
    refused ∨ es = [] ∧ ∃ k, w = some (.lookup k .running) ∧
      tasks = l.tasks ++ [⟨l.started, .lookup k .running⟩]
  | .command .calcRoute =>
    refused ∨ es = [] ∧ ∃ q, w = some (.route q .running) ∧
      tasks = l.tasks ++ [⟨l.started, .route q .running⟩]
  | .command (.showRoute _) =>
    refused ∨ unchanged ∧ ∃ meters points, es = [.routeShown meters points]
  | .command .clearRoute => unchanged ∧ es = [.routeCleared]
  | .command .reset => unchanged ∧ es = [.reset]
  | .command (.settle _) | .ended _ _ => unchanged ∧ es = []
  | .reaped id =>
    l.reaps? (.reaped id) = none ∧ unchanged ∧ es = [] ∨
      w = none ∧ ∃ v, l.reaps? (.reaped id) = some ⟨id, v⟩ ∧ v.Reports es ∧
        tasks = l.tasks.filter fun t => t.id != id

/-- The errands of the tasks stay when each task goes on for the same. -/
theorem map_errand {f : Task → Task} (hid : ∀ t, (f t).id = t.id)
    (hlookup : ∀ t, (f t).work.lookup? = t.work.lookup?)
    (hrequest : ∀ t, (f t).work.request? = t.work.request?) (tasks : List Task) :
    (tasks.map f).map Task.errand = tasks.map Task.errand := by
  rw [List.map_map]
  refine List.map_congr_left fun t _ => ?_
  simp only [Function.comp_apply, Task.errand, hid, hlookup, hrequest]

/-- Tasks that are aborted keep their errands. -/
theorem map_errand_abortAll (l : Loop σ) :
    l.abortAll.tasks.map Task.errand = l.tasks.map Task.errand :=
  map_errand (f := fun t => { t with work := t.work.abort }) (fun _ => rfl)
    (fun t => t.work.lookup?_abort) (fun t => t.work.request?_abort) l.tasks

/-- A task that ends keeps its errand. -/
theorem map_errand_finish (l : Loop σ) (id : Nat) (ending : Work.Ending) :
    (l.finish id ending).tasks.map Task.errand = l.tasks.map Task.errand :=
  map_errand (finish_id id ending) (finish_work (fun w => w.lookup?_finish ending) id)
    (finish_work (fun w => w.request?_finish ending) id) l.tasks

/-- What is put away was there before. -/
theorem conserves_drop {l : Loop σ} (h : Numbered l.tasks l.started) {id : Nat} {w : Work}
    (hw : l.task? id = some ⟨id, w⟩) (hended : w.isRunning = false) :
    (l.tasks.map Task.errand).Perm
      (((l.reaps? (.reaped id)).toList ++ (l.drop id).tasks).map Task.errand) := by
  rw [reaps?_eq_some hw hended]
  exact (h.perm_cons_filter (mem_of_task? hw).1).map Task.errand

variable [Surface σ]

/-- The event of the answer of a lookup is one that its work may report. -/
theorem reports_lookupEvent (s : Session σ) (k : Lookup) (answer : Except Error Node) :
    (Work.lookup k (.finished answer)).Reports
      [lookupEvent (s.completeLookup k.ticket answer).1] := by
  rcases s.completeLookup_cases k.ticket answer with
    ⟨-, h⟩ | ⟨-, ⟨e, -, h⟩ | ⟨node, -, h⟩⟩
  · rw [h]
    exact .inr (.inl rfl)
  · rw [h]
    exact .inr (.inr ⟨_, rfl⟩)
  · rw [h]
    exact .inl ⟨_, rfl, rfl⟩

/-- The event of the answer of a route request is one that its work may report. -/
theorem reports_routeEvent (s : Session σ) (q : RouteRequest) (answer : Except Error Payload) :
    (Work.route q (.finished answer)).Reports [routeEvent (s.completeRoute q answer).1] := by
  rcases s.completeRoute_cases q answer with ⟨-, h⟩ | ⟨-, ⟨e, h⟩ | ⟨payload, g, -, -, h⟩⟩
  · rw [h]
    exact .inr (.inl rfl)
  · rw [h]
    exact .inr (.inr ⟨_, rfl⟩)
  · rw [h]
    exact .inl ⟨_, _, rfl⟩

/-- Every round is accounted for. -/
theorem Round.accounts {l l' : Loop σ} {s : Signal} {w : Option Work} {es : List Event}
    (r : Round l s w es l') : Accounts l s w es l'.tasks := by
  cases r with
  | @refuse c e hc =>
    cases c with
    | click | submit | calcRoute | showRoute => exact .inl ⟨⟨rfl, rfl⟩, _, rfl⟩
    | clearRoute | reset | settle => cases hc
  | @startLookup c target point hc =>
    cases c with
    | click | submit => exact .inr ⟨rfl, _, rfl, rfl⟩
    | calcRoute | showRoute | clearRoute | reset | settle => cases hc
  | startRoute => exact .inr ⟨rfl, _, rfl, rfl⟩
  | «show» => exact .inr ⟨⟨rfl, rfl⟩, _, _, rfl⟩
  | clear => exact ⟨⟨rfl, rfl⟩, rfl⟩
  | reset => exact ⟨⟨rfl, map_errand_abortAll l⟩, rfl⟩
  | settle => exact ⟨⟨rfl, rfl⟩, rfl⟩
  | finish id ending => exact ⟨⟨rfl, map_errand_finish l id ending⟩, rfl⟩
  | idle h => exact .inl ⟨reaps?_eq_none h, ⟨rfl, rfl⟩, rfl⟩
  | @reapLookup id k answer ht =>
    exact .inr ⟨rfl, _, reaps?_eq_some ht rfl, reports_lookupEvent l.session k answer, rfl⟩
  | @reapRoute id q answer ht =>
    exact .inr ⟨rfl, _, reaps?_eq_some ht rfl, reports_routeEvent l.session q answer, rfl⟩
  | reapCrashed ht hw =>
    exact .inr ⟨rfl, _, reaps?_eq_some ht (Work.isRunning_of_isCrashed hw),
      Work.reports_of_isCrashed hw, rfl⟩
  | reapAborted ht hw =>
    exact .inr ⟨rfl, _, reaps?_eq_some ht (Work.isRunning_of_isAborted hw),
      Work.reports_of_isAborted hw, rfl⟩

/-- A round conserves what is there: the tasks before it and the one that it starts have the errands
of the one that it puts away and the tasks afterwards. -/
theorem Round.conserves {l l' : Loop σ} {s : Signal} {w : Option Work} {es : List Event}
    (r : Round l s w es l') (h : Numbered l.tasks l.started) :
    ((l.tasks ++ (w.map (Task.mk l.started)).toList).map Task.errand).Perm
      (((l.reaps? s).toList ++ l'.tasks).map Task.errand) := by
  cases r with
  | refuse | settle | «show» | clear => simp [reaps?]
  | startLookup => simp [reaps?, spawn]
  | startRoute => simp [reaps?, spawn]
  | reset => simp [reaps?, map_errand_abortAll]
  | finish id ending => simp [reaps?, map_errand_finish]
  | idle h => simp [reaps?_eq_none h]
  | reapLookup hw | reapRoute hw => simpa using conserves_drop h hw rfl
  | reapCrashed hw hc => simpa using conserves_drop h hw (Work.isRunning_of_isCrashed hc)
  | reapAborted hw ha => simpa using conserves_drop h hw (Work.isRunning_of_isAborted ha)

/-- Unless there is a reset, a task that is aborted after a round was so before. -/
theorem Round.aborted_before {l l' : Loop σ} {s : Signal} {w : Option Work} {es : List Event}
    (r : Round l s w es l') (hs : s ≠ .command .reset) {t : Task} (ht : t ∈ l'.tasks)
    (ha : t.work.isAborted = true) : ∃ u ∈ l.tasks, u.id = t.id ∧ u.work.isAborted = true := by
  cases r with
  | refuse | settle | «show» | clear | idle => exact ⟨t, ht, rfl, ha⟩
  | startLookup | startRoute =>
    rcases List.mem_append.1 ht with ht | ht
    · exact ⟨t, ht, rfl, ha⟩
    · obtain rfl := List.mem_singleton.1 ht
      cases ha
  | reset => exact absurd rfl hs
  | finish id ending =>
    obtain ⟨u, hu, rfl⟩ := List.mem_map.1 ht
    refine ⟨u, hu, (finish_id id ending u).symm, ?_⟩
    rw [← finish_work (fun w => w.isAborted_finish ending) id u]
    exact ha
  | reapLookup | reapRoute | reapCrashed | reapAborted =>
    exact ⟨t, (List.mem_filter.1 ht).1, rfl, ha⟩

end Loop

namespace Moment

variable {σ : Type}

/-- The task that a moment starts, if it starts one. -/
def starts? (m : Moment σ) : Option Task := m.begins.map (Task.mk m.before.started)

/-- The task that a moment puts away, if it puts one away. -/
def reaps? (m : Moment σ) : Option Task := m.before.reaps? m.signal

/-- The tasks that are started in some moments, in order. -/
def started (moments : List (Moment σ)) : List Task := moments.filterMap starts?

/-- The tasks that are put away in some moments, in order. -/
def reaped (moments : List (Moment σ)) : List Task := moments.filterMap reaps?

/-- Some moments in which there was a reset after the task of a number was started. -/
def ResetSince (moments : List (Moment σ)) (id : Nat) : Prop :=
  ∃ before m later, moments = before ++ m :: later ∧ m.starts?.map Task.id = some id ∧
    ∃ k ∈ later, k.signal = .command .reset

/-- A reset stays in the past. -/
theorem ResetSince.concat {past : List (Moment σ)} {id : Nat} (h : ResetSince past id)
    (m : Moment σ) : ResetSince (past ++ [m]) id := by
  obtain ⟨before, first, later, rfl, hfirst, k, hk, hreset⟩ := h
  exact ⟨before, first, later ++ [m], by simp, hfirst, k, List.mem_append_left _ hk, hreset⟩

/-- A task that was started is followed by a reset, if there is one now. -/
theorem resetSince_concat {past : List (Moment σ)} {t : Task} (ht : t ∈ started past)
    {m : Moment σ} (hm : m.signal = .command .reset) : ResetSince (past ++ [m]) t.id := by
  obtain ⟨first, hfirst, hstarts⟩ := List.mem_filterMap.1 ht
  obtain ⟨before, later, rfl⟩ := List.append_of_mem hfirst
  exact ⟨before, first, later ++ [m], by simp, by simp [hstarts], m, by simp, hm⟩

end Moment

namespace Loop

variable {σ : Type}

/-- The books of a loop after some moments balance. -/
structure Balanced (past : List (Moment σ)) (l : Loop σ) : Prop where
  /-- The tasks have numbers of their own. -/
  numbered : Numbered l.tasks l.started
  /-- The tasks that were started were numbered one after the other. -/
  numbers : (Moment.started past).map Task.id = List.range l.started
  /-- What was started was put away or is still there. -/
  conserved : ((Moment.started past).map Task.errand).Perm
    ((Moment.reaped past ++ l.tasks).map Task.errand)
  /-- Tasks were aborted by resets. -/
  aborted : ∀ t ∈ l.tasks, t.work.isAborted = true → Moment.ResetSince past t.id

/-- A task that is there was started. -/
theorem Balanced.mem_started {past : List (Moment σ)} {l : Loop σ} (h : Balanced past l) {t : Task}
    (ht : t ∈ l.tasks) : ∃ u ∈ Moment.started past, u.id = t.id := by
  have herrand : t.errand ∈ (Moment.started past).map Task.errand :=
    h.conserved.mem_iff.2 (List.mem_map_of_mem (List.mem_append_right _ ht))
  obtain ⟨u, hu, he⟩ := List.mem_map.1 herrand
  exact ⟨u, hu, Task.id_eq_of_errand_eq he⟩

variable [Surface σ]

/-- The number of tasks that were started grows with each one. -/
theorem Round.started_eq {l l' : Loop σ} {s : Signal} {w : Option Work} {es : List Event}
    (r : Round l s w es l') : l'.started = l.started + w.toList.length := by
  cases r <;> rfl

/-- The books still balance after a moment. -/
theorem Balanced.step {past : List (Moment σ)} {l : Loop σ} (h : Balanced past l) (s : Signal) :
    Balanced (past ++ [⟨l, s⟩]) (l.step s).2 := by
  obtain ⟨l', waiters, r, hafter⟩ := Moment.round ⟨l, s⟩
  show Balanced _ (Moment.after ⟨l, s⟩)
  rw [hafter]
  have hstarted : Moment.started (past ++ [⟨l, s⟩]) =
      Moment.started past ++ (Moment.starts? ⟨l, s⟩).toList :=
    Moment.filterMap_concat _ _ _
  have hreaped : Moment.reaped (past ++ [⟨l, s⟩]) =
      Moment.reaped past ++ (Moment.reaps? ⟨l, s⟩).toList :=
    Moment.filterMap_concat _ _ _
  refine ⟨r.numbered h.numbered, ?_, ?_, ?_⟩
  · -- A new task has the next number.
    rw [hstarted, List.map_append, h.numbers, r.started_eq]
    unfold Moment.starts?
    cases Moment.begins ⟨l, s⟩ with
    | none => simp
    | some w => simp [List.range_succ]
  · -- The new task comes to those that are there, and what the round puts away goes from them.
    rw [hstarted, hreaped]
    calc (Moment.started past ++ (Moment.starts? ⟨l, s⟩).toList).map Task.errand
        = (Moment.started past).map Task.errand ++
            (Moment.starts? ⟨l, s⟩).toList.map Task.errand := List.map_append
      List.Perm _ ((Moment.reaped past ++ l.tasks).map Task.errand ++
            (Moment.starts? ⟨l, s⟩).toList.map Task.errand) := h.conserved.append_right _
      _ = (Moment.reaped past).map Task.errand ++
            (l.tasks ++ (Moment.starts? ⟨l, s⟩).toList).map Task.errand := by
          simp only [List.map_append, List.append_assoc]
      List.Perm _ ((Moment.reaped past).map Task.errand ++
            ((Moment.reaps? ⟨l, s⟩).toList ++ l'.tasks).map Task.errand) :=
          (r.conserves h.numbered).append_left _
      _ = (Moment.reaped past ++ (Moment.reaps? ⟨l, s⟩).toList ++ l'.tasks).map Task.errand := by
          simp only [List.map_append, List.append_assoc]
  · intro t ht ha
    by_cases hs : s = .command .reset
    · -- Whatever was running is aborted now, and it was started before.
      subst hs
      have herrands : l'.tasks.map Task.errand = l.tasks.map Task.errand := r.accounts.1.2
      obtain ⟨u, hu, he⟩ := List.mem_map.1 (herrands ▸ List.mem_map_of_mem ht)
      obtain ⟨v, hv, hid⟩ := h.mem_started hu
      rw [← hid.trans (Task.id_eq_of_errand_eq he)]
      exact Moment.resetSince_concat hv rfl
    · -- It was aborted before, and that reset stays in the past.
      obtain ⟨u, hu, hid, hu'⟩ := r.aborted_before hs ht ha
      rw [← hid]
      exact (h.aborted u hu hu').concat _

/-- The books of a loop balance at every head of it. -/
theorem run_balanced (session : Session σ) (signals : List Signal) :
    Balanced ((start session).trace signals) ((start session).run signals).2 := by
  have hfirst : Balanced [] (start session) :=
    ⟨.nil, rfl, .refl _, by simp [start]⟩
  exact run_induction (fun past l s _ h => h.step s) [] hfirst

/-- The books of every run: its events are those of its moments; every moment starts what its signal
may start and leaves the events that it may leave; what was started, numbered one after the other,
was put away or is still there, each request once; and what was put away as aborted had been started
before a reset. -/
theorem run_accounts (session : Session σ) (signals : List Signal) :
    let trace := (start session).trace signals
    let last := ((start session).run signals).2
    ((start session).run signals).1.events = trace.flatMap Moment.events ∧
    (∀ m ∈ trace, Accounts m.before m.signal m.begins m.events m.after.tasks) ∧
    (Moment.started trace).map Task.id = List.range last.started ∧
    ((Moment.started trace).map Task.errand).Perm
      ((Moment.reaped trace ++ last.tasks).map Task.errand) ∧
    ∀ before m later t, trace = before ++ m :: later → m.reaps? = some t →
      t.work.isAborted = true → Moment.ResetSince before t.id := by
  intro trace last
  have hbooks := run_balanced session signals
  refine ⟨run_events _ signals, ?_, hbooks.numbers, hbooks.conserved, ?_⟩
  · intro m _
    obtain ⟨l', waiters, r, hafter⟩ := m.round
    rw [hafter]
    exact r.accounts
  · intro before m later t htrace hreaps hab
    obtain ⟨past, rest, -, rfl, hm⟩ := trace_split htrace
    -- The books balanced at the head of the loop at which the task was put away.
    have hpast := run_balanced session past
    rw [← hm] at hpast
    exact hpast.aborted t (mem_of_reaps? hreaps) hab

end Loop

end Waymark
