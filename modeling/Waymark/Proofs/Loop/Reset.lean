import Waymark.Proofs.Loop.Ledger
import Waymark.Surface.Layers

/-!
# What is late after a reset

A reset aborts the tasks that are running. A task that has ended keeps its answer all the same, and
the loop puts it away at some later time, between the tasks of newer requests. Its answer is late
then: it comes with a number that was given before the reset, and what counts since has a greater
one (`Session.Renewed`). So all that a request can leave after a reset is the event that it was
discarded, once, and the session is not changed by it (`reset_isolates`).

The invariant of a loop after a reset is `Renewed`. It speaks of the tasks that were there at the
reset; those that were started since may end in any way.
-/

namespace Waymark

/-- Whether a signal is about the task of a number. -/
def Signal.concerns (id : Nat) : Signal → Bool
  | .command _ => false
  | .ended i _ | .reaped i => i == id

namespace Work

/-- The event that tells that the request of some work was discarded. -/
def discarded : Work → Event
  | .lookup k _ => .lookupDiscarded k.ticket.seq
  | .route q _ => .routeDiscarded q.seq

/-- Whether work is for one of the first `n` lookups or for one of the first `m` route requests. -/
def Among (n m : Nat) : Work → Prop
  | .lookup k _ => k.ticket.seq ≤ n
  | .route q _ => q.seq ≤ m

/-- Work for the same request is discarded by the same event. -/
theorem discarded_eq {v w : Work} (hlookup : v.lookup? = w.lookup?)
    (hrequest : v.request? = w.request?) : v.discarded = w.discarded := by
  rcases v with ⟨k, p⟩ | ⟨q, p⟩ <;> rcases w with ⟨k', p'⟩ | ⟨q', p'⟩
  · obtain rfl : k = k' := Option.some.inj hlookup
    rfl
  · cases hlookup
  · cases hlookup
  · obtain rfl : q = q' := Option.some.inj hrequest
    rfl

/-- What is among the first is among more of them. -/
theorem Among.mono {n m n' m' : Nat} {w : Work} (h : w.Among n m) (hn : n ≤ n') (hm : m ≤ m') :
    w.Among n' m' := by
  rcases w with ⟨k, p⟩ | ⟨q, p⟩
  · exact Nat.le_trans h hn
  · exact Nat.le_trans h hm

/-- An abort does not change by which event work is discarded. -/
@[simp] theorem discarded_abort (w : Work) : w.abort.discarded = w.discarded :=
  discarded_eq w.lookup?_abort w.request?_abort

/-- The end of work does not change by which event it is discarded. -/
@[simp] theorem discarded_finish (w : Work) (ending : Ending) :
    (w.finish ending).discarded = w.discarded :=
  discarded_eq (w.lookup?_finish ending) (w.request?_finish ending)

/-- Work stays for the same request when it is aborted. -/
@[simp] theorem among_abort {n m : Nat} (w : Work) : w.abort.Among n m ↔ w.Among n m := by
  cases w <;> rfl

/-- Work stays for the same request when it ends. -/
@[simp] theorem among_finish {n m : Nat} (w : Work) (ending : Ending) :
    (w.finish ending).Among n m ↔ w.Among n m := by
  unfold finish
  split <;> rfl

/-- No work is running after an abort. -/
@[simp] theorem isRunning_abort (w : Work) : w.abort.isRunning = false := by
  rcases w with ⟨k, p⟩ | ⟨q, p⟩ <;> cases p <;> rfl

/-- Work that has ended is not aborted any more. -/
theorem abort_of_ended {w : Work} (h : w.isRunning = false) : w.abort = w := by
  rcases w with ⟨k, p⟩ | ⟨q, p⟩ <;> cases p <;> first | rfl | cases h

/-- Work that has ended does not end again. -/
theorem finish_of_ended {w : Work} (h : w.isRunning = false) (ending : Ending) :
    w.finish ending = w := by
  unfold finish
  split <;> first | rfl | cases h

/-- Work that has ended, but not by a crash, and is for one of the first `n` lookups or one of the
first `m` route requests. -/
structure Late (n m : Nat) (w : Work) : Prop where
  /-- It has ended. -/
  ended : w.isRunning = false
  /-- It did not crash. -/
  uncrashed : w.isCrashed = false
  /-- It is for one of the first requests. -/
  among : w.Among n m

end Work

variable {σ : Type}

/-- None of the first `n` lookups and of the first `m` route requests counts, and so many were handed
out. -/
structure Session.Renewed (n m : Nat) (s : Session σ) : Prop where
  /-- So many lookups were handed out. -/
  issued : n ≤ s.selection.issued
  /-- So many route requests were handed out. -/
  routesIssued : m ≤ s.routesIssued
  /-- The ticket that counts is a later one. -/
  current : ∀ i, s.selection.current = some i → n < i
  /-- The route request that counts is a later one. -/
  routeCurrent : ∀ i, s.routeCurrent = some i → m < i

namespace Moment

variable [Surface σ]

/-- The events that are left by the task of a number in some moments, in order. -/
def left (id : Nat) (moments : List (Moment σ)) : List Event :=
  (moments.filter fun m => m.signal.concerns id).flatMap events

/-- A first moment that is about the task adds its events. -/
theorem left_cons_of_concerns {id : Nat} {m : Moment σ} (h : m.signal.concerns id = true)
    (rest : List (Moment σ)) : left id (m :: rest) = m.events ++ left id rest := by
  simp [left, h]

/-- A first moment that is not about the task adds nothing. -/
theorem left_cons_of_not_concerns {id : Nat} {m : Moment σ} (h : ¬ m.signal.concerns id = true)
    (rest : List (Moment σ)) : left id (m :: rest) = left id rest := by
  simp [left, h]

end Moment

namespace Loop

/-- The invariant of a loop since a reset, at which it had started `c` tasks and its session had
handed out `n` lookups and `m` route requests. -/
structure Renewed (n m c : Nat) (l : Loop σ) : Prop where
  /-- What was handed out before the reset does not count. -/
  session : l.session.Renewed n m
  /-- So many tasks were started. -/
  started : c ≤ l.started
  /-- The tasks from before the reset have ended. -/
  late : ∀ t ∈ l.tasks, t.id < c → t.work.Late n m

/-- The tasks of a loop are for requests that its session has handed out, and none has crashed. -/
def Sound (l : Loop σ) : Prop :=
  ∀ t ∈ l.tasks, t.work.isCrashed = false ∧
    t.work.Among l.session.selection.issued l.session.routesIssued

variable [Surface σ]

/-- What holds of every task holds of every task after a round, if it holds of a task that is
started, and if tasks keep it when they are aborted and when they end. -/
theorem Round.forall_tasks {l l' : Loop σ} {s : Signal} {w : Option Work} {es : List Event}
    (r : Round l s w es l') {P : Task → Prop} (h : ∀ t ∈ l.tasks, P t)
    (hnew : ∀ v, w = some v → P ⟨l.started, v⟩)
    (habort : ∀ t, P t → P { t with work := t.work.abort })
    (hfinish : ∀ t ending, s = .ended t.id ending → P t → P { t with work := t.work.finish ending }) :
    ∀ t ∈ l'.tasks, P t := by
  cases r with
  | refuse | settle | «show» | clear | idle => exact h
  | startLookup | startRoute =>
    exact List.forall_mem_append.2 ⟨h, List.forall_mem_singleton.2 (hnew _ rfl)⟩
  | reset => exact List.forall_mem_map.2 fun t ht => habort t (h t ht)
  | finish id ending =>
    refine List.forall_mem_map.2 fun t ht => ?_
    split
    · rename_i hid
      exact hfinish t ending (by rw [hid]) (h t ht)
    · exact h t ht
  | reapLookup | reapRoute | reapCrashed | reapAborted =>
    exact fun t ht => h t (List.mem_filter.1 ht).1

/-- A round hands out more lookups and more route requests, or none. -/
theorem Round.issued_le {l l' : Loop σ} {s : Signal} {w : Option Work} {es : List Event}
    (r : Round l s w es l') :
    l.session.selection.issued ≤ l'.session.selection.issued ∧
      l.session.routesIssued ≤ l'.session.routesIssued := by
  cases r with
  | startLookup => exact ⟨Nat.le_succ _, Nat.le_refl _⟩
  | startRoute => exact ⟨Nat.le_refl _, Nat.le_succ _⟩
  | reapLookup => constructor <;> simp
  | reapRoute => constructor <;> simp
  | refuse | settle | «show» | clear | idle | reset | finish | reapCrashed | reapAborted =>
    exact ⟨Nat.le_refl _, Nat.le_refl _⟩

/-- A round that is no crash keeps a loop sound. -/
theorem Round.sound {l l' : Loop σ} {s : Signal} {w : Option Work} {es : List Event}
    (r : Round l s w es l') (h : l.Sound) (hs : ∀ id, s ≠ .ended id .crash) : l'.Sound := by
  obtain ⟨hissued, hroutes⟩ := r.issued_le
  have hstill : ∀ t ∈ l.tasks, t.work.isCrashed = false ∧
      t.work.Among l'.session.selection.issued l'.session.routesIssued :=
    fun t ht => ⟨(h t ht).1, (h t ht).2.mono hissued hroutes⟩
  refine r.forall_tasks hstill ?_ ?_ ?_
  · -- A request that is started has the number that the session has got to.
    rintro v rfl
    cases r with
    | startLookup => exact ⟨rfl, Nat.le_refl _⟩
    | startRoute => exact ⟨rfl, Nat.le_refl _⟩
  · intro t ht
    simpa using ht
  · intro t ending hsignal ht
    have hending : ending ≠ .crash := fun he => hs t.id (by rw [hsignal, he])
    simpa [Work.isCrashed_finish _ hending] using ht

/-- What was handed out before a reset does not count after any round since. -/
theorem Round.renewed_session {n m : Nat} {l l' : Loop σ} {s : Signal} {w : Option Work}
    {es : List Event} (r : Round l s w es l') (h : l.session.Renewed n m) :
    l'.session.Renewed n m := by
  obtain ⟨hissued, hroutes⟩ := r.issued_le
  have hn : n ≤ l'.session.selection.issued := Nat.le_trans h.issued hissued
  have hm : m ≤ l'.session.routesIssued := Nat.le_trans h.routesIssued hroutes
  cases r with
  | refuse | settle | finish | idle | reapCrashed | reapAborted | clear =>
    exact ⟨hn, hm, h.current, h.routeCurrent⟩
  | startLookup =>
    refine ⟨hn, hm, ?_, h.routeCurrent⟩
    rintro i ⟨⟩
    exact Nat.lt_succ_of_le h.issued
  | startRoute =>
    refine ⟨hn, hm, h.current, ?_⟩
    rintro i ⟨⟩
    exact Nat.lt_succ_of_le h.routesIssued
  | «show» => exact ⟨hn, hm, h.current, by rintro i ⟨⟩⟩
  | reset => exact ⟨hn, hm, by rintro i ⟨⟩, by rintro i ⟨⟩⟩
  | @reapLookup id k answer =>
    refine ⟨hn, hm, fun i hi => ?_, fun i hi => h.routeCurrent i ?_⟩
    · -- The answer takes away the ticket that counts, or leaves it.
      rw [Session.completeLookup_current] at hi
      split at hi
      · cases hi
      · exact h.current i hi
    · rw [← hi]
      simp
  | @reapRoute id q answer =>
    refine ⟨hn, hm, fun i hi => h.current i ?_, fun i hi => ?_⟩
    · rw [← hi]
      simp
    · rw [Session.completeRoute_routeCurrent] at hi
      split at hi
      · cases hi
      · exact h.routeCurrent i hi

/-- A round keeps the invariant. -/
theorem Round.renewed {n m c : Nat} {l l' : Loop σ} {s : Signal} {w : Option Work}
    {es : List Event} (r : Round l s w es l') (h : l.Renewed n m c) : l'.Renewed n m c where
  session := r.renewed_session h.session
  started := by
    rw [r.started_eq]
    exact Nat.le_add_right_of_le h.started
  late := by
    refine r.forall_tasks h.late ?_ ?_ ?_
    · intro v _ hlt
      exact absurd hlt (Nat.not_lt.2 h.started)
    · intro t ht hlt
      rw [Work.abort_of_ended (ht hlt).ended]
      exact ht hlt
    · intro t ending _ ht hlt
      rw [Work.finish_of_ended (ht hlt).ended]
      exact ht hlt

/-- After a reset the invariant holds. -/
theorem Sound.renewed {l : Loop σ} (h : l.Sound) :
    Renewed l.session.selection.issued l.session.routesIssued l.started
      { l.abortAll with session := l.session.reset } where
  session := ⟨Nat.le_refl _, Nat.le_refl _, by rintro i ⟨⟩, by rintro i ⟨⟩⟩
  started := Nat.le_refl _
  late := by
    refine List.forall_mem_map.2 fun t ht _ => ⟨t.work.isRunning_abort, ?_, ?_⟩
    · rw [Work.isCrashed_abort]
      exact (h t ht).1
    · rw [Work.among_abort]
      exact (h t ht).2

/-- Late work leaves a session as it is, and at most the event that it was discarded. -/
theorem apply_late {n m : Nat} {l : Loop σ} {w : Work} (hw : w.Late n m)
    (h : l.session.Renewed n m) : l.apply w = ([], l) ∨ l.apply w = ([w.discarded], l) := by
  obtain ⟨hended, huncrashed, hamong⟩ := hw
  rcases w with ⟨k, p⟩ | ⟨q, p⟩
  · cases p with
    | running => cases hended
    | crashed => cases huncrashed
    | aborted => exact .inl rfl
    | finished answer =>
      have hstale : l.session.selection.current ≠ some k.ticket.seq :=
        fun hc => Nat.not_lt.2 hamong (h.current _ hc)
      right
      simp only [apply, Session.completeLookup_stale hstale]
      rfl
  · cases p with
    | running => cases hended
    | crashed => cases huncrashed
    | aborted => exact .inl rfl
    | finished answer =>
      have hstale : l.session.routeCurrent ≠ some q.seq :=
        fun hc => Nat.not_lt.2 hamong (h.routeCurrent _ hc)
      right
      simp only [apply, Session.completeRoute_stale hstale]
      rfl

/-- A task that has ended is put away by applying what has come of it. -/
theorem act_reaped_of_ended {l : Loop σ} {t : Task} (ht : l.task? t.id = some t)
    (hw : t.work.isRunning = false) : l.act (.reaped t.id) = (l.drop t.id).apply t.work := by
  unfold act reap
  simp [ht, hw]

/-- A signal about a task from before the reset leaves the session as it is. It leaves no event, or
the task was there, is put away, and leaves the event that its request was discarded. -/
theorem act_of_concerns {n m c : Nat} {l : Loop σ} (h : l.Renewed n m c) {s : Signal} {id : Nat}
    (hid : id < c) (hs : s.concerns id = true) :
    (l.act s).2.session = l.session ∧ ((l.act s).1 = [] ∨
      ∃ t ∈ l.tasks, t.id = id ∧ (l.act s).1 = [t.work.discarded] ∧
        ∀ u ∈ (l.act s).2.tasks, u.id ≠ id) := by
  cases s with
  | command c => cases hs
  | ended i ending => exact ⟨rfl, .inl rfl⟩
  | reaped i =>
    obtain rfl : i = id := by simpa [Signal.concerns] using hs
    cases ht : l.task? i with
    | none =>
      have hact : l.act (.reaped i) = ([], l) := by simp [act, reap, ht]
      rw [hact]
      exact ⟨rfl, .inl rfl⟩
    | some t =>
      obtain ⟨hmem, rfl⟩ := mem_of_task? ht
      have hlate := h.late t hmem hid
      have hgone : ∀ u ∈ (l.drop t.id).tasks, u.id ≠ t.id :=
        fun u hu => by simpa using (List.mem_filter.1 hu).2
      rw [act_reaped_of_ended ht hlate.ended]
      rcases apply_late (l := l.drop t.id) hlate h.session with he | he <;> rw [he]
      · exact ⟨rfl, .inl rfl⟩
      · exact ⟨rfl, .inr ⟨t, hmem, rfl, rfl, hgone⟩⟩

omit [Surface σ] in
/-- The invariant does not depend on the waiters. -/
theorem Renewed.waiters {n m c : Nat} {l : Loop σ} (h : l.Renewed n m c) (waiters : List Nat) :
    Renewed n m c { l with waiters } :=
  ⟨h.session, h.started, h.late⟩

/-- The invariant holds after every signal. -/
theorem Renewed.step {n m c : Nat} {l : Loop σ} (h : l.Renewed n m c) (s : Signal) :
    (l.step s).2.Renewed n m c := by
  obtain ⟨-, waiters, hafter⟩ := l.step_eq s
  rw [hafter]
  exact ((l.act_round s).renewed h).waiters waiters

/-- No moment of a run changes the session on account of a task from before the reset. -/
theorem Renewed.session_eq {n m c : Nat} {l : Loop σ} (h : l.Renewed n m c)
    (signals : List Signal) {id : Nat} (hid : id < c) :
    ∀ k ∈ l.trace signals, k.signal.concerns id = true → k.after.session = k.before.session := by
  induction signals generalizing l with
  | nil => simp [trace]
  | cons s rest ih =>
    refine List.forall_mem_cons.2 ⟨fun hs => ?_, ih (h.step s)⟩
    obtain ⟨-, waiters, hafter⟩ := l.step_eq s
    show (l.step s).2.session = l.session
    rw [hafter]
    exact (act_of_concerns h hid hs).1

/-- What holds of the work of the task of a number holds after a step, if work keeps it when it is
aborted and when it ends, since no other task is given that number. -/
theorem step_forall_work {l : Loop σ} {id : Nat} (hstarted : id < l.started) {P : Work → Prop}
    (h : ∀ t ∈ l.tasks, t.id = id → P t.work) (habort : ∀ w, P w → P w.abort)
    (hfinish : ∀ w ending, P w → P (w.finish ending)) (s : Signal) :
    id < (l.step s).2.started ∧ ∀ t ∈ (l.step s).2.tasks, t.id = id → P t.work := by
  obtain ⟨-, waiters, hafter⟩ := l.step_eq s
  have hround := l.act_round s
  rw [hafter]
  refine ⟨?_, hround.forall_tasks h ?_ ?_ ?_⟩
  · rw [hround.started_eq]
    exact Nat.lt_add_right _ hstarted
  · intro v _ he
    exact absurd he (Nat.ne_of_gt hstarted)
  · exact fun t ht he => habort t.work (ht he)
  · exact fun t ending _ ht he => hfinish t.work ending (ht he)

/-- A signal about a task that is gone leaves no event. -/
theorem act_of_gone {l : Loop σ} {id : Nat} (hgone : ∀ t ∈ l.tasks, t.id ≠ id) {s : Signal}
    (hs : s.concerns id = true) : (l.act s).1 = [] := by
  cases s with
  | command c => cases hs
  | ended i ending => rfl
  | reaped i =>
    obtain rfl : i = id := by simpa [Signal.concerns] using hs
    have hnone : l.task? i = none := List.find?_eq_none.2 fun t ht => by simpa using hgone t ht
    simp [act, reap, hnone]

/-- A task that is gone leaves nothing any more. -/
theorem left_of_gone {l : Loop σ} {id : Nat} (hstarted : id < l.started)
    (hgone : ∀ t ∈ l.tasks, t.id ≠ id) (signals : List Signal) :
    Moment.left id (l.trace signals) = [] := by
  induction signals generalizing l with
  | nil => rfl
  | cons s rest ih =>
    obtain ⟨hstarted', hgone'⟩ :=
      step_forall_work hstarted (P := fun _ => False) hgone (fun _ h => h) (fun _ _ h => h) s
    have hrest : Moment.left id ((l.step s).2.trace rest) = [] := ih hstarted' hgone'
    by_cases hs : s.concerns id = true
    · have hevents : (l.step s).1.events = [] := (l.step_eq s).1.trans (act_of_gone hgone hs)
      calc Moment.left id (l.trace (s :: rest))
          = (l.step s).1.events ++ Moment.left id ((l.step s).2.trace rest) :=
            Moment.left_cons_of_concerns hs _
        _ = [] := by rw [hevents, hrest, List.append_nil]
    · exact (Moment.left_cons_of_not_concerns hs _).trans hrest

/-- A task from before the reset leaves nothing since, or just the event that its request was
discarded. -/
theorem Renewed.left {n m c : Nat} {l : Loop σ} (h : l.Renewed n m c) {id : Nat} (hid : id < c)
    {e : Event} (he : ∀ t ∈ l.tasks, t.id = id → t.work.discarded = e) (signals : List Signal) :
    Moment.left id (l.trace signals) = [] ∨ Moment.left id (l.trace signals) = [e] := by
  induction signals generalizing l with
  | nil => exact .inl rfl
  | cons s rest ih =>
    obtain ⟨hstarted, he'⟩ := step_forall_work (Nat.lt_of_lt_of_le hid h.started) he
      (fun w hw => w.discarded_abort.trans hw)
      (fun w ending hw => (w.discarded_finish ending).trans hw) s
    by_cases hs : s.concerns id = true
    · obtain ⟨hevents, waiters, hafter⟩ := l.step_eq s
      have hleft : Moment.left id (l.trace (s :: rest)) =
          (l.act s).1 ++ Moment.left id ((l.step s).2.trace rest) := by
        rw [← hevents]
        exact Moment.left_cons_of_concerns hs _
      rw [hleft]
      rcases (act_of_concerns h hid hs).2 with hnone | ⟨t, ht, htid, hone, hgone⟩
      · rw [hnone]
        exact ih (h.step s) he'
      · -- The task is put away, so that nothing more comes of it.
        have hrest : Moment.left id ((l.step s).2.trace rest) = [] := by
          refine left_of_gone hstarted ?_ rest
          rw [hafter]
          exact hgone
        right
        rw [hone, hrest, he t ht htid, List.append_nil]
    · rw [show Moment.left id (l.trace (s :: rest)) = Moment.left id ((l.step s).2.trace rest) from
        Moment.left_cons_of_not_concerns hs _]
      exact ih (h.step s) he'

/-- A loop in which no task has crashed is sound at every head of it. -/
theorem run_sound (session : Session σ) {signals : List Signal}
    (uncrashed : ∀ id, .ended id .crash ∉ signals) : ((start session).run signals).2.Sound := by
  refine run_induction (P := fun _ l => l.Sound) ?_ [] (by simp [Sound, start])
  intro past l s hs h
  obtain ⟨-, waiters, hafter⟩ := l.step_eq s
  rw [hafter]
  exact (l.act_round s).sound h fun id he => uncrashed id (he ▸ hs)

omit [Surface σ] in
/-- A task that is there is for what the task of its number was started for. -/
theorem Balanced.discarded_eq {past : List (Moment σ)} {l : Loop σ} (h : Balanced past l)
    {t u : Task} (ht : t ∈ Moment.started past) (hu : u ∈ l.tasks) (hid : u.id = t.id) :
    u.work.discarded = t.work.discarded := by
  have herrand : u.errand ∈ (Moment.started past).map Task.errand :=
    h.conserved.mem_iff.2 (List.mem_map_of_mem (List.mem_append_right _ hu))
  obtain ⟨v, hv, he⟩ := List.mem_map.1 herrand
  have hnodup : ((Moment.started past).map Task.id).Nodup := by
    rw [h.numbers]
    exact List.nodup_range
  obtain rfl : v = t :=
    List.inj_on_of_nodup_map hnodup hv ht ((Task.id_eq_of_errand_eq he).trans hid)
  exact Work.discarded_eq (congrArg (fun e => e.2.1) he.symm) (congrArg (fun e => e.2.2) he.symm)

/-- For every reset in a run in which no task crashes, and for every request that was started before
it, whatever had become of it at the reset, and whatever happens after that: no moment of its task
changes the session, and all that the request leaves after the reset is nothing, or the one event
that it was discarded. -/
theorem reset_isolates (session : Session σ) (before after : List Signal)
    (uncrashed : ∀ id, .ended id .crash ∉ before ++ .command .reset :: after) :
    let past := ((start session).run before).2
    let later := (past.step (.command .reset)).2.trace after
    ∀ t ∈ Moment.started ((start session).trace before),
      (∀ m ∈ later, m.signal.concerns t.id = true → m.after.session = m.before.session) ∧
      (Moment.left t.id later = [] ∨ Moment.left t.id later = [t.work.discarded]) := by
  intro past later t ht
  have hbalanced : Balanced _ past := run_balanced session before
  have hsound : past.Sound :=
    run_sound session fun id hmem => uncrashed id (List.mem_append_left _ hmem)
  have hid : t.id < past.started := by
    rw [← List.mem_range, ← hbalanced.numbers]
    exact List.mem_map_of_mem ht
  have hrenewed : (past.step (.command .reset)).2.Renewed past.session.selection.issued
      past.session.routesIssued past.started := by
    obtain ⟨-, waiters, hafter⟩ := past.step_eq (.command .reset)
    rw [hafter]
    exact hsound.renewed.waiters waiters
  obtain ⟨-, hdiscarded⟩ := step_forall_work hid
    (P := fun w => w.discarded = t.work.discarded)
    (fun u hu he => hbalanced.discarded_eq ht hu he) (fun w hw => w.discarded_abort.trans hw)
    (fun w ending hw => (w.discarded_finish ending).trans hw) (.command .reset)
  exact ⟨hrenewed.session_eq after hid, hrenewed.left hid hdiscarded after⟩

/-- A node is found for a click, and there is a reset before the loop takes notice of it. The answer
is put away between a later click and the answer to that one: it is discarded, and the later click
is the one that places a marker. -/
theorem reset_isolates_late_answer :
    let session := Session.start Layers.empty .default
    let before : List Signal := [.command (.click 48.0 9.0),
      .ended 0 (.node (.ok ⟨⟨48.0, 9.0⟩, 7⟩))]
    let after : List Signal := [.command (.click 48.1 9.2), .reaped 0,
      .ended 1 (.node (.ok ⟨⟨48.1, 9.2⟩, 8⟩)), .reaped 1]
    let renewed := ((start session).run before).2.step (.command .reset)
    let later := renewed.2.trace after
    (∀ id, .ended id .crash ∉ before ++ .command .reset :: after) ∧
      (∀ m ∈ later, m.signal.concerns 0 = true → m.after.session = m.before.session) ∧
      Moment.left 0 later = [.lookupDiscarded 1] ∧
      ((renewed.2.run after).2.session.marker .source).map Marker.node = some (some 8) := by
  intro session before after renewed later
  have hsignals : ∀ id, .ended id .crash ∉ before ++ .command .reset :: after := by
    simp [before, after]
  have hstarted : ⟨0, .lookup ⟨⟨1, .toggle .source⟩, ⟨48.0, 9.0⟩⟩ .running⟩ ∈
      Moment.started ((start session).trace before) := List.mem_of_head? rfl
  obtain ⟨hsession, hleft⟩ := reset_isolates session before after hsignals _ hstarted
  have hsome : Moment.left 0 later ≠ [] := by
    intro he
    have hlength : (Moment.left 0 later).length = 1 := rfl
    rw [he] at hlength
    cases hlength
  exact ⟨hsignals, hsession, hleft.resolve_left hsome, rfl⟩

end Loop

end Waymark
