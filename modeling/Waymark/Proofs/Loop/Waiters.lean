import Waymark.Proofs.Loop.Ledger
import Waymark.Proofs.Loop.Sequence

/-!
# Those who wait for the loop

Whoever waits for a loop is put in a queue, and the queue is emptied at the end of a round at which no
task is left. So nobody is answered twice and nobody is lost (`run_waiters`), there is a task as long
as someone waits (`run_attended`), and whoever is answered knows that all that was asked of the loop
before is over: every request was refused, or its task was put away, with an event or after a reset
(`concluded_of_settled`). The last is read off the books of the loop: what was started is either put
away or still there.
-/

namespace Waymark

/-- Whether a command asks for something that takes time. -/
def Command.asks : Command → Bool
  | .click _ _ | .submit _ _ _ | .calcRoute => true
  | _ => false

namespace Signal

/-- The command that the loop takes, if it takes one. -/
def command? : Signal → Option Command
  | .command c => some c
  | _ => none

/-- The one who begins to wait, if someone does. -/
def waiter? (s : Signal) : Option Nat := s.command?.bind Command.waiter?

end Signal

/-- Work that was put away and was not aborted has left one event. -/
theorem Work.Reports.exists_eq {w : Work} {es : List Event} (h : w.Reports es)
    (hw : w.isAborted = false) : ∃ e, es = [e] := by
  rcases w with ⟨k, p⟩ | ⟨q, p⟩
  · cases p with
    | running => exact h.elim
    | finished answer =>
      rcases h with ⟨marker, -, h⟩ | h | ⟨n, h⟩
      · exact ⟨_, h⟩
      · exact ⟨_, h⟩
      · exact ⟨_, h⟩
    | crashed => exact ⟨_, h⟩
    | aborted => cases hw
  · cases p with
    | running => exact h.elim
    | finished answer =>
      rcases h with ⟨meters, points, h⟩ | h | ⟨n, h⟩
      · exact ⟨_, h⟩
      · exact ⟨_, h⟩
      · exact ⟨_, h⟩
    | crashed => exact ⟨_, h⟩
    | aborted => cases hw

/-- Work that was aborted has left nothing. -/
theorem Work.Reports.eq_nil {w : Work} {es : List Event} (h : w.Reports es)
    (hw : w.isAborted = true) : es = [] := by
  rcases w with ⟨k, p⟩ | ⟨q, p⟩ <;> cases p with
  | aborted => exact h
  | running | finished | crashed => cases hw

namespace Loop

variable {σ : Type}

/-- Whoever waits is answered or goes on to wait, in the same order. -/
theorem release_waiters (l : Loop σ) : l.release.1 ++ l.release.2.waiters = l.waiters := by
  by_cases h : l.tasks = []
  · rw [release_of_nil h, List.append_nil]
  · rw [release_of_ne_nil h, List.nil_append]

/-- Someone is answered only when no task is left, and nobody goes on to wait unless one is. -/
theorem release_attended (l : Loop σ) :
    (l.release.1 ≠ [] → l.release.2.tasks = []) ∧
      (l.release.2.waiters = [] ∨ l.release.2.tasks ≠ []) := by
  by_cases h : l.tasks = []
  · rw [release_of_nil h]
    exact ⟨fun _ => h, .inl rfl⟩
  · rw [release_of_ne_nil h]
    exact ⟨fun hsettled => absurd rfl hsettled, .inr h⟩

variable [Surface σ]

/-- Before those who wait are looked after, only someone who begins to wait joins them. -/
theorem Round.waiters {l l' : Loop σ} {s : Signal} {w : Option Work} {es : List Event}
    (r : Round l s w es l') : l'.waiters = l.waiters ++ s.waiter?.toList := by
  cases r with
  | @refuse c e hc =>
    cases c with
    | click | submit | calcRoute | showRoute => exact (List.append_nil _).symm
    | clearRoute | reset | settle => cases hc
  | @startLookup c target point hc =>
    cases c with
    | click | submit => exact (List.append_nil _).symm
    | calcRoute | showRoute | clearRoute | reset | settle => cases hc
  | settle waiter => rfl
  | startRoute | «show» | clear | reset | finish | idle | reapLookup | reapRoute | reapCrashed
  | reapAborted => exact (List.append_nil _).symm

/-- What a step does about those who wait. Whoever did so before or begins to is answered or goes on
to wait; someone is answered only when no task is left; and nobody goes on to wait unless one is. -/
theorem step_waiters (l : Loop σ) (s : Signal) :
    (l.step s).1.settled ++ (l.step s).2.waiters = l.waiters ++ s.waiter?.toList ∧
      ((l.step s).1.settled ≠ [] → (l.step s).2.tasks = []) ∧
      ((l.waiters = [] ∨ l.tasks ≠ []) →
        (l.step s).2.waiters = [] ∨ (l.step s).2.tasks ≠ []) := by
  have hround := (l.act_round s).waiters
  cases s with
  | command c =>
    obtain ⟨hsettled, hattended⟩ := (l.handle c).2.release_attended
    exact ⟨((l.handle c).2.release_waiters).trans hround, hsettled, fun _ => hattended⟩
  | reaped id =>
    obtain ⟨hsettled, hattended⟩ := (l.reap id).2.release_attended
    exact ⟨((l.reap id).2.release_waiters).trans hround, hsettled, fun _ => hattended⟩
  | ended id ending =>
    -- Nobody is looked after when a task ends, and as many are there as before.
    refine ⟨hround, fun h => absurd rfl h, fun h => h.imp_right fun htasks => ?_⟩
    exact fun hnone => htasks (List.map_eq_nil_iff.1 hnone)

/-- In a run, whoever waited before or began to in it was answered in it or waits still, in the same
order. -/
theorem run_waiters (l : Loop σ) (signals : List Signal) :
    (l.run signals).1.settled ++ (l.run signals).2.waiters =
      l.waiters ++ signals.filterMap Signal.waiter? := by
  induction signals generalizing l with
  | nil => simp [run]
  | cons s rest ih =>
    have hlist : (s :: rest).filterMap Signal.waiter? =
        s.waiter?.toList ++ rest.filterMap Signal.waiter? := by
      cases h : s.waiter? <;> simp [h]
    calc (l.step s).1.settled ++ ((l.step s).2.run rest).1.settled ++
          ((l.step s).2.run rest).2.waiters
        = (l.step s).1.settled ++ ((l.step s).2.waiters ++ rest.filterMap Signal.waiter?) := by
          rw [List.append_assoc, ih]
      _ = l.waiters ++ s.waiter?.toList ++ rest.filterMap Signal.waiter? := by
          rw [← List.append_assoc, (l.step_waiters s).1]
      _ = l.waiters ++ (s :: rest).filterMap Signal.waiter? := by
          rw [hlist, List.append_assoc]

/-- After every signal of a run, there is a task unless nobody waits. -/
theorem run_attended (session : Session σ) (signals : List Signal) :
    ((start session).run signals).2.waiters = [] ∨ ((start session).run signals).2.tasks ≠ [] :=
  run_induction (P := fun _ l => l.waiters = [] ∨ l.tasks ≠ [])
    (fun _ l s _ h => (l.step_waiters s).2.2 h) [] (.inl rfl)

/-- The moments of a run are those of its first part and those of its second. -/
theorem trace_append (l : Loop σ) (first second : List Signal) :
    l.trace (first ++ second) = l.trace first ++ (l.run first).2.trace second := by
  induction first generalizing l with
  | nil => rfl
  | cons s rest ih => exact congrArg (_ :: ·) (ih (l.step s).2)

/-- The first of some signals, and then the others. -/
theorem run_cons (l : Loop σ) (s : Signal) (rest : List Signal) :
    l.run (s :: rest) =
      ((l.step s).1.append ((l.step s).2.run rest).1, ((l.step s).2.run rest).2) := rfl

/-- A run may be gone through in two parts. -/
theorem run_append (l : Loop σ) (first second : List Signal) :
    l.run (first ++ second) = ((l.run first).1.append ((l.run first).2.run second).1,
      ((l.run first).2.run second).2) := by
  induction first generalizing l with
  | nil => rfl
  | cons s rest ih =>
    rw [List.cons_append, run_cons, run_cons, ih]
    simp only [Report.append, List.append_assoc]

end Loop

namespace Moment

variable {σ : Type} [Surface σ]

/-- Those who are answered at a moment, in order. -/
def settled (m : Moment σ) : List Nat := (m.before.step m.signal).1.settled

/-- What was asked for at moment `k` is over, by some moments: it was refused at once, or its task was
put away, with one event, or without one after a reset. -/
def Concluded (moments : List (Moment σ)) (k : Moment σ) : Prop :=
  (∃ n, k.events = [.notice n]) ∨
    ∃ t, k.starts? = some t ∧ ∃ past m later u, moments = past ++ m :: later ∧
      m.reaps? = some u ∧ u.errand = t.errand ∧
      ((u.work.isAborted = false ∧ ∃ e, m.events = [e] ∧ u.work.Reports [e]) ∨
        (u.work.isAborted = true ∧ m.events = [] ∧ ResetSince past t.id))

/-- What is asked for is refused, or a task is started for it. -/
theorem notice_or_starts {m : Moment σ} {c : Command} (hm : m.signal = .command c)
    (hc : c.asks = true) : (∃ n, m.events = [.notice n]) ∨ ∃ t, m.starts? = some t := by
  obtain ⟨l', waiters, r, -⟩ := m.round
  have haccounts := r.accounts
  rw [hm] at haccounts
  cases c with
  | click | submit | calcRoute =>
    rcases haccounts with ⟨-, hnotice⟩ | ⟨-, w, hw, -⟩
    · exact .inl hnotice
    · exact .inr ⟨_, congrArg (Option.map _) hw⟩
  | showRoute | clearRoute | reset | settle => cases hc

/-- What is put away at a moment reports the events of it. -/
theorem reports_of_reaps? {m : Moment σ} {t : Task} (ht : m.reaps? = some t) :
    t.work.Reports m.events := by
  obtain ⟨l', waiters, r, -⟩ := m.round
  have haccounts := r.accounts
  unfold reaps? at ht
  cases hs : m.signal with
  | command c =>
    rw [hs] at ht
    cases ht
  | ended id ending =>
    rw [hs] at ht
    cases ht
  | reaped id =>
    rw [hs] at ht haccounts
    rcases haccounts with ⟨hnone, -⟩ | ⟨-, v, hv, hreports, -⟩
    · rw [hnone] at ht
      cases ht
    · rw [hv] at ht
      obtain rfl := Option.some.inj ht
      exact hreports

end Moment

namespace Loop

variable {σ : Type} [Surface σ]

/-- Everything that was asked for in a run is over if no task is left at its end. -/
theorem concluded_of_tasks_eq_nil (session : Session σ) {signals : List Signal}
    (hnone : ((start session).run signals).2.tasks = []) {k : Moment σ}
    (hk : k ∈ (start session).trace signals) {c : Command} (hsignal : k.signal = .command c)
    (hc : c.asks = true) : Moment.Concluded ((start session).trace signals) k := by
  refine (Moment.notice_or_starts hsignal hc).imp_right ?_
  rintro ⟨t, ht⟩
  refine ⟨t, ht, ?_⟩
  -- What was started was put away, since it is not there any more.
  have hconserved := (run_balanced session signals).conserved
  rw [hnone, List.append_nil] at hconserved
  have hstarted : t ∈ Moment.started ((start session).trace signals) :=
    List.mem_filterMap.2 ⟨k, hk, ht⟩
  obtain ⟨u, hu, herrand⟩ :=
    List.mem_map.1 (hconserved.mem_iff.1 (List.mem_map_of_mem hstarted))
  obtain ⟨m, hm, hreaps⟩ := List.mem_filterMap.1 hu
  obtain ⟨past, later, hsplit⟩ := List.append_of_mem hm
  refine ⟨past, m, later, u, hsplit, hreaps, herrand, ?_⟩
  have hreports := Moment.reports_of_reaps? hreaps
  cases hab : u.work.isAborted with
  | false =>
    obtain ⟨e, he⟩ := hreports.exists_eq hab
    exact .inl ⟨rfl, e, he, he ▸ hreports⟩
  | true =>
    -- It was there as an aborted task, so that there had been a reset.
    obtain ⟨first, rest, -, rfl, hbefore⟩ := trace_split hsplit
    have hpast := run_balanced session first
    rw [← hbefore] at hpast
    refine .inr ⟨rfl, hreports.eq_nil hab, ?_⟩
    rw [← Task.id_eq_of_errand_eq herrand]
    exact hpast.aborted u (mem_of_reaps? hreaps) hab

/-- Those who are answered in a run are answered at its moments. -/
theorem run_settled (l : Loop σ) (signals : List Signal) :
    (l.run signals).1.settled = (l.trace signals).flatMap Moment.settled := by
  induction signals generalizing l with
  | nil => rfl
  | cons s rest ih =>
    show (l.step s).1.settled ++ _ = _
    rw [ih]
    rfl

/-- When someone is answered, everything that was asked for so far is over. -/
theorem concluded_of_settled (session : Session σ) {signals : List Signal}
    {before later : List (Moment σ)} {m : Moment σ}
    (htrace : (start session).trace signals = before ++ m :: later) (hsettled : m.settled ≠ [])
    {k : Moment σ} (hk : k ∈ before ++ [m]) {c : Command} (hsignal : k.signal = .command c)
    (hc : c.asks = true) : Moment.Concluded (before ++ [m]) k := by
  obtain ⟨past, rest, -, rfl, hbefore⟩ := trace_split htrace
  have hmoments := (start session).trace_append past [m.signal]
  have hafter := congrArg Prod.snd ((start session).run_append past [m.signal])
  rw [← hbefore] at hmoments hafter
  have hnone : ((start session).run (past ++ [m.signal])).2.tasks = [] := by
    rw [hafter]
    exact (m.before.step_waiters m.signal).2.1 hsettled
  rw [show (start session).trace past ++ [m] = _ from hmoments.symm] at hk ⊢
  exact concluded_of_tasks_eq_nil session hnone hk hsignal hc

end Loop

end Waymark
