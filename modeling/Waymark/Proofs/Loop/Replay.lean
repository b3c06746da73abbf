import Waymark.Proofs.Loop.Conversation

/-!
# Replays are commands one after the other

A replay is a conversation in which the resolver is asked at once and nothing else happens
meanwhile, with effects in any monad. It is what its commands mean without a loop (`replay_eq`): from a loop on
which nothing is left to do, it tells what came of them, and leaves the session that they leave.
-/

namespace Waymark.Loop

variable {σ : Type} [Surface σ] {m : Type → Type} [Monad m] [LawfulMonad m]

omit [Surface σ] in
/-- What follows on a question depends on answers of its kind only. -/
theorem ask_bind_congr {α : Type} (r : Resolver m) (limit : Nat) {work : Work}
    (hrunning : work.isRunning = true) {f g : Work.Ending → m α}
    (h : ∀ ending, work.accepts ending = true → f ending = g ending) :
    ask r limit work >>= f = ask r limit work >>= g := by
  rcases work with ⟨k, p⟩ | ⟨q, p⟩ <;> cases p <;> try cases hrunning
  · simp only [ask, bind_assoc, pure_bind]
    congr
    funext reply
    exact h _ rfl
  · simp only [ask, bind_assoc, pure_bind]
    congr
    funext reply
    exact h _ rfl

/-- A command that is given to a loop with nothing left to do is done, and nothing is left to do
afterwards. -/
theorem perform_eq {l : Loop σ} (htasks : l.tasks = []) (hwaiters : l.waiters = [])
    (r : Resolver m) (command : Command) :
    ∃ started, l.perform r command =
      (fun p => (p.1.event?.toList, { l with session := p.2, started })) <$>
        l.session.obey r command := by
  obtain ⟨session, tasks, waiters, started⟩ := l
  obtain rfl : tasks = [] := htasks
  obtain rfl : waiters = [] := hwaiters
  rcases step_command (l := ⟨session, [], [], started⟩) rfl rfl r command with
    ⟨result, s, hdirect, -, hstep⟩ | ⟨work, s, hrunning, -, hdirect, hstep⟩
  · -- It is done at once, and there is no task to be answered.
    have hserve : serve r ⟨s, [], [], started⟩ = pure ⟨s, [], [], started⟩ := rfl
    refine ⟨started, ?_⟩
    simp only [perform, run, hstep, step_settle_of_nil, hserve, hdirect, pure_bind, map_pure]
    simp [Report.append, settleDown, endedTasks, run]
  · -- A task is started and answered, and put away.
    let waiting : Loop σ := ⟨s, [⟨started, work⟩], [0], started + 1⟩
    have hsettle : (⟨s, [⟨started, work⟩], [], started + 1⟩ : Loop σ).step
        (.command (.settle 0)) = ({}, waiting) :=
      step_settle_of_ne_nil (List.cons_ne_nil _ _) 0
    have hserve : waiting.serve r =
        (fun ending => waiting.finish started ending) <$> ask r s.timeoutMs work := by
      simp [serve, answerAll, waiting, hrunning]
    have hdown : ∀ ending, work.accepts ending = true →
        (waiting.finish started ending).settleDown =
          (⟨(work.conclude s ending).1.event?.toList, [0]⟩,
            ⟨(work.conclude s ending).2, [], [], started + 1⟩) := by
      intro ending haccepts
      have hfinish : (waiting.finish started ending).tasks = [⟨started, work.finish ending⟩] := by
        simp [finish, waiting]
      have hended : (waiting.finish started ending).endedTasks = [started] := by
        simp [endedTasks, hfinish, isRunning_finish haccepts]
      simp only [settleDown, hended, List.map_cons, List.map_nil, run, step_reaped hfinish haccepts]
      simp [Report.append, finish, waiting]
    refine ⟨started + 1, ?_⟩
    rw [hdirect]
    simp only [perform, run, hstep, hsettle, hserve, map_eq_pure_bind, bind_assoc, pure_bind]
    refine ask_bind_congr r _ hrunning fun ending haccepts => ?_
    rw [hdown ending haccepts]
    rfl

/-- Commands that are given to a loop with nothing left to do are done one after the other. -/
theorem replay_eq {l : Loop σ} (htasks : l.tasks = []) (hwaiters : l.waiters = [])
    (r : Resolver m) (commands : List Command) :
    (fun p => (p.1, p.2.session)) <$> l.replay r commands =
      (fun p => (p.1.filterMap Result.event?, p.2)) <$> l.session.obeyAll r commands := by
  induction commands generalizing l with
  | nil => simp [replay, Session.obeyAll]
  | cons command rest ih =>
    obtain ⟨started, hperform⟩ := perform_eq htasks hwaiters r command
    simp only [replay, Session.obeyAll, hperform, map_bind, bind_map_left, map_pure]
    congr 1
    funext p
    have hrest := ih (l := { l with session := p.2, started }) htasks hwaiters
    calc
      _ = (fun q => (p.1.event?.toList ++ q.1, q.2)) <$>
            ((fun q => (q.1, q.2.session)) <$>
              replay r { l with session := p.2, started } rest) := by simp
      _ = (fun q => (p.1.event?.toList ++ q.1, q.2)) <$>
            ((fun q => (q.1.filterMap Result.event?, q.2)) <$> p.2.obeyAll r rest) := by
          rw [hrest]
      _ = _ := by simp [Result.filterMap_event?_cons]

end Waymark.Loop
