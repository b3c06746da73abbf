import Mathlib.Logic.Relation
import Waymark.Proofs.Loop.Round
import Waymark.Proofs.Loop.Sequence

/-!
# Conversations with a loop

A client gives the loop one command after the other, and waits after each until no task is left.
The loop, the resolver that the tasks ask and the client go on in any order that their rounds allow:
that is `Conversation.Step`, and it leaves open when a task asks, when its answer comes, and whether
the loop takes the next command before or after it puts a task away.

Still there is never more than one task, and whatever it has got to, what it will come to is decided
(`Due`): no step but a command changes that, and a command changes it as it would if it were done at
once. So every conversation is what the commands mean without a loop (`steps_follow`). It does not
get stuck before the last command is done (`Follows.progress`), and it does not go on for ever
(`steps_end`).
-/

namespace Waymark

/-- What a client that waits after every command does next. -/
inductive Client where
  /-- It gives the first of these commands. -/
  | ready (todo : List Command)
  /-- It gave a command and asks to be told when no task is left. -/
  | sent (todo : List Command)
  /-- It waits under a number before it goes on. -/
  | waiting (waiter : Nat) (todo : List Command)

namespace Client

/-- The commands that are still to be given. -/
def todo : Client → List Command
  | .ready todo | .sent todo | .waiting _ todo => todo

/-- The number under which a client waits, if it does. -/
def waiters : Client → List Nat
  | .waiting waiter _ => [waiter]
  | _ => []

/-- A client goes on when it is among those who are answered. -/
def told (settled : List Nat) : Client → Client
  | .waiting waiter todo => if waiter ∈ settled then .ready todo else .waiting waiter todo
  | client => client

/-- Nobody gives a command by being answered. -/
@[simp] theorem todo_told (client : Client) (settled : List Nat) :
    (client.told settled).todo = client.todo := by
  cases client with
  | ready | sent => rfl
  | waiting waiter todo =>
    simp only [told]
    split <;> rfl

/-- A client stays as it is when nobody is answered. -/
@[simp] theorem told_nil (client : Client) : client.told [] = client := by
  cases client <;> rfl

/-- How much a client still has to do: every command may take five steps. -/
def weight : Client → Nat
  | .ready todo | .waiting _ todo => 5 * todo.length
  | .sent todo => 5 * todo.length + 1

/-- A client has as much to do after it was answered. -/
@[simp] theorem weight_told (client : Client) (settled : List Nat) :
    (client.told settled).weight = client.weight := by
  cases client with
  | ready | sent => rfl
  | waiting waiter todo =>
    simp only [told]
    split <;> rfl

end Client

/-- A loop with its client and with a resolver that answers its tasks, in a world of type `τ`. -/
structure Conversation (σ τ : Type) where
  /-- The loop. -/
  loop : Loop σ
  /-- What the answers of the resolver depend on. -/
  world : τ
  /-- The answers that are on their way, each with the number of its task. -/
  answers : List (Nat × Work.Ending) := []
  /-- The client. -/
  client : Client
  /-- What the loop has told, in order. -/
  events : List Event := []

namespace Loop

variable {σ : Type} [Surface σ]

/-- Whoever waits goes on to wait when a task is put away. -/
theorem waiters_reap (l : Loop σ) (id : Nat) : (l.reap id).2.waiters = l.waiters := by
  have hround := l.reap_round id
  generalize (l.reap id).2 = l' at hround ⊢
  generalize (l.reap id).1 = events at hround
  cases hround <;> rfl

end Loop

namespace Conversation

variable {σ τ : Type}

/-- The conversation about some commands, before it begins. -/
def start (s : Session σ) (world : τ) (commands : List Command) : Conversation σ τ :=
  { loop := .start s, world, client := .ready commands }

/-- The resolver is asked for what a task waits for. Its answer is on its way. -/
def ask (r : Resolver (StateM τ)) (c : Conversation σ τ) (t : Task) : Conversation σ τ :=
  let (ending, world) := (Loop.ask r c.loop.session.timeoutMs t.work).run c.world
  { c with world, answers := c.answers ++ [(t.id, ending)] }

variable [Surface σ]

/-- The loop deals with a signal, and the client with what it is told. -/
def goOn (c : Conversation σ τ) (signal : Signal) (client : Client) : Conversation σ τ :=
  let (report, loop) := c.loop.step signal
  { c with loop, events := c.events ++ report.events, client := client.told report.settled }

/-- An answer comes to its task. The loop has nothing to tell of it yet. -/
def answer (c : Conversation σ τ) (a : Nat × Work.Ending) : Conversation σ τ :=
  { c with
    loop := (c.loop.step (.ended a.1 a.2)).2
    answers := c.answers.filter fun b => b.1 != a.1 }

/-- What can happen next in a conversation. -/
inductive Step (r : Resolver (StateM τ)) : Conversation σ τ → Conversation σ τ → Prop where
  /-- The loop takes the next command. -/
  | command {c : Conversation σ τ} {command : Command} {todo : List Command}
      (h : c.client = .ready (command :: todo)) :
    Step r c (c.goOn (.command command) (.sent todo))
  /-- The loop takes it that the client waits, under any number. -/
  | settle {c : Conversation σ τ} {todo : List Command} (waiter : Nat)
      (h : c.client = .sent todo) :
    Step r c (c.goOn (.command (.settle waiter)) (.waiting waiter todo))
  /-- A task asks for what it waits for. -/
  | ask {c : Conversation σ τ} {t : Task} (ht : t ∈ c.loop.tasks)
      (hrunning : t.work.isRunning = true) (hnew : ∀ a ∈ c.answers, a.1 ≠ t.id) :
    Step r c (c.ask r t)
  /-- An answer comes. -/
  | answer {c : Conversation σ τ} {a : Nat × Work.Ending} (ha : a ∈ c.answers) :
    Step r c (c.answer a)
  /-- The loop puts a task away that has ended. -/
  | reap {c : Conversation σ τ} {id : Nat} (hid : id ∈ c.loop.endedTasks) :
    Step r c (c.goOn (.reaped id) c.client)

/-- What a conversation will have told, with which session and in which world, once no task of it is
left: there is none, or its task is to be asked, or was asked, or was answered. -/
inductive Due (r : Resolver (StateM τ)) (c : Conversation σ τ) :
    List Event → Session σ → τ → Prop where
  /-- There is no task. -/
  | idle (htasks : c.loop.tasks = []) (hanswers : c.answers = []) :
    Due r c c.events c.loop.session c.world
  /-- The task is to be asked. -/
  | asking {id : Nat} {work : Work} {ending : Work.Ending} {world : τ}
      (htasks : c.loop.tasks = [⟨id, work⟩]) (hrunning : work.isRunning = true)
      (hanswers : c.answers = [])
      (hask : (Loop.ask r c.loop.session.timeoutMs work).run c.world = (ending, world)) :
    Due r c (c.events ++ (work.conclude c.loop.session ending).1.event?.toList)
      (work.conclude c.loop.session ending).2 world
  /-- The answer is on its way. -/
  | answering {id : Nat} {work : Work} {ending : Work.Ending}
      (htasks : c.loop.tasks = [⟨id, work⟩]) (haccepts : work.accepts ending = true)
      (hanswers : c.answers = [(id, ending)]) :
    Due r c (c.events ++ (work.conclude c.loop.session ending).1.event?.toList)
      (work.conclude c.loop.session ending).2 c.world
  /-- The task has ended. -/
  | ended {id : Nat} {work : Work} {ending : Work.Ending}
      (htasks : c.loop.tasks = [⟨id, work.finish ending⟩]) (haccepts : work.accepts ending = true)
      (hanswers : c.answers = []) :
    Due r c (c.events ++ (work.conclude c.loop.session ending).1.event?.toList)
      (work.conclude c.loop.session ending).2 c.world

/-- The client is where the loop is: it goes on when there is no task, and waits when there is
one. -/
structure Fits (c : Conversation σ τ) : Prop where
  /-- Nobody else waits. -/
  waiters : c.loop.waiters = c.client.waiters
  /-- There is no task when the client gives a command. -/
  ready : ∀ todo, c.client = .ready todo → c.loop.tasks = []
  /-- There is a task when it waits. -/
  waiting : ∀ waiter todo, c.client = .waiting waiter todo → c.loop.tasks ≠ []

/-- A conversation about some commands has come to what those that were given mean without a
loop. -/
structure Follows (r : Resolver (StateM τ)) (s : Session σ) (world : τ) (commands : List Command)
    (c : Conversation σ τ) : Prop where
  /-- What it will have told is what came of the commands. -/
  meaning : ∃ given results t world', commands = given ++ c.client.todo ∧
    (s.obeyAll r given).run world = ((results, t), world') ∧
    (∀ result ∈ results, result.isStale = false) ∧
    Due r c (results.filterMap Result.event?) t world'
  /-- The client is where the loop is. -/
  fits : c.Fits

/-- How many steps the client and the tasks may still take: a task is asked, answered and put away,
and an answer on its way was asked for. -/
def weight (c : Conversation σ τ) : Nat :=
  c.client.weight + (c.loop.tasks.length + 2 * c.loop.tasks.countP (·.work.isRunning)
    - c.answers.length)

/-- Whatever the client is told, it has as much to do. -/
theorem weight_goOn (c : Conversation σ τ) (signal : Signal) (client : Client) :
    (c.goOn signal client).client.weight = client.weight :=
  Client.weight_told _ _

/-- Whatever the client is told, it gives the same commands. -/
theorem todo_goOn (c : Conversation σ τ) (signal : Signal) (client : Client) :
    (c.goOn signal client).client.todo = client.todo :=
  Client.todo_told _ _

variable {r : Resolver (StateM τ)} {c d : Conversation σ τ} {events : List Event} {s : Session σ}
  {world : τ}

namespace Due

/-- What is due does not depend on who waits. -/
theorem of_eq (h : Due r c events s world) (htasks : d.loop.tasks = c.loop.tasks)
    (hsession : d.loop.session = c.loop.session) (hworld : d.world = c.world)
    (hanswers : d.answers = c.answers) (hevents : d.events = c.events) :
    Due r d events s world := by
  cases h with
  | idle ht ha =>
    rw [← hevents, ← hsession, ← hworld]
    exact .idle (htasks.trans ht) (hanswers.trans ha)
  | asking ht hrunning ha hask =>
    rw [← hsession, ← hworld] at hask
    rw [← hevents, ← hsession]
    exact .asking (htasks.trans ht) hrunning (hanswers.trans ha) hask
  | answering ht haccepts ha =>
    rw [← hevents, ← hsession, ← hworld]
    exact .answering (htasks.trans ht) haccepts (hanswers.trans ha)
  | ended ht haccepts ha =>
    rw [← hevents, ← hsession, ← hworld]
    exact .ended (htasks.trans ht) haccepts (hanswers.trans ha)

/-- When there is no task, everything that is due has come. -/
theorem eq_of_nil (h : Due r c events s world) (htasks : c.loop.tasks = []) :
    c.answers = [] ∧ events = c.events ∧ s = c.loop.session ∧ world = c.world := by
  cases h with
  | idle _ ha => exact ⟨ha, rfl, rfl, rfl⟩
  | asking ht | answering ht | ended ht => cases htasks.symm.trans ht

/-- What is due stays so when the task asks for it. -/
theorem ask (h : Due r c events s world) {t : Task} (ht : t ∈ c.loop.tasks)
    (hrunning : t.work.isRunning = true) (hnew : ∀ a ∈ c.answers, a.1 ≠ t.id) :
    Due r (c.ask r t) events s world ∧ (c.ask r t).weight < c.weight := by
  cases h with
  | idle htasks =>
    rw [htasks] at ht
    cases ht
  | asking htasks hwork hanswers hask =>
    rw [htasks, List.mem_singleton] at ht
    subst ht
    have haccepts := Loop.accepts_ask r c.loop.session.timeoutMs hwork c.world
    rw [hask] at haccepts
    simp only [Conversation.ask, hask, hanswers]
    refine ⟨.answering htasks haccepts rfl, ?_⟩
    simp [weight, htasks, hanswers, hwork]
  | answering htasks haccepts hanswers =>
    -- It was asked for already, and is not asked for twice.
    rw [htasks, List.mem_singleton] at ht
    subst ht
    exact absurd rfl (hnew _ (by rw [hanswers]; exact List.mem_singleton_self _))
  | ended htasks haccepts hanswers =>
    -- It waits for nothing any more.
    rw [htasks, List.mem_singleton] at ht
    subst ht
    rw [Loop.isRunning_finish haccepts] at hrunning
    cases hrunning

/-- What is due stays so when the answer comes. -/
theorem answer (h : Due r c events s world) {a : Nat × Work.Ending} (ha : a ∈ c.answers) :
    Due r (c.answer a) events s world ∧ (c.answer a).weight < c.weight := by
  cases h with
  | idle _ hanswers | asking _ _ hanswers | ended _ _ hanswers =>
    rw [hanswers] at ha
    cases ha
  | @answering id work ending htasks haccepts hanswers =>
    rw [hanswers, List.mem_singleton] at ha
    subst ha
    have hfinish : (c.loop.finish id ending).tasks = [⟨id, work.finish ending⟩] := by
      simp [Loop.finish, htasks]
    have hanswer : c.answer (id, ending) =
        { c with loop := c.loop.finish id ending, answers := [] } := by
      simp [Conversation.answer, Loop.step, hanswers]
    rw [hanswer]
    refine ⟨.ended hfinish haccepts rfl, ?_⟩
    simp [weight, hfinish, htasks, hanswers, Loop.isRunning_of_accepts haccepts,
      Loop.isRunning_finish haccepts]

/-- What is due has come when the task is put away. -/
theorem reap (h : Due r c events s world) {id : Nat} (hid : id ∈ c.loop.endedTasks) :
    Due r (c.goOn (.reaped id) c.client) events s world ∧
      (c.goOn (.reaped id) c.client).weight < c.weight := by
  cases h with
  | idle htasks =>
    simp [Loop.endedTasks, htasks] at hid
  | asking htasks hwork => simp [Loop.endedTasks, htasks, hwork] at hid
  | answering htasks haccepts =>
    simp [Loop.endedTasks, htasks, Loop.isRunning_of_accepts haccepts] at hid
  | @ended id' work ending htasks haccepts hanswers =>
    obtain rfl : id = id' := by
      simpa [Loop.endedTasks, htasks, Loop.isRunning_finish haccepts] using hid
    simp only [goOn, Loop.step_reaped htasks haccepts]
    refine ⟨.idle rfl hanswers, ?_⟩
    simp [weight, htasks, hanswers, Loop.isRunning_finish haccepts]

/-- What is due stays so when the client begins to wait. -/
theorem settle (h : Due r c events s world) {todo : List Command} (hclient : c.client = .sent todo)
    (waiter : Nat) :
    Due r (c.goOn (.command (.settle waiter)) (.waiting waiter todo)) events s world ∧
      (c.goOn (.command (.settle waiter)) (.waiting waiter todo)).weight < c.weight := by
  obtain ⟨waiters, hrelease⟩ :=
    Loop.release_eq { c.loop with waiters := c.loop.waiters ++ [waiter] }
  have htasks : (c.goOn (.command (.settle waiter)) (.waiting waiter todo)).loop =
      { c.loop with waiters } := hrelease
  refine ⟨h.of_eq ?_ ?_ rfl rfl (List.append_nil _), ?_⟩
  · rw [htasks]
  · rw [htasks]
  · unfold weight
    rw [htasks, weight_goOn, hclient]
    exact Nat.add_lt_add_right (Nat.lt_succ_self _) _

/-- A task goes on, whatever it has got to. -/
theorem progress (h : Due r c events s world) (htasks : c.loop.tasks ≠ []) : ∃ d, Step r c d := by
  cases h with
  | idle hnil => exact absurd hnil htasks
  | @asking id work _ _ htasks hrunning hanswers =>
    have ht : ⟨id, work⟩ ∈ c.loop.tasks := by simp [htasks]
    exact ⟨_, .ask ht hrunning (by simp [hanswers])⟩
  | @answering id _ ending _ _ hanswers =>
    have ha : (id, ending) ∈ c.answers := by simp [hanswers]
    exact ⟨_, .answer ha⟩
  | @ended id work ending htasks haccepts =>
    have hid : id ∈ c.loop.endedTasks := by
      simp [Loop.endedTasks, htasks, Loop.isRunning_finish haccepts]
    exact ⟨_, .reap hid⟩

end Due

omit [Surface σ] in
/-- The client is where the loop is when it was told of those who were answered. -/
theorem fits_of_release (l : Loop σ) (client : Client) (hwaiters : l.waiters = client.waiters)
    (hclient : ∀ todo, client ≠ .ready todo) (hloop : d.loop = l.release.2)
    (htold : d.client = client.told l.release.1) : d.Fits := by
  by_cases htasks : l.tasks = []
  · -- Whoever waits is answered, and that can only be the client.
    rw [Loop.release_of_nil htasks] at hloop htold
    cases client with
    | ready todo => exact absurd rfl (hclient todo)
    | sent todo => exact ⟨by rw [hloop, htold]; rfl, by simp [hloop, htasks],
        by simp [htold, Client.told]⟩
    | waiting waiter todo =>
      have hready : d.client = .ready todo := by
        rw [htold, hwaiters]
        exact if_pos (List.mem_singleton_self _)
      exact ⟨by rw [hloop, hready]; rfl, by simp [hloop, htasks], by simp [hready]⟩
  · rw [Loop.release_of_ne_nil htasks] at hloop htold
    rw [Client.told_nil] at htold
    refine ⟨by rw [hloop, htold, hwaiters], fun todo h => ?_, fun _ _ _ => hloop ▸ htasks⟩
    exact absurd (htold.symm.trans h) (hclient todo)

/-- The commands before a last one come to what they come to, and then it does. -/
theorem run_obeyAll_concat {s t u : Session σ} {w₀ w₁ w₂ : τ} {given : List Command}
    {results : List Result} (hgiven : (s.obeyAll r given).run w₀ = ((results, t), w₁))
    {command : Command} {result : Result} (hlast : (t.obey r command).run w₁ = ((result, u), w₂)) :
    (s.obeyAll r (given ++ [command])).run w₀ = ((results ++ [result], u), w₂) := by
  have hconcat : s.obeyAll r (given ++ [command]) = s.obeyAll r given >>= fun p =>
      p.2.obey r command >>= fun q => pure (p.1 ++ [q.1], q.2) := by
    simp [Session.obeyAll_append, Session.obeyAll]
  rw [hconcat, StateT.run_bind, hgiven]
  show ((t.obey r command).run w₁ >>= fun q => pure ((results ++ [q.1.1], q.1.2), q.2)) = _
  rw [hlast]
  rfl

/-- A conversation goes on to follow its commands when what becomes due with the next of them is
what that means without a loop. -/
theorem Follows.concat {s₀ s : Session σ} {w₀ w : τ} {commands todo : List Command}
    {command : Command} {result : Result} (h : Follows r s₀ w₀ commands c)
    (hclient : c.client = .ready (command :: todo))
    (hlast : (c.loop.session.obey r command).run c.world = ((result, s), w))
    (hfresh : result.isStale = false) (hdue : Due r d (c.events ++ result.event?.toList) s w)
    (htodo : d.client.todo = todo) (hfits : d.Fits) : Follows r s₀ w₀ commands d := by
  -- There is no task yet, so that what the commands before came to is there.
  obtain ⟨given, results, t, w', hcommands, hrun, hfresh', hdue'⟩ := h.meaning
  obtain ⟨-, hevents, rfl, rfl⟩ := hdue'.eq_of_nil (h.fits.ready _ hclient)
  have hrun' := run_obeyAll_concat hrun hlast
  refine ⟨⟨given ++ [command], results ++ [result], s, w, ?_, hrun', ?_, ?_⟩, hfits⟩
  · rw [hcommands, hclient, htodo, List.append_assoc]
    rfl
  · rw [List.forall_mem_append, List.forall_mem_singleton]
    exact ⟨hfresh', hfresh⟩
  · rw [List.filterMap_append, hevents, Result.filterMap_event?_cons, List.filterMap_nil,
      List.append_nil]
    exact hdue

/-- A command makes due what it means without a loop. -/
theorem Follows.command {s₀ : Session σ} {w₀ : τ} {commands : List Command}
    (h : Follows r s₀ w₀ commands c) {command : Command} {todo : List Command}
    (hclient : c.client = .ready (command :: todo)) :
    Follows r s₀ w₀ commands (c.goOn (.command command) (.sent todo)) ∧
      (c.goOn (.command command) (.sent todo)).weight < c.weight := by
  have htasks := h.fits.ready _ hclient
  have hwaiters : c.loop.waiters = [] := by rw [h.fits.waiters, hclient]; rfl
  have hanswers : c.answers = [] := by
    obtain ⟨_, _, _, _, -, -, -, hdue⟩ := h.meaning
    exact (hdue.eq_of_nil htasks).1
  have hweight : c.weight = 5 * (todo.length + 1) := by
    simp [weight, htasks, hclient, Client.weight]
  rcases Loop.step_command htasks hwaiters r command with
    ⟨result, s, hdirect, hresult, hstep⟩ | ⟨work, s, hrunning, hexpects, hdirect, hstep⟩
  · -- It is done at once, and there is still no task.
    have hlast : (c.loop.session.obey r command).run c.world = ((result, s), c.world) := by
      rw [hdirect]
      rfl
    rw [hweight]
    simp only [goOn, hstep]
    refine ⟨h.concat hclient hlast hresult (.idle htasks hanswers) rfl
      ⟨hwaiters, fun _ _ => htasks, by simp [Client.told]⟩, ?_⟩
    simp [weight, htasks, Client.told, Client.weight]
    omega
  · -- A task is started, which is to be asked.
    obtain ⟨⟨ending, world⟩, hask⟩ : ∃ p, (Loop.ask r s.timeoutMs work).run c.world = p := ⟨_, rfl⟩
    have hlast : (c.loop.session.obey r command).run c.world =
        (work.conclude s ending, world) := by
      rw [hdirect, StateT.run_map, hask]
      rfl
    rw [hweight]
    simp only [goOn, hstep, List.append_nil]
    have hfresh := work.isStale_conclude hexpects ending
    refine ⟨h.concat hclient hlast hfresh (.asking rfl hrunning hanswers hask) rfl
      ⟨hwaiters, by simp [Client.told], by simp [Client.told]⟩, ?_⟩
    simp [weight, hanswers, Client.told, Client.weight, hrunning]
    omega

/-- A conversation goes on to follow its commands when no command is given and what is due stays
so. -/
theorem Follows.keep {s₀ : Session σ} {w₀ : τ} {commands : List Command}
    (h : Follows r s₀ w₀ commands c)
    (hdue : ∀ {events s w}, Due r c events s w → Due r d events s w ∧ d.weight < c.weight)
    (htodo : d.client.todo = c.client.todo) (hfits : d.Fits) :
    Follows r s₀ w₀ commands d ∧ d.weight < c.weight := by
  obtain ⟨given, results, t, w, hcommands, hrun, hfresh, hdue'⟩ := h.meaning
  obtain ⟨hkept, hweight⟩ := hdue hdue'
  rw [← htodo] at hcommands
  exact ⟨⟨⟨given, results, t, w, hcommands, hrun, hfresh, hkept⟩, hfits⟩, hweight⟩

/-- Every step of a conversation keeps it following its commands, and leaves less to do. -/
theorem Follows.step {s₀ : Session σ} {w₀ : τ} {commands : List Command}
    (h : Follows r s₀ w₀ commands c) (hstep : Step r c d) :
    Follows r s₀ w₀ commands d ∧ d.weight < c.weight := by
  cases hstep with
  | command hclient => exact h.command hclient
  | @settle todo waiter hclient =>
    refine h.keep (fun hdue => hdue.settle hclient waiter) ?_ ?_
    · rw [todo_goOn, hclient]
      rfl
    · refine fits_of_release { c.loop with waiters := c.loop.waiters ++ [waiter] }
        (.waiting waiter todo) ?_ (by simp) rfl rfl
      rw [h.fits.waiters, hclient]
      rfl
  | ask ht hrunning hnew =>
    exact h.keep (fun hdue => hdue.ask ht hrunning hnew) rfl
      ⟨h.fits.waiters, h.fits.ready, h.fits.waiting⟩
  | @answer a ha =>
    have htasks : (c.answer a).loop.tasks = [] ↔ c.loop.tasks = [] := List.map_eq_nil_iff
    exact h.keep (fun hdue => hdue.answer ha) rfl ⟨h.fits.waiters,
      fun todo hclient => htasks.2 (h.fits.ready todo hclient),
      fun waiter todo hclient hnil => h.fits.waiting waiter todo hclient (htasks.1 hnil)⟩
  | @reap id hid =>
    refine h.keep (fun hdue => hdue.reap hid) (todo_goOn _ _ _) ?_
    refine fits_of_release (c.loop.reap id).2 c.client ?_ ?_ rfl rfl
    · rw [Loop.waiters_reap, h.fits.waiters]
    · -- There is a task, so that the client gives no command.
      intro todo hclient
      rw [Loop.endedTasks, h.fits.ready todo hclient] at hid
      cases hid

omit [Surface σ] in
/-- Nothing is due before the first command. -/
theorem fits_start (s : Session σ) (w : τ) (commands : List Command) : (start s w commands).Fits :=
  ⟨rfl, fun _ _ => rfl, by simp [start]⟩

/-- A conversation follows its commands before the first of them. -/
theorem follows_start (r : Resolver (StateM τ)) (s : Session σ) (w : τ) (commands : List Command) :
    Follows r s w commands (start s w commands) :=
  ⟨⟨[], [], s, w, rfl, rfl, by simp, .idle rfl rfl⟩, fits_start s w commands⟩

/-- A conversation follows its commands, whatever happens in it. -/
theorem steps_follow {s₀ : Session σ} {w₀ : τ} {commands : List Command}
    (hsteps : Relation.ReflTransGen (Step r) (start s₀ w₀ commands) c) :
    Follows r s₀ w₀ commands c := by
  induction hsteps with
  | refl => exact follows_start r s₀ w₀ commands
  | tail _ hstep ih => exact (ih.step hstep).1

/-- A conversation goes on as long as there is a command to be given, or someone who waits. -/
theorem Follows.progress {s₀ : Session σ} {w₀ : τ} {commands : List Command}
    (h : Follows r s₀ w₀ commands c) (hclient : c.client ≠ .ready []) : ∃ d, Step r c d := by
  cases hc : c.client with
  | ready todo =>
    cases todo with
    | nil => exact absurd hc hclient
    | cons command rest => exact ⟨_, .command hc⟩
  | sent todo => exact ⟨_, .settle 0 hc⟩
  | waiting waiter todo =>
    obtain ⟨_, _, _, _, -, -, -, hdue⟩ := h.meaning
    exact hdue.progress (h.fits.waiting waiter todo hc)

/-- No conversation goes on for ever. -/
theorem steps_end {s₀ : Session σ} {w₀ : τ} {commands : List Command}
    (f : Nat → Conversation σ τ) (hfirst : f 0 = start s₀ w₀ commands) :
    ∃ n, ¬ Step r (f n) (f (n + 1)) := by
  refine Classical.not_forall.1 fun hall => ?_
  -- Every step leaves less to do.
  have hless : ∀ n, Follows r s₀ w₀ commands (f n) ∧ (f n).weight + n ≤ (f 0).weight := by
    intro n
    induction n with
    | zero => exact ⟨hfirst ▸ follows_start r s₀ w₀ commands, Nat.le_refl _⟩
    | succ n ih =>
      obtain ⟨hfollows, hweight⟩ := ih.1.step (hall n)
      exact ⟨hfollows, by omega⟩
  have hlast := (hless ((f 0).weight + 1)).2
  omega

/-- Every conversation can be carried to its end. -/
theorem Follows.exists_over {s₀ : Session σ} {w₀ : τ} {commands : List Command}
    (h : Follows r s₀ w₀ commands c) :
    ∃ d, Relation.ReflTransGen (Step r) c d ∧ d.client = .ready [] := by
  induction hn : c.weight using Nat.strongRecOn generalizing c with
  | ind n ih =>
    by_cases hclient : c.client = .ready []
    · exact ⟨c, .refl, hclient⟩
    · obtain ⟨d, hstep⟩ := h.progress hclient
      obtain ⟨hd, hless⟩ := h.step hstep
      obtain ⟨e, hsteps, he⟩ := ih d.weight (hn ▸ hless) hd rfl
      exact ⟨e, .head hstep hsteps, he⟩

/-- What a conversation has come to when all of its commands were given. -/
theorem Follows.over {s₀ : Session σ} {w₀ : τ} {commands : List Command}
    (h : Follows r s₀ w₀ commands c) (hclient : c.client = .ready []) :
    let direct := (s₀.obeyAll r commands).run w₀
    c.loop.session = direct.1.2 ∧ c.world = direct.2 ∧
      c.events = direct.1.1.filterMap Result.event? ∧
      (∀ result ∈ direct.1.1, result.isStale = false) ∧
      c.loop.tasks = [] ∧ c.loop.waiters = [] := by
  obtain ⟨given, results, t, w, hcommands, hrun, hfresh, hdue⟩ := h.meaning
  have htasks := h.fits.ready _ hclient
  have hgiven : given = commands := by rw [hcommands, hclient]; exact (List.append_nil _).symm
  obtain ⟨-, hevents, rfl, rfl⟩ := hdue.eq_of_nil htasks
  rw [hgiven] at hrun
  intro direct
  rw [show direct = ((results, c.loop.session), c.world) from hrun]
  exact ⟨rfl, rfl, hevents.symm, hfresh, htasks, h.fits.waiters.trans (by rw [hclient]; rfl)⟩

end Conversation

end Waymark
