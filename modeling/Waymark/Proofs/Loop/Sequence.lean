import Waymark.Proofs.Session.Effects
import Waymark.Session.Direct
import Waymark.Session.Replay

/-!
# Commands one after the other

`Session.obeyAll` is what the commands of a loop mean when there is no loop: each is done at once,
and a resolver is waited for. A loop without tasks does a command in the same way or in three parts
(`handle_cases`): it makes the request and starts a task, the resolver is asked for what the task
waits for, and `Work.conclude` is what comes of the answer.
-/

namespace Waymark

/-- Whether a command is about the session, and not someone who waits. -/
def Command.isGesture : Command → Bool
  | .settle _ => false
  | _ => true

/-- The one who waits, if a command is about that. -/
def Command.waiter? : Command → Option Nat
  | .settle waiter => some waiter
  | _ => none

/-- What came of a command that was done at once. -/
inductive Result where
  /-- The marker of a click or of a form entry. -/
  | marker (outcome : Except Error (Outcome Marker))
  /-- The route between the nodes. -/
  | route (outcome : Except Error (Outcome Geometry))
  /-- The route that was there already. -/
  | shown (outcome : Except Error Geometry)
  /-- The route is gone. -/
  | cleared
  /-- Everything is gone. -/
  | reset
  /-- There was nothing to do. -/
  | waited

namespace Result

/-- The event that tells what came of a command, if there is anything to tell. -/
def event? : Result → Option Event
  | .marker outcome => some (Loop.lookupEvent outcome)
  | .route outcome => some (Loop.routeEvent outcome)
  | .shown (.ok g) => some (Loop.shown g)
  | .shown (.error e) => some (Loop.failed e)
  | .cleared => some .routeCleared
  | .reset => some .reset
  | .waited => none

/-- Whether a command failed. -/
def failed : Result → Bool
  | .marker (.error _) | .route (.error _) | .shown (.error _) => true
  | _ => false

/-- Whether an answer came too late. -/
def isStale : Result → Bool
  | .marker (.ok (.stale _)) | .route (.ok (.stale _)) => true
  | _ => false

/-- The events of some results begin with that of the first, if there is anything to tell of it. -/
theorem filterMap_event?_cons (result : Result) (rest : List Result) :
    (result :: rest).filterMap event? = result.event?.toList ++ rest.filterMap event? := by
  cases h : result.event? <;> simp [h]

/-- What was not too late is told by no event that says so. -/
theorem not_discarded {result : Result} (h : result.isStale = false) {e : Event}
    (he : result.event? = some e) (seq : Nat) :
    e ≠ .lookupDiscarded seq ∧ e ≠ .routeDiscarded seq := by
  cases result with
  | marker outcome =>
    rcases outcome with fault | marker | seq <;> cases he
    · exact ⟨nofun, nofun⟩
    · exact ⟨nofun, nofun⟩
    · cases h
  | route outcome =>
    rcases outcome with fault | g | seq <;> cases he
    · exact ⟨nofun, nofun⟩
    · exact ⟨nofun, nofun⟩
    · cases h
  | shown outcome => cases outcome <;> cases he <;> exact ⟨nofun, nofun⟩
  | cleared | reset => cases he; exact ⟨nofun, nofun⟩
  | waited => cases he

end Result

variable {σ : Type}

/-- Whether work is for what counts in a session: its current ticket, or its current route
request. -/
def Session.Expects (s : Session σ) : Work → Prop
  | .lookup k _ => s.selection.current = some k.ticket.seq
  | .route q _ => s.routeCurrent = some q.seq

variable [Surface σ]

/-- What comes of work that ends, and the session afterwards. Nothing does of an ending that is not
of its kind. -/
def Work.conclude (s : Session σ) : Work → Work.Ending → Result × Session σ
  | .lookup k _, .node answer => (s.completeLookup k.ticket answer).map .marker id
  | .route q _, .route answer => (s.completeRoute q answer).map .route id
  | .lookup _ _, .crash => (.marker (.error (.transport .crashed)), s)
  | .route _ _, .crash => (.route (.error (.transport .crashed)), s)
  | _, _ => (.waited, s)

/-- The answer to what counts in a session is never too late. -/
theorem Work.isStale_conclude {s : Session σ} {work : Work} (h : s.Expects work)
    (ending : Work.Ending) : (work.conclude s ending).1.isStale = false := by
  unfold conclude
  -- An answer is stale only when its number is not the one that counts, and a crash never is.
  split
  · next k _ answer =>
    rcases s.completeLookup_cases k.ticket answer with ⟨hne, -⟩ | ⟨-, ⟨e, -, hs⟩ | ⟨node, -, hs⟩⟩
    · exact absurd h hne
    · rw [hs]
      rfl
    · rw [hs]
      rfl
  · next q _ answer =>
    rcases s.completeRoute_cases q answer with ⟨hne, -⟩ | ⟨-, ⟨e, hs⟩ | ⟨payload, g, -, -, hs⟩⟩
    · exact absurd h hne
    · rw [hs]
      rfl
    · rw [hs]
      rfl
  all_goals rfl

namespace Session

variable {m : Type → Type} [Monad m]

/-- A session does a command at once, and a resolver is waited for. -/
def obey (r : Resolver m) (s : Session σ) : Command → m (Result × Session σ)
  | .click lat lng => Prod.map .marker id <$> s.pick r lat lng
  | .submit role lat lng => Prod.map .marker id <$> s.submit r role lat lng
  | .calcRoute => Prod.map .route id <$> s.calcRoute r
  | .showRoute payload => pure ((s.showPayload payload).map .shown id)
  | .clearRoute => pure (.cleared, s.clearRoute)
  | .reset => pure (.reset, s.reset)
  | .settle _ => pure (.waited, s)

/-- A session does some commands, one after the other. -/
def obeyAll (r : Resolver m) (s : Session σ) : List Command → m (List Result × Session σ)
  | [] => pure ([], s)
  | command :: rest => do
    let (result, s) ← s.obey r command
    let (results, s) ← s.obeyAll r rest
    return (result :: results, s)

variable [LawfulMonad m]

/-- A lookup that is waited for is asked for and concluded. -/
theorem finishLookup_eq (r : Resolver m) (s : Session σ) (k : Lookup) :
    Prod.map .marker id <$> finishLookup r (.ok k, s) =
      (Work.lookup k .running).conclude s <$> Loop.ask r s.timeoutMs (.lookup k .running) := by
  simp [finishLookup, Loop.ask, Work.conclude]

/-- A route that is waited for is asked for and concluded. -/
theorem calcRoute_eq (r : Resolver m) {s t : Session σ} {q : RouteRequest}
    (h : s.beginRoute = (.ok q, t)) :
    Prod.map .route id <$> s.calcRoute r =
      (Work.route q .running).conclude t <$> Loop.ask r t.timeoutMs (.route q .running) := by
  simp [calcRoute, h, Loop.ask, Work.conclude]

/-- Commands may be done in two parts. -/
theorem obeyAll_append (r : Resolver m) (s : Session σ) (first second : List Command) :
    s.obeyAll r (first ++ second) = do
      let (results, s) ← s.obeyAll r first
      let (others, s) ← s.obeyAll r second
      return (results ++ others, s) := by
  induction first generalizing s with
  | nil => simp [obeyAll]
  | cons command rest ih => simp [obeyAll, ih]

/-- There is something to tell of every command about the session. -/
theorem isSome_event?_obey {τ : Type} (r : Resolver (StateM τ)) (s : Session σ) (c : Command)
    (world : τ) : ((s.obey r c).run world).1.1.event?.isSome = c.isGesture := by
  cases c with
  | showRoute payload =>
    show ((s.showPayload payload).map Result.shown id).1.event?.isSome = true
    rcases s.showPayload_cases payload with ⟨fault, -, h⟩ | ⟨g, -, h⟩ <;> rw [h] <;> rfl
  | click | submit | calcRoute | clearRoute | reset | settle => rfl

/-- Every command comes to one result, and there is something to tell of it if it is about the
session. -/
theorem map_isSome_event?_obeyAll {τ : Type} (r : Resolver (StateM τ)) (s : Session σ)
    (commands : List Command) (world : τ) :
    ((s.obeyAll r commands).run world).1.1.map (fun result => result.event?.isSome) =
      commands.map Command.isGesture := by
  induction commands generalizing s world with
  | nil => rfl
  | cons command rest ih =>
    rw [List.map_cons, ← s.isSome_event?_obey r command world,
      ← ih ((s.obey r command).run world).1.2 ((s.obey r command).run world).2]
    rfl

/-- The events of commands about the session are those of their results, one for each. -/
theorem filterMap_event?_obeyAll {τ : Type} (r : Resolver (StateM τ)) (s : Session σ)
    {commands : List Command} (h : ∀ c ∈ commands, c.isGesture = true) (world : τ) :
    let results := ((s.obeyAll r commands).run world).1.1
    results.length = commands.length ∧
      (results.filterMap Result.event?).map some = results.map Result.event? := by
  intro results
  have hmap := s.map_isSome_event?_obeyAll r commands world
  refine ⟨by simpa using congrArg List.length hmap, ?_⟩
  rw [List.map_filterMap_some_eq_filter_map_isSome, List.filter_eq_self, List.forall_mem_map]
  -- No event is left out, since every result is that of one of the commands.
  intro result hresult
  have hmem : result.event?.isSome ∈ commands.map Command.isGesture := by
    rw [← hmap]
    exact List.mem_map_of_mem hresult
  obtain ⟨c, hc, hisSome⟩ := List.mem_map.1 hmem
  rw [← hisSome]
  exact h c hc

end Session

namespace Loop

variable {m : Type → Type} [Monad m] [LawfulMonad m]

/-- What a loop makes of a command that does `direct`: it is done at once, or a request that counts
is made and a task is started for it, which comes to the same once the task is answered. -/
def Obeys (l : Loop σ) (r : Resolver m) (waiter : Option Nat) (direct : m (Result × Session σ))
    (handled : List Event × Loop σ) : Prop :=
  (∃ result s, direct = pure (result, s) ∧ result.isStale = false ∧
      handled = (result.event?.toList,
        { l with session := s, waiters := l.waiters ++ waiter.toList })) ∨
    ∃ work s, work.isRunning = true ∧ s.Expects work ∧
      direct = work.conclude s <$> ask r s.timeoutMs work ∧
      handled = ([], { l with session := s }.spawn work)

/-- A gesture for a lookup is refused, or its lookup is asked for. -/
theorem startLookup_obeys (l : Loop σ) (r : Resolver m)
    {begun : Except Error Lookup × Session σ}
    (h : (∃ e, begun = (.error e, l.session)) ∨
      ∃ k s, begun = (.ok k, s) ∧ s.selection.current = some k.ticket.seq) :
    l.Obeys r none (Prod.map .marker id <$> Session.finishLookup r begun)
      (l.startLookup begun) := by
  rcases h with ⟨e, rfl⟩ | ⟨k, s, rfl, hcurrent⟩
  · refine .inl ⟨.marker (.error e), l.session, ?_, rfl, ?_⟩
    · simp [Session.finishLookup]
    · simp [startLookup, Result.event?, lookupEvent]
  · exact .inr ⟨.lookup k .running, s, rfl, hcurrent, Session.finishLookup_eq r s k, rfl⟩

/-- A loop without tasks does what a command means, at once or by a task. -/
theorem handle_obeys {l : Loop σ} (htasks : l.tasks = []) (r : Resolver m) (c : Command) :
    l.Obeys r c.waiter? (l.session.obey r c) (l.handle c) := by
  cases c with
  | click lat lng =>
    refine l.startLookup_obeys r ?_
    rcases l.session.beginClick_cases lat lng with ⟨fault, -, h⟩ | ⟨point, -, h⟩
    · exact .inl ⟨_, h⟩
    · exact .inr ⟨_, _, h, rfl⟩
  | submit role lat lng =>
    refine l.startLookup_obeys r ?_
    rcases l.session.beginSubmit_cases role lat lng with ⟨fault, -, h⟩ | ⟨point, -, h⟩
    · exact .inl ⟨_, h⟩
    · exact .inr ⟨_, _, h, rfl⟩
  | calcRoute =>
    rcases l.session.beginRoute_cases with ⟨role, -, h⟩ | ⟨source, destination, -, -, h⟩
    · refine .inl ⟨.route (.error (.missingEndpoint role)), l.session, ?_, rfl, ?_⟩
      · simp [Session.obey, Session.calcRoute, h]
      · simp [handle, startRoute, h, Command.waiter?, Result.event?, routeEvent]
    · refine .inr ⟨.route ⟨l.session.routesIssued + 1, source, destination⟩ .running,
        l.session.requested, rfl, rfl, Session.calcRoute_eq r h, ?_⟩
      simp [handle, startRoute, h]
  | showRoute payload =>
    rcases l.session.showPayload_cases payload with ⟨fault, -, h⟩ | ⟨g, -, h⟩
    · refine .inl ⟨.shown (.error (.invalidPath fault)), l.session, ?_, rfl, ?_⟩
      · simp [Session.obey, h]
      · simp [handle, h, Command.waiter?, Result.event?]
    · refine .inl ⟨.shown (.ok g), l.session.unrequested.display g, ?_, rfl, ?_⟩
      · simp [Session.obey, h]
      · simp [handle, h, Command.waiter?, Result.event?]
  | clearRoute =>
    exact .inl ⟨.cleared, _, rfl, rfl, by simp [handle, Command.waiter?, Result.event?]⟩
  | reset =>
    -- There is no task to be aborted.
    have habort : l.abortAll = l := by
      unfold abortAll
      rw [htasks, List.map_nil, ← htasks]
    refine .inl ⟨.reset, _, rfl, rfl, ?_⟩
    simp [handle, habort, Command.waiter?, Result.event?]
  | settle waiter => exact .inl ⟨.waited, _, rfl, rfl, rfl⟩

omit [Surface σ] in
/-- Everyone who waits is answered when there is no task. -/
theorem release_of_nil {l : Loop σ} (h : l.tasks = []) :
    l.release = (l.waiters, { l with waiters := [] }) := by
  simp [release, h]

omit [Surface σ] in
/-- Nobody is answered as long as there is a task. -/
theorem release_of_ne_nil {l : Loop σ} (h : l.tasks ≠ []) : l.release = ([], l) := by
  simp [release, h]

/-- A loop on which nothing is left to do takes a command: it is done at once, or a request that
counts is made and a task is started for it, which comes to the same once the task is answered. -/
theorem step_command {l : Loop σ} (htasks : l.tasks = []) (hwaiters : l.waiters = [])
    (r : Resolver m) (c : Command) :
    (∃ result s, l.session.obey r c = pure (result, s) ∧ result.isStale = false ∧
        l.step (.command c) =
          (⟨result.event?.toList, c.waiter?.toList⟩, { l with session := s })) ∨
      ∃ work s, work.isRunning = true ∧ s.Expects work ∧
        l.session.obey r c = work.conclude s <$> ask r s.timeoutMs work ∧
        l.step (.command c) = ({}, { l with
          session := s
          tasks := [⟨l.started, work⟩]
          started := l.started + 1 }) := by
  obtain ⟨session, tasks, waiters, started⟩ := l
  obtain rfl : tasks = [] := htasks
  obtain rfl : waiters = [] := hwaiters
  rcases handle_obeys (l := ⟨session, [], [], started⟩) rfl r c with
    ⟨result, s, hdirect, hfresh, hhandle⟩ | ⟨work, s, hrunning, hexpects, hdirect, hhandle⟩
  · exact .inl ⟨result, s, hdirect, hfresh, by simp only [step, hhandle]; rfl⟩
  · exact .inr ⟨work, s, hrunning, hexpects, hdirect, by simp only [step, hhandle]; rfl⟩

/-- Whoever begins to wait is answered when there is no task. -/
theorem step_settle_of_nil {l : Loop σ} (htasks : l.tasks = []) (waiter : Nat) :
    l.step (.command (.settle waiter)) =
      (⟨[], l.waiters ++ [waiter]⟩, { l with waiters := [] }) := by
  have hrelease := release_of_nil (l := { l with waiters := l.waiters ++ [waiter] }) htasks
  simp only [step, handle, hrelease]

/-- Whoever begins to wait is not answered as long as there is a task. -/
theorem step_settle_of_ne_nil {l : Loop σ} (htasks : l.tasks ≠ []) (waiter : Nat) :
    l.step (.command (.settle waiter)) = ({}, { l with waiters := l.waiters ++ [waiter] }) := by
  have hrelease := release_of_ne_nil (l := { l with waiters := l.waiters ++ [waiter] }) htasks
  simp only [step, handle, hrelease]

/-- What a resolver answers is of the kind that a task waits for. -/
theorem accepts_ask {τ : Type} (r : Resolver (StateM τ)) (limit : Nat) {work : Work}
    (h : work.isRunning = true) (world : τ) :
    work.accepts ((ask r limit work).run world).1 = true := by
  rcases work with ⟨k, p⟩ | ⟨q, p⟩ <;> cases p <;> first | rfl | cases h

/-- Work that may end in some way is still to be done. -/
theorem isRunning_of_accepts {work : Work} {ending : Work.Ending}
    (h : work.accepts ending = true) : work.isRunning = true := by
  rcases work with ⟨k, p⟩ | ⟨q, p⟩ <;> cases p <;> cases ending <;> first | rfl | cases h

/-- Work has ended once it is answered in a way of its kind. -/
theorem isRunning_finish {work : Work} {ending : Work.Ending} (h : work.accepts ending = true) :
    (work.finish ending).isRunning = false := by
  rcases work with ⟨k, p⟩ | ⟨q, p⟩ <;> cases p <;> cases ending <;> first | rfl | cases h

/-- What a loop applies of work that was answered is what comes of it. -/
theorem apply_finish (l : Loop σ) {work : Work} {ending : Work.Ending}
    (h : work.accepts ending = true) :
    l.apply (work.finish ending) =
      ((work.conclude l.session ending).1.event?.toList,
        { l with session := (work.conclude l.session ending).2 }) := by
  rcases work with ⟨k, p⟩ | ⟨q, p⟩ <;> cases p <;> cases ending <;> first | rfl | cases h

/-- What comes of the only task is told when it is put away, and everyone who waits is answered. -/
theorem step_reaped {l : Loop σ} {id : Nat} {work : Work} {ending : Work.Ending}
    (htasks : l.tasks = [⟨id, work.finish ending⟩]) (haccepts : work.accepts ending = true) :
    l.step (.reaped id) =
      (⟨(work.conclude l.session ending).1.event?.toList, l.waiters⟩,
        { l with
          session := (work.conclude l.session ending).2, tasks := [], waiters := [] }) := by
  have htask : l.task? id = some ⟨id, work.finish ending⟩ := by simp [task?, htasks]
  have hdrop : l.drop id = { l with tasks := [] } := by simp [drop, htasks]
  have hreap : l.reap id = ((work.conclude l.session ending).1.event?.toList,
      { l with session := (work.conclude l.session ending).2, tasks := [] }) := by
    simp only [reap, htask, isRunning_finish haccepts, hdrop]
    exact apply_finish _ haccepts
  simp only [step, hreap, release_of_nil]

end Loop

end Waymark
