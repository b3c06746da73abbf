import Waymark.Proofs.Loop.Waiters
import Waymark.Session.Actor
import Waymark.Surface.Layers

/-!
# Calls that wait for an actor

Whoever calls an actor to wait until no request is left gets one answer: that none is, or that the loop
has ended. `Happening` lists what may happen to an actor. Of its own accord it goes on until nothing
is left to do, but its loop may also take its time, and then deals with one signal after the other in
any order; so a course of happenings stands for every schedule.

The loop of an actor has dealt with some signals, and whoever was told that no request is left was
answered in a run of them (`Attended`). What is known of those who are answered in a run is therefore
known of the calls (`waits_answered`).
-/

namespace Waymark.Actor

/-- What may happen to an actor. -/
inductive Happening where
  /-- A gesture is sent. -/
  | send (gesture : Command) (hgesture : gesture.isGesture = true)
  /-- Someone calls and waits until no request is left. -/
  | wait
  /-- A request ends. -/
  | conclude (id : Nat) (ending : Work.Ending)
  /-- Time passes. -/
  | advance (milliseconds : Nat)
  /-- Nobody hears the events any more. -/
  | deafen
  /-- The loop is ended. -/
  | kill
  /-- Someone calls and waits, and the loop takes in the call and nothing more. -/
  | call
  /-- The loop deals with one signal that is no call, and with nothing more. -/
  | signal (s : Signal) (hs : s.waiter? = none)

/-- The answer to a call, with its number. -/
abbrev Reply : Type := Nat × Except Error Unit

/-- The numbers of the calls to which the answer was that no request is left, in order. -/
def answered (replies : List Reply) : List Nat :=
  (replies.filter fun r => r.2.isOk).map Prod.fst

/-- Answers that are the same for all have the numbers of all. -/
theorem map_fst_replies (numbers : List Nat) (reply : Except Error Unit) :
    (numbers.map fun n => (n, reply)).map Prod.fst = numbers := by
  rw [List.map_map]
  exact List.map_id _

/-- Everyone was answered that no request is left if that is the answer to all. -/
theorem answered_ok (numbers : List Nat) :
    answered (numbers.map fun n => (n, .ok ())) = numbers := by
  have hall : (numbers.map fun n => ((n, .ok ()) : Reply)).filter (fun r => r.2.isOk) =
      numbers.map fun n => (n, .ok ()) := by
    refine List.filter_eq_self.2 fun r hr => ?_
    obtain ⟨n, -, rfl⟩ := List.mem_map.1 hr
    rfl
  rw [answered, hall, map_fst_replies]

/-- Nobody was answered that no request is left if the answer to all is a failure. -/
theorem answered_error (numbers : List Nat) (e : Error) :
    answered (numbers.map fun n => (n, .error e)) = [] := by
  refine List.map_eq_nil_iff.2 (List.filter_eq_nil_iff.2 fun r hr => ?_)
  obtain ⟨n, -, rfl⟩ := List.mem_map.1 hr
  exact Bool.false_ne_true

/-- Further answers come to those before. -/
theorem answered_append (replies others : List Reply) :
    answered (replies ++ others) = answered replies ++ answered others := by
  simp [answered]

variable {σ : Type} [Surface σ]

/-- Gives the loop some signals, and does not let it go on. -/
def hear (a : Actor σ) (signals : List Signal) : Turn × Actor σ :=
  let (report, l) := a.loop.run signals
  let new := newTasks a.loop l
  ({ events := if a.heard then report.events else []
     settled := report.settled.map fun n => (n, .ok ())
     asked := new.map fun t => t.work.question },
    { a with loop := l, startedAt := a.startedAt ++ new.map fun t => (t.id, a.now) })

/-- What an actor does when something happens to it. -/
def meet (a : Actor σ) : Happening → Turn × Actor σ
  | .send gesture _ => (a.send gesture).2
  | .wait => a.wait
  | .conclude id ending => (a.conclude id ending).2
  | .advance milliseconds => a.advance milliseconds
  | .deafen => ({}, a.deafen)
  | .kill => a.kill
  | .call =>
    if a.alive then { a with waited := a.waited + 1 }.hear [.command (.settle a.waited)]
    else a.wait
  | .signal s _ => if a.alive then a.hear [s] else ({}, a)

/-- The commands that the loop of an actor takes when something happens to it. -/
def takes (a : Actor σ) (happening : Happening) : List Command :=
  if a.alive then match happening with
    | .send gesture _ => [gesture]
    | .wait | .call => [.settle a.waited]
    | .signal s _ => s.command?.toList
    | .conclude _ _ | .advance _ | .deafen | .kill => []
  else []

/-- What has happened to an actor so far: the commands that its loop took, the answers to calls, both
in order, and the actor as it is now. -/
structure Course (σ : Type) where
  /-- The commands. -/
  commands : List Command
  /-- The answers. -/
  replies : List Reply
  /-- The actor. -/
  actor : Actor σ

namespace Course

/-- Something more happens. -/
def next (c : Course σ) (happening : Happening) : Course σ where
  commands := c.commands ++ c.actor.takes happening
  replies := c.replies ++ (c.actor.meet happening).1.settled
  actor := (c.actor.meet happening).2

/-- The course of what happens to the actor of a session. -/
def of (session : Session σ) (happenings : List Happening) : Course σ :=
  happenings.foldl next ⟨[], [], .start session⟩

end Course

/-- An actor that goes on until nothing is left to do puts away all tasks that have ended. -/
theorem turn_eq_hear (a : Actor σ) (signals : List Signal) :
    a.turn signals =
      a.hear (signals ++ (a.loop.run signals).2.endedTasks.map .reaped) := by
  unfold turn hear
  rw [Loop.run_append]
  rfl

/-- The calls of an actor have been attended to. -/
structure Attended (session : Session σ) (c : Course σ) : Prop where
  /-- The calls were answered in order, each once, but for the last, who still wait. -/
  numbers : c.replies.map Prod.fst ++ c.actor.loop.waiters = List.range c.actor.waited
  /-- The answer is that no request is left, unless the loop has ended. -/
  replies : ∀ r ∈ c.replies, r.2 = .ok () ∨ r.2 = .error .sessionClosed ∧ c.actor.alive = false
  /-- Nothing is left to do when the loop has ended. -/
  ended : c.actor.alive = false → c.actor.loop.tasks = [] ∧ c.actor.loop.waiters = []
  /-- The loop has dealt with some signals, of which the commands are those that it took, and has
  answered whoever was told that no request is left. -/
  dealt : ∃ signals, signals.filterMap Signal.command? = c.commands ∧
    answered c.replies = ((Loop.start session).run signals).1.settled ∧
    (c.actor.alive = true → c.actor.loop = ((Loop.start session).run signals).2)

namespace Attended

variable {session : Session σ} {c : Course σ} {b : Actor σ}

/-- Nothing changes when neither the loop nor the calls do. -/
theorem keep (h : Attended session c) (hloop : b.loop = c.actor.loop)
    (halive : b.alive = c.actor.alive) (hwaited : b.waited = c.actor.waited) :
    Attended session ⟨c.commands ++ [], c.replies ++ [], b⟩ := by
  rw [List.append_nil, List.append_nil]
  refine ⟨?_, ?_, ?_, ?_⟩
  · rw [hloop, hwaited]
    exact h.numbers
  · rw [halive]
    exact h.replies
  · rw [halive, hloop]
    exact h.ended
  · rw [halive, hloop]
    exact h.dealt

/-- The loop deals with some more signals, which may be about the next calls. -/
theorem hear (h : Attended session c) (halive : c.actor.alive = true)
    (hloop : b.loop = c.actor.loop) (hb : b.alive = true) (signals : List Signal)
    (hwaited : List.range c.actor.waited ++ signals.filterMap Signal.waiter? =
      List.range b.waited) :
    Attended session ⟨c.commands ++ signals.filterMap Signal.command?,
      c.replies ++ (b.hear signals).1.settled, (b.hear signals).2⟩ := by
  have hwaiters := b.loop.run_waiters signals
  obtain ⟨past, hcommands, hanswered, hrun⟩ := h.dealt
  have hnumbers : (b.hear signals).1.settled.map Prod.fst = (b.loop.run signals).1.settled :=
    map_fst_replies _ _
  have hoks : answered (b.hear signals).1.settled = (b.loop.run signals).1.settled :=
    answered_ok _
  refine ⟨?_, ?_, ?_, past ++ signals, ?_, ?_, fun _ => ?_⟩
  · calc (c.replies ++ (b.hear signals).1.settled).map Prod.fst ++ (b.loop.run signals).2.waiters
        = c.replies.map Prod.fst ++
            ((b.loop.run signals).1.settled ++ (b.loop.run signals).2.waiters) := by
          rw [List.map_append, hnumbers, List.append_assoc]
      _ = c.replies.map Prod.fst ++ c.actor.loop.waiters ++
            signals.filterMap Signal.waiter? := by
          rw [hwaiters, hloop, List.append_assoc]
      _ = List.range b.waited := by rw [h.numbers, hwaited]
  · intro r hr
    rcases List.mem_append.1 hr with hr | hr
    · -- The loop had not ended, so that this was no failure.
      refine .inl ((h.replies r hr).resolve_right fun hended => ?_)
      rw [halive] at hended
      cases hended.2
    · obtain ⟨n, -, rfl⟩ := List.mem_map.1 hr
      exact .inl rfl
  · intro hended
    rw [show (b.hear signals).2.alive = b.alive from rfl, hb] at hended
    cases hended
  · rw [List.filterMap_append, hcommands]
  · rw [answered_append, hanswered, hoks, Loop.run_append, hloop, hrun halive]
    rfl
  · rw [Loop.run_append, ← hrun halive, ← hloop]
    rfl

/-- The loop deals with some more signals, which may be about the next calls, and goes on until
nothing is left to do. -/
theorem turn (h : Attended session c) (halive : c.actor.alive = true)
    (hloop : b.loop = c.actor.loop) (hb : b.alive = true) (signals : List Signal)
    (hwaited : List.range c.actor.waited ++ signals.filterMap Signal.waiter? =
      List.range b.waited) :
    Attended session ⟨c.commands ++ signals.filterMap Signal.command?,
      c.replies ++ (b.turn signals).1.settled, (b.turn signals).2⟩ := by
  -- To put away a task is no command and no call.
  have hcommands (ids : List Nat) : (ids.map Signal.reaped).filterMap Signal.command? = [] := by
    simp [Signal.command?]
  have hwaiters (ids : List Nat) : (ids.map Signal.reaped).filterMap Signal.waiter? = [] := by
    simp [Signal.waiter?, Signal.command?]
  rw [turn_eq_hear]
  have hheard := h.hear halive hloop hb
    (signals ++ (b.loop.run signals).2.endedTasks.map .reaped)
    (by rw [List.filterMap_append, hwaiters, List.append_nil, hwaited])
  rwa [List.filterMap_append, hcommands, List.append_nil] at hheard

/-- A call is answered with a failure when the loop has ended. -/
theorem refuse (h : Attended session c) (hdead : c.actor.alive = false) :
    Attended session ⟨c.commands ++ [], c.replies ++ [(c.actor.waited, .error .sessionClosed)],
      { c.actor with waited := c.actor.waited + 1 }⟩ := by
  obtain ⟨signals, hcommands, hanswered, hrun⟩ := h.dealt
  have hnumbers := h.numbers
  rw [(h.ended hdead).2, List.append_nil] at hnumbers
  rw [List.append_nil]
  refine ⟨?_, ?_, h.ended, signals, hcommands, ?_, hrun⟩
  · show (c.replies ++ [(c.actor.waited, _)]).map Prod.fst ++ c.actor.loop.waiters = _
    rw [(h.ended hdead).2, List.append_nil, List.map_append, hnumbers, List.range_succ]
    rfl
  · intro r hr
    rcases List.mem_append.1 hr with hr | hr
    · exact h.replies r hr
    · rw [List.mem_singleton.1 hr]
      exact .inr ⟨rfl, hdead⟩
  · rw [answered_append, hanswered]
    exact List.append_nil _

/-- Whoever waits is answered with a failure when the loop is ended. -/
theorem kill (h : Attended session c) :
    Attended session ⟨c.commands ++ [], c.replies ++ c.actor.kill.1.settled, c.actor.kill.2⟩ := by
  obtain ⟨signals, hcommands, hanswered, -⟩ := h.dealt
  have hreplies : c.actor.kill.1.settled =
      c.actor.loop.waiters.map fun n => (n, .error .sessionClosed) := rfl
  rw [List.append_nil]
  refine ⟨?_, ?_, fun _ => ⟨rfl, rfl⟩, signals, hcommands, ?_, fun halive => ?_⟩
  · show (c.replies ++ _).map Prod.fst ++ [] = _
    rw [List.append_nil, List.map_append, hreplies, map_fst_replies]
    exact h.numbers
  · intro r hr
    rcases List.mem_append.1 hr with hr | hr
    · exact (h.replies r hr).imp_right fun hfailed => ⟨hfailed.1, rfl⟩
    · obtain ⟨n, -, rfl⟩ := List.mem_map.1 hr
      exact .inr ⟨rfl, rfl⟩
  · rw [answered_append, hanswered, hreplies, answered_error, List.append_nil]
  · cases halive

/-- The calls of an actor are attended to when something happens to one whose loop runs. -/
theorem next_of_alive (h : Attended session c) (halive : c.actor.alive = true)
    (happening : Happening) : Attended session (c.next happening) := by
  have hnone {s : Signal} (hs : s.waiter? = none) :
      List.range c.actor.waited ++ [s].filterMap Signal.waiter? = List.range c.actor.waited := by
    simp [hs]
  have hcall : List.range c.actor.waited ++
      [Signal.command (.settle c.actor.waited)].filterMap Signal.waiter? =
        List.range (c.actor.waited + 1) := by
    rw [List.range_succ]
    rfl
  cases happening with
  | send gesture hgesture =>
    have hs : (Signal.command gesture).waiter? = none := by
      cases gesture <;> first | rfl | cases hgesture
    simp only [Course.next, takes, meet, send, if_pos halive]
    exact h.turn halive rfl halive [.command gesture] (hnone hs)
  | wait =>
    simp only [Course.next, takes, meet, wait, if_pos halive]
    exact h.turn (b := { c.actor with waited := c.actor.waited + 1 }) halive rfl halive
      [.command (.settle c.actor.waited)] hcall
  | conclude id ending =>
    simp only [Course.next, takes, meet, conclude, if_pos halive]
    by_cases haccepts : (c.actor.loop.task? id).any fun t => t.work.accepts ending
    · rw [if_pos haccepts]
      exact h.turn halive rfl halive [.ended id ending] (hnone rfl)
    · rw [if_neg haccepts]
      exact h.keep rfl rfl rfl
  | advance milliseconds =>
    -- What runs out of time is no command and no call.
    generalize hexpiries : (({ c.actor with
      now := c.actor.now + milliseconds } : Actor σ).expired.filterMap fun id =>
        (c.actor.loop.task? id).map fun t =>
          Signal.ended id (t.work.expiry c.actor.loop.session.timeoutMs)) = expiries
    have hended : ∀ s ∈ expiries, s.command? = none := by
      intro s hs
      rw [← hexpiries] at hs
      obtain ⟨id, -, hs⟩ := List.mem_filterMap.1 hs
      obtain ⟨t, -, rfl⟩ := Option.map_eq_some_iff.1 hs
      rfl
    have hcommands : expiries.filterMap Signal.command? = [] :=
      List.filterMap_eq_nil_iff.2 hended
    have hwaiters : expiries.filterMap Signal.waiter? = [] := by
      refine List.filterMap_eq_nil_iff.2 fun s hs => ?_
      rw [Signal.waiter?, hended s hs]
      rfl
    have hturn := h.turn (b := { c.actor with now := c.actor.now + milliseconds }) halive rfl
      halive expiries (by rw [hwaiters, List.append_nil])
    rw [hcommands] at hturn
    simp only [Course.next, takes, meet, advance, if_pos halive, hexpiries]
    exact hturn
  | deafen =>
    simp only [Course.next, takes, meet, if_pos halive]
    exact h.keep rfl rfl rfl
  | kill =>
    simp only [Course.next, takes, meet, if_pos halive]
    exact h.kill
  | call =>
    simp only [Course.next, takes, meet, if_pos halive]
    exact h.hear (b := { c.actor with waited := c.actor.waited + 1 }) halive rfl halive
      [.command (.settle c.actor.waited)] hcall
  | signal s hs =>
    simp only [Course.next, takes, meet, if_pos halive]
    have hheard := h.hear halive rfl halive [s] (hnone hs)
    have hcommands : [s].filterMap Signal.command? = s.command?.toList := by
      cases hc : s.command? <;> simp [hc]
    rwa [hcommands] at hheard

/-- The calls of an actor are attended to when something happens to one whose loop has ended. -/
theorem next_of_dead (h : Attended session c) (hdead : c.actor.alive = false)
    (happening : Happening) : Attended session (c.next happening) := by
  have hnot : ¬ c.actor.alive = true := by simp [hdead]
  obtain ⟨htasks, hwaiters⟩ := h.ended hdead
  cases happening with
  | send gesture hgesture =>
    simp only [Course.next, takes, meet, send, if_neg hnot]
    exact h.keep rfl rfl rfl
  | wait | call =>
    simp only [Course.next, takes, meet, wait, if_neg hnot]
    exact h.refuse hdead
  | conclude id ending =>
    have hnone : c.actor.loop.task? id = none := by simp [Loop.task?, htasks]
    simp only [Course.next, takes, meet, conclude, if_neg hnot, hnone, Option.any_none,
      Bool.false_eq_true, if_false]
    exact h.keep rfl rfl rfl
  | advance milliseconds =>
    -- No request is left that could run out of time.
    have hexpired : ({ c.actor with now := c.actor.now + milliseconds } : Actor σ).expired = [] := by
      simp [expired, openRequests, Loop.openTasks, htasks]
    have hended : c.actor.loop.endedTasks = [] := by simp [Loop.endedTasks, htasks]
    simp only [Course.next, takes, meet, advance, if_neg hnot, hexpired, List.filterMap_nil,
      Actor.turn, Loop.settleDown, Loop.run, hended, List.map_nil]
    exact h.keep rfl rfl rfl
  | deafen =>
    simp only [Course.next, takes, meet, if_neg hnot]
    exact h.keep rfl rfl rfl
  | kill =>
    simp only [Course.next, takes, meet, if_neg hnot]
    exact h.kill
  | signal s hs =>
    simp only [Course.next, takes, meet, if_neg hnot]
    exact h.keep rfl rfl rfl

/-- The calls of an actor are attended to, whatever happens to it. -/
theorem next (h : Attended session c) (happening : Happening) :
    Attended session (c.next happening) := by
  cases halive : c.actor.alive with
  | true => exact h.next_of_alive halive happening
  | false => exact h.next_of_dead halive happening

end Attended

/-- The calls of an actor are attended to in every course of what happens to it. -/
theorem attended (session : Session σ) (happenings : List Happening) :
    Attended session (Course.of session happenings) := by
  have hfirst : Attended session ⟨[], [], .start session⟩ :=
    ⟨rfl, by rintro _ ⟨⟩, fun _ => ⟨rfl, rfl⟩, [], rfl, rfl, fun _ => rfl⟩
  unfold Course.of
  generalize (⟨[], [], .start session⟩ : Course σ) = c at hfirst ⊢
  induction happenings generalizing c with
  | nil => exact hfirst
  | cons happening rest ih => exact ih _ (hfirst.next happening)

/-- For every run of a loop: those who begin to wait are answered, each once and in order, but for
the last of them, who wait still; at a moment at which someone is answered no task is left, be it
running, ended or aborted; after every moment nobody waits unless a task is left; and when someone is
answered, whatever was asked for so far by a click, a form entry or a request for a route is over, by
its event or by a reset.

For everything that may happen to an actor, in whatever order its loop deals with it: calls are
answered, each once and in order, but for the last of them, which wait still. Those to which the
answer is that no request is left were answered in a run of the loop in which it took the commands
that were sent. Every other answer is that the session is closed, and comes only when the loop has
ended and the call was not answered before. -/
theorem waits_answered (session : Session σ) :
    (∀ signals : List Signal,
      let trace := (Loop.start session).trace signals
      let last := ((Loop.start session).run signals).2
      trace.flatMap Moment.settled ++ last.waiters = signals.filterMap Signal.waiter? ∧
      (∀ m ∈ trace, (m.settled ≠ [] → m.after.tasks = []) ∧
        (m.after.waiters = [] ∨ m.after.tasks ≠ [])) ∧
      ∀ before m later, trace = before ++ m :: later → m.settled ≠ [] →
        ∀ k ∈ before ++ [m], ∀ c, k.signal = .command c → c.asks = true →
          Moment.Concluded (before ++ [m]) k) ∧
    ∀ happenings : List Happening,
      let course := Course.of session happenings
      let a := course.actor
      course.replies.map Prod.fst ++ a.loop.waiters = List.range a.waited ∧
      (∃ signals, signals.filterMap Signal.command? = course.commands ∧
        answered course.replies =
          ((Loop.start session).trace signals).flatMap Moment.settled ∧
        (a.alive = true → a.loop = ((Loop.start session).run signals).2)) ∧
      ∀ n e, (n, .error e) ∈ course.replies →
        e = .sessionClosed ∧ a.alive = false ∧ n ∉ answered course.replies := by
  refine ⟨fun signals => ⟨?_, ?_, ?_⟩, fun happenings => ?_⟩
  · rw [← Loop.run_settled, Loop.run_waiters]
    rfl
  · intro m hm
    refine ⟨(m.before.step_waiters m.signal).2.1, ?_⟩
    -- A moment ends a run of its own.
    obtain ⟨before, later, hsplit⟩ := List.append_of_mem hm
    obtain ⟨past, rest, -, -, hbefore⟩ := Loop.trace_split hsplit
    have hattended := Loop.run_attended session (past ++ [m.signal])
    rw [Loop.run_append, ← hbefore] at hattended
    exact hattended
  · exact fun before m later htrace hsettled k hk c hsignal hc =>
      Loop.concluded_of_settled session htrace hsettled hk hsignal hc
  · intro course a
    have h : Attended session course := attended session happenings
    obtain ⟨signals, hcommands, hanswered, hloop⟩ := h.dealt
    refine ⟨h.numbers, ⟨signals, hcommands, ?_, hloop⟩, fun n e hn => ?_⟩
    · rw [hanswered, Loop.run_settled]
    · obtain ⟨he, hended⟩ := (h.replies _ hn).resolve_left nofun
      refine ⟨Except.error.inj he, hended, fun hok => ?_⟩
      -- No number is that of two answers.
      have hnodup : (course.replies.map Prod.fst).Nodup := by
        have hrange : (List.range a.waited).Nodup := List.nodup_range
        rw [← h.numbers] at hrange
        exact hrange.of_append_left
      obtain ⟨r, hr, rfl⟩ := List.mem_map.1 hok
      obtain ⟨hr, hisOk⟩ := List.mem_filter.1 hr
      rw [List.inj_on_of_nodup_map hnodup hr hn rfl] at hisOk
      cases hisOk

/-- The node of a click comes while someone waits, and then the loop is ended. The first call is
answered once the node is placed, and the second fails. -/
example : (Course.of (Session.start Layers.empty .default) [.send (.click 48.0 9.0) rfl, .wait,
    .conclude 0 (.node (.ok ⟨⟨48.0, 9.0⟩, 7⟩)), .kill, .wait]).replies =
      [(0, .ok ()), (1, .error .sessionClosed)] := rfl

end Waymark.Actor
