import Waymark.Session.Loop

/-!
# Actors

An actor runs the loop of a session for others. It holds a clock, by which requests run out of
time, and after every message it goes on until nothing is left to do: all that has ended is put
away, and what remains are requests that wait for their answers. Whoever wants to wait for that
is numbered, and is answered in the end, with a failure if the actor was killed first.
-/

namespace Waymark

/-- What is asked of the lookup service. -/
inductive Question where
  /-- The node next to a point. -/
  | closest (point : Point)
  /-- The route between two nodes. -/
  | route (source destination : UInt64)

/-- What a task asks of the lookup service. -/
def Work.question : Work → Question
  | .lookup l _ => .closest l.point
  | .route r _ => .route r.source r.destination

/-- The loop of a session with a clock. -/
structure Actor (σ : Type) where
  /-- The loop. -/
  loop : Loop σ
  /-- The time in milliseconds. -/
  now : Nat := 0
  /-- When each task was started. -/
  startedAt : List (Nat × Nat) := []
  /-- How many asked to be told when no request is left. -/
  waited : Nat := 0
  /-- Whether the loop runs. -/
  alive : Bool := true
  /-- Whether anyone hears the events. -/
  heard : Bool := true

/-- What an actor did after a message. -/
structure Turn where
  /-- The events that were heard, in order. -/
  events : List Event := []
  /-- Those who waited and were answered, in order. -/
  settled : List (Nat × Except Error Unit) := []
  /-- What was asked of the lookup service, in order. -/
  asked : List Question := []

/-- How an actor ends when nobody holds on to it any more. -/
inductive Ended (σ : Type) where
  /-- The loop gave its session back. -/
  | closed (session : Session σ)
  /-- The loop was killed. -/
  | killed
  /-- Someone still waits, so the loop goes on. -/
  | running

namespace Actor

variable {σ : Type}

/-- The actor of a session. -/
def start (session : Session σ) : Actor σ := { loop := .start session }

/-- The numbers of the requests that wait for their answers, in order. -/
def openRequests (a : Actor σ) : List Nat := a.loop.openTasks

/-- The tasks of `after` that were started since `before`. -/
def newTasks (before after : Loop σ) : List Task :=
  after.tasks.filter fun t => decide (before.started ≤ t.id)

/-- The numbers of the requests that have run out of time, in the order in which they were made. -/
def expired (a : Actor σ) : List Nat :=
  a.openRequests.filter fun id =>
    a.startedAt.any fun (started, time) =>
      started == id && decide (time + a.loop.session.timeoutMs ≤ a.now)

/-- The actor is not heard any more. -/
def deafen (a : Actor σ) : Actor σ := { a with heard := false }

/-- Ends the loop at once, with every request on its way; whoever waits is told so. -/
def kill (a : Actor σ) : Turn × Actor σ :=
  ({ settled := a.loop.waiters.map fun n => (n, .error .sessionClosed) },
    { a with loop := { a.loop with tasks := [], waiters := [] }, alive := false })

/-- How the actor has ended when nobody holds on to it any more. -/
def ended (a : Actor σ) : Ended σ :=
  if !a.alive then .killed
  else if a.loop.waiters.isEmpty then .closed a.loop.session
  else .running

/-- Nobody holds on to the actor any more. Unless someone still waits, the loop ends, with every
request on its way. -/
def close (a : Actor σ) : Actor σ :=
  if a.loop.waiters.isEmpty then { a with loop := { a.loop with tasks := [] } } else a

variable [Surface σ]

/-- Gives the loop some signals and lets it go on until nothing is left to do. -/
def turn (a : Actor σ) (signals : List Signal) : Turn × Actor σ :=
  let (first, l) := a.loop.run signals
  let (others, l) := l.settleDown
  let report := first.append others
  let new := newTasks a.loop l
  ({ events := if a.heard then report.events else []
     settled := report.settled.map fun n => (n, .ok ())
     asked := new.map fun t => t.work.question },
    { a with loop := l, startedAt := a.startedAt ++ new.map fun t => (t.id, a.now) })

/-- Gives the loop a command. -/
def send (a : Actor σ) (command : Command) : Except Error Unit × Turn × Actor σ :=
  if a.alive then (.ok (), a.turn [.command command]) else (.error .sessionClosed, {}, a)

/-- Someone asks to be told when no request is left. -/
def wait (a : Actor σ) : Turn × Actor σ :=
  let number := a.waited
  let a := { a with waited := number + 1 }
  if a.alive then a.turn [.command (.settle number)]
  else ({ settled := [(number, .error .sessionClosed)] }, a)

/-- Ends a request that is on its way; says whether there was one of that number that may end so. -/
def conclude (a : Actor σ) (id : Nat) (ending : Work.Ending) : Bool × Turn × Actor σ :=
  if (a.loop.task? id).any fun t => t.work.accepts ending then (true, a.turn [.ended id ending])
  else (false, {}, a)

/-- Lets time pass. Requests that have run out of it end, in the order in which they were made. -/
def advance (a : Actor σ) (milliseconds : Nat) : Turn × Actor σ :=
  let a := { a with now := a.now + milliseconds }
  let limit := a.loop.session.timeoutMs
  let expiries := a.expired.filterMap fun id =>
    (a.loop.task? id).map fun t => Signal.ended id (t.work.expiry limit)
  a.turn expiries

end Actor

end Waymark
