import Waymark.Session.Basic

/-!
# The loop of a session

A session that several parties use is owned by a loop. The loop takes commands one at a time;
a command that needs an answer starts a task, and the loop goes on. Tasks end on their own: with an
answer, or by a crash. At its head the loop chooses freely between the next command and a task
that has ended, and `step` is one round of it. A reset aborts every task that is still running.

What the loop tells the outside is a list of events, and the numbers of those who wait until no
task is left. A task that ended by an abort is put away without an event; every other one leaves
exactly one.
-/

namespace Waymark

/-- What a user or a page asks of a session. -/
inductive Command where
  /-- A click on the map. -/
  | click (lat lng : Float)
  /-- A form entry. -/
  | submit (role : Role) (lat lng : String)
  /-- A request for the route between the nodes. -/
  | calcRoute
  /-- A route that is there already. -/
  | showRoute (payload : Payload)
  /-- The route is to go. -/
  | clearRoute
  /-- Everything is to go. -/
  | reset
  /-- Someone, by number, wants to know when no task is left. -/
  | settle (waiter : Nat)

/-- A failure as it is shown to a user. -/
structure Notice where
  /-- The code of the error. -/
  code : String
  /-- The message of the error. -/
  message : String
  /-- Whether the same gesture may succeed when it is repeated. -/
  retryable : Bool
deriving DecidableEq, Repr

/-- The notice of an error. -/
def Error.notice (e : Error) : Notice := ⟨e.code, e.message, e.retryable⟩

/-- Something that a page should show. -/
inductive Event where
  /-- A marker was placed. -/
  | markerPlaced (marker : Marker)
  /-- A route was shown. -/
  | routeShown (meters : Float) (points : Nat)
  /-- The route was removed. -/
  | routeCleared
  /-- The answer of a lookup came after a newer gesture. -/
  | lookupDiscarded (seq : Nat)
  /-- The answer of a route request came after a newer one. -/
  | routeDiscarded (seq : Nat)
  /-- Everything was removed. -/
  | reset
  /-- Something failed. -/
  | notice (notice : Notice)

/-- How far a task has got. -/
inductive Progress (α : Type) where
  /-- It waits for its answer. -/
  | running
  /-- It has its answer. -/
  | finished (answer : Except Error α)
  /-- It ended abnormally. -/
  | crashed
  /-- It was made to end. -/
  | aborted

/-- Whether a task waits for its answer. -/
def Progress.isRunning {α : Type} : Progress α → Bool
  | .running => true
  | _ => false

/-- A running task is made to end; one that has ended stays as it is. -/
def Progress.abort {α : Type} : Progress α → Progress α
  | .running => .aborted
  | p => p

/-- What a task waits for. -/
inductive Work where
  /-- The node of a lookup. -/
  | lookup (lookup : Lookup) (progress : Progress Node)
  /-- The route of a route request. -/
  | route (request : RouteRequest) (progress : Progress Payload)

namespace Work

/-- Whether the work is still to be done. -/
def isRunning : Work → Bool
  | .lookup _ p => p.isRunning
  | .route _ p => p.isRunning

/-- Makes running work end. -/
def abort : Work → Work
  | .lookup l p => .lookup l p.abort
  | .route r p => .route r p.abort

/-- How work ends outside the loop: with an answer of its own kind, or by a crash. -/
inductive Ending where
  /-- A lookup is answered. -/
  | node (answer : Except Error Node)
  /-- A route request is answered. -/
  | route (answer : Except Error Payload)
  /-- The work ends abnormally. -/
  | crash

/-- Running work ends, if the ending is of its kind. -/
def finish : Work → Ending → Work
  | .lookup l .running, .node answer => .lookup l (.finished answer)
  | .route r .running, .route answer => .route r (.finished answer)
  | .lookup l .running, .crash => .lookup l .crashed
  | .route r .running, .crash => .route r .crashed
  | w, _ => w

/-- Whether the work is still to be done and may end in this way. -/
def accepts : Work → Ending → Bool
  | .lookup _ .running, .node _ | .route _ .running, .route _ => true
  | w, .crash => w.isRunning
  | _, _ => false

/-- The ending of work that has run out of time. -/
def expiry (limit : Nat) : Work → Ending
  | .lookup _ _ => .node (.error (.transport (.timedOut limit)))
  | .route _ _ => .route (.error (.transport (.timedOut limit)))

end Work

/-- A task of the loop. -/
structure Task where
  /-- Its number among all tasks started, from zero on. -/
  id : Nat
  /-- What it waits for. -/
  work : Work

/-- The state of the loop. -/
structure Loop (σ : Type) where
  /-- The session. -/
  session : Session σ
  /-- The tasks that were not put away yet, in the order in which they were started. -/
  tasks : List Task := []
  /-- The numbers of those who wait until no task is left, in order. -/
  waiters : List Nat := []
  /-- How many tasks were started. -/
  started : Nat := 0

/-- What a round of the loop tells the outside. -/
structure Report where
  /-- The events, in order. -/
  events : List Event := []
  /-- The waiters that were answered, in order. -/
  settled : List Nat := []

/-- Two reports, one after the other. -/
def Report.append (a b : Report) : Report := ⟨a.events ++ b.events, a.settled ++ b.settled⟩

/-- What can happen next. -/
inductive Signal where
  /-- The loop takes a command. -/
  | command (command : Command)
  /-- A running task ends. -/
  | ended (id : Nat) (ending : Work.Ending)
  /-- The loop puts away a task that has ended. -/
  | reaped (id : Nat)

namespace Loop

variable {σ : Type}

/-- The loop of a session, before anything happens. -/
def start (session : Session σ) : Loop σ := { session }

/-- The task of a number. -/
def task? (l : Loop σ) (id : Nat) : Option Task := l.tasks.find? fun t => t.id == id

/-- Starts a task. -/
def spawn (l : Loop σ) (work : Work) : Loop σ :=
  { l with tasks := l.tasks ++ [⟨l.started, work⟩], started := l.started + 1 }

/-- Aborts every task that is running. -/
def abortAll (l : Loop σ) : Loop σ :=
  { l with tasks := l.tasks.map fun t => { t with work := t.work.abort } }

/-- A running task ends. -/
def finish (l : Loop σ) (id : Nat) (ending : Work.Ending) : Loop σ :=
  { l with
    tasks := l.tasks.map fun t =>
      if t.id = id then { t with work := t.work.finish ending } else t }

/-- Takes a task out of the list. -/
def drop (l : Loop σ) (id : Nat) : Loop σ :=
  { l with tasks := l.tasks.filter fun t => t.id != id }

/-- The event of a failure. -/
def failed (e : Error) : Event := .notice e.notice

/-- The event of a route that was shown. -/
def shown (g : Geometry) : Event := .routeShown g.meters g.path.length

/-- The event of the answer of a lookup. -/
def lookupEvent : Except Error (Outcome Marker) → Event
  | .ok (.applied marker) => .markerPlaced marker
  | .ok (.stale seq) => .lookupDiscarded seq
  | .error e => failed e

/-- The event of the answer of a route request. -/
def routeEvent : Except Error (Outcome Geometry) → Event
  | .ok (.applied g) => shown g
  | .ok (.stale seq) => .routeDiscarded seq
  | .error e => failed e

/-- Starts the task of a lookup, unless the gesture was refused. -/
def startLookup (l : Loop σ) (begun : Except Error Lookup × Session σ) : List Event × Loop σ :=
  match begun with
  | (.ok lookup, session) => ([], { l with session }.spawn (.lookup lookup .running))
  | (.error e, session) => ([failed e], { l with session })

/-- Starts the task of a route request, unless it was refused. -/
def startRoute (l : Loop σ) (begun : Except Error RouteRequest × Session σ) :
    List Event × Loop σ :=
  match begun with
  | (.ok request, session) => ([], { l with session }.spawn (.route request .running))
  | (.error e, session) => ([failed e], { l with session })

variable [Surface σ]

/-- Carries out a command. -/
def handle (l : Loop σ) : Command → List Event × Loop σ
  | .click lat lng => l.startLookup (l.session.beginClick lat lng)
  | .submit role lat lng => l.startLookup (l.session.beginSubmit role lat lng)
  | .calcRoute => l.startRoute l.session.beginRoute
  | .showRoute payload =>
    match l.session.showPayload payload with
    | (.ok g, session) => ([shown g], { l with session })
    | (.error e, session) => ([failed e], { l with session })
  | .clearRoute => ([.routeCleared], { l with session := l.session.clearRoute })
  | .reset =>
    let l := l.abortAll
    ([.reset], { l with session := l.session.reset })
  | .settle waiter => ([], { l with waiters := l.waiters ++ [waiter] })

/-- Applies what has come of a task. Nothing does of a running one. -/
def apply (l : Loop σ) : Work → List Event × Loop σ
  | .lookup lookup (.finished answer) =>
    let (result, session) := l.session.completeLookup lookup.ticket answer
    ([lookupEvent result], { l with session })
  | .route request (.finished answer) =>
    let (result, session) := l.session.completeRoute request answer
    ([routeEvent result], { l with session })
  | .lookup _ .crashed | .route _ .crashed => ([failed (.transport .crashed)], l)
  | .lookup _ .aborted | .route _ .aborted => ([], l)
  | .lookup _ .running | .route _ .running => ([], l)

/-- Puts away a task that has ended and applies what has come of it. -/
def reap (l : Loop σ) (id : Nat) : List Event × Loop σ :=
  match l.task? id with
  | some t => if t.work.isRunning then ([], l) else (l.drop id).apply t.work
  | none => ([], l)

omit [Surface σ] in
/-- Answers everyone who waits, if no task is left. -/
def release (l : Loop σ) : List Nat × Loop σ :=
  if l.tasks.isEmpty then (l.waiters, { l with waiters := [] }) else ([], l)

/-- What happens at a signal. The loop itself goes through a round at a command and at a task
that it puts away, and looks after those who wait at the end of it. -/
def step (l : Loop σ) : Signal → Report × Loop σ
  | .command c =>
    let (events, l) := l.handle c
    let (settled, l) := l.release
    (⟨events, settled⟩, l)
  | .ended id ending => ({}, l.finish id ending)
  | .reaped id =>
    let (events, l) := l.reap id
    let (settled, l) := l.release
    (⟨events, settled⟩, l)

/-- What happens at some signals, one after the other. -/
def run (l : Loop σ) : List Signal → Report × Loop σ
  | [] => ({}, l)
  | signal :: rest =>
    let (first, l) := l.step signal
    let (others, l) := l.run rest
    (first.append others, l)

/-- The numbers of the tasks that wait for their answers, in order. -/
def openTasks (l : Loop σ) : List Nat := (l.tasks.filter fun t => t.work.isRunning).map Task.id

/-- The numbers of the tasks that have ended and were not put away, in order. -/
def endedTasks (l : Loop σ) : List Nat := (l.tasks.filter fun t => !t.work.isRunning).map Task.id

/-- Puts away every task that has ended, in the order in which they were started. -/
def settleDown (l : Loop σ) : Report × Loop σ := l.run (l.endedTasks.map .reaped)

end Loop

end Waymark
