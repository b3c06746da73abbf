import Waymark.Session.Loop
import Waymark.Proofs.Session.Effects

/-!
# Rounds of the loop

`Round` lists the ways in which a loop deals with a signal, each with the work that it starts, the
events that it leaves and the loop afterwards, and `act_round` says that there are no others. What
holds of every run of a loop is proved by one case for each of them.
-/

namespace Waymark

/-- Whether a command may be refused. -/
def Command.mayFail : Command → Bool
  | .click _ _ | .submit _ _ _ | .calcRoute | .showRoute _ => true
  | .clearRoute | .reset | .settle _ => false

/-- The target of the lookup that a command asks for, if it asks for one. -/
def Command.target? (active : Role) : Command → Option Target
  | .click _ _ => some (.toggle active)
  | .submit role _ _ => some (.manual role)
  | _ => none

namespace Work

/-- The lookup that is waited for. -/
def lookup? : Work → Option Lookup
  | .lookup k _ => some k
  | .route _ _ => none

/-- The route request that is waited for. -/
def request? : Work → Option RouteRequest
  | .lookup _ _ => none
  | .route q _ => some q

/-- Whether the work was aborted. -/
def isAborted : Work → Bool
  | .lookup _ .aborted | .route _ .aborted => true
  | _ => false

/-- Whether the work ended abnormally. -/
def isCrashed : Work → Bool
  | .lookup _ .crashed | .route _ .crashed => true
  | _ => false

/-- Work that crashed has ended. -/
theorem isRunning_of_isCrashed : ∀ {w : Work}, w.isCrashed = true → w.isRunning = false
  | .lookup _ .crashed, _ | .route _ .crashed, _ => rfl

/-- Work that was aborted has ended. -/
theorem isRunning_of_isAborted : ∀ {w : Work}, w.isAborted = true → w.isRunning = false
  | .lookup _ .aborted, _ | .route _ .aborted, _ => rfl

/-- Work stays for the same lookup when it is aborted. -/
@[simp] theorem lookup?_abort (w : Work) : w.abort.lookup? = w.lookup? := by
  cases w <;> rfl

/-- Work stays for the same route request when it is aborted. -/
@[simp] theorem request?_abort (w : Work) : w.abort.request? = w.request? := by
  cases w <;> rfl

/-- Work does not crash by being aborted. -/
@[simp] theorem isCrashed_abort (w : Work) : w.abort.isCrashed = w.isCrashed := by
  rcases w with ⟨k, p⟩ | ⟨q, p⟩ <;> cases p <;> rfl

/-- Work that is not aborted after an abort was not aborted before. -/
theorem isAborted_of_abort (w : Work) (h : w.abort.isAborted = false) : w.isAborted = false := by
  rcases w with ⟨k, p⟩ | ⟨q, p⟩ <;> cases p <;> first | rfl | cases h

/-- Work stays for the same lookup when it ends. -/
@[simp] theorem lookup?_finish (w : Work) (ending : Ending) :
    (w.finish ending).lookup? = w.lookup? := by
  unfold finish
  split <;> rfl

/-- Work stays for the same route request when it ends. -/
@[simp] theorem request?_finish (w : Work) (ending : Ending) :
    (w.finish ending).request? = w.request? := by
  unfold finish
  split <;> rfl

/-- Work that ends was not aborted, and aborted work does not end again. -/
@[simp] theorem isAborted_finish (w : Work) (ending : Ending) :
    (w.finish ending).isAborted = w.isAborted := by
  unfold finish
  split <;> rfl

/-- Work that does not end by a crash has not crashed afterwards, unless it had before. -/
theorem isCrashed_finish (w : Work) {ending : Ending} (h : ending ≠ .crash) :
    (w.finish ending).isCrashed = w.isCrashed := by
  unfold finish
  split
  · rfl
  · rfl
  · exact absurd rfl h
  · exact absurd rfl h
  · rfl

end Work

namespace Loop

variable {σ : Type}

/-- The task of a number has that number and is in the list. -/
theorem mem_of_task? {l : Loop σ} {id : Nat} {t : Task} (h : l.task? id = some t) :
    t ∈ l.tasks ∧ t.id = id := by
  unfold task? at h
  exact ⟨List.mem_of_find?_eq_some h, by simpa using List.find?_some h⟩

/-- The work that a signal starts, if it starts any. -/
def begins (l : Loop σ) : Signal → Option Work
  | .command (.click lat lng) =>
    (l.session.beginClick lat lng).1.toOption.map fun k => .lookup k .running
  | .command (.submit role lat lng) =>
    (l.session.beginSubmit role lat lng).1.toOption.map fun k => .lookup k .running
  | .command .calcRoute => l.session.beginRoute.1.toOption.map fun q => .route q .running
  | _ => none

/-- Only the waiters change when those who wait are looked after. -/
theorem release_eq (l : Loop σ) : ∃ waiters, l.release.2 = { l with waiters } := by
  unfold release
  split
  · exact ⟨[], rfl⟩
  · exact ⟨l.waiters, rfl⟩

variable [Surface σ]

/-- What a signal does, before those who wait are looked after. -/
def act (l : Loop σ) : Signal → List Event × Loop σ
  | .command c => l.handle c
  | .ended id ending => ([], l.finish id ending)
  | .reaped id => l.reap id

/-- A step is what its signal does, but for the waiters. -/
theorem step_eq (l : Loop σ) (s : Signal) :
    (l.step s).1.events = (l.act s).1 ∧ ∃ waiters, (l.step s).2 = { (l.act s).2 with waiters } := by
  cases s with
  | command c => exact ⟨rfl, release_eq _⟩
  | ended id ending => exact ⟨rfl, _, rfl⟩
  | reaped id => exact ⟨rfl, release_eq _⟩

/-- The ways in which a loop deals with a signal: the work that it starts, the events that it leaves
and the loop afterwards, but for the waiters that it answers. -/
inductive Round (l : Loop σ) : Signal → Option Work → List Event → Loop σ → Prop where
  /-- A command is refused. -/
  | refuse {c : Command} (e : Error) (hc : c.mayFail = true) :
    Round l (.command c) none [failed e] l
  /-- A lookup is started. -/
  | startLookup {c : Command} {target : Target} (point : Point)
      (hc : c.target? l.session.active = some target) :
    Round l (.command c)
      (some (.lookup ⟨⟨l.session.selection.issued + 1, target⟩, point⟩ .running)) []
      ({ l with session := l.session.ticketed target }.spawn
        (.lookup ⟨⟨l.session.selection.issued + 1, target⟩, point⟩ .running))
  /-- A route request is started. -/
  | startRoute (source destination : UInt64) :
    Round l (.command .calcRoute)
      (some (.route ⟨l.session.routesIssued + 1, source, destination⟩ .running)) []
      ({ l with session := l.session.requested }.spawn
        (.route ⟨l.session.routesIssued + 1, source, destination⟩ .running))
  /-- A route that is there already is shown. -/
  | show {payload : Payload} {g : Geometry} (hg : Geometry.ofPayload payload = .ok g) :
    Round l (.command (.showRoute payload)) none [shown g]
      { l with session := l.session.unrequested.display g }
  /-- The route is removed. -/
  | clear : Round l (.command .clearRoute) none [.routeCleared]
      { l with session := l.session.clearRoute }
  /-- Everything is removed, and every running task is aborted. -/
  | reset : Round l (.command .reset) none [.reset] { l.abortAll with session := l.session.reset }
  /-- Someone begins to wait. -/
  | settle (waiter : Nat) :
    Round l (.command (.settle waiter)) none [] { l with waiters := l.waiters ++ [waiter] }
  /-- A running task ends. -/
  | finish (id : Nat) (ending : Work.Ending) :
    Round l (.ended id ending) none [] (l.finish id ending)
  /-- There is nothing to put away. -/
  | idle {id : Nat} (h : ∀ t, l.task? id = some t → t.work.isRunning = true) :
    Round l (.reaped id) none [] l
  /-- The answer of a lookup is applied. -/
  | reapLookup {id : Nat} {k : Lookup} {answer : Except Error Node}
      (h : l.task? id = some ⟨id, .lookup k (.finished answer)⟩) :
    Round l (.reaped id) none [lookupEvent (l.session.completeLookup k.ticket answer).1]
      { l.drop id with session := (l.session.completeLookup k.ticket answer).2 }
  /-- The answer of a route request is applied. -/
  | reapRoute {id : Nat} {q : RouteRequest} {answer : Except Error Payload}
      (h : l.task? id = some ⟨id, .route q (.finished answer)⟩) :
    Round l (.reaped id) none [routeEvent (l.session.completeRoute q answer).1]
      { l.drop id with session := (l.session.completeRoute q answer).2 }
  /-- A task that ended abnormally is put away. -/
  | reapCrashed {id : Nat} {w : Work} (h : l.task? id = some ⟨id, w⟩) (hw : w.isCrashed = true) :
    Round l (.reaped id) none [failed (.transport .crashed)] (l.drop id)
  /-- A task that was aborted is put away. -/
  | reapAborted {id : Nat} {w : Work} (h : l.task? id = some ⟨id, w⟩) (hw : w.isAborted = true) :
    Round l (.reaped id) none [] (l.drop id)

/-- A command is dealt with in one of the ways of a command. -/
theorem handle_round (l : Loop σ) (c : Command) :
    Round l (.command c) (l.begins (.command c)) (l.handle c).1 (l.handle c).2 := by
  cases c with
  | click lat lng =>
    rcases l.session.beginClick_cases lat lng with ⟨fault, -, h⟩ | ⟨point, -, h⟩
    · simp only [begins, handle, startLookup, h]
      exact .refuse _ rfl
    · simp only [begins, handle, startLookup, h]
      exact .startLookup point rfl
  | submit role lat lng =>
    rcases l.session.beginSubmit_cases role lat lng with ⟨fault, -, h⟩ | ⟨point, -, h⟩
    · simp only [begins, handle, startLookup, h]
      exact .refuse _ rfl
    · simp only [begins, handle, startLookup, h]
      exact .startLookup point rfl
  | calcRoute =>
    rcases l.session.beginRoute_cases with ⟨role, -, h⟩ | ⟨source, destination, -, -, h⟩
    · simp only [begins, handle, startRoute, h]
      exact .refuse _ rfl
    · simp only [begins, handle, startRoute, h]
      exact .startRoute source destination
  | showRoute payload =>
    rcases l.session.showPayload_cases payload with ⟨fault, -, h⟩ | ⟨g, hg, h⟩
    · simp only [begins, handle, h]
      exact .refuse _ rfl
    · simp only [begins, handle, h]
      exact .show hg
  | clearRoute => exact .clear
  | reset => exact .reset
  | settle waiter => exact .settle waiter

/-- A task is put away in one of the ways of a task that has ended, if it has. -/
theorem reap_round (l : Loop σ) (id : Nat) :
    Round l (.reaped id) none (l.reap id).1 (l.reap id).2 := by
  unfold reap
  cases ht : l.task? id with
  | none => exact .idle (by simp [ht])
  | some t =>
    obtain ⟨i, w⟩ := t
    obtain rfl : i = id := (mem_of_task? ht).2
    rcases w with ⟨k, p⟩ | ⟨q, p⟩
    · cases p with
      | running => exact .idle (by simp [ht, Work.isRunning, Progress.isRunning])
      | finished answer => exact .reapLookup ht
      | crashed => exact .reapCrashed ht rfl
      | aborted => exact .reapAborted ht rfl
    · cases p with
      | running => exact .idle (by simp [ht, Work.isRunning, Progress.isRunning])
      | finished answer => exact .reapRoute ht
      | crashed => exact .reapCrashed ht rfl
      | aborted => exact .reapAborted ht rfl

/-- Every signal is dealt with in one of the ways of a round. -/
theorem act_round (l : Loop σ) (s : Signal) :
    Round l s (l.begins s) (l.act s).1 (l.act s).2 := by
  cases s with
  | command c => exact handle_round l c
  | ended id ending => exact .finish id ending
  | reaped id => exact reap_round l id

end Loop

end Waymark
