import Waymark.Resolver
import Waymark.Session.Loop

/-!
# Replays

A replay gives the loop of a session one command after the other and waits after each until no
task is left, so that no answer is ever stale.
-/

namespace Waymark.Loop

variable {σ : Type} {m : Type → Type} [Monad m]

/-- Asks a resolver for what a task waits for, for as long as a request may take. -/
def ask (r : Resolver m) (limit : Nat) : Work → m Work.Ending
  | .lookup l _ => do return .node ((← r.closest l.point).within limit)
  | .route q _ => do return .route ((← r.route q.source q.destination).within limit)

/-- Has a resolver answer some tasks, one after the other. -/
def answerAll (r : Resolver m) (l : Loop σ) : List Task → m (Loop σ)
  | [] => pure l
  | t :: rest => do
    let ending ← ask r l.session.timeoutMs t.work
    answerAll r (l.finish t.id ending) rest

/-- Has a resolver answer every task that is running. -/
def serve (r : Resolver m) (l : Loop σ) : m (Loop σ) :=
  answerAll r l (l.tasks.filter fun t => t.work.isRunning)

variable [Surface σ]

/-- Gives the loop a command and waits until no task is left. -/
def perform (r : Resolver m) (l : Loop σ) (command : Command) : m (List Event × Loop σ) := do
  let (first, l) := l.run [.command command, .command (.settle 0)]
  let l ← l.serve r
  let (others, l) := l.settleDown
  return ((first.append others).events, l)

/-- Gives the loop some commands, one after the other. -/
def replay (r : Resolver m) (l : Loop σ) : List Command → m (List Event × Loop σ)
  | [] => pure ([], l)
  | command :: rest => do
    let (first, l) ← l.perform r command
    let (others, l) ← l.replay r rest
    return (first ++ others, l)

end Waymark.Loop
