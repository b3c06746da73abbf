import Waymark.Route.Geometry
import Waymark.Selection

/-!
# Resolvers

A resolver finds the node next to a point and the route between two nodes. Its answers may take
time, and a `Delayed` answer says how much of it; `Delayed.within` gives up on an answer that
takes longer than a limit.
-/

namespace Waymark

/-- An answer that may take time. -/
structure Delayed (α : Type) where
  /-- After how many milliseconds the answer is there; never, if there is no number. -/
  wait : Option Nat := some 0
  /-- The answer. -/
  answer : Except Error α

/-- What is known of an answer after `limit` milliseconds. An answer that comes just then is in
time. -/
def Delayed.within {α : Type} (limit : Nat) (d : Delayed α) : Except Error α :=
  match d.wait with
  | some wait => if wait ≤ limit then d.answer else .error (.transport (.timedOut limit))
  | none => .error (.transport (.timedOut limit))

/-- Finds nodes and routes, with effects in `m`. -/
structure Resolver (m : Type → Type) where
  /-- Finds the node next to a point. -/
  closest : Point → m (Delayed Node)
  /-- Finds the route between two nodes. -/
  route : UInt64 → UInt64 → m (Delayed Payload)

end Waymark
