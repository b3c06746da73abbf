import Waymark.Resolver
import Waymark.Session.Basic

/-!
# Gestures one after the other

The three gestures that need an answer, each as one step that waits for it: the request is made,
the resolver is asked, and the answer is applied before anything else happens.
-/

namespace Waymark.Session

variable {σ : Type} [Surface σ] {m : Type → Type} [Monad m]

/-- Asks for the node of a lookup, for as long as a request may take, and applies the answer. -/
def finishLookup (r : Resolver m) (begun : Except Error Lookup × Session σ) :
    m (Except Error (Outcome Marker) × Session σ) :=
  match begun with
  | (.error e, s) => pure (.error e, s)
  | (.ok lookup, s) => do
    let reply ← r.closest lookup.point
    return s.completeLookup lookup.ticket (reply.within s.timeoutMs)

/-- Gives the node next to a point that was clicked to the active role. -/
def pick (r : Resolver m) (s : Session σ) (lat lng : Float) :
    m (Except Error (Outcome Marker) × Session σ) :=
  finishLookup r (s.beginClick lat lng)

/-- Gives the node next to a point of a form to the role of the form. -/
def submit (r : Resolver m) (s : Session σ) (role : Role) (lat lng : String) :
    m (Except Error (Outcome Marker) × Session σ) :=
  finishLookup r (s.beginSubmit role lat lng)

/-- Asks for the route between the two nodes and shows it. -/
def calcRoute (r : Resolver m) (s : Session σ) :
    m (Except Error (Outcome Geometry) × Session σ) :=
  match s.beginRoute with
  | (.error e, s) => pure (.error e, s)
  | (.ok request, s) => do
    let reply ← r.route request.source request.destination
    return s.completeRoute request (reply.within s.timeoutMs)

end Waymark.Session
