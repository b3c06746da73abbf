import Waymark.Geo
import Waymark.Role

/-!
# Selection

The selection decides which role a node is given. A click goes to the active role and makes the
other one active, a form entry names its role and leaves the active one alone. Since lookups are
answered late and in any order, a gesture is given a ticket, and only the last ticket issued
counts: an answer is applied with a ticket that is current, once.
-/

namespace Waymark

/-- A node of the routing graph. -/
structure Node where
  /-- Where the node lies. -/
  point : Point
  /-- Its number. -/
  id : UInt64

/-- A node that was given a role. -/
structure Assignment where
  /-- The role. -/
  role : Role
  /-- Where the node lies. -/
  point : Point
  /-- The number of the node, if it is known. -/
  node : Option UInt64

/-- How the node of a lookup will be assigned. -/
inductive Target where
  /-- As a click: to the role that was active at the click. -/
  | toggle (role : Role)
  /-- As a form entry: to the role of the form. -/
  | manual (role : Role)
deriving DecidableEq, Repr

/-- The role of a target. -/
def Target.role : Target → Role
  | .toggle role | .manual role => role

/-- The tag of a lookup on its way. -/
structure Ticket where
  /-- Its place among all tickets issued, from one on. -/
  seq : Nat
  /-- How its node will be assigned. -/
  target : Target
deriving DecidableEq, Repr

/-- The state of the selection. -/
structure Selection where
  /-- The role of the next click. -/
  active : Role
  /-- The role of the first click. -/
  first : Role
  /-- How many tickets were issued. -/
  issued : Nat
  /-- The ticket that counts, if any does. -/
  current : Option Nat
deriving DecidableEq, Repr

namespace Selection

/-- The selection whose first click goes to `first`. -/
def start (first : Role) : Selection := ⟨first, first, 0, none⟩

/-- Gives a node a role, without a change of the selection. -/
def assignment (role : Role) (node : Node) : Assignment := ⟨role, node.point, some node.id⟩

/-- Gives a node to `role` and makes the other role active. -/
def toggleFrom (s : Selection) (role : Role) (node : Node) : Assignment × Selection :=
  (assignment role node, { s with active := role.other })

/-- Gives a node to the active role, as a click does. -/
def resolve (s : Selection) (node : Node) : Assignment × Selection := s.toggleFrom s.active node

/-- Gives a node to a role of choice. -/
def assign (s : Selection) (role : Role) (node : Node) : Assignment × Selection :=
  (assignment role node, s)

/-- Issues the next ticket; it is the current one from now on. -/
def issue (s : Selection) (target : Target) : Ticket × Selection :=
  let seq := s.issued + 1
  (⟨seq, target⟩, { s with issued := seq, current := some seq })

/-- Issues a ticket for a click. -/
def issueToggle (s : Selection) : Ticket × Selection := s.issue (.toggle s.active)

/-- Issues a ticket for a form entry. -/
def issueManual (s : Selection) (role : Role) : Ticket × Selection := s.issue (.manual role)

/-- Whether a ticket is the current one. -/
def isCurrent (s : Selection) (ticket : Ticket) : Bool := s.current == some ticket.seq

/-- Gives a node the role of a ticket, if the ticket is current; it no longer is then. -/
def apply (s : Selection) (ticket : Ticket) (node : Node) : Option Assignment × Selection :=
  if s.isCurrent ticket then
    let s := { s with current := none }
    let (assignment, s) := match ticket.target with
      | .toggle role => s.toggleFrom role node
      | .manual role => s.assign role node
    (some assignment, s)
  else (none, s)

/-- Makes no ticket the current one. -/
def invalidate (s : Selection) : Selection := { s with current := none }

/-- Makes the first role active again, and no ticket the current one. -/
def reset (s : Selection) : Selection := { s with active := s.first }.invalidate

end Selection

end Waymark
