import Waymark.Resolver
import Waymark.Service.Answer
import Waymark.Settings.Basic
import Waymark.Url.Basic

/-!
# The lookup service

The lookup service is asked over the web. It has an address with one path for nodes and one for
routes; what is asked for stands in the query. `Service.resolver` turns a way of exchanging a
request for a reply into a resolver.
-/

namespace Waymark

open Decimal

/-- Where the lookup service is asked. -/
structure Service where
  /-- The address, without slashes at its end. -/
  base : String
  /-- The path for nodes, without slashes at its ends. -/
  closestPath : String
  /-- The path for routes, without slashes at its ends. -/
  routePath : String

namespace Service

/-- Whether a character is a slash. -/
def isSlash (c : Char) : Bool := c == '/'

/-- A text without slashes at its end. -/
def trimEnd (s : String) : String :=
  String.ofList (s.toList.reverse.dropWhile isSlash).reverse

/-- A text without slashes at its ends. -/
def trimBoth (s : String) : String := String.ofList (Text.strip isSlash s.toList)

/-- The service that the settings name. -/
def ofSettings (s : Settings) : Service :=
  ⟨trimEnd s.baseUrl, trimBoth s.closestPath, trimBoth s.routePath⟩

/-- How the service is told who asks. -/
def agent : String := "route-picker/0.1.0"

/-- The address for a path, as it is shown in messages. -/
def endpoint (svc : Service) (path : String) : String := svc.base ++ "/" ++ path

/-- The query for the node next to a point. -/
def pointQuery (p : Point) : List (String × String) :=
  [("lat", floatText p.lat), ("lng", floatText p.lng)]

/-- The query for the route between two nodes. -/
def nodesQuery (source destination : UInt64) : List (String × String) :=
  [("src", natText source.toNat), ("dst", natText destination.toNat)]

variable {m : Type → Type} [Monad m]

/-- Asks for an address with a query. Nothing comes back when it is no address of the web, or one
that is too long to be sent. -/
def ask (exchange : Url → m Reply) (address : String) (query : List (String × String)) :
    m Reply :=
  match (Url.parse? address).map (·.addQuery query) with
  | some url => if url.text.utf8ByteSize ≤ Url.maxBytes then exchange url else pure .silence
  | none => pure .silence

/-- Asks for the node next to a point. -/
def closest (svc : Service) (exchange : Url → m Reply) (p : Point) : m (Except Error Node) := do
  let address := svc.endpoint svc.closestPath
  let reply ← ask exchange address (pointQuery p)
  return reply.node address p

/-- Asks for the route between two nodes. -/
def route (svc : Service) (exchange : Url → m Reply) (source destination : UInt64) :
    m (Except Error Payload) := do
  let address := svc.endpoint svc.routePath
  let reply ← ask exchange address (nodesQuery source destination)
  return reply.route address source destination

/-- The resolver that asks the service. -/
def resolver (svc : Service) (exchange : Url → m Reply) : Resolver m where
  closest p := do return { answer := ← svc.closest exchange p }
  route source destination := do return { answer := ← svc.route exchange source destination }

end Service

end Waymark
