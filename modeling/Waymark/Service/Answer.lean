import Waymark.Json.Mismatch
import Waymark.Json.Reader
import Waymark.Route.Document
import Waymark.Selection

/-!
# Answers of the lookup service

What comes back of a request is either nothing at all or a status with a body. An answer of
success holds JSON; an empty body, and a value that stands for "nothing", mean that nothing was
found. What was found is then read as a node or as a route.
-/

namespace Waymark

open Json

/-- What came back of a request. -/
inductive Reply where
  /-- Nothing came back. -/
  | silence
  /-- A status and a body, which may have ended before it was complete. -/
  | answer (status : Nat) (body : ByteArray) (complete : Bool)

/-- What of a reply reaches the one who asked. Some statuses have no body, and one that only
announces another answer, or is no status, is none. -/
def Reply.received : Reply → Reply
  | .silence => .silence
  | .answer status body complete =>
    if status < 101 ∨ (101 < status ∧ status < 200) ∨ 999 < status then .silence
    else if status = 101 ∨ status = 204 ∨ status = 304 then .answer status .empty true
    else .answer status body complete

/-- The usual phrase for a status. -/
def statusPhrase (status : Nat) : String :=
  match status with
  | 100 => "Continue"
  | 101 => "Switching Protocols"
  | 102 => "Processing"
  | 103 => "Early Hints"
  | 200 => "OK"
  | 201 => "Created"
  | 202 => "Accepted"
  | 203 => "Non Authoritative Information"
  | 204 => "No Content"
  | 205 => "Reset Content"
  | 206 => "Partial Content"
  | 207 => "Multi-Status"
  | 208 => "Already Reported"
  | 226 => "IM Used"
  | 300 => "Multiple Choices"
  | 301 => "Moved Permanently"
  | 302 => "Found"
  | 303 => "See Other"
  | 304 => "Not Modified"
  | 305 => "Use Proxy"
  | 307 => "Temporary Redirect"
  | 308 => "Permanent Redirect"
  | 400 => "Bad Request"
  | 401 => "Unauthorized"
  | 402 => "Payment Required"
  | 403 => "Forbidden"
  | 404 => "Not Found"
  | 405 => "Method Not Allowed"
  | 406 => "Not Acceptable"
  | 407 => "Proxy Authentication Required"
  | 408 => "Request Timeout"
  | 409 => "Conflict"
  | 410 => "Gone"
  | 411 => "Length Required"
  | 412 => "Precondition Failed"
  | 413 => "Payload Too Large"
  | 414 => "URI Too Long"
  | 415 => "Unsupported Media Type"
  | 416 => "Range Not Satisfiable"
  | 417 => "Expectation Failed"
  | 418 => "I'm a teapot"
  | 421 => "Misdirected Request"
  | 422 => "Unprocessable Entity"
  | 423 => "Locked"
  | 424 => "Failed Dependency"
  | 425 => "Too Early"
  | 426 => "Upgrade Required"
  | 428 => "Precondition Required"
  | 429 => "Too Many Requests"
  | 431 => "Request Header Fields Too Large"
  | 451 => "Unavailable For Legal Reasons"
  | 500 => "Internal Server Error"
  | 501 => "Not Implemented"
  | 502 => "Bad Gateway"
  | 503 => "Service Unavailable"
  | 504 => "Gateway Timeout"
  | 505 => "HTTP Version Not Supported"
  | 506 => "Variant Also Negotiates"
  | 507 => "Insufficient Storage"
  | 508 => "Loop Detected"
  | 510 => "Not Extended"
  | 511 => "Network Authentication Required"
  | _ => "<unknown status code>"

/-- Whether a status says that a request was carried out. -/
def isSuccess (status : Nat) : Bool := 200 ≤ status && status < 300

/-- Whether a byte is an ASCII blank. -/
def isBlankByte (b : UInt8) : Bool := b == 9 || b == 10 || b == 12 || b == 13 || b == 32

/-- How many levels of lists and objects the body of an answer may have. -/
def maxDepth : Nat := 127

/-- The JSON value of a body. -/
def bodyJson? (body : ByteArray) : Option Json := do
  let text ← String.fromUTF8? body
  let v ← Json.read? maxDepth text
  if v.inRange then return v else none

/-- What a body says was found, if anything was. -/
def bodyFound (body : ByteArray) : Except TransportFault (Option Json) :=
  if body.toList.all isBlankByte then .ok none
  else match bodyJson? body with
    | none => .error .notJson
    | some v => .ok (if v.isFalsy then none else some v)

/-- What a reply to a request for `url` says was found, if anything was. -/
def Reply.found (url : String) : Reply → Except TransportFault (Option Json)
  | .silence => .error (.unreachable url)
  | .answer status body complete =>
    if !isSuccess status then .error (.status url status (statusPhrase status))
    else if !complete then .error (.cutShort url)
    else bodyFound body

/-- A node as a service sends it. -/
structure Place where
  /-- The latitude. -/
  lat : Float
  /-- The longitude. -/
  lng : Float
  /-- The number of the node. -/
  id : UInt64

namespace Place

/-- Takes a value as a node: an object with the members `lat`, `lng` and `id`, or a list of the
three. The members that are there are examined by the order of their names before one that is
missing is reported. -/
def ofJson : Json → Except Mismatch Place
  | .object members => do
    let id ← (member? "id" members).mapM asNatural
    let lat ← (member? "lat" members).mapM asDouble
    let lng ← (member? "lng" members).mapM asDouble
    match lat, lng, id with
    | some lat, some lng, some id => .ok ⟨lat, lng, id⟩
    | none, _, _ => .error (.missing "lat")
    | _, none, _ => .error (.missing "lng")
    | _, _, none => .error (.missing "id")
  | .array [] => .error (.tooFew 0 .node)
  | .array [lat] => do
    let _ ← asDouble lat
    .error (.tooFew 1 .node)
  | .array [lat, lng] => do
    let _ ← asDouble lat
    let _ ← asDouble lng
    .error (.tooFew 2 .node)
  | .array (lat :: lng :: id :: rest) => do
    let lat ← asDouble lat
    let lng ← asDouble lng
    let id ← asNatural id
    if rest.isEmpty then .ok ⟨lat, lng, id⟩ else .error (.tooMany (rest.length + 3))
  | v => .error (.kind v .node)

/-- The node at a place, if the place is a point of the globe. -/
def node (p : Place) : Except TransportFault Node :=
  match Point.check .geographic p.lat p.lng with
  | .ok point => .ok ⟨point, p.id⟩
  | .error fault => .error (.nodeOutside fault)

end Place

/-- The node that a reply to a request for `url` names; there may be none next to the point. -/
def Reply.node (url : String) (near : Point) (reply : Reply) : Except Error Node :=
  match reply.found url with
  | .error fault => .error (.transport fault)
  | .ok none => .error (.noNeighbour near.lat near.lng)
  | .ok (some v) => match Place.ofJson v with
    | .error mismatch => .error (.transport (.notANode mismatch))
    | .ok place => match place.node with
      | .error fault => .error (.transport fault)
      | .ok node => .ok node

/-- The route that a reply to a request for `url` names; there may be none between the nodes. -/
def Reply.route (url : String) (source destination : UInt64) (reply : Reply) :
    Except Error Payload :=
  match reply.found url with
  | .error fault => .error (.transport fault)
  | .ok none => .error (.noRoute source destination)
  | .ok (some v) => match Payload.ofJson v with
    | .error mismatch => .error (.transport (.notARoute mismatch))
    | .ok payload => .ok payload

end Waymark
