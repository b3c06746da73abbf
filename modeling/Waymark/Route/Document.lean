import Waymark.Json.Printer
import Waymark.Json.Reader
import Waymark.Route.Geometry

/-!
# Routes as JSON

A payload is an object with the members `distance` and `path`, or a list of the two. It is read in
two ways. `Payload.ofJson` takes it from a value, where of a repeated member the last one counts.
`Payload.read?` reads it from a text at once, where a repeated member is refused and members of
other names are skipped.
-/

namespace Waymark

open Json

namespace Payload

/-- The JSON of a payload. -/
def json (p : Payload) : Json :=
  .object [("distance", .ofFloat p.distance),
    ("path", .array (p.path.map fun (lat, lng) => .array [.ofFloat lat, .ofFloat lng]))]

/-- Takes a value as a pair of numbers. -/
def pairOfJson : Json → Except Mismatch (Float × Float)
  | .array [] => .error (.tooFew 0 .pair)
  | .array [lat] => do
    let _ ← asDouble lat
    .error (.tooFew 1 .pair)
  | .array (lat :: lng :: rest) => do
    let lat ← asDouble lat
    let lng ← asDouble lng
    if rest.isEmpty then .ok (lat, lng) else .error (.tooMany (rest.length + 2))
  | v => .error (.kind v .pair)

/-- Takes a value as a list of pairs of numbers. -/
def pathOfJson : Json → Except Mismatch (List (Float × Float))
  | .array items => items.mapM pairOfJson
  | v => .error (.kind v .list)

/-- Takes a value as a payload. The members that are there are examined before one that is missing
is reported. -/
def ofJson : Json → Except Mismatch Payload
  | .object members => do
    let distance ← (member? "distance" members).mapM asDouble
    let path ← (member? "path" members).mapM pathOfJson
    match distance, path with
    | some distance, some path => .ok ⟨distance, path⟩
    | none, _ => .error (.missing "distance")
    | _, none => .error (.missing "path")
  | .array [] => .error (.tooFew 0 .route)
  | .array [distance] => do
    let _ ← asDouble distance
    .error (.tooFew 1 .route)
  | .array (distance :: path :: rest) => do
    let distance ← asDouble distance
    let path ← pathOfJson path
    if rest.isEmpty then .ok ⟨distance, path⟩ else .error (.tooMany (rest.length + 2))
  | v => .error (.kind v .route)

/-- A part of the text of a payload. -/
inductive Part where
  /-- The distance. -/
  | distance (meters : Float)
  /-- The path. -/
  | path (pairs : List (Float × Float))
  /-- A member that is skipped. -/
  | other

/-- Reads a number. -/
def readNumber (cs : List Char) : Option (Float × List Char) := do
  let (n, rest) ← numeral (skipSpace cs)
  let x ← real? n
  return (x, rest)

/-- Reads a list of two numbers. -/
def readPair (cs : List Char) : Option ((Float × Float) × List Char) :=
  match skipSpace cs with
  | '[' :: rest => match enclosed readNumber ']' rest with
    | some ([lat, lng], rest) => some ((lat, lng), rest)
    | _ => none
  | _ => none

/-- Reads a list of lists of two numbers. -/
def readPath (cs : List Char) : Option (List (Float × Float) × List Char) :=
  match skipSpace cs with
  | '[' :: rest => enclosed readPair ']' rest
  | _ => none

/-- Reads a member of a payload. A member of another name may hold any value. -/
def readPart (cs : List Char) : Option (Part × List Char) := do
  let (key, rest) ← name .refused cs
  if key = "distance" then (readNumber rest).map fun (x, rest) => (.distance x, rest)
  else if key = "path" then (readPath rest).map fun (ps, rest) => (.path ps, rest)
  else (value .replaced rest.length rest).map fun (_, rest) => (.other, rest)

/-- The distances among some parts. -/
def distances (parts : List Part) : List Float :=
  parts.filterMap fun
    | .distance x => some x
    | _ => none

/-- The paths among some parts. -/
def paths (parts : List Part) : List (List (Float × Float)) :=
  parts.filterMap fun
    | .path ps => some ps
    | _ => none

/-- Reads the parts of a payload in the form of a list. -/
def readList (cs : List Char) : Option (Payload × List Char) := do
  let (distance, rest) ← readNumber cs
  match skipSpace rest with
  | ',' :: rest =>
    let (path, rest) ← readPath rest
    match skipSpace rest with
    | ']' :: rest => return (⟨distance, path⟩, rest)
    | _ => none
  | _ => none

/-- Reads a payload at the head of a text. -/
def readHead (cs : List Char) : Option (Payload × List Char) :=
  match skipSpace cs with
  | '\x7b' :: rest => do
    let (parts, rest) ← enclosed readPart '\x7d' rest
    match distances parts, paths parts with
    | [distance], [path] => return (⟨distance, path⟩, rest)
    | _, _ => none
  | '[' :: rest => readList rest
  | _ => none

/-- Reads a whole text as a payload. -/
def read? (text : String) : Option Payload :=
  match readHead text.toList with
  | some (p, rest) => if skipSpace rest = [] then some p else none
  | none => none

end Payload

namespace Geometry

/-- The JSON of a route that may be drawn. -/
def json (g : Geometry) : Json :=
  .object [("distance_meters", .ofFloat g.meters),
    ("path", .array (g.path.map fun p =>
      .object [("lat", .ofFloat p.lat), ("lng", .ofFloat p.lng)]))]

end Geometry

end Waymark
