import Waymark.Program.Host
import Waymark.Program.Invocation
import Waymark.Session.Replay
import Waymark.Surface.GeoJson
import Waymark.Text.Column

/-!
# The command `pick`

Replays gestures on a session that asks the lookup service, form entries before clicks, and then
shows the markers and the route. Every gesture that failed is reported.
-/

namespace Waymark.Program

open Decimal

/-- A format of output. -/
inductive Format where
  /-- The surface as GeoJSON. -/
  | geoJson
  /-- A summary in three lines. -/
  | text
deriving DecidableEq, Repr

/-- Reads the name of a format, in letters of any case. -/
def Format.read (text : String) : Except SettingsFault Format :=
  let word := Text.lower text
  if word = "geojson" ∨ word = "json" then .ok .geoJson
  else if word = "text" then .ok .text
  else .error (.unknownFormat text)

/-- The point of a form entry as two texts. -/
def formTexts (text : String) : Except PointFault (String × String) :=
  match Text.cutAt? ',' text with
  | some pair => .ok pair
  | none => .error (.notAPair text)

/-- One number of a click; not a number, if the text is not one. -/
def clickNumber (text : String) : Float := (readFloat? (Text.trim text)).getD (0.0 / 0.0)

/-- The point of a click as two numbers. A click is always made; the session refuses it when they
are not numbers. -/
def clickNumbers (text : String) : Float × Float :=
  match Text.cutAt? ',' text with
  | some (lat, lng) => (clickNumber lat, clickNumber lng)
  | none => (0.0 / 0.0, 0.0 / 0.0)

/-- The form entry of a role, if there is one. -/
def formEntry (role : Role) : Option String → Except PointFault (List Command)
  | none => .ok []
  | some text => do
    let (lat, lng) ← formTexts text
    return [.submit role lat lng]

/-- A click. -/
def clickOf (text : String) : Command :=
  let (lat, lng) := clickNumbers text
  .click lat lng

/-- The gestures of some arguments, in the order in which they are replayed. -/
def gestures (o : PickOptions) : Except PointFault (List Command) := do
  let source ← formEntry .source o.source
  let destination ← formEntry .destination o.destination
  return source ++ destination ++ o.clicks.map clickOf

/-- The settings with those that arguments give. -/
def overridden (settings : Settings) (o : PickOptions) : Settings :=
  { settings with
    baseUrl := o.baseUrl.getD settings.baseUrl
    timeoutMs := o.timeoutMs.getD settings.timeoutMs }

/-- The notices among some events. -/
def noticesOf (events : List Event) : List Notice :=
  events.filterMap fun
    | .notice n => some n
    | _ => none

/-- A notice as a line. -/
def noticeLine (n : Notice) : String := "Notice [" ++ n.code ++ "]: " ++ n.message ++ "\n"

/-- A name at the head of a line of a summary. -/
def heading (name : String) : String := Text.column .left 12 none name ++ " "

/-- The line of a role in a summary. -/
def markerLine (role : Role) : Option Marker → String
  | some marker =>
    let number := match marker.node with
      | some id => natText id.toNat
      | none => "-"
    heading role.name ++ marker.point.text ++ " (node " ++ number ++ ")\n"
  | none => heading role.name ++ "not set\n"

/-- The line of the route in a summary. -/
def routeLine : Option Geometry → String
  | some g =>
    heading "route" ++ floatText g.meters ++ " m over " ++ natText g.path.length ++ " points\n"
  | none => heading "route" ++ "none\n"

/-- The summary of a session. -/
def summary {σ : Type} (s : Session σ) : String :=
  markerLine .source (s.marker .source) ++ markerLine .destination (s.marker .destination) ++
    routeLine s.route

/-- What is shown of a session. -/
def Format.output (format : Format) (s : Session Layers) : String :=
  match format with
  | .geoJson => s.surface.featureCollection.pretty ++ "\n"
  | .text => summary s

variable {m : Type → Type} [Monad m]

/-- The settings for some arguments. -/
def pickSettings (host : Host m) (o : PickOptions) : ExceptT Error m Settings := do
  let stored ← match o.config with
    | some path => host.loadFrom path
    | none => host.load
  let settings := overridden stored o
  match settings.check with
  | .error fault => throw (.settings fault)
  | .ok _ => return settings

/-- Writes some notices. -/
def writeNotices (host : Host m) : List Notice → m Unit
  | [] => pure ()
  | n :: rest => do
    host.warn (noticeLine n)
    writeNotices host rest

/-- Fails if there was a notice. -/
def outcome (notices : Nat) : Except Error Unit :=
  if notices = 0 then .ok () else .error (.gesturesFailed notices)

/-- Carries out `pick`. -/
def pick (host : Host m) (o : PickOptions) : ExceptT Error m Unit := do
  let format ← match Format.read (o.format.getD "geojson") with
    | .ok format => pure format
    | .error fault => throw (.settings fault)
  let settings ← pickSettings host o
  let commands ← match gestures o with
    | .ok commands => pure commands
    | .error fault => throw (.invalidPoint fault)
  if commands.isEmpty then throw (.settings .nothingToPick)
  let resolver := (Service.ofSettings settings).resolver host.exchange
  let loop := Loop.start (Session.start Layers.empty settings)
  let all := commands ++ if o.route then [.calcRoute] else []
  let (events, loop) ← ExceptT.lift (loop.replay resolver all)
  let notices := noticesOf events
  ExceptT.lift (writeNotices host notices)
  host.print (format.output loop.session)
  MonadExcept.ofExcept (outcome notices.length)

end Waymark.Program
