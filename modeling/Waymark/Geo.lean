import Waymark.Decimal.Numeral
import Waymark.Text.Blank

/-!
# Points and their rules

A point is a pair of a latitude and a longitude. `Point.check` decides whether a pair of numbers
is a point under a rule, `Point.read` does so for a pair of texts, and a `PointFault` says what
was wrong: the first check that failed, in the order finite, latitude, longitude, sign.
-/

namespace Waymark

open Decimal

/-- A pair of a latitude and a longitude, in degrees. -/
structure Point where
  /-- The latitude. -/
  lat : Float
  /-- The longitude. -/
  lng : Float

/-- A point in labels and messages. -/
def Point.text (p : Point) : String := floatText p.lat ++ ", " ++ floatText p.lng

/-- Which pairs of numbers are points. -/
inductive Rule where
  /-- Latitudes from -90 to 90 and longitudes from -180 to 180. -/
  | geographic
  /-- The same bounds, and neither number below zero. -/
  | nonNegative
deriving DecidableEq, Repr

namespace Rule

/-- The name of a rule. -/
def name : Rule → String
  | .geographic => "geographic"
  | .nonNegative => "non_negative"

/-- Reads a rule by its name or another form of it, in letters of any case. -/
def parse? (text : String) : Option Rule :=
  let word := Text.lower text
  if word = "geographic" ∨ word = "geo" then some .geographic
  else if word = "non_negative" ∨ word = "non-negative" ∨ word = "nonnegative" then
    some .nonNegative
  else none

/-- The rule with exactly the given name. -/
def ofName? (text : String) : Option Rule :=
  if text = "geographic" then some .geographic
  else if text = "non_negative" then some .nonNegative
  else none

end Rule

/-- One of the two numbers of a point. -/
inductive Axis where
  /-- The first number. -/
  | latitude
  /-- The second number. -/
  | longitude
deriving DecidableEq, Repr

/-- The name of an axis. -/
def Axis.name : Axis → String
  | .latitude => "latitude"
  | .longitude => "longitude"

/-- Why something is not a point. -/
inductive PointFault where
  /-- One of the numbers is infinite or not a number. -/
  | notFinite (lat lng : Float)
  /-- The latitude is out of bounds. -/
  | latitude (lat : Float)
  /-- The longitude is out of bounds. -/
  | longitude (lng : Float)
  /-- One of the numbers is below zero where that is not allowed. -/
  | negative (lat lng : Float)
  /-- The text of a number is blank. -/
  | missing (axis : Axis)
  /-- The text of a number is not one. -/
  | malformed (axis : Axis) (text : String)
  /-- The text of a pair has no comma. -/
  | notAPair (text : String)
  /-- A fault that a lookup service reported in its own words. -/
  | reported (text : String)

/-- The message of a fault. -/
def PointFault.message : PointFault → String
  | .notFinite lat lng =>
    "(" ++ floatText lat ++ ", " ++ floatText lng ++ ") is not a finite coordinate"
  | .latitude lat => "Latitude " ++ floatText lat ++ " is out of range [-90, 90]"
  | .longitude lng => "Longitude " ++ floatText lng ++ " is out of range [-180, 180]"
  | .negative lat lng =>
    "(" ++ floatText lat ++ ", " ++ floatText lng ++ ") has a negative component"
  | .missing axis => "Missing " ++ axis.name
  | .malformed axis text => "Invalid " ++ axis.name ++ ": " ++ text
  | .notAPair text => "Expected \"lat,lng\", got \"" ++ text ++ "\""
  | .reported text => text

namespace Point

/-- The pair of two numbers, if it is a point under `rule`. Zero of either sign is allowed by
every rule. -/
def check (rule : Rule) (lat lng : Float) : Except PointFault Point :=
  if !lat.isFinite || !lng.isFinite then .error (.notFinite lat lng)
  else if !(-90.0 ≤ lat && lat ≤ 90.0) then .error (.latitude lat)
  else if !(-180.0 ≤ lng && lng ≤ 180.0) then .error (.longitude lng)
  else if rule == .nonNegative && (lat < 0.0 || lng < 0.0) then .error (.negative lat lng)
  else .ok ⟨lat, lng⟩

/-- Reads the text of one number, without the blanks around it. -/
def readAxis (axis : Axis) (text : String) : Except PointFault Float :=
  let trimmed := Text.trim text
  if trimmed.isEmpty then .error (.missing axis)
  else match readFloat? trimmed with
    | some x => .ok x
    | none => .error (.malformed axis trimmed)

/-- Reads a point from the texts of its two numbers. -/
def read (rule : Rule) (lat lng : String) : Except PointFault Point := do
  let lat ← readAxis .latitude lat
  let lng ← readAxis .longitude lng
  check rule lat lng

end Point

end Waymark
