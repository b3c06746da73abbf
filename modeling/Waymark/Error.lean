import Waymark.Geo
import Waymark.Json.Mismatch
import Waymark.Role
import Waymark.Settings.Key

/-!
# Errors

Every operation that can fail does so with an `Error`, which is the cause of the failure. What a
user sees of it is its `message` and its `code`; a failed gesture may be repeated with hope of
success only when the cause is `retryable`.
-/

namespace Waymark

open Decimal

/-- Why a distance and a path are not a route. -/
inductive PathFault where
  /-- The path has fewer than two points. -/
  | tooShort (count : Nat)
  /-- The distance is negative or not finite. -/
  | distance (meters : Float)
  /-- The first pair that is not a point. -/
  | point (index : Nat) (fault : PointFault)
  /-- A fault that a route service reported in its own words. -/
  | reported (text : String)

/-- Why settings are not accepted, read or written. -/
inductive SettingsFault where
  /-- The address of the lookup service is blank. -/
  | blankAddress
  /-- The time for a request is zero. -/
  | noTime
  /-- The center of the first view is not a point. -/
  | center (fault : PointFault)
  /-- A zoom is above the largest one. -/
  | zoom (key : Key) (limit value : Nat)
  /-- The opacity is not between zero and one. -/
  | opacity (value : Float)
  /-- There is no such key. -/
  | unknownKey (text : String)
  /-- There is no such key, and the user asked for its value. -/
  | unlistedKey (text : String)
  /-- A text is not a value of a key. -/
  | badValue (key : Key) (text : String)
  /-- A text is not a role. -/
  | unknownRole (text : String)
  /-- A text is not a rule. -/
  | unknownRule (text : String)
  /-- A file is not a document of settings. -/
  | unreadable
  /-- The time for a request is too large for a document. -/
  | unwritable
  /-- A text is not a format of output. -/
  | unknownFormat (text : String)
  /-- There is no gesture to replay. -/
  | nothingToPick
  /-- There is a value without a key. -/
  | valueWithoutKey
  /-- Nobody knows where settings are kept. -/
  | noFolder
  /-- A fault that was reported in other words. -/
  | reported (text : String)

/-- Why a request was not answered as it should be. -/
inductive TransportFault where
  /-- No answer came in time. -/
  | timedOut (milliseconds : Nat)
  /-- The request could not be sent, or nothing came back. -/
  | unreachable (url : String)
  /-- The body of the answer ended too early. -/
  | cutShort (url : String)
  /-- The answer has a status other than success; the phrase is the usual one for the status. -/
  | status (url : String) (code : Nat) (phrase : String)
  /-- The body is not JSON. -/
  | notJson
  /-- The body is not a node. -/
  | notANode (mismatch : Json.Mismatch)
  /-- The body is a node that is not at a point. -/
  | nodeOutside (fault : PointFault)
  /-- The body is not a route. -/
  | notARoute (mismatch : Json.Mismatch)
  /-- The task that waited for the answer ended abnormally. -/
  | crashed
  /-- A fault that was reported in other words. -/
  | reported (text : String)

/-- Why a file could not be read or written. -/
inductive FileFault where
  /-- There is no such file. -/
  | notFound
  /-- The file is a directory. -/
  | isDirectory
  /-- A part of the path that should be a directory is none. -/
  | notADirectory
  /-- Something else stands where a directory is to be made. -/
  | alreadyExists
  /-- The path, or the name of a file in it, is too long. -/
  | nameTooLong
  /-- There is a NUL in the path. -/
  | nulInName
  /-- The file is not text. -/
  | notText
  /-- A fault that the system reported in its own words. -/
  | reported (text : String)
deriving DecidableEq, Repr

/-- The cause of a failure. -/
inductive Error where
  /-- A pair is not a point. -/
  | invalidPoint (fault : PointFault)
  /-- The lookup service has no node near a point. -/
  | noNeighbour (lat lng : Float)
  /-- A request was not answered as it should be. -/
  | transport (fault : TransportFault)
  /-- A distance and a path are not a route. -/
  | invalidPath (fault : PathFault)
  /-- A route was asked for before both its nodes were selected. -/
  | missingEndpoint (role : Role)
  /-- The route service has no route between two nodes. -/
  | noRoute (source destination : UInt64)
  /-- Settings are not accepted, read or written. -/
  | settings (fault : SettingsFault)
  /-- The session has ended. -/
  | sessionClosed
  /-- Some gestures of a replay failed. -/
  | gesturesFailed (count : Nat)
  /-- A file could not be read or written. -/
  | file (fault : FileFault)
  /-- A text is not the JSON of a route. -/
  | malformedJson

/-- The message of a fault of a path. -/
def PathFault.message : PathFault → String
  | .tooShort count => "A route needs at least 2 points, got " ++ natText count
  | .distance meters => "Invalid route distance: " ++ floatText meters
  | .point index fault =>
    "Point " ++ natText index ++ ": Invalid coordinate: " ++ fault.message
  | .reported text => text

/-- The message of a fault of the settings. -/
def SettingsFault.message : SettingsFault → String
  | .blankAddress => Key.baseUrl.name ++ " must not be empty"
  | .noTime => Key.timeoutMs.name ++ " must be positive"
  | .center fault => "map center: Invalid coordinate: " ++ fault.message
  | .zoom key limit value =>
    key.name ++ " must be at most " ++ natText limit ++ ", got " ++ natText value
  | .opacity value => Key.opacity.name ++ " must be within [0, 1], got " ++ floatText value
  | .unknownKey text => "Unknown config key: " ++ text
  | .unlistedKey text =>
    "Unknown config key: " ++ text ++ "\n\nAvailable keys:\n  " ++
      String.intercalate "\n  " (Key.all.map Key.name)
  | .badValue key text => "Invalid value for " ++ key.name ++ ": " ++ text
  | .unknownRole text => "Unknown role: " ++ text
  | .unknownRule text => "Unknown validation rule: " ++ text
  | .unreadable => "Failed to parse config file: not a document of settings"
  | .unwritable => "Failed to serialize config: a number is too large"
  | .unknownFormat text => "Unknown format: " ++ text ++ ". Available: geojson, text"
  | .nothingToPick => "Nothing to pick: pass --src/--dst or --click"
  | .valueWithoutKey => "Must specify a key to set a value"
  | .noFolder => "Could not determine config directory"
  | .reported text => text

/-- The message of a fault of a request. -/
def TransportFault.message : TransportFault → String
  | .timedOut milliseconds => "Request timed out after " ++ natText milliseconds ++ " ms"
  | .unreachable url => "Request to " ++ url ++ " failed: no answer"
  | .cutShort url => "Failed to read response from " ++ url ++ ": the body ended early"
  | .status url code phrase => url ++ " returned status: " ++ natText code ++ " " ++ phrase
  | .notJson => "Failed to parse response: not JSON"
  | .notANode mismatch => "Unexpected closest-node response: " ++ mismatch.message
  | .nodeOutside fault => "Closest-node response: Invalid coordinate: " ++ fault.message
  | .notARoute mismatch => "Unexpected route response: " ++ mismatch.message
  | .crashed => "Request task failed: it ended abnormally"
  | .reported text => text

/-- The message of a fault of a file. -/
def FileFault.message : FileFault → String
  | .notFound => "No such file or directory (os error 2)"
  | .isDirectory => "Is a directory (os error 21)"
  | .notADirectory => "Not a directory (os error 20)"
  | .alreadyExists => "File exists (os error 17)"
  | .nameTooLong => "File name too long (os error 36)"
  | .nulInName => "file name contained an unexpected NUL byte"
  | .notText => "stream did not contain valid UTF-8"
  | .reported text => text

namespace Error

/-- What a user reads of an error. -/
def message : Error → String
  | .invalidPoint fault => "Invalid coordinate: " ++ fault.message
  | .noNeighbour lat lng =>
    "No neighbouring node near (" ++ floatText lat ++ ", " ++ floatText lng ++ ")"
  | .transport fault => "Transport error: " ++ fault.message
  | .invalidPath fault => "Invalid path: " ++ fault.message
  | .missingEndpoint role => "No " ++ role.name ++ " node selected yet"
  | .noRoute source destination =>
    "No route between nodes " ++ natText source.toNat ++ " and " ++ natText destination.toNat
  | .settings fault => "Configuration error: " ++ fault.message
  | .sessionClosed => "Session closed"
  | .gesturesFailed count => natText count ++ " gesture(s) failed"
  | .file fault => "IO error: " ++ fault.message
  | .malformedJson => "JSON error: not a route"

/-- The code under which an error is shown. -/
def code : Error → String
  | .invalidPoint _ => "INVALID_COORDINATE"
  | .noNeighbour _ _ => "NO_NEIGHBOUR_FOUND"
  | .transport _ => "TRANSPORT_ERROR"
  | .invalidPath _ => "INVALID_PATH"
  | .missingEndpoint _ => "MISSING_ENDPOINT"
  | .noRoute _ _ => "NO_ROUTE_FOUND"
  | .settings _ => "CONFIG_ERROR"
  | .sessionClosed => "SESSION_CLOSED"
  | .gesturesFailed _ => "GESTURES_FAILED"
  | .file _ | .malformedJson => "INTERNAL_ERROR"

/-- Whether the same gesture may succeed when it is repeated. -/
def retryable : Error → Bool
  | .transport _ => true
  | _ => false

end Error

end Waymark
