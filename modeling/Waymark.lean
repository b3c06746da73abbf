import Waymark.Decimal.Numeral
import Waymark.Text.Blank
import Waymark.Text.Column
import Waymark.Text.Quoted
import Waymark.Json.Printer
import Waymark.Json.Reader
import Waymark.Json.Mismatch
import Waymark.Error
import Waymark.Markers
import Waymark.Route.Document
import Waymark.Route.Overlay
import Waymark.Surface.GeoJson
import Waymark.Surface.Recorded
import Waymark.Surface.Ordered
import Waymark.Toml.Document
import Waymark.Toml.Reader
import Waymark.Settings.Document
import Waymark.Session.Direct
import Waymark.Session.Actor
import Waymark.Service.Basic
import Waymark.Session.Replay
import Waymark.Program.Run
import Waymark.Program.World
import Waymark.Main
import Waymark.Proofs.Loop.Round
import Waymark.Proofs.Loop.Trace
import Waymark.Proofs.Loop.Pending
import Waymark.Proofs.Loop.Ledger
import Waymark.Proofs.Loop.Page
import Waymark.Proofs.Session.History
import Waymark.Proofs.Session.Delivery
import Waymark.Proofs.Session.Latest
import Waymark.Proofs.Session.Requests
import Waymark.Proofs.Surface.Lines
import Waymark.Proofs.Session.Cleared
import Waymark.Proofs.Loop.Sequence
import Waymark.Proofs.Loop.Conversation
import Waymark.Proofs.Loop.Replay
import Waymark.Proofs.Program.Pick
import Waymark.Proofs.Loop.Reset
import Waymark.Proofs.Session.Mirror
import Waymark.Proofs.Surface.Calls
import Waymark.Proofs.Surface.Shared
import Waymark.Proofs.Session.Shared
import Waymark.Proofs.Session.Failure
import Waymark.Proofs.Surface.Renumber
import Waymark.Proofs.Session.Alternation
import Waymark.Proofs.Session.Routeless
import Waymark.Proofs.Session.Renewal
import Waymark.Proofs.Loop.Waiters
import Waymark.Proofs.Loop.Calls
import Waymark.Proofs.Decimal.Digits
import Waymark.Proofs.Decimal.Nearest
import Waymark.Proofs.Decimal.Printed
import Waymark.Proofs.Decimal.Doubles
import Waymark.Proofs.Toml.Numbers
import Waymark.Proofs.Toml.Texts
import Waymark.Proofs.Toml.Documents
import Waymark.Proofs.Points
import Waymark.Proofs.Settings.Good
import Waymark.Proofs.Settings.Stored
import Waymark.Proofs.Program.Files
import Waymark.Proofs.Program.Saving
import Waymark.Proofs.Settings.Changed
import Waymark.Proofs.Program.Configured
import Waymark.Proofs.Service.Answers
import Waymark.Proofs.Session.OnGlobe
import Waymark.Proofs.Session.Served
import Waymark.Proofs.Decimal.Finite
import Waymark.Proofs.Routes
import Waymark.Proofs.Session.Display
import Waymark.Proofs.Json.Decoded
import Waymark.Proofs.Service.Bodies
import Waymark.Proofs.Service.Nodes
import Waymark.Proofs.Service.Routes
import Waymark.Proofs.Session.RoundTrip
import Waymark.Proofs.Decimal.Signs
import Waymark.Proofs.Program.Commanded
import Waymark.Proofs.Decimal.Typed
import Waymark.Proofs.Settings.Keys
import Waymark.Proofs.Program.Entered
import Waymark.Proofs.Program.Guarded
import Waymark.Proofs.Surface.Standing
import Waymark.Proofs.Surface.Ordered
import Waymark.Proofs.Decimal.Documented
import Waymark.Proofs.Json.Scalars
import Waymark.Proofs.Json.Written
import Waymark.Proofs.Surface.Exported
import Waymark.Proofs.Selections
