import Waymark.Program.Configure
import Waymark.Program.Pick

/-!
# Running the program

`run` carries out what the arguments ask for; `runAndExit` also reports a failure and gives the
code with which the program exits.
-/

namespace Waymark.Program

/-- How a run ended. -/
inductive Ending where
  /-- A command was carried out. -/
  | done
  /-- A command failed. -/
  | failed (error : Error)
  /-- A text was to be shown. -/
  | shown (text : About)
  /-- The arguments were not understood. -/
  | unclear

/-- The text about the program. -/
def About.text : About → String
  | .version => "route-picker 0.1.0\n"
  | .help =>
    "Pick source and destination nodes and render the route between them\n\n" ++
      "Usage: route-picker <COMMAND>\n\n" ++
      "Commands:\n" ++
      "  pick    Resolve points to graph nodes and render markers and route\n" ++
      "  config  Manage configuration\n" ++
      "  help    Print this message\n"

variable {m : Type → Type} [Monad m]

/-- Carries out a command. -/
def Invocation.perform (host : Host m) : Invocation → ExceptT Error m Unit
  | .pick o => Program.pick host o
  | .config o => configure host o

/-- Carries out what the arguments ask for. -/
def run (host : Host m) (arguments : List String) : m Ending :=
  match read arguments with
  | .about text => pure (.shown text)
  | .unclear => pure .unclear
  | .run invocation => do
    match ← (invocation.perform host).run with
    | .ok _ => return .done
    | .error e => return .failed e

/-- Carries out what the arguments ask for, reports how that ended, and gives the exit code. -/
def runAndExit (host : Host m) (arguments : List String) : m Nat := do
  match ← run host arguments with
  | .done => return 0
  | .failed e =>
    host.warn ("Error: " ++ e.message ++ "\n")
    return 1
  | .shown text =>
    host.print text.text
    return 0
  | .unclear =>
    host.warn About.help.text
    return 2

end Waymark.Program
