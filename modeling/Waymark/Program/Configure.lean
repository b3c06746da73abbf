import Waymark.Program.Host
import Waymark.Program.Invocation

/-!
# The command `config`

Shows the path of the file with the settings, puts the settings back to their defaults, or shows
all of them, one of them, or changes one.
-/

namespace Waymark.Program

variable {m : Type → Type} [Monad m]

/-- Shows all settings. -/
def showAll (host : Host m) (settings : Settings) : ExceptT Error m Unit := do
  match settings.text? with
  | .error fault => throw (.settings fault)
  | .ok text => host.print text

/-- Shows the value of a key. -/
def showValue (host : Host m) (settings : Settings) (key : String) : ExceptT Error m Unit := do
  match settings.get? key with
  | none => throw (.settings (.unlistedKey key))
  | some value => host.print (value ++ "\n")

/-- Changes the value of a key. -/
def changeValue (host : Host m) (settings : Settings) (key value : String) :
    ExceptT Error m Unit := do
  match settings.set key value with
  | .error fault => throw (.settings fault)
  | .ok changed =>
    host.save changed
    host.print (key ++ " = " ++ value ++ "\n")

/-- Carries out `config`. -/
def configure (host : Host m) (o : ConfigOptions) : ExceptT Error m Unit := do
  if o.path then
    host.print ((← host.path) ++ "\n")
  else if o.reset then
    host.save Settings.default
    host.print "Configuration reset to defaults\n"
  else
    let settings ← host.load
    match o.key, o.value with
    | none, none => showAll host settings
    | some key, none => showValue host settings key
    | some key, some value => changeValue host settings key value
    | none, some _ => throw (.settings .valueWithoutKey)

end Waymark.Program
