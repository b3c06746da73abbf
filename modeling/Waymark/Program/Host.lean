import Waymark.Service.Basic
import Waymark.Settings.Document

/-!
# Hosts

What the program needs of the system that it runs on: files, the web, and two streams for its
output. The program is written against a `Host`, so that it may run on the real one or on one that
is a value.
-/

namespace Waymark.Program

/-- A system to run on, with effects in `m`. -/
structure Host (m : Type → Type) where
  /-- Where the settings are kept, if that is known. -/
  settingsPath : Option String
  /-- Whether there is anything at a path. -/
  isThere : String → m Bool
  /-- The bytes of a file. -/
  readFile : String → m (Except FileFault ByteArray)
  /-- Makes the directory that a file lies in, and those above it. -/
  makeFolder : String → m (Except FileFault Unit)
  /-- Writes a file into a directory. -/
  writeFile : String → String → m (Except FileFault Unit)
  /-- Sends a request in somebody's name and waits for what comes back. -/
  send : String → Url → m Reply
  /-- Writes to the output. -/
  print : String → m Unit
  /-- Writes to the stream of messages. -/
  warn : String → m Unit

namespace Host

variable {m : Type → Type}

/-- Sends a request in the name of the program and waits for what comes back. -/
def exchange (host : Host m) (url : Url) : m Reply := host.send Service.agent url

variable [Monad m]

/-- Where the settings are kept. -/
def path (host : Host m) : ExceptT Error m String :=
  match host.settingsPath with
  | some path => pure path
  | none => throw (.settings .noFolder)

/-- The settings that reading a file gave. -/
def settingsOf : Except FileFault ByteArray → Except Error Settings
  | .error fault => .error (.file fault)
  | .ok bytes => Settings.ofBytes bytes

/-- The settings in a file. -/
def loadFrom (host : Host m) (path : String) : ExceptT Error m Settings := do
  match settingsOf (← host.readFile path) with
  | .ok settings => return settings
  | .error e => throw e

/-- Writes settings to a file. The directory that the file lies in is made before it is known
whether the settings can be written. -/
def saveTo (host : Host m) (path : String) (settings : Settings) : ExceptT Error m Unit := do
  match ← host.makeFolder path with
  | .error fault => throw (.file fault)
  | .ok _ => match settings.text? with
    | .error fault => throw (.settings fault)
    | .ok text => match ← host.writeFile path text with
      | .error fault => throw (.file fault)
      | .ok _ => return

/-- Writes settings to where they are kept. -/
def save (host : Host m) (settings : Settings) : ExceptT Error m Unit := do
  host.saveTo (← host.path) settings

/-- The settings from where they are kept. If there is nothing, a file is made of the default
settings. -/
def load (host : Host m) : ExceptT Error m Settings := do
  let path ← host.path
  if ← host.isThere path then
    host.loadFrom path
  else
    host.saveTo path Settings.default
    return Settings.default

end Host

end Waymark.Program
