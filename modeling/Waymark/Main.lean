import Waymark.Program.Run

/-!
# The program

Runs the commands on the system at hand. This host has files and streams but no way to the web, so
every request to a lookup service is met with silence.
-/

namespace Waymark.Program

/-- The cause of a failure that the system reports. Its number comes with either sign. -/
def faultOf : IO.Error → FileFault
  | .noFileOrDirectory _ _ _ => .notFound
  | .inappropriateType _ code _ => if code = 21 then .isDirectory else .notADirectory
  | .alreadyExists _ _ _ => .alreadyExists
  | .invalidArgument _ code details =>
    if code = 36 ∨ code + 36 = 0 then .nameTooLong else .reported details
  | e => .reported (toString e)

/-- The directory that a path lies in. -/
def folderOf (path : String) : String :=
  String.ofList ((path.toList.reverse.dropWhile (· != '/')).drop 1).reverse

/-- Reads a file of the system. -/
def readBytes (path : String) : IO (Except FileFault ByteArray) := do
  if path.contains '\x00' then return .error .nulInName
  match ← (IO.FS.readBinFile path).toBaseIO with
  | .ok bytes => return .ok bytes
  | .error e => return .error (faultOf e)

/-- Whether the system has anything at a path. -/
def hasPath (path : String) : IO Bool := do
  if path.contains '\x00' then return false
  match ← (IO.FS.realPath path).toBaseIO with
  | .ok _ => return true
  | .error _ => return false

/-- What came of changing the files of the system. -/
def changed (change : IO Unit) : IO (Except FileFault Unit) := do
  match ← change.toBaseIO with
  | .ok _ => return .ok ()
  | .error e => return .error (faultOf e)

/-- Makes a directory. Those above it are made if one of them is missing, and a directory that is
there already is left as it is. -/
def makeFolders (folder : String) : IO Unit := do
  match ← (IO.FS.createDir folder).toBaseIO with
  | .ok _ => return
  | .error (.noFileOrDirectory _ _ _) | .error (.alreadyExists _ _ _) => IO.FS.createDirAll folder
  | .error e => throw e

/-- Makes the directory that a path lies in. -/
def makeFolderOf (path : String) : IO (Except FileFault Unit) := do
  if path.contains '\x00' then return .error .nulInName
  let folder := folderOf path
  if folder.isEmpty then return .ok () else changed (makeFolders folder)

/-- Where the settings are kept: below the directory for settings, if one is named, or else below
the home directory. -/
def placeOfSettings : IO (Option String) := do
  let tail := "/route-picker/config.toml"
  match ← IO.getEnv "XDG_CONFIG_HOME" with
  | some folder => if folder.startsWith "/" then return some (folder ++ tail)
  | none => pure ()
  return (← IO.getEnv "HOME").map fun home => home ++ "/.config" ++ tail

/-- The system at hand. -/
def systemHost : IO (Host IO) := do
  let out ← IO.getStdout
  let err ← IO.getStderr
  return {
    settingsPath := ← placeOfSettings
    isThere := hasPath
    readFile := readBytes
    makeFolder := makeFolderOf
    writeFile := fun path text => changed (IO.FS.writeFile path text)
    send := fun _ _ => return .silence
    print := out.putStr
    warn := err.putStr }

end Waymark.Program

/-- Carries out what the arguments ask for. -/
def main (arguments : List String) : IO UInt32 := do
  let host ← Waymark.Program.systemHost
  let code ← Waymark.Program.runAndExit host arguments
  return UInt32.ofNat code
