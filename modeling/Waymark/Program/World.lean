import Waymark.Program.Host

/-!
# Worlds

A host that is a value: files by their paths, the lookup service with the replies that it is going
to give, what it was asked, and what was written. Every directory can be made and every file can be
written. The service answers whoever asks, and when no reply is left, it says that there is nothing
at the address. No other service answers.
-/

namespace Waymark.Program

/-- A path from the root, step by step. -/
abbrev Path := List String

/-- The state of a host. -/
structure World where
  /-- The files. -/
  files : List (Path × ByteArray) := []
  /-- Directories that may be empty. -/
  folders : List Path := []
  /-- The directory in which paths start that do not start at the root. -/
  here : Path := []
  /-- The host and the port at which the lookup service answers, if it does. -/
  service : Option (String × Nat) := none
  /-- The replies that are to come. -/
  replies : List Reply := []
  /-- The addresses that were asked for, in order. -/
  asked : List Url := []
  /-- The output. -/
  output : String := ""
  /-- The messages. -/
  messages : String := ""

/-- The steps of a path as it is written. A path that ends in a slash has an empty last step. -/
def stepsOf (path : String) : List String := (Url.splitOn (· == '/') path.toList).map String.ofList

/-- The place that a path from the root names. -/
def placeOf (path : String) : Path := (stepsOf path).filter (· != "")

namespace World

/-- The bytes of the file at a path. -/
def file? (w : World) (path : Path) : Option ByteArray :=
  (w.files.find? fun (p, _) => p == path).map (·.2)

/-- Whether there is a directory at a path: the root, one that was made, or one that something
lies in. -/
def isFolder (w : World) (path : Path) : Bool :=
  path.isEmpty || w.folders.any (path.isPrefixOf ·) ||
    w.files.any fun (p, _) => path.isPrefixOf p && path.length < p.length

/-- How many bytes the name of a file may have. -/
def maxName : Nat := 255

/-- How many bytes a written path may have. -/
def maxPath : Nat := 4095

/-- Walks from a place along some steps to where they lead. -/
def walk (w : World) (place : Path) : List String → Except FileFault Path
  | [] => .ok place
  | step :: rest =>
    if w.isFolder place then
      if step = "" ∨ step = "." then w.walk place rest
      else if step = ".." then w.walk place.dropLast rest
      else if maxName < step.utf8ByteSize then .error .nameTooLong
      else w.walk (place ++ [step]) rest
    else .error (if (w.file? place).isSome then .notADirectory else .notFound)

/-- Where a written path leads. -/
def locate (w : World) (path : String) : Except FileFault Path :=
  if path.contains '\x00' then .error .nulInName
  else if maxPath < path.utf8ByteSize then .error .nameTooLong
  else if path.isEmpty then .error .notFound
  else w.walk (if path.startsWith "/" then [] else w.here) (stepsOf path)

/-- Whether a written path names anything. -/
def isThere (w : World) (path : String) : Bool :=
  match w.locate path with
  | .ok place => (w.file? place).isSome || w.isFolder place
  | .error _ => false

/-- The bytes of the file that a written path names. -/
def read (w : World) (path : String) : Except FileFault ByteArray := do
  let place ← w.locate path
  match w.file? place with
  | some bytes => .ok bytes
  | none => .error (if w.isFolder place then .isDirectory else .notFound)

/-- The world with a file at a path. -/
def put (w : World) (path : Path) (bytes : ByteArray) : World :=
  { w with files := (w.files.filter fun (p, _) => p != path) ++ [(path, bytes)] }

/-- The world with the directory that a path lies in. It stays as it is if that is there. -/
def makeFolder (w : World) (path : String) : World :=
  let folder := (placeOf path).dropLast
  { w with folders := if w.isFolder folder then w.folders else w.folders ++ [folder] }

/-- The world with the text that is written at a path. -/
def write (w : World) (path text : String) : World := w.put (placeOf path) text.toUTF8

/-- Sends a request. It is answered if it goes to the lookup service and is not encrypted. -/
def exchange (w : World) (url : Url) : Reply × World :=
  if url.secure ∨ w.service ≠ some url.authority then (.silence, w)
  else
    let w := { w with asked := w.asked ++ [url] }
    match w.replies with
    | [] => (.answer 404 .empty true, w)
    | reply :: rest => (reply.received, { w with replies := rest })

/-- The host that a world is. -/
def host (settingsPath : String) : Host (StateM World) where
  settingsPath := some settingsPath
  isThere path := do return (← get).isThere path
  readFile path := do return (← get).read path
  makeFolder path := do
    modify (·.makeFolder path)
    return .ok ()
  writeFile path text := do
    modify (·.write path text)
    return .ok ()
  send _ url := modifyGet (·.exchange url)
  print text := modify fun w => { w with output := w.output ++ text }
  warn text := modify fun w => { w with messages := w.messages ++ text }

end World

end Waymark.Program
