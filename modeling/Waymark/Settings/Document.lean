import Waymark.Settings.Basic
import Waymark.Toml.Document
import Waymark.Toml.Reader

/-!
# Settings as documents

Settings are kept in a TOML document with one section for each part of the program. In a document
that is read, every entry may be missing, and the default stands for it; entries and sections of
other names are skipped. A section may also be a table in braces, or a list of its values in
order.
-/

namespace Waymark.Settings

open Toml

/-- The value of a key in a document. -/
def scalar (s : Settings) : Key → Scalar
  | .baseUrl => .string s.baseUrl
  | .closestPath => .string s.closestPath
  | .routePath => .string s.routePath
  | .timeoutMs => .integer s.timeoutMs.toNat
  | .centerLat => .float s.centerLat
  | .centerLng => .float s.centerLng
  | .initialZoom => .integer s.initialZoom.toNat
  | .focusZoom => .integer s.focusZoom.toNat
  | .color => .string s.color
  | .weight => .integer s.weight.toNat
  | .opacity => .float s.opacity
  | .firstRole => .string s.firstRole.name
  | .validation => .string s.validation.name

/-- The document of the keys that satisfy `keep`, with all four sections. -/
def documentOf (s : Settings) (keep : Key → Bool) : Document :=
  Section.all.map fun area =>
    ⟨area.name, ((Key.allIn area).filter keep).map fun k => (k.entry, s.scalar k)⟩

/-- The document of the settings. An integer of a document has 63 bits, so a longer time for a
request cannot be written. -/
def document? (s : Settings) : Option Document :=
  if s.timeoutMs.toNat < 1 <<< 63 then some (s.documentOf fun _ => true) else none

/-- The text of the settings. -/
def text? (s : Settings) : Except SettingsFault String :=
  match s.document? with
  | some d => .ok d.text
  | none => .error .unwritable

/-- The number below `bound` that a value of a document is. -/
def natOf? (bound : Nat) : Value → Option Nat
  | .scalar (.integer (.ofNat n)) => if n < bound then some n else none
  | _ => none

/-- The double that a value of a document is; integers count as doubles. -/
def floatOf? : Value → Option Float
  | .scalar (.float x) => some x
  | .scalar (.integer (.ofNat n)) => some (UInt64.ofNat n).toFloat
  | .scalar (.integer (.negSucc n)) => some (-(UInt64.ofNat (n + 1)).toFloat)
  | _ => none

/-- The text that a value of a document is. -/
def stringOf? : Value → Option String
  | .scalar (.string s) => some s
  | _ => none

/-- The name that a value of a document is: a text, or a table with that name as its only key and
nothing in the value. -/
def nameOf? : Value → Option String
  | .scalar (.string s) => some s
  | .table _ [(key, .table _ [])] => some key
  | .table _ [(key, .array [])] => some key
  | _ => none

/-- The settings with the value of a key taken from a document. -/
def take? (s : Settings) (key : Key) (v : Value) : Option Settings :=
  match key with
  | .baseUrl => (stringOf? v).map fun t => { s with baseUrl := t }
  | .closestPath => (stringOf? v).map fun t => { s with closestPath := t }
  | .routePath => (stringOf? v).map fun t => { s with routePath := t }
  | .timeoutMs => (natOf? (1 <<< 63) v).map fun n => { s with timeoutMs := .ofNat n }
  | .centerLat => (floatOf? v).map fun x => { s with centerLat := x }
  | .centerLng => (floatOf? v).map fun x => { s with centerLng := x }
  | .initialZoom => (natOf? (1 <<< 8) v).map fun n => { s with initialZoom := .ofNat n }
  | .focusZoom => (natOf? (1 <<< 8) v).map fun n => { s with focusZoom := .ofNat n }
  | .color => (stringOf? v).map fun t => { s with color := t }
  | .weight => (natOf? (1 <<< 32) v).map fun n => { s with weight := .ofNat n }
  | .opacity => (floatOf? v).map fun x => { s with opacity := x }
  | .firstRole => ((nameOf? v).bind Role.ofName?).map fun r => { s with firstRole := r }
  | .validation => ((nameOf? v).bind Rule.ofName?).map fun r => { s with validation := r }

/-- Pairs the keys of a section with the values of a list. -/
def pair (area : Section) (vs : List Value) : List (Key × Value) := (Key.allIn area).zip vs

/-- The values that a document has for the keys of a section. A date in place of a section counts
as an empty one. -/
def entriesOf? (area : Section) (root : Entries) : Option (List (Key × Value)) :=
  match lookup area.name root with
  | none => some []
  | some (.table _ es) =>
    some ((Key.allIn area).filterMap fun k => (lookup k.entry es).map fun v => (k, v))
  | some (.array vs) => some (pair area vs)
  | some (.tables ts) => some (pair area (ts.map fun es => .table .header es))
  | some .dateTime => some []
  | some _ => none

/-- The settings with some values taken from a document. -/
def takeAll? (s : Settings) : List (Key × Value) → Option Settings
  | [] => some s
  | (k, v) :: rest => do
    let s ← s.take? k v
    takeAll? s rest

/-- The settings with the values of some sections taken from a document. -/
def takeSections? (s : Settings) (root : Entries) : List Section → Option Settings
  | [] => some s
  | area :: rest => do
    let es ← entriesOf? area root
    let s ← s.takeAll? es
    takeSections? s root rest

/-- The settings of a document, good or not. -/
def ofEntries? (root : Entries) : Option Settings := takeSections? default root Section.all

/-- Reads settings from the text of a document, and checks them. -/
def read (text : String) : Except SettingsFault Settings :=
  match (read? text).bind ofEntries? with
  | none => .error .unreadable
  | some s => do
    s.check
    return s

/-- Reads settings from the bytes of a file, and checks them. -/
def ofBytes (bytes : ByteArray) : Except Error Settings :=
  match String.fromUTF8? bytes with
  | none => .error (.file .notText)
  | some text => match read text with
    | .ok s => .ok s
    | .error fault => .error (.settings fault)

end Waymark.Settings
