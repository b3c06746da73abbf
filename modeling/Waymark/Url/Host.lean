import Waymark.Decimal.Digit
import Waymark.Url.Percent

/-!
# Hosts

The host of an address is a name, or a number in one of two forms: up to four parts with points
between them, each decimal, octal or hexadecimal, or eight groups in square brackets. A name whose
last part is a number has to be one of the first form.
-/

namespace Waymark.Url

open Decimal

/-- The parts of a text between separators. -/
def splitOn (sep : Char → Bool) : List Char → List (List Char)
  | [] => [[]]
  | c :: rest =>
    if sep c then [] :: splitOn sep rest
    else match splitOn sep rest with
      | [] => [[c]]
      | first :: more => (c :: first) :: more

/-- Whether a character may not stand in the name of a host. -/
def reservedInHost (c : Char) : Bool :=
  c.toNat ≤ 32 || c.toNat == 127 ||
    ['#', '%', '/', ':', '<', '>', '?', '@', '[', '\\', ']', '^', '|'].contains c

/-- The value of digits in a base of at most sixteen. -/
def valueIn? (base : Nat) (cs : List Char) : Option Nat :=
  cs.foldlM (fun n c => do
    let d ← Json.hexValue? c
    if d < base then return n * base + d else none) 0

/-- The number that a part stands for: hexadecimal after `0x`, octal after `0`, else decimal. -/
def partValue? (cs : List Char) : Option Nat :=
  match cs with
  | [] => none
  | '0' :: 'x' :: rest | '0' :: 'X' :: rest => valueIn? 16 rest
  | ['0'] => some 0
  | '0' :: rest => valueIn? 8 rest
  | cs => valueIn? 10 cs

/-- The parts of a name, without an empty one at the end. -/
def partsOf (cs : List Char) : List (List Char) :=
  let parts := splitOn (· == '.') cs
  if 1 < parts.length ∧ parts.getLast? = some [] then parts.dropLast else parts

/-- Whether the last part of a name is a number. -/
def endsInNumber (cs : List Char) : Bool :=
  match (partsOf cs).getLast? with
  | some part => (!part.isEmpty && part.all Char.isDigit) || (partValue? part).isSome
  | none => false

/-- The number of `room` bytes that has the given parts: all but the last are bytes, and the last
one fills the bytes that are left. -/
def fillBytes? : Nat → List Nat → Option Nat
  | _, [] => none
  | room, [last] => if last < 1 <<< (8 * room) then some last else none
  | room, n :: rest =>
    if n < 256 ∧ 1 < room then
      (fillBytes? (room - 1) rest).map (n <<< (8 * (room - 1)) + ·)
    else none

/-- The number of 32 bits that a name stands for. -/
def number? (cs : List Char) : Option Nat :=
  ((partsOf cs).mapM partValue?).bind (fillBytes? 4)

/-- A number of 32 bits as its four bytes. -/
def dotted (n : Nat) : String :=
  String.intercalate "." ([24, 16, 8, 0].map fun shift => natText ((n >>> shift) % 256))

/-- Whether a text is a decimal byte without leading zeros. -/
def isByte (cs : List Char) : Bool :=
  match readNat? cs with
  | some n => n < 256 && (cs.head? != some '0' || cs.length == 1)
  | none => false

/-- Whether a text is a group of up to four hexadecimal digits. -/
def isGroup (cs : List Char) : Bool :=
  !cs.isEmpty && cs.length ≤ 4 && (valueIn? 16 cs).isSome

/-- How many groups a text has; the last two may be written as four bytes if `final` is set. -/
def groups? (final : Bool) (cs : List Char) : Option Nat :=
  if cs.isEmpty then some 0
  else
    let parts := splitOn (· == ':') cs
    if parts.all isGroup then some parts.length
    else match parts.getLast? with
      | some last =>
        let bytes := splitOn (· == '.') last
        if final ∧ bytes.length = 4 ∧ bytes.all isByte ∧ parts.dropLast.all isGroup then
          some (parts.length + 1)
        else none
      | none => none

/-- The parts of a text around its first double colon, if it has one. -/
def cutAtGap? : List Char → Option (List Char × List Char)
  | ':' :: ':' :: rest => some ([], rest)
  | c :: rest => (cutAtGap? rest).map fun (before, after) => (c :: before, after)
  | [] => none

/-- Whether a text is eight groups, some of which may be left out at one double colon. -/
def isGroups (cs : List Char) : Bool :=
  match cutAtGap? cs with
  | none => groups? true cs == some 8
  | some (before, after) =>
    match groups? false before, groups? true after with
    | some n, some k => n + k < 8
    | _, _ => false

/-- The name of a host in lower case, or the bytes of the number that it stands for; characters
beyond ASCII are kept. -/
def hostName? (cs : List Char) : Option String := do
  let name ← String.fromUTF8? ⟨(decode cs).toArray⟩
  let lower := name.toList.map Char.toLower
  if lower.isEmpty ∨ lower.any reservedInHost then none
  else if endsInNumber lower then (number? lower).map dotted
  else some (String.ofList lower)

/-- Reads the host of an address. -/
def host? (cs : List Char) : Option String :=
  match cs with
  | '[' :: rest =>
    if rest.getLast? = some ']' ∧ isGroups rest.dropLast then some (String.ofList cs) else none
  | cs => hostName? cs

end Waymark.Url
