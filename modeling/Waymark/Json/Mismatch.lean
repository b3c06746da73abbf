import Waymark.Json.Basic
import Waymark.Text.Quoted

/-!
# Mismatches

Why a JSON value cannot be taken as a number, a list or a record, and how a message says so.
-/

namespace Waymark.Json

open Decimal

/-- What a value is taken as. -/
inductive Expected where
  /-- A double. -/
  | double
  /-- A natural number of 64 bits. -/
  | natural
  /-- A list. -/
  | list
  /-- A list of two. -/
  | pair
  /-- The record of a node. -/
  | node
  /-- The record of a route. -/
  | route
deriving DecidableEq

/-- How a message names what it expected. -/
def Expected.text : Expected → String
  | .double => "f64"
  | .natural => "u64"
  | .list => "a sequence"
  | .pair => "an array of length 2"
  | .node => "struct NodeWire"
  | .route => "struct RouteResponse"

/-- How a message names the number of parts that it expected. -/
def Expected.lengthText : Expected → String
  | .node => "struct NodeWire with 3 elements"
  | .route => "struct RouteResponse with 2 elements"
  | e => e.text

/-- How a message shows a number that it found. -/
def numberText (n : Numeral) : String :=
  match integer? n with
  | some (.ofNat v) => "integer `" ++ natText v ++ "`"
  | some (.negSucc v) => "integer `-" ++ natText (v + 1) ++ "`"
  | none => match (real? n).bind Numeral.ofFloat? with
    | some shown => "floating point `" ++ shown.text ++ "`"
    | none => "floating point `" ++ n.text ++ "`"

/-- How a message shows a value that it found. -/
def foundText : Json → String
  | .null => "null"
  | .bool true => "boolean `true`"
  | .bool false => "boolean `false`"
  | .number n => numberText n
  | .string s => "string " ++ Text.quoted s
  | .array _ => "sequence"
  | .object _ => "map"

/-- Why a value is not what it is taken as. -/
inductive Mismatch where
  /-- A value of another kind. -/
  | kind (found : Json) (expected : Expected)
  /-- A number out of range. -/
  | range (found : Numeral) (expected : Expected)
  /-- Too few parts. -/
  | tooFew (count : Nat) (expected : Expected)
  /-- Too many parts. -/
  | tooMany (count : Nat)
  /-- A name without a value. -/
  | missing (name : String)

/-- The message of a mismatch. -/
def Mismatch.message : Mismatch → String
  | .kind found expected => "invalid type: " ++ foundText found ++ ", expected " ++ expected.text
  | .range found expected => "invalid value: " ++ numberText found ++ ", expected " ++ expected.text
  | .tooFew count expected =>
    "invalid length " ++ natText count ++ ", expected " ++ expected.lengthText
  | .tooMany count =>
    "invalid length " ++ natText count ++ ", expected fewer elements in array"
  | .missing name => "missing field `" ++ name ++ "`"

/-- Takes a value as a double. -/
def asDouble : Json → Except Mismatch Float
  | .number n => match real? n with
    | some x => .ok x
    | none => .error (.kind (.number n) .double)
  | v => .error (.kind v .double)

/-- Takes a value as a natural number of 64 bits. -/
def asNatural : Json → Except Mismatch UInt64
  | .number n => match integer? n with
    | some (.ofNat v) => .ok (UInt64.ofNat v)
    | some (.negSucc _) => .error (.range n .natural)
    | none => .error (.kind (.number n) .natural)
  | v => .error (.kind v .natural)

end Waymark.Json
