import Waymark.Decimal.Numeral

/-!
# JSON values

A JSON value keeps its numbers as they are written and the members of its objects in their order,
repeated names included, so that writing a value and reading it back gives the same value. What a
number means is decided where it is used: `Json.integer?` tells the integers of 64 bits apart, and
`Json.real?` gives the double.
-/

namespace Waymark

open Decimal

/-- A JSON value. -/
inductive Json where
  /-- The literal `null`. -/
  | null
  /-- A truth value. -/
  | bool (value : Bool)
  /-- A number. -/
  | number (value : Numeral)
  /-- A text. -/
  | string (value : String)
  /-- A list of values. -/
  | array (items : List Json)
  /-- Named values. -/
  | object (members : List (String × Json))

namespace Json

/-- A natural number. -/
def ofNat (n : Nat) : Json := .number ⟨false, digitsOf n, [], none⟩

/-- A double; `null` when it is not finite. -/
def ofFloat (x : Float) : Json :=
  match Numeral.ofFloat? x with
  | some n => .number n
  | none => .null

/-- The value of a numeral that is an integer of 64 bits, with or without a sign: it has neither
point nor power of ten, and it is not a negative zero. -/
def integer? (n : Numeral) : Option Int :=
  match n.fraction, n.exponent with
  | [], none =>
    let v := valueOf n.whole
    if n.negative then if 0 < v ∧ v ≤ 1 <<< 63 then some (-Int.ofNat v) else none
    else if v < 1 <<< 64 then some (Int.ofNat v) else none
  | _, _ => none

/-- The double that a number stands for; `none` when it is too large. -/
def real? (n : Numeral) : Option Float := n.quick?

mutual

/-- Whether every number in a value is in the range of doubles. -/
def inRange : Json → Bool
  | .number n => (real? n).isSome
  | .array items => itemsInRange items
  | .object members => membersInRange members
  | _ => true

/-- Whether every number in some values is in the range of doubles. -/
def itemsInRange : List Json → Bool
  | [] => true
  | v :: rest => inRange v && itemsInRange rest

/-- Whether every number in some members is in the range of doubles. -/
def membersInRange : List (String × Json) → Bool
  | [] => true
  | (_, v) :: rest => inRange v && membersInRange rest

end

/-- The value of a name; the last one, if the name is repeated. -/
def member? (name : String) (members : List (String × Json)) : Option Json :=
  (members.reverse.find? fun (key, _) => key == name).map (·.2)

/-- Whether a value stands for "nothing": `null`, `false`, a number equal to zero, or an empty
text, list or object. -/
def isFalsy : Json → Bool
  | .null => true
  | .bool b => !b
  | .number n => match real? n with
    | some x => x == 0.0
    | none => false
  | .string s => s.isEmpty
  | .array items => items.isEmpty
  | .object members => members.isEmpty

end Json

end Waymark
