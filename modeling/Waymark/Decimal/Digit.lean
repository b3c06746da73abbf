/-!
# Decimal digits

Digits are numbers below ten, so a list of them always spells a natural number: `digitsOf` writes
one, most significant digit first, and `valueOf` reads it back. `natText` and `readNat?` are the
same two directions on text.
-/

namespace Waymark.Decimal

/-- A decimal digit. -/
abbrev Digit := Fin 10

namespace Digit

/-- The digit `0`. -/
def zero : Digit := 0

/-- The character that writes a digit. -/
def toChar (d : Digit) : Char := Char.ofNat (48 + d.val)

/-- The digit that an ASCII digit character writes. -/
def ofChar? (c : Char) : Option Digit :=
  if h : 48 ≤ c.toNat ∧ c.toNat < 58 then some ⟨c.toNat - 48, by omega⟩ else none

end Digit

/-- The number that a list of digits spells, most significant digit first. -/
def valueOf (ds : List Digit) : Nat := ds.foldl (fun n d => 10 * n + d.val) 0

/-- Writes `n` in front of `acc`; `fuel` bounds the number of digits and `n` itself is enough. -/
def digitsAux : Nat → Nat → List Digit → List Digit
  | 0, n, acc => ⟨n % 10, Nat.mod_lt _ (by decide)⟩ :: acc
  | fuel + 1, n, acc =>
    let d : Digit := ⟨n % 10, Nat.mod_lt _ (by decide)⟩
    if n < 10 then d :: acc else digitsAux fuel (n / 10) (d :: acc)

/-- The digits of `n`, most significant first and without leading zeros; zero has one digit. -/
def digitsOf (n : Nat) : List Digit := digitsAux n n []

/-- The characters of a list of digits. -/
def digitChars (ds : List Digit) : List Char := ds.map Digit.toChar

/-- A natural number in decimal. -/
def natText (n : Nat) : String := String.ofList (digitChars (digitsOf n))

/-- The longest run of digits at the head of a text, and the text after it. -/
def takeDigits : List Char → List Digit × List Char
  | [] => ([], [])
  | c :: cs =>
    match Digit.ofChar? c with
    | some d => let (ds, rest) := takeDigits cs; (d :: ds, rest)
    | none => ([], c :: cs)

/-- Reads a text that consists of at least one digit and nothing else. -/
def readNat? (cs : List Char) : Option Nat :=
  match takeDigits cs with
  | ([], _) => none
  | (ds, []) => some (valueOf ds)
  | (_, _ :: _) => none

/-- Reads an unsigned number below `bound`: digits, with an optional plus sign in front. -/
def readBelow? (bound : Nat) (text : String) : Option Nat :=
  let digits := match text.toList with
    | '+' :: cs => cs
    | cs => cs
  match readNat? digits with
  | some n => if n < bound then some n else none
  | none => none

end Waymark.Decimal
