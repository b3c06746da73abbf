import Waymark.Json.Reader

/-!
# Percent-encoding

A character that may not stand in a part of an address is written as the bytes of its UTF-8 form,
each as a percent sign and two hexadecimal digits.
-/

namespace Waymark.Url

/-- A hexadecimal digit in upper case. -/
def upperHex (n : Nat) : Char := (Nat.digitChar n).toUpper

/-- A byte behind a percent sign. -/
def encodeByte (b : UInt8) : List Char := ['%', upperHex (b.toNat / 16), upperHex (b.toNat % 16)]

/-- The bytes of a character in UTF-8. -/
def bytesOf (c : Char) : List UInt8 := (String.singleton c).toUTF8.toList

/-- The characters of a text, those that satisfy `reserved` and those beyond ASCII encoded. -/
def encode (reserved : Char → Bool) (cs : List Char) : List Char :=
  cs.flatMap fun c =>
    if c.toNat < 32 ∨ 127 ≤ c.toNat ∨ reserved c then (bytesOf c).flatMap encodeByte else [c]

/-- The bytes of a text, with the encoded ones decoded. A percent sign that no two hexadecimal
digits follow stands for itself. -/
def decode : List Char → List UInt8
  | [] => []
  | '%' :: a :: b :: rest =>
    match Json.hexValue? a, Json.hexValue? b with
    | some high, some low => UInt8.ofNat (high * 16 + low) :: decode rest
    | _, _ => bytesOf '%' ++ decode (a :: b :: rest)
  | c :: rest => bytesOf c ++ decode rest

/-- Whether a character may not stand in the path of an address. -/
def reservedInPath (c : Char) : Bool :=
  [' ', '"', '#', '<', '>', '?', Char.ofNat 0x60, '\x7b', '\x7d'].contains c

/-- Whether a character may not stand in the query of an address. -/
def reservedInQuery (c : Char) : Bool := [' ', '"', '#', '<', '>', '\''].contains c

end Waymark.Url
