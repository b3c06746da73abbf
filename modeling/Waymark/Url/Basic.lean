import Waymark.Url.Host

/-!
# Addresses on the web

An address of the web says which host is asked over which port, and what it is asked for: a path
and perhaps a query. `Url.parse?` reads one as browsers do. Steps of the path that go up or
nowhere are resolved, but no step leads up out of a drive; characters that may not stand there are
encoded, and the fragment, which the host never sees, is left out.
-/

namespace Waymark

/-- An address on the web. -/
structure Url where
  /-- Whether the exchange is encrypted. -/
  secure : Bool
  /-- The host. -/
  host : String
  /-- The port, if it is given. -/
  port : Option Nat
  /-- The steps of the path, encoded. -/
  path : List String
  /-- The query, encoded. -/
  query : Option String
deriving DecidableEq, Repr

namespace Url

open Decimal

/-- Whether a character parts the steps of a path. -/
def isSlash (c : Char) : Bool := c == '/' || c == '\\'

/-- A text without what is dropped before anything is read: controls and blanks at its ends, and
tabs and ends of lines. -/
def tidy (cs : List Char) : List Char :=
  let outer (c : Char) : Bool := c.toNat ≤ 32
  ((cs.dropWhile outer).reverse.dropWhile outer).reverse.filter fun c =>
    c != '\t' && c != '\n' && c != '\r'

/-- Whether an address of this scheme is encrypted, if it is one of the web. -/
def scheme? (cs : List Char) : Option Bool :=
  let word := String.ofList (cs.map Char.toLower)
  if word = "http" then some false else if word = "https" then some true else none

/-- Whether a step goes nowhere. -/
def isStay (step : List Char) : Bool :=
  let word := String.ofList (step.map Char.toLower)
  word == "." || word == "%2e"

/-- Whether a step goes up. -/
def isUp (step : List Char) : Bool :=
  let word := String.ofList (step.map Char.toLower)
  word == ".." || word == ".%2e" || word == "%2e." || word == "%2e%2e"

/-- Whether a step names a drive: a letter, and a colon or a bar. -/
def isDrive (step : String) : Bool :=
  match step.toList with
  | [letter, mark] => letter.isAlpha && (mark == ':' || mark == '|')
  | _ => false

/-- The steps that were taken, after a step up. It takes the last one back unless that is a
drive. -/
def goUp (taken : List String) : List String :=
  if taken.getLast?.any isDrive then taken else taken.dropLast

/-- Resolves the steps of a path after those that were taken. A path that ends in a step up or
nowhere ends in a slash. -/
def resolve (taken : List String) : List (List Char) → List String
  | [] => taken
  | step :: rest =>
    if isUp step then
      if rest.isEmpty then goUp taken ++ [""] else resolve (goUp taken) rest
    else if isStay step then if rest.isEmpty then taken ++ [""] else resolve taken rest
    else resolve (taken ++ [String.ofList (encode reservedInPath step)]) rest

/-- Reads the path of an address. -/
def pathOf (cs : List Char) : List String :=
  let body := match cs with
    | c :: rest => if isSlash c then rest else cs
    | [] => []
  resolve [] (splitOn isSlash body)

/-- Reads the port of an address, with the colon before it; it may be left out. -/
def port? (cs : List Char) : Option (Option Nat) :=
  match cs with
  | [] | [':'] => some none
  | ':' :: digits =>
    if digits.all Char.isDigit then do
      let n ← valueIn? 10 digits
      if n < 1 <<< 16 then return some n else none
    else none
  | _ => none

/-- The host and the port of an authority, as texts. -/
def splitAuthority (cs : List Char) : List Char × List Char :=
  let named := match cs.reverse.span (· != '@') with
    | (reversed, _) => reversed.reverse
  match named with
  | '[' :: _ =>
    let (inner, rest) := named.span (· != ']')
    (inner ++ rest.takeWhile (· == ']'), rest.dropWhile (· == ']'))
  | _ => named.span (· != ':')

/-- Reads an absolute address of the web. -/
def parse? (text : String) : Option Url := do
  let (scheme, rest) := (tidy text.toList).span (· != ':')
  let secure ← scheme? scheme
  let (_, rest) ← rest.head?.map fun c => (c, rest.drop 1)
  let body := rest.dropWhile isSlash
  let (authority, rest) := body.span fun c => !isSlash c && c != '?' && c != '#'
  let (hostPart, portPart) := splitAuthority authority
  let host ← host? hostPart
  let port ← port? portPart
  let (path, rest) := rest.span fun c => c != '?' && c != '#'
  let query := match rest with
    | '?' :: more => some (String.ofList (encode reservedInQuery (more.takeWhile (· != '#'))))
    | _ => none
  return { secure, host, port, path := pathOf path, query }

/-- The address with names and values added to its query. They have to be free of characters that
are encoded in a query. -/
def addQuery (u : Url) (pairs : List (String × String)) : Url :=
  let added := String.intercalate "&" (pairs.map fun (key, value) => key ++ "=" ++ value)
  let query := match u.query with
    | none => added
    | some given => if given.isEmpty then added else given ++ "&" ++ added
  { u with query := some query }

/-- The host that is asked, and its port: the usual one of the scheme if none is given. -/
def authority (u : Url) : String × Nat := (u.host, u.port.getD (if u.secure then 443 else 80))

/-- What the host is asked for: the path and the query. -/
def target (u : Url) : String :=
  "/" ++ String.intercalate "/" u.path ++
    match u.query with
    | some query => "?" ++ query
    | none => ""

/-- An address as it is written. -/
def text (u : Url) : String :=
  (if u.secure then "https://" else "http://") ++ u.host ++
    (match u.port with
    | some port => ":" ++ natText port
    | none => "") ++ u.target

/-- How many bytes an address that is asked for may have. -/
def maxBytes : Nat := 65534

end Url

end Waymark
