/-!
# Texts in TOML

TOML has four ways to write a text: between quotation marks or apostrophes, single or tripled.
`stringText` takes the first in which the text needs no escapes, and falls back on escapes.
`string?` reads all four.
-/

namespace Waymark.Toml

/-- The characters that a text may hold only as escapes: the controls other than tab and newline,
and the delete character. -/
def needsEscape (c : Char) : Bool :=
  (c.toNat < 32 && c != '\t' && c != '\n') || c.toNat == 127

/-- The length of the longest run of `q`, `run` being the length of the run just before. -/
def longestRun (q : Char) (run : Nat) : List Char → Nat
  | [] => run
  | c :: rest => if c = q then longestRun q (run + 1) rest else max run (longestRun q 0 rest)

/-- A hexadecimal digit in upper case. -/
def upperHex (n : Nat) : Char := (Nat.digitChar n).toUpper

/-- The characters of one character between quotation marks. -/
def escaped (c : Char) : List Char :=
  match c with
  | '\t' => ['\\', 't']
  | '\r' => ['\\', 'r']
  | '\\' => ['\\', '\\']
  | c =>
    if c.toNat = 8 then ['\\', 'b']
    else if c.toNat = 12 then ['\\', 'f']
    else if c.toNat < 32 ∨ c.toNat = 127 then
      ['\\', 'u', '0', '0', upperHex (c.toNat / 16), upperHex (c.toNat % 16)]
    else [c]

/-- The characters of a text between quotation marks. A newline is escaped unless the marks are
tripled. So is the mark itself; between tripled ones, only the third of a run, after `run` marks
just before. -/
def escapedChars (tripled : Bool) (run : Nat) : List Char → List Char
  | [] => []
  | '"' :: rest =>
    if (if tripled then 2 else 0) ≤ run then '\\' :: '"' :: escapedChars tripled 0 rest
    else '"' :: escapedChars tripled (run + 1) rest
  | '\n' :: rest =>
    if tripled then '\n' :: escapedChars tripled 0 rest
    else '\\' :: 'n' :: escapedChars tripled 0 rest
  | c :: rest => escaped c ++ escapedChars tripled 0 rest

/-- What is between tripled marks before the text: a newline, if the text has one. -/
def opening (cs : List Char) : List Char := if cs.contains '\n' then ['\n'] else []

/-- The characters of a text as a TOML value. -/
def stringChars (cs : List Char) : List Char :=
  let controls := cs.any needsEscape
  let newline := cs.contains '\n'
  let slash := cs.contains '\\'
  let marks := longestRun '"' 0 cs
  let apostrophes := longestRun '\'' 0 cs
  let single := '"' :: (escapedChars false 0 cs ++ ['"'])
  let tripled := ['"', '"', '"'] ++ opening cs ++ escapedChars true 0 cs ++ ['"', '"', '"']
  if !controls && !slash && marks == 0 && !newline then single
  else if !controls && apostrophes == 0 && !newline then '\'' :: (cs ++ ['\''])
  else if !controls && !slash && marks ≤ 2 then tripled
  else if !controls && apostrophes ≤ 2 then
    ['\'', '\'', '\''] ++ opening cs ++ cs ++ ['\'', '\'', '\'']
  else if newline then tripled
  else single

/-- The value of a hexadecimal digit in either case. -/
def hexDigit? (c : Char) : Option Nat :=
  let n := c.toNat
  if 48 ≤ n ∧ n < 58 then some (n - 48)
  else if 97 ≤ n ∧ n < 103 then some (n - 87)
  else if 65 ≤ n ∧ n < 71 then some (n - 55)
  else none

/-- The character of a number in hexadecimal digits, if it is that of a character. -/
def hexChar? (cs : List Char) : Option Char := do
  let ds ← cs.mapM hexDigit?
  let n := ds.foldl (fun n d => 16 * n + d) 0
  if n < 0xD800 ∨ (0xE000 ≤ n ∧ n < 0x110000) then some (Char.ofNat n) else none

/-- The character of a one-letter escape. -/
def escape? (c : Char) : Option Char :=
  match c with
  | 'b' => some (Char.ofNat 8)
  | 't' => some '\t'
  | 'n' => some '\n'
  | 'f' => some (Char.ofNat 12)
  | 'r' => some '\r'
  | '"' => some '"'
  | '\\' => some '\\'
  | _ => none

/-- Whether a character is a blank inside of a line. -/
def isSpace (c : Char) : Bool := c == ' ' || c == '\t'

/-- Puts a character in front of a text that was read. -/
def consRead (c : Char) (r : List Char × List Char) : List Char × List Char := (c :: r.1, r.2)

/-- Reads a text up to and with its closing quotation mark. -/
def basicBody : List Char → Option (List Char × List Char)
  | [] => none
  | '"' :: rest => some ([], rest)
  | '\\' :: 'u' :: a :: b :: c :: d :: rest => do
    let x ← hexChar? [a, b, c, d]
    let r ← basicBody rest
    return consRead x r
  | '\\' :: 'U' :: a :: b :: c :: d :: e :: f :: g :: h :: rest => do
    let x ← hexChar? [a, b, c, d, e, f, g, h]
    let r ← basicBody rest
    return consRead x r
  | '\\' :: e :: rest => do
    let x ← escape? e
    let r ← basicBody rest
    return consRead x r
  | c :: rest =>
    if needsEscape c ∨ c = '\n' ∨ c = '\\' then none
    else (basicBody rest).map (consRead c)

/-- Reads a text up to and with its closing apostrophe. -/
def literalBody : List Char → Option (List Char × List Char)
  | [] => none
  | '\'' :: rest => some ([], rest)
  | c :: rest =>
    if needsEscape c ∨ c = '\n' then none else (literalBody rest).map (consRead c)

/-- How a reader of a text between tripled quotation marks treats blanks. -/
inductive Folding where
  /-- They belong to the text. -/
  | kept
  /-- A backslash was read, and the rest of its line must be blank. -/
  | opened
  /-- The lines after a backslash at the end of a line are skipped as long as they are blank. -/
  | skipped
deriving DecidableEq

/-- Reads a text up to and with its three closing quotation marks, before which the text may end
in one or two such marks. -/
def tripledBasicBody : Folding → List Char → Option (List Char × List Char)
  | _, [] => none
  | .opened, c :: rest =>
    if isSpace c then tripledBasicBody .opened rest
    else if c = '\n' then tripledBasicBody .skipped rest
    else match c, rest with
      | '\r', '\n' :: rest => tripledBasicBody .skipped rest
      | _, _ => none
  | _, '"' :: '"' :: '"' :: '"' :: '"' :: rest => some (['"', '"'], rest)
  | _, '"' :: '"' :: '"' :: '"' :: rest => some (['"'], rest)
  | _, '"' :: '"' :: '"' :: rest => some ([], rest)
  | _, '\\' :: 'u' :: a :: b :: c :: d :: rest => do
    let x ← hexChar? [a, b, c, d]
    let r ← tripledBasicBody .kept rest
    return consRead x r
  | _, '\\' :: 'U' :: a :: b :: c :: d :: e :: f :: g :: h :: rest => do
    let x ← hexChar? [a, b, c, d, e, f, g, h]
    let r ← tripledBasicBody .kept rest
    return consRead x r
  | _, '\\' :: '\n' :: rest => tripledBasicBody .skipped rest
  | _, '\\' :: '\r' :: '\n' :: rest => tripledBasicBody .skipped rest
  | _, '\\' :: ' ' :: rest => tripledBasicBody .opened rest
  | _, '\\' :: '\t' :: rest => tripledBasicBody .opened rest
  | _, '\\' :: e :: rest => do
    let x ← escape? e
    let r ← tripledBasicBody .kept rest
    return consRead x r
  | folding, '\r' :: '\n' :: rest =>
    if folding = .skipped then tripledBasicBody .skipped rest
    else (tripledBasicBody .kept rest).map (consRead '\n')
  | folding, c :: rest =>
    if folding = .skipped ∧ (isSpace c ∨ c = '\n') then tripledBasicBody .skipped rest
    else if needsEscape c ∨ c = '\\' then none
    else (tripledBasicBody .kept rest).map (consRead c)

/-- Reads a text up to and with its three closing apostrophes, before which the text may end in
one or two apostrophes. -/
def tripledLiteralBody : List Char → Option (List Char × List Char)
  | [] => none
  | '\'' :: '\'' :: '\'' :: '\'' :: '\'' :: rest => some (['\'', '\''], rest)
  | '\'' :: '\'' :: '\'' :: '\'' :: rest => some (['\''], rest)
  | '\'' :: '\'' :: '\'' :: rest => some ([], rest)
  | '\r' :: '\n' :: rest => (tripledLiteralBody rest).map (consRead '\n')
  | c :: rest => if needsEscape c then none else (tripledLiteralBody rest).map (consRead c)

/-- The text after the newline that may follow tripled marks. -/
def skipOpening : List Char → List Char
  | '\n' :: rest => rest
  | '\r' :: '\n' :: rest => rest
  | cs => cs

/-- Reads a text in any of its four forms. -/
def string? (cs : List Char) : Option (List Char × List Char) :=
  match cs with
  | '"' :: '"' :: '"' :: rest => tripledBasicBody .kept (skipOpening rest)
  | '"' :: rest => basicBody rest
  | '\'' :: '\'' :: '\'' :: rest => tripledLiteralBody (skipOpening rest)
  | '\'' :: rest => literalBody rest
  | _ => none

end Waymark.Toml
