import Waymark.Toml.Number
import Waymark.Toml.Text

/-!
# Reading TOML

A file is read line by line into `Line`s, and the lines are put together into one table by
`Toml.assemble`. Lists, tables in braces and dotted keys are limited to fewer than eighty levels.
-/

namespace Waymark.Toml

/-- The text after its leading blanks, on the same line. -/
def skipSpace (cs : List Char) : List Char := cs.dropWhile isSpace

/-- The text after a comment's mark up to the end of its line, if the comment has no controls in
it. -/
def skipComment : List Char → Option (List Char)
  | [] => some []
  | '\n' :: rest => some ('\n' :: rest)
  | '\r' :: '\n' :: rest => some ('\r' :: '\n' :: rest)
  | c :: rest => if needsEscape c then none else skipComment rest

/-- The text after the rest of a line, which may be blanks and a comment only. -/
def endOfLine (cs : List Char) : Option (List Char) := do
  let rest ← match skipSpace cs with
    | '#' :: rest => skipComment rest
    | rest => some rest
  match rest with
  | [] => some []
  | '\n' :: rest => some rest
  | '\r' :: '\n' :: rest => some rest
  | _ => none

/-- Whether a character may stand in a key without marks. -/
def isBare (c : Char) : Bool := c.isAlphanum || c == '_' || c == '-'

/-- Reads one part of a key. -/
def simpleKey (cs : List Char) : Option (String × List Char) :=
  match cs with
  | '"' :: rest => (basicBody rest).map fun (key, rest) => (String.ofList key, rest)
  | '\'' :: rest => (literalBody rest).map fun (key, rest) => (String.ofList key, rest)
  | _ => match cs.span isBare with
    | ([], _) => none
    | (key, rest) => some (String.ofList key, rest)

/-- Reads the parts of a key; `fuel` bounds their number. -/
def keyParts : Nat → List Char → Option (List String × List Char)
  | 0, _ => none
  | fuel + 1, cs => do
    let (key, rest) ← simpleKey (skipSpace cs)
    match skipSpace rest with
    | '.' :: rest =>
      let (keys, rest) ← keyParts fuel rest
      return (key :: keys, rest)
    | rest => return ([key], rest)

/-- The limit of levels. -/
def levels : Nat := 80

/-- Reads a key of fewer than eighty parts: the parts before the last, and the last. -/
def key? (cs : List Char) : Option ((List String × String) × List Char) := do
  let (keys, rest) ← keyParts (levels - 1) cs
  match keys.getLast? with
  | some last => return ((keys.dropLast, last), rest)
  | none => none

/-- Reads the entries of a line or between braces with `value`: a key, a sign, a value. -/
def entry (value : List Char → Option (Value × List Char)) (cs : List Char) :
    Option (((List String × String) × Value) × List Char) := do
  let (key, rest) ← key? cs
  let rest ← expect '=' rest
  let (v, rest) ← value (skipSpace rest)
  return ((key, v), rest)

/-- The text after blanks, line ends and comments, between the items of a list; `fuel` bounds the
number of lines. -/
def skipLines : Nat → List Char → Option (List Char)
  | 0, cs => some cs
  | fuel + 1, cs =>
    match skipSpace cs with
    | '\n' :: rest => skipLines fuel rest
    | '\r' :: '\n' :: rest => skipLines fuel rest
    | '#' :: rest => do
      let rest ← skipComment rest
      match rest with
      | [] => none
      | rest => skipLines fuel rest
    | rest => some rest

/-- Reads the items of a list with `value`, up to and with the bracket; `fuel` bounds their
number. -/
def items (value : List Char → Option (Value × List Char)) :
    Nat → List Char → Option (List Value × List Char)
  | 0, _ => none
  | fuel + 1, cs => do
    let rest ← skipLines cs.length cs
    match rest with
    | ']' :: rest => return ([], rest)
    | _ =>
      let (v, rest) ← value rest
      let rest ← skipLines rest.length rest
      match rest with
      | ']' :: rest => return ([v], rest)
      | ',' :: rest =>
        let (vs, rest) ← items value fuel rest
        return (v :: vs, rest)
      | _ => none

/-- Reads at least one entry between braces with `value`, up to and with the brace; `fuel` bounds
their number. -/
def bracedEntries (value : List Char → Option (Value × List Char)) :
    Nat → List Char → Option (List ((List String × String) × Value) × List Char)
  | 0, _ => none
  | fuel + 1, cs => do
    let (e, rest) ← entry value cs
    match skipSpace rest with
    | '\x7d' :: rest => return ([e], rest)
    | ',' :: rest =>
      let (es, rest) ← bracedEntries value fuel rest
      return (e :: es, rest)
    | _ => none

/-- Reads a table in braces with `value`, after the opening brace. -/
def braced (value : List Char → Option (Value × List Char)) (cs : List Char) :
    Option (Value × List Char) :=
  match skipSpace cs with
  | '\x7d' :: rest => some (.table .braces [], rest)
  | cs => do
    let (es, rest) ← bracedEntries value (cs.length + 1) cs
    let table ← insertAll .braces [] es
    return (.table .braces table, rest)

/-- Reads a value that is neither a list nor a table. -/
def simpleValue (cs : List Char) : Option (Value × List Char) :=
  match cs with
  | 't' :: 'r' :: 'u' :: 'e' :: rest => some (.boolean true, rest)
  | 'f' :: 'a' :: 'l' :: 's' :: 'e' :: rest => some (.boolean false, rest)
  | c :: _ =>
    if c = '"' ∨ c = '\'' then
      (string? cs).map fun (s, rest) => (.scalar (.string (String.ofList s)), rest)
    else number? cs
  | [] => none

/-- Reads a value with at most `depth` levels of lists and tables in braces. -/
def value : Nat → List Char → Option (Value × List Char)
  | 0, cs => simpleValue cs
  | depth + 1, cs =>
    match cs with
    | '[' :: rest =>
      (items (value depth) (rest.length + 1) rest).map fun (vs, rest) => (.array vs, rest)
    | '\x7b' :: rest => braced (value depth) rest
    | _ => simpleValue cs

/-- A line of a file. -/
inductive Line where
  /-- Blanks or a comment. -/
  | blank
  /-- The header of a table. -/
  | header (path : List String) (name : String)
  /-- The header of one table of a list. -/
  | element (path : List String) (name : String)
  /-- The value of a key. -/
  | entry (key : List String × String) (value : Value)

/-- Reads a header after its first bracket, and its line. -/
def headerLine (cs : List Char) : Option (Line × List Char) :=
  match cs with
  | '[' :: rest => do
    let ((path, name), rest) ← key? rest
    let rest ← expect ']' rest
    let rest ← expect ']' rest
    let rest ← endOfLine rest
    return (.element path name, rest)
  | _ => do
    let ((path, name), rest) ← key? cs
    let rest ← expect ']' rest
    let rest ← endOfLine rest
    return (.header path name, rest)

/-- Reads a line with its end. -/
def line (cs : List Char) : Option (Line × List Char) :=
  match skipSpace cs with
  | [] => some (.blank, [])
  | '[' :: rest => headerLine rest
  | c :: rest =>
    if c = '#' ∨ c = '\n' ∨ c = '\r' then
      (endOfLine (c :: rest)).map fun rest => (.blank, rest)
    else do
      let ((key, v), rest) ← entry (value (levels - 1)) (c :: rest)
      let rest ← endOfLine rest
      return (.entry key v, rest)

/-- Reads all lines; `fuel` bounds their number. -/
def lines : Nat → List Char → Option (List Line)
  | _, [] => some []
  | 0, _ :: _ => none
  | fuel + 1, cs => do
    let (l, rest) ← line cs
    let ls ← lines fuel rest
    return l :: ls

/-- The entries up to the next header, and the lines from it on. -/
def takeEntries : List Line → List ((List String × String) × Value) × List Line
  | .entry key v :: rest => let (es, rest) := takeEntries rest; ((key, v) :: es, rest)
  | .blank :: rest => takeEntries rest
  | rest => ([], rest)

/-- The lines that `takeEntries` leaves are not more than it was given. -/
theorem takeEntries_length (ls : List Line) : (takeEntries ls).2.length ≤ ls.length := by
  fun_induction takeEntries ls with
  | case1 key v rest ih => simp_all; omega
  | case2 rest ih => simp_all; omega
  | case3 => simp

/-- Opens the table of a header in its parent. The header may complete a table that earlier
headers only implied, and nothing else. -/
def placeTable (name : String) (es : List ((List String × String) × Value)) (_ : Origin)
    (parent : Entries) : Option Entries :=
  match lookup name parent with
  | none => do
    let table ← insertAll .header [] es
    return parent ++ [(name, .table .header table)]
  | some (.table .implied inner) => do
    let table ← insertAll .header inner es
    return replace name (.table .header table) parent
  | some _ => none

/-- Adds a table to a list of tables in its parent. -/
def placeElement (name : String) (es : List ((List String × String) × Value)) (_ : Origin)
    (parent : Entries) : Option Entries := do
  let table ← insertAll .header [] es
  match lookup name parent with
  | none => return parent ++ [(name, .tables [table])]
  | some (.tables elements) => return replace name (.tables (elements ++ [table])) parent
  | some _ => none

/-- Adds the tables of headers to a table. -/
def assembleFrom (root : Entries) : List Line → Option Entries
  | [] => some root
  | .header path name :: rest => do
    let root ← descend false (placeTable name (takeEntries rest).1) path .header root
    have := takeEntries_length rest
    assembleFrom root (takeEntries rest).2
  | .element path name :: rest => do
    let root ← descend false (placeElement name (takeEntries rest).1) path .header root
    have := takeEntries_length rest
    assembleFrom root (takeEntries rest).2
  | _ :: rest => assembleFrom root rest
termination_by ls => ls.length

/-- Puts the table of a file together from its lines. -/
def assemble (ls : List Line) : Option Entries := do
  let root ← insertAll .header [] (takeEntries ls).1
  assembleFrom root (takeEntries ls).2

/-- The text without the mark of its encoding. -/
def skipMark : List Char → List Char
  | c :: rest => if c.toNat = 0xFEFF then rest else c :: rest
  | [] => []

/-- Reads the table of a file. -/
def read? (text : String) : Option Entries := do
  let cs := skipMark text.toList
  let ls ← lines (cs.length + 1) cs
  assemble ls

end Waymark.Toml
