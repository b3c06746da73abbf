import Waymark.Text.Blank

/-!
# Arguments

The arguments of a program are options and plain words. An option has a long name behind two
dashes and perhaps a letter behind one; it is a switch, or it takes a value, which stands in the
same argument or is the next one. `scan` takes arguments apart from left to right. It stops where
help is asked for, and where an argument is not understood.
-/

namespace Waymark.Program

/-- What an option takes. -/
inductive Taking where
  /-- Nothing: the option is a switch. -/
  | nothing
  /-- A value that does not begin with a dash, unless it is one dash alone. -/
  | word
  /-- Any value. -/
  | anything
deriving DecidableEq, Repr

/-- An option of a program. -/
structure Opt where
  /-- The long name. -/
  long : String
  /-- The letter. -/
  letter : Option Char
  /-- What it takes. -/
  taking : Taking

/-- A part of the arguments. -/
inductive Part where
  /-- A switch, by its long name. -/
  | switch (name : String)
  /-- An option with its value. -/
  | value (name text : String)
  /-- A plain word. -/
  | word (text : String)
deriving DecidableEq, Repr

/-- Where the arguments stop. -/
inductive Stop where
  /-- At their end. -/
  | atEnd
  /-- Where help is asked for. -/
  | atHelp
  /-- Where something is not understood. -/
  | atFault
deriving DecidableEq, Repr

/-- The parts of some arguments, up to where they stop. -/
structure Scan where
  /-- The parts. -/
  parts : List Part
  /-- Where they stop. -/
  stop : Stop

/-- The same with one part before. -/
def Scan.after (part : Part) (s : Scan) : Scan := { s with parts := part :: s.parts }

/-- Nothing, because of a stop. -/
def Scan.halt (stop : Stop) : Scan := ⟨[], stop⟩

/-- How one argument is to be understood. -/
inductive Shape where
  /-- Everything after it is a plain word. -/
  | divider
  /-- Help is asked for. -/
  | help
  /-- A whole part. -/
  | part (part : Part)
  /-- An option whose value is the next argument. -/
  | awaiting (option : Opt)
  /-- It is not understood. -/
  | unknown

/-- Understands what stands behind two dashes. -/
def longShape (options : List Opt) (body : List Char) : Shape :=
  let (name, rest) := body.span (· != '=')
  let name := String.ofList name
  if name = "help" then if rest.isEmpty then .help else .unknown
  else match options.find? fun o => o.long == name with
    | none => .unknown
    | some o => match o.taking, rest with
      | .nothing, [] => .part (.switch o.long)
      | .nothing, _ :: _ => .unknown
      | _, [] => .awaiting o
      | _, _ :: text => .part (.value o.long (String.ofList text))

/-- Understands what stands behind one dash. -/
def letterShape (options : List Opt) (letter : Char) (rest : List Char) : Shape :=
  if letter = 'h' then .help
  else match options.find? fun o => o.letter == some letter with
    | none => .unknown
    | some o => match o.taking, rest with
      | .nothing, [] => .part (.switch o.long)
      | .nothing, _ :: _ => .unknown
      | _, [] => .awaiting o
      | _, '=' :: text => .part (.value o.long (String.ofList text))
      | _, text => .part (.value o.long (String.ofList text))

/-- Understands one argument. -/
def shape (options : List Opt) (argument : String) : Shape :=
  match argument.toList with
  | ['-', '-'] => .divider
  | '-' :: '-' :: body => longShape options body
  | '-' :: letter :: rest => letterShape options letter rest
  | _ => .part (.word argument)

/-- Whether an argument may be the value of an option. -/
def Taking.accepts (taking : Taking) (argument : String) : Bool :=
  match taking, argument.toList with
  | .nothing, _ => false
  | .anything, _ => true
  | .word, '-' :: _ :: _ => false
  | .word, _ => true

/-- Takes some arguments apart. -/
def scan (options : List Opt) : List String → Scan
  | [] => .halt .atEnd
  | argument :: rest =>
    match shape options argument with
    | .divider => ⟨rest.map .word, .atEnd⟩
    | .help => .halt .atHelp
    | .unknown => .halt .atFault
    | .part part => (scan options rest).after part
    | .awaiting option => match rest with
      | [] => .halt .atFault
      | text :: more =>
        if option.taking.accepts text then (scan options more).after (.value option.long text)
        else .halt .atFault

end Waymark.Program
