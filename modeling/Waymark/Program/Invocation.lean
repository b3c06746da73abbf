import Waymark.Decimal.Digit
import Waymark.Program.Arguments

/-!
# Invocations

The program has two commands. `pick` replays gestures; `config` shows and changes the settings.
`Invocation.read` understands the arguments of the program, or says that they only ask for help or
for the version, or that they cannot be understood.
-/

namespace Waymark.Program

/-- The arguments of `pick`. -/
structure PickOptions where
  /-- The point of the source. -/
  source : Option String := none
  /-- The point of the destination. -/
  destination : Option String := none
  /-- The points of clicks, in order. -/
  clicks : List String := []
  /-- Whether the route is asked for. -/
  route : Bool := false
  /-- The format of the output. -/
  format : Option String := none
  /-- The address of the lookup service. -/
  baseUrl : Option String := none
  /-- How many milliseconds a request may take. -/
  timeoutMs : Option UInt64 := none
  /-- The file of the settings. -/
  config : Option String := none

/-- The arguments of `config`. -/
structure ConfigOptions where
  /-- The key. -/
  key : Option String := none
  /-- The value. -/
  value : Option String := none
  /-- Whether the path of the file is asked for. -/
  path : Bool := false
  /-- Whether the settings go back to their defaults. -/
  reset : Bool := false

/-- What the program is to do. -/
inductive Invocation where
  /-- Replay gestures. -/
  | pick (options : PickOptions)
  /-- Show or change the settings. -/
  | config (options : ConfigOptions)

/-- What a text says of the program. -/
inductive About where
  /-- How it is called. -/
  | help
  /-- Its version. -/
  | version
deriving DecidableEq, Repr

/-- What the arguments ask for. -/
inductive Asked where
  /-- A command is to be carried out. -/
  | run (invocation : Invocation)
  /-- A text is to be shown. -/
  | about (text : About)
  /-- The arguments are not understood. -/
  | unclear

/-- The options of `pick`. -/
def pickOptions : List Opt :=
  [⟨"src", none, .anything⟩, ⟨"dst", none, .anything⟩, ⟨"click", none, .anything⟩,
    ⟨"route", none, .nothing⟩, ⟨"format", some 'f', .word⟩, ⟨"base-url", none, .word⟩,
    ⟨"timeout-ms", none, .word⟩, ⟨"config", none, .word⟩]

/-- The options of `config`. -/
def configOptions : List Opt := [⟨"path", none, .nothing⟩, ⟨"reset", none, .nothing⟩]

/-- Sets what may be given once. -/
def once {α : Type} (given : Option α) (a : α) : Option (Option α) :=
  match given with
  | none => some (some a)
  | some _ => none

/-- Sets a switch, which may be given once. -/
def onceOn (given : Bool) : Option Bool := if given then none else some true

namespace PickOptions

/-- Takes up one part of the arguments. -/
def add (o : PickOptions) : Part → Option PickOptions
  | .value "src" text => (once o.source text).map fun source => { o with source }
  | .value "dst" text => (once o.destination text).map fun destination => { o with destination }
  | .value "click" text => some { o with clicks := o.clicks ++ [text] }
  | .value "format" text => (once o.format text).map fun format => { o with format }
  | .value "base-url" text => (once o.baseUrl text).map fun baseUrl => { o with baseUrl }
  | .value "timeout-ms" text => do
    let n ← Decimal.readBelow? (1 <<< 64) text
    let timeoutMs ← once o.timeoutMs (UInt64.ofNat n)
    return { o with timeoutMs }
  | .value "config" text =>
    if text.isEmpty then none else (once o.config text).map fun config => { o with config }
  | .switch "route" => (onceOn o.route).map fun route => { o with route }
  | _ => none

end PickOptions

namespace ConfigOptions

/-- Takes up one part of the arguments. -/
def add (o : ConfigOptions) : Part → Option ConfigOptions
  | .word text => match o.key, o.value with
    | none, _ => some { o with key := some text }
    | some _, none => some { o with value := some text }
    | some _, some _ => none
  | .switch "path" => (onceOn o.path).map fun path => { o with path }
  | .switch "reset" => (onceOn o.reset).map fun reset => { o with reset }
  | _ => none

end ConfigOptions

/-- Takes up the parts of some arguments, and then looks at where they stop. -/
def conclude {α : Type} (add : α → Part → Option α) (start : α) (command : α → Invocation)
    (s : Scan) : Asked :=
  match s.parts.foldlM add start, s.stop with
  | none, _ => .unclear
  | some o, .atEnd => .run (command o)
  | some _, .atHelp => .about .help
  | some _, .atFault => .unclear

/-- Whether help about the named command can be asked for. -/
def hasHelp (words : List String) : Bool :=
  match words with
  | [] => true
  | [word] => word == "pick" || word == "config" || word == "help"
  | _ => false

/-- What the first argument asks for when it is no command. -/
def aboutOf (argument : String) : Asked :=
  match argument.toList with
  | '-' :: 'h' :: _ => .about .help
  | '-' :: 'V' :: _ => .about .version
  | _ =>
    if argument = "--help" then .about .help
    else if argument = "--version" then .about .version
    else .unclear

/-- Understands the arguments of the program. -/
def read : List String → Asked
  | [] => .unclear
  | "pick" :: rest => conclude PickOptions.add {} .pick (scan pickOptions rest)
  | "config" :: rest => conclude ConfigOptions.add {} .config (scan configOptions rest)
  | "help" :: rest => if hasHelp rest then .about .help else .unclear
  | argument :: _ => aboutOf argument

end Waymark.Program
