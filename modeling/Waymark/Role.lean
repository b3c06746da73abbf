import Waymark.Text.Blank

/-!
# Roles

A route has two ends. The role of a marker says which end it stands for.
-/

namespace Waymark

/-- An end of the route. -/
inductive Role where
  /-- Where the route starts. -/
  | source
  /-- Where the route ends. -/
  | destination
deriving DecidableEq, Repr

namespace Role

/-- The opposite end. -/
def other : Role → Role
  | .source => .destination
  | .destination => .source

/-- The short word in front of a marker's label. -/
def label : Role → String
  | .source => "Source"
  | .destination => "Dest."

/-- The name of a role. -/
def name : Role → String
  | .source => "source"
  | .destination => "destination"

/-- Reads a role by its name or a short form of it, in letters of any case. -/
def parse? (text : String) : Option Role :=
  let word := Text.lower text
  if word = "src" ∨ word = "source" then some .source
  else if word = "dest" ∨ word = "dst" ∨ word = "destination" then some .destination
  else none

/-- The role with exactly the given name. -/
def ofName? (text : String) : Option Role :=
  if text = "source" then some .source
  else if text = "destination" then some .destination
  else none

end Role

end Waymark
