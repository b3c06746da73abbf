/-!
# Columns

A text in a column is filled with blanks up to the column's width, counted in characters, and
never cut by it; a precision cuts it first.
-/

namespace Waymark.Text

/-- Where a text stands in a column that is wider than it. -/
inductive Align where
  /-- At the left end. -/
  | left
  /-- At the right end. -/
  | right
  /-- In the middle, an odd blank going to the right. -/
  | center
deriving DecidableEq, Repr

/-- A text in a column of `width` characters, cut to `precision` characters before if one is
given. -/
def column (align : Align) (width : Nat) (precision : Option Nat) (s : String) : String :=
  let cs := match precision with
    | none => s.toList
    | some n => s.toList.take n
  let missing := width - cs.length
  let before := match align with
    | .left => 0
    | .right => missing
    | .center => missing / 2
  String.ofList (List.replicate before ' ' ++ cs ++ List.replicate (missing - before) ' ')

end Waymark.Text
