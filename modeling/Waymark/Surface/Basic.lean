import Waymark.Geo

/-!
# Surfaces

A surface is a map that shows markers and lines. `Surface σ` says what a session needs of one:
five operations on states of type `σ`. What a surface hands out is a handle, by which it is later
asked to remove what it added.
-/

namespace Waymark

/-- What a surface calls a marker. -/
structure MarkerHandle where
  /-- The number of the handle. -/
  id : Nat
deriving DecidableEq, Repr

/-- What a surface calls a line. -/
structure LineHandle where
  /-- The number of the handle. -/
  id : Nat
deriving DecidableEq, Repr

/-- How a line is drawn. -/
structure LineStyle where
  /-- The colour. -/
  color : String
  /-- The width in pixels. -/
  weight : UInt32
  /-- The opacity. -/
  opacity : Float

/-- The operations of a surface. -/
class Surface (σ : Type) where
  /-- Places a marker with a label. -/
  addMarker : Point → String → σ → MarkerHandle × σ
  /-- Removes a marker; nothing happens if there is none of that handle. -/
  removeMarker : MarkerHandle → σ → σ
  /-- Draws a line through some points, with a label. -/
  addLine : List Point → LineStyle → String → σ → LineHandle × σ
  /-- Removes a line; nothing happens if there is none of that handle. -/
  removeLine : LineHandle → σ → σ
  /-- Moves the view to a point at a zoom. -/
  centerOn : Point → UInt8 → σ → σ

end Waymark
