import PlantPlot.Canvas.Line
import PlantPlot.Turtle.Basic
import PlantPlot.Fault
import Std.Data.TreeMap

/-!
# The wrap-around canvas

A canvas of `width × height` pixels covers one tile of the plane, and every point of the plane is
folded onto it: `x` by the Euclidean remainder of the width and `y` of the height, as binary32
numbers. Each pixel counts how many strokes crossed it, up to the largest 32-bit count.

A segment is drawn only when both ends lie in the same tile: a segment across a tile edge would
otherwise be drawn between its folded ends, right across the canvas. Such a segment is counted
as clipped instead. The tile of a point is derived from its folded point, so the two always
agree, also where the remainder of a tiny negative coordinate rounds up to the full width.

Only pixels that were hit are stored, ordered by row and then column.
-/

namespace PlantPlot

/-- A wrap-around raster of stroke counts. -/
structure Canvas where
  /-- The number of pixels in a row. -/
  width : Nat
  /-- The number of rows. -/
  height : Nat
  /-- The positive counts, by pixel index `y * width + x`. -/
  hits : Std.TreeMap Nat Nat
  /-- How many segments were drawn. -/
  drawn : Nat
  /-- How many segments were refused for crossing a tile edge. -/
  clipped : Nat

namespace Canvas

/-- The largest count a pixel holds. -/
def countLimit : Nat := Nat.pow 2 32 - 1

/-- A blank canvas, with at least one pixel and fewer than `2 ^ 64`. -/
def new (width height : Nat) : Except Fault Canvas :=
  if width * height = 0 ∨ Nat.pow 2 64 ≤ width * height then .error (.invalidCanvas width height)
  else .ok ⟨width, height, ∅, 0, 0⟩

/-- The size of a tile, as binary32 numbers. -/
def tileSize (canvas : Canvas) : Point :=
  ⟨Binary32.ofNat canvas.width, Binary32.ofNat canvas.height⟩

/-- The point folded onto the canvas. -/
def wrap (canvas : Canvas) (p : Point) : Point :=
  ⟨Binary32.euclideanRemainder p.x canvas.tileSize.x,
   Binary32.euclideanRemainder p.y canvas.tileSize.y⟩

/-- The tile of the plane that holds the point, as 32-bit column and row numbers. -/
def tileOf (canvas : Canvas) (p : Point) : Int × Int :=
  let offset := p - canvas.wrap p
  (Binary32.roundToInt32 (offset.x / canvas.tileSize.x),
   Binary32.roundToInt32 (offset.y / canvas.tileSize.y))

/-- The pixel coordinate of a folded coordinate: its whole part, at most `size - 1`. -/
def pixelCoordinate (value : Float32) (size : Nat) : Nat :=
  match Binary32.truncateToNat? value with
  | some whole => min whole (size - 1)
  | none => size - 1

/-- The pixel that holds a folded point. -/
def pixelOf (canvas : Canvas) (p : Point) : Nat × Nat :=
  (pixelCoordinate p.x canvas.width, pixelCoordinate p.y canvas.height)

/-- One more stroke across the pixel, up to the count limit. -/
def hit (canvas : Canvas) (pixel : Int × Int) : Canvas :=
  let index := pixel.2.toNat * canvas.width + pixel.1.toNat
  { canvas with
    hits := canvas.hits.alter index fun count => some (min (count.getD 0 + 1) countLimit) }

/-- Draws the segment if both ends lie in one tile, and tells whether it did. -/
def draw (canvas : Canvas) (start finish : Point) : Bool × Canvas :=
  if canvas.tileOf start ≠ canvas.tileOf finish then
    (false, { canvas with clipped := canvas.clipped + 1 })
  else
    let (fromX, fromY) := canvas.pixelOf (canvas.wrap start)
    let (toX, toY) := canvas.pixelOf (canvas.wrap finish)
    let painted := foldLine hit canvas fromX fromY toX toY
    (true, { painted with drawn := painted.drawn + 1 })

/-- The canvas blank again, with both segment counts zero. -/
def clear (canvas : Canvas) : Canvas :=
  { canvas with hits := ∅, drawn := 0, clipped := 0 }

/-- The count of a pixel, or none outside the canvas. -/
def pixel? (canvas : Canvas) (x y : Nat) : Option Nat :=
  if x < canvas.width ∧ y < canvas.height then some (canvas.hits.getD (y * canvas.width + x) 0)
  else none

/-- The number of pixels with a positive count. -/
def litCount (canvas : Canvas) : Nat :=
  canvas.hits.size

/-- The pixels with a positive count as `(x, y, count)`, row by row. -/
def litPixels (canvas : Canvas) : List (Nat × Nat × Nat) :=
  canvas.hits.toList.map fun (index, count) => (index % canvas.width, index / canvas.width, count)

end Canvas

end PlantPlot
