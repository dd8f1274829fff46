/-!
# Lines of pixels

The pixels of a line between two pixels, both ends included, by Bresenham's algorithm: an error
term tracks how far the walk is from the ideal line, and each step moves along `x`, along `y`,
or along both, whichever keeps the error smallest. The walk takes at most `dx + dy + 1` pixels,
which bounds the recursion.

`walkLine` hands each pixel to a visitor as it is reached, so that a canvas is painted without
building the list; `linePixels` is the list itself.
-/

namespace PlantPlot

/-- The direction and slope of a line walk. -/
structure LineWalk where
  /-- The last pixel's column. -/
  toX : Int
  /-- The last pixel's row. -/
  toY : Int
  /-- The distance along `x`, at least zero. -/
  dx : Int
  /-- The distance along `y`, negated, at most zero. -/
  dy : Int
  /-- One step along `x`, towards the last pixel. -/
  stepX : Int
  /-- One step along `y`, towards the last pixel. -/
  stepY : Int

/-- The walk from `(fromX, fromY)` to `(toX, toY)`. -/
def LineWalk.between (fromX fromY toX toY : Int) : LineWalk where
  toX := toX
  toY := toY
  dx := (toX - fromX).natAbs
  dy := -((toY - fromY).natAbs : Int)
  stepX := if fromX < toX then 1 else -1
  stepY := if fromY < toY then 1 else -1

/-- Visits the pixels of the walk from `(x, y)` with error term `error`, for at most `fuel`
pixels, handing each to `visit` in turn. -/
def walkLine {α : Type} (visit : α → Int × Int → α) (walk : LineWalk) :
    (fuel : Nat) → (x y error : Int) → α → α
  | 0, _, _, _, done => done
  | fuel + 1, x, y, error, done =>
    if x = walk.toX ∧ y = walk.toY then visit done (x, y)
    else
      let twice := 2 * error
      let (nextX, errorAfterX) :=
        if walk.dy ≤ twice then (x + walk.stepX, error + walk.dy) else (x, error)
      let (nextY, errorAfterY) :=
        if twice ≤ walk.dx then (y + walk.stepY, errorAfterX + walk.dx) else (y, errorAfterX)
      walkLine visit walk fuel nextX nextY errorAfterY (visit done (x, y))

/-- Visits the pixels of the line from `(fromX, fromY)` to `(toX, toY)` in the order they are
walked, starting from `init`. -/
def foldLine {α : Type} (visit : α → Int × Int → α) (init : α) (fromX fromY toX toY : Int) : α :=
  let walk := LineWalk.between fromX fromY toX toY
  walkLine visit walk ((toX - fromX).natAbs + (toY - fromY).natAbs + 1) fromX fromY
    (walk.dx + walk.dy) init

/-- The pixels of the line from `(fromX, fromY)` to `(toX, toY)`, in the order they are walked. -/
def linePixels (fromX fromY toX toY : Int) : List (Int × Int) :=
  (foldLine (fun done pixel => pixel :: done) [] fromX fromY toX toY).reverse

end PlantPlot
