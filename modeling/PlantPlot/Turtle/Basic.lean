import PlantPlot.Binary32.Integer

/-!
# The turtle

The turtle walks the plane with binary32 coordinates: a position and a heading in degrees, which
is never folded back into a turn. Its direction is the unit vector `(cos r, sin r)` of the heading
`r` in radians, and a step moves it by the direction times the step length, coordinate by
coordinate, each product rounded before the sum. Headings grow to the left: with the y axis
pointing down the screen, a heading of 270 degrees points up.
-/

namespace PlantPlot

/-- A point, or a vector, of the plane. -/
structure Point where
  /-- The coordinate along the row, growing to the right. -/
  x : Float32
  /-- The coordinate across the rows, growing down the screen. -/
  y : Float32
  deriving Inhabited

namespace Point

instance : Add Point := ⟨fun p q => ⟨p.x + q.x, p.y + q.y⟩⟩

instance : Sub Point := ⟨fun p q => ⟨p.x - q.x, p.y - q.y⟩⟩

/-- The vector with both coordinates multiplied by `k`. -/
def scale (p : Point) (k : Float32) : Point :=
  ⟨p.x * k, p.y * k⟩

end Point

/-- The factor that turns degrees into radians: π rounded to binary32, then divided by 180 in
binary32. -/
def radiansPerDegree : Float32 :=
  Float32.ofBits 0x40490FDB / 180

/-- Where the turtle is and where it faces. -/
structure Turtle where
  /-- The position; it is not folded onto any canvas. -/
  position : Point
  /-- The heading in degrees, growing to the left. -/
  heading : Float32
  deriving Inhabited

namespace Turtle

/-- The unit vector of the heading. -/
def direction (turtle : Turtle) : Point :=
  let radians := turtle.heading * radiansPerDegree
  ⟨radians.cos, radians.sin⟩

/-- The position one step of the given length ahead. -/
def ahead (turtle : Turtle) (step : Float32) : Point :=
  turtle.position + turtle.direction.scale step

/-- The turtle turned by `degrees`, to the left for a positive angle. -/
def turn (turtle : Turtle) (degrees : Float32) : Turtle :=
  { turtle with heading := turtle.heading + degrees }

/-- The heading folded into `[0, 360]`; it is 360 only for a tiny negative heading, whose
remainder rounds up. -/
def normalizedHeading (turtle : Turtle) : Float32 :=
  Binary32.euclideanRemainder turtle.heading 360

end Turtle

/-- The settings of a replay's turtle. -/
structure TurtleConfig where
  step : Float32
  /-- The turn angle, in degrees. -/
  delta : Float32
  /-- The heading that each replay starts with. -/
  initialHeading : Float32
  /-- The position that each replay starts at. -/
  initialPosition : Point
  /-- The most turtles that may be saved at once. -/
  maxStackDepth : Nat
  deriving Inhabited

namespace TurtleConfig

/-- Steps of 5, turns of 25.7 degrees, starting upward at (750, 750), with at most 1024 saved
turtles. -/
def standard : TurtleConfig where
  step := 5
  delta := 25.7
  initialHeading := 270
  initialPosition := ⟨750, 750⟩
  maxStackDepth := 1024

/-- The turtle at the start of a replay. -/
def start (config : TurtleConfig) : Turtle :=
  ⟨config.initialPosition, config.initialHeading⟩

end TurtleConfig

end PlantPlot
