import PlantPlot.Turtle.Basic
import PlantPlot.Grammar.Engine

/-!
# Plotter settings

The settings of a plotting session: the canvas size, the turtle's step and start, the ceilings of
rewriting and of saved turtles, and whether replay loops. A session without a start position
starts at the centre of the canvas, computed in binary32 from the rounded width and height.
-/

namespace PlantPlot

/-- The settings of a plotting session. -/
structure PlotterConfig where
  canvasWidth : Nat
  canvasHeight : Nat
  step : Float32
  /-- The heading that every load starts with. -/
  initialHeading : Float32
  /-- The position that every load starts at; the canvas centre if none. -/
  initialPosition : Option Point
  /-- The most symbols a generation may hold. -/
  maxSymbols : Nat
  /-- The most generations a program may ask for. -/
  maxGenerations : Nat
  /-- The most turtles that may be saved at once. -/
  maxStackDepth : Nat
  /-- Whether replay starts over after the last command. -/
  looping : Bool
  deriving Inhabited

namespace PlotterConfig

/-- A looping 1500 × 1500 canvas, steps of 5 starting upward at the centre, and the standard
ceilings. -/
def standard : PlotterConfig where
  canvasWidth := 1500
  canvasHeight := 1500
  step := 5
  initialHeading := 270
  initialPosition := none
  maxSymbols := Engine.standard.maxSymbols
  maxGenerations := Engine.standard.maxGenerations
  maxStackDepth := TurtleConfig.standard.maxStackDepth
  looping := true

/-- Where every load starts the turtle. -/
def origin (config : PlotterConfig) : Point :=
  config.initialPosition.getD
    ⟨Binary32.ofNat config.canvasWidth / 2, Binary32.ofNat config.canvasHeight / 2⟩

/-- The replay settings for a program turning by `delta`. -/
def turtle (config : PlotterConfig) (delta : Float32) : TurtleConfig where
  step := config.step
  delta := delta
  initialHeading := config.initialHeading
  initialPosition := config.origin
  maxStackDepth := config.maxStackDepth

/-- The ceilings of rewriting. -/
def engine (config : PlotterConfig) : Engine :=
  ⟨config.maxSymbols, config.maxGenerations⟩

end PlotterConfig

end PlantPlot
