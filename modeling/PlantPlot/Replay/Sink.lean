import PlantPlot.Canvas.Basic

/-!
# Where segments go

A replay hands every forward step to a sink as a segment between two unfolded points of the
plane. A list of segments keeps them as they came; a canvas draws them, or counts them as
clipped.
-/

namespace PlantPlot

/-- A straight draw request between two points of the plane. -/
structure Segment where
  /-- Where the turtle stood. -/
  start : Point
  /-- Where the turtle stepped to. -/
  finish : Point

/-- A receiver of segments. -/
class Sink (σ : Type) where
  /-- The sink after receiving the segment from `start` to `finish`. -/
  draw : σ → Point → Point → σ

instance : Sink (Array Segment) where
  draw segments start finish := segments.push ⟨start, finish⟩

instance : Sink Canvas where
  draw canvas start finish := (canvas.draw start finish).2

end PlantPlot
