import Mathlib
import PlantPlot.Canvas.Line

/-!
# Bresenham's walk

The walk between two pixels is described by the distances `r = (rx, ry)` it has left to go along
each axis: at `r` it stands at `pixelAt r`, carries the error term `errorAt r`, and one step takes
it to `advance r`. The error term stays within bounds that Bresenham's steps keep (`Remaining`),
and within them a step never overshoots an axis and always shortens the longer leg. So the walk
visits the pixels of `trail`, ends at the last pixel after exactly `max dx dy + 1` pixels whatever
fuel is left over, never visits a pixel twice, moves by at most one along each axis per step and
stays inside the box the two ends span.

Main statements: `walkLine_eq_foldl_linePixels`, `linePixels_length`, `linePixels_nodup`,
`linePixels_chain` and `mem_linePixels_box`.
-/

namespace PlantPlot

namespace LineWalk

/-- Unit steps along both axes, with `dx` at least and `dy` at most zero. -/
structure Proper (walk : LineWalk) : Prop where
  dx_nonneg : 0 ≤ walk.dx
  dy_nonpos : walk.dy ≤ 0
  stepX_unit : walk.stepX = 1 ∨ walk.stepX = -1
  stepY_unit : walk.stepY = 1 ∨ walk.stepY = -1

theorem proper_between (fromX fromY toX toY : Int) : (between fromX fromY toX toY).Proper where
  dx_nonneg := by simp [between]
  dy_nonpos := by simp [between]
  stepX_unit := by by_cases ahead : fromX < toX <;> simp [between, ahead]
  stepY_unit := by by_cases ahead : fromY < toY <;> simp [between, ahead]

/-- The pixel `r.1` steps along `x` and `r.2` steps along `y` short of the last pixel. -/
def pixelAt (walk : LineWalk) (r : Nat × Nat) : Int × Int :=
  (walk.toX - walk.stepX * r.1, walk.toY - walk.stepY * r.2)

/-- The error term of the walk at `pixelAt r`. -/
def errorAt (walk : LineWalk) (r : Nat × Nat) : Int :=
  walk.dx + walk.dy - walk.dy * r.1 - walk.dx * r.2

/-- The distances left after one step from `r`. -/
def advance (walk : LineWalk) (r : Nat × Nat) : Nat × Nat :=
  (if walk.dy ≤ 2 * walk.errorAt r then r.1 - 1 else r.1,
    if 2 * walk.errorAt r ≤ walk.dx then r.2 - 1 else r.2)

/-- The distances left at each pixel the walk visits from `r`, for at most `fuel` pixels. -/
def trail (walk : LineWalk) : Nat → Nat × Nat → List (Nat × Nat)
  | 0, _ => []
  | fuel + 1, r => if r = (0, 0) then [(0, 0)] else r :: walk.trail fuel (walk.advance r)

/-- The distance left along the longer leg. -/
def major (walk : LineWalk) (r : Nat × Nat) : Nat :=
  if -walk.dy ≤ walk.dx then r.1 else r.2

/-- Distances within the legs at which twice the error term, less `dx + dy`, lies between
`min (1 - dx) dy` and `max (-dy - 1) dx`: the bounds that every step keeps. -/
structure Remaining (walk : LineWalk) (r : Nat × Nat) : Prop where
  x_le : (r.1 : Int) ≤ walk.dx
  y_le : (r.2 : Int) ≤ -walk.dy
  error_lower : min (1 - walk.dx) walk.dy ≤ 2 * (walk.errorAt r - walk.dx - walk.dy)
  error_upper : 2 * (walk.errorAt r - walk.dx - walk.dy) ≤ max (-walk.dy - 1) walk.dx

variable {walk : LineWalk} {r : Nat × Nat}

theorem pixelAt_zero : walk.pixelAt (0, 0) = (walk.toX, walk.toY) := by
  simp [pixelAt]

theorem pixelAt_injective (proper : walk.Proper) {q : Nat × Nat}
    (same : walk.pixelAt r = walk.pixelAt q) : r = q := by
  obtain ⟨sameX, sameY⟩ := Prod.mk.inj same
  have firsts : (r.1 : Int) = q.1 := by
    rcases proper.stepX_unit with unit | unit <;> rw [unit] at sameX <;> omega
  have seconds : (r.2 : Int) = q.2 := by
    rcases proper.stepY_unit with unit | unit <;> rw [unit] at sameY <;> omega
  exact Prod.ext (by exact_mod_cast firsts) (by exact_mod_cast seconds)

theorem pixelAt_ne_last (proper : walk.Proper) (moving : r ≠ (0, 0)) :
    ¬((walk.pixelAt r).1 = walk.toX ∧ (walk.pixelAt r).2 = walk.toY) := by
  intro atLast
  apply moving
  apply pixelAt_injective proper
  rw [pixelAt_zero]
  exact Prod.ext atLast.1 atLast.2

theorem errorAt_pred_fst {r : Nat × Nat} (within : 1 ≤ r.1) :
    walk.errorAt (r.1 - 1, r.2) = walk.errorAt r + walk.dy := by
  simp only [errorAt]
  push_cast [within]
  ring

theorem errorAt_pred_snd {r : Nat × Nat} (within : 1 ≤ r.2) :
    walk.errorAt (r.1, r.2 - 1) = walk.errorAt r + walk.dx := by
  simp only [errorAt]
  push_cast [within]
  ring

theorem advance_le (r : Nat × Nat) :
    (walk.advance r).1 ≤ r.1 ∧ r.1 ≤ (walk.advance r).1 + 1 ∧
      (walk.advance r).2 ≤ r.2 ∧ r.2 ≤ (walk.advance r).2 + 1 := by
  simp only [advance]
  split <;> split <;> omega

/-! ## What one step does -/

/-- On the last column, with rows still to go, the walk does not step along `x`. -/
theorem Remaining.stays_on_last_column (proper : walk.Proper) {ry : Nat}
    (remaining : walk.Remaining (0, ry)) (rows : 1 ≤ ry) : 2 * walk.errorAt (0, ry) < walk.dy := by
  have scaled : walk.dx ≤ walk.dx * ry :=
    le_mul_of_one_le_right proper.dx_nonneg (by exact_mod_cast rows)
  have tall := remaining.y_le
  -- there the error term is `dx + dy - dx * ry`, at most `dy - 1` below `dx + dy - dx`
  simp only [errorAt, Nat.cast_zero, mul_zero, sub_zero] at tall ⊢
  omega

/-- On the last row, with columns still to go, the walk does not step along `y`. -/
theorem Remaining.stays_on_last_row (proper : walk.Proper) {rx : Nat}
    (remaining : walk.Remaining (rx, 0)) (columns : 1 ≤ rx) : walk.dx < 2 * walk.errorAt (rx, 0) := by
  have scaled : walk.dy * rx ≤ walk.dy := by
    have atLeastOne : (1 : Int) ≤ rx := by exact_mod_cast columns
    nlinarith [proper.dy_nonpos]
  have wide := remaining.x_le
  simp only [errorAt, Nat.cast_zero, mul_zero, sub_zero] at wide ⊢
  omega

theorem Remaining.fst_pos_of_step (proper : walk.Proper) (remaining : walk.Remaining r)
    (moving : r ≠ (0, 0)) (steps : walk.dy ≤ 2 * walk.errorAt r) : 1 ≤ r.1 := by
  obtain ⟨rx, ry⟩ := r
  by_contra onColumn
  obtain rfl : rx = 0 := by simpa using onColumn
  have rows : 1 ≤ ry := by
    rcases Nat.eq_zero_or_pos ry with rfl | positive
    · exact absurd rfl moving
    · exact positive
  exact absurd steps (not_le.2 (remaining.stays_on_last_column proper rows))

theorem Remaining.snd_pos_of_step (proper : walk.Proper) (remaining : walk.Remaining r)
    (moving : r ≠ (0, 0)) (steps : 2 * walk.errorAt r ≤ walk.dx) : 1 ≤ r.2 := by
  obtain ⟨rx, ry⟩ := r
  by_contra onRow
  obtain rfl : ry = 0 := by simpa using onRow
  have columns : 1 ≤ rx := by
    rcases Nat.eq_zero_or_pos rx with rfl | positive
    · exact absurd rfl moving
    · exact positive
  exact absurd steps (not_le.2 (remaining.stays_on_last_row proper columns))

/-- The error term after a step that stays within the legs. -/
theorem errorAt_advance (proper : walk.Proper) (remaining : walk.Remaining r)
    (moving : r ≠ (0, 0)) :
    walk.errorAt (walk.advance r) = walk.errorAt r +
      (if walk.dy ≤ 2 * walk.errorAt r then walk.dy else 0) +
      (if 2 * walk.errorAt r ≤ walk.dx then walk.dx else 0) := by
  by_cases stepsX : walk.dy ≤ 2 * walk.errorAt r <;>
    by_cases stepsY : 2 * walk.errorAt r ≤ walk.dx <;>
    simp only [advance, stepsX, stepsY, if_true, if_false, add_zero]
  · have columns := remaining.fst_pos_of_step proper moving stepsX
    have rows := remaining.snd_pos_of_step proper moving stepsY
    rw [errorAt_pred_snd (r := (r.1 - 1, r.2)) rows, errorAt_pred_fst columns]
  · exact errorAt_pred_fst (remaining.fst_pos_of_step proper moving stepsX)
  · exact errorAt_pred_snd (remaining.snd_pos_of_step proper moving stepsY)

theorem pixelAt_advance (proper : walk.Proper) (remaining : walk.Remaining r)
    (moving : r ≠ (0, 0)) :
    walk.pixelAt (walk.advance r) =
      (if walk.dy ≤ 2 * walk.errorAt r then (walk.pixelAt r).1 + walk.stepX
        else (walk.pixelAt r).1,
       if 2 * walk.errorAt r ≤ walk.dx then (walk.pixelAt r).2 + walk.stepY
        else (walk.pixelAt r).2) := by
  have alongX : (if walk.dy ≤ 2 * walk.errorAt r then r.1 - 1 else r.1 : Nat) =
      (r.1 : Int) - if walk.dy ≤ 2 * walk.errorAt r then 1 else 0 := by
    split
    · next steps =>
      have columns := remaining.fst_pos_of_step proper moving steps
      omega
    · simp
  have alongY : (if 2 * walk.errorAt r ≤ walk.dx then r.2 - 1 else r.2 : Nat) =
      (r.2 : Int) - if 2 * walk.errorAt r ≤ walk.dx then 1 else 0 := by
    split
    · next steps =>
      have rows := remaining.snd_pos_of_step proper moving steps
      omega
    · simp
  simp only [pixelAt, advance, alongX, alongY, Prod.mk.injEq]
  constructor <;> split <;> ring

/-- A step keeps the error term within its bounds. -/
theorem Remaining.advance (proper : walk.Proper) (remaining : walk.Remaining r)
    (moving : r ≠ (0, 0)) : walk.Remaining (walk.advance r) := by
  have error := errorAt_advance proper remaining moving
  have bounds := @advance_le walk r
  have nonneg := proper.dx_nonneg
  have nonpos := proper.dy_nonpos
  obtain ⟨wide, tall, lower, upper⟩ := remaining
  -- the error term moves by `dy` with a step along `x` and by `dx` with one along `y`
  refine ⟨by omega, by omega, ?_, ?_⟩ <;> rw [error] <;>
    by_cases stepsX : walk.dy ≤ 2 * walk.errorAt r <;>
    by_cases stepsY : 2 * walk.errorAt r ≤ walk.dx <;>
    simp only [stepsX, stepsY, if_true, if_false] <;> omega

theorem Remaining.steps_x_of_wide (remaining : walk.Remaining r) (wide : -walk.dy ≤ walk.dx) :
    walk.dy ≤ 2 * walk.errorAt r := by
  have lower := remaining.error_lower
  omega

theorem Remaining.steps_y_of_tall (remaining : walk.Remaining r) (tall : walk.dx ≤ -walk.dy) :
    2 * walk.errorAt r ≤ walk.dx := by
  have upper := remaining.error_upper
  omega

/-- Every step shortens the longer leg by one. -/
theorem major_advance (proper : walk.Proper) (remaining : walk.Remaining r)
    (moving : r ≠ (0, 0)) : walk.major (walk.advance r) + 1 = walk.major r := by
  -- the axis of the longer leg steps every time, and never past the last pixel
  unfold major
  split
  · next wide =>
    have steps := remaining.steps_x_of_wide wide
    have columns := remaining.fst_pos_of_step proper moving steps
    simp only [advance, steps, if_true]
    omega
  · next notWide =>
    have steps := remaining.steps_y_of_tall (by omega)
    have rows := remaining.snd_pos_of_step proper moving steps
    simp only [advance, steps, if_true]
    omega

/-! ## The visited pixels -/

theorem walkLine_succ_of_ne {α : Type} (visit : α → Int × Int → α) (fuel : Nat) {x y : Int}
    (error : Int) (done : α) (notLast : ¬(x = walk.toX ∧ y = walk.toY)) :
    walkLine visit walk (fuel + 1) x y error done =
      walkLine visit walk fuel (if walk.dy ≤ 2 * error then x + walk.stepX else x)
        (if 2 * error ≤ walk.dx then y + walk.stepY else y)
        (error + (if walk.dy ≤ 2 * error then walk.dy else 0) +
          (if 2 * error ≤ walk.dx then walk.dx else 0))
        (visit done (x, y)) := by
  rw [walkLine, if_neg notLast]
  by_cases stepsX : walk.dy ≤ 2 * error <;> by_cases stepsY : 2 * error ≤ walk.dx <;>
    simp [stepsX, stepsY, Int.add_assoc]

theorem walkLine_at_succ {α : Type} (proper : walk.Proper) (remaining : walk.Remaining r)
    (moving : r ≠ (0, 0)) (visit : α → Int × Int → α) (fuel : Nat) (done : α) :
    walkLine visit walk (fuel + 1) (walk.pixelAt r).1 (walk.pixelAt r).2 (walk.errorAt r) done =
      walkLine visit walk fuel (walk.pixelAt (walk.advance r)).1
        (walk.pixelAt (walk.advance r)).2 (walk.errorAt (walk.advance r))
        (visit done (walk.pixelAt r)) := by
  rw [walkLine_succ_of_ne visit fuel _ done (pixelAt_ne_last proper moving),
    pixelAt_advance proper remaining moving, errorAt_advance proper remaining moving]

/-- From distances within its bounds, the walk visits the pixels of its trail in order. -/
theorem walkLine_eq_foldl_trail {α : Type} (proper : walk.Proper) (visit : α → Int × Int → α)
    (fuel : Nat) : ∀ {r : Nat × Nat} (done : α), walk.Remaining r →
      walkLine visit walk fuel (walk.pixelAt r).1 (walk.pixelAt r).2 (walk.errorAt r) done =
        ((walk.trail fuel r).map walk.pixelAt).foldl visit done := by
  induction fuel with
  | zero => intro r done _; rfl
  | succ fuel ih =>
    intro r done remaining
    by_cases moving : r = (0, 0)
    · subst moving
      simp [walkLine, trail, pixelAt_zero]
    · rw [walkLine_at_succ proper remaining moving, ih _ (remaining.advance proper moving),
        trail, if_neg moving, List.map_cons, List.foldl_cons]

theorem trail_succ_of_ne (fuel : Nat) (moving : r ≠ (0, 0)) :
    walk.trail (fuel + 1) r = r :: walk.trail fuel (walk.advance r) := by
  simp [trail, moving]

/-- Enough fuel for the longer leg is enough: the walk stops at the last pixel on its own. -/
theorem trail_eq_of_major_lt (proper : walk.Proper) (fuel : Nat) :
    ∀ {r : Nat × Nat}, walk.Remaining r → walk.major r < fuel →
      walk.trail fuel r = walk.trail (walk.major r + 1) r := by
  induction fuel with
  | zero => intro r _ enough; omega
  | succ fuel ih =>
    intro r remaining enough
    by_cases moving : r = (0, 0)
    · subst moving
      simp [trail]
    · have shortened := major_advance proper remaining moving
      rw [trail_succ_of_ne fuel moving, ← shortened, trail_succ_of_ne _ moving,
        ih (remaining.advance proper moving) (by omega)]

theorem trail_length (proper : walk.Proper) (fuel : Nat) :
    ∀ {r : Nat × Nat}, walk.Remaining r → walk.major r < fuel →
      (walk.trail fuel r).length = walk.major r + 1 := by
  induction fuel with
  | zero => intro r _ enough; omega
  | succ fuel ih =>
    intro r remaining enough
    by_cases moving : r = (0, 0)
    · subst moving
      simp [trail, major]
    · have shortened := major_advance proper remaining moving
      rw [trail_succ_of_ne fuel moving, List.length_cons,
        ih (remaining.advance proper moving) (by omega), shortened]

theorem trail_getLast? (proper : walk.Proper) (fuel : Nat) :
    ∀ {r : Nat × Nat}, walk.Remaining r → walk.major r < fuel →
      (walk.trail fuel r).getLast? = some (0, 0) := by
  induction fuel with
  | zero => intro r _ enough; omega
  | succ fuel ih =>
    intro r remaining enough
    by_cases moving : r = (0, 0)
    · subst moving
      simp [trail]
    · have shortened := major_advance proper remaining moving
      have rest := ih (remaining.advance proper moving) (by omega)
      rw [trail_succ_of_ne fuel moving, List.getLast?_cons, rest]
      rfl

theorem trail_head? (fuel : Nat) (r : Nat × Nat) : (walk.trail (fuel + 1) r).head? = some r := by
  by_cases moving : r = (0, 0)
  · subst moving
    simp [trail]
  · simp [trail_succ_of_ne fuel moving]

/-- Every pixel of the trail is within bounds and no farther from the end than the start. -/
theorem mem_trail (proper : walk.Proper) (fuel : Nat) :
    ∀ {r q : Nat × Nat}, walk.Remaining r → q ∈ walk.trail fuel r →
      walk.Remaining q ∧ q.1 ≤ r.1 ∧ q.2 ≤ r.2 := by
  induction fuel with
  | zero => intro r q _ member; simp [trail] at member
  | succ fuel ih =>
    intro r q remaining member
    by_cases moving : r = (0, 0)
    · subst moving
      simp only [trail, if_true, List.mem_singleton] at member
      subst member
      exact ⟨remaining, le_refl _, le_refl _⟩
    · rw [trail_succ_of_ne fuel moving, List.mem_cons] at member
      rcases member with rfl | later
      · exact ⟨remaining, le_refl _, le_refl _⟩
      · obtain ⟨laterRemaining, first, second⟩ := ih (remaining.advance proper moving) later
        have bounds := @advance_le walk r
        exact ⟨laterRemaining, by omega, by omega⟩

/-- Along the trail the distances left strictly shrink, so no pixel comes twice. -/
theorem trail_pairwise (proper : walk.Proper) (fuel : Nat) :
    ∀ {r : Nat × Nat}, walk.Remaining r →
      (walk.trail fuel r).Pairwise fun q q' => q'.1 + q'.2 < q.1 + q.2 := by
  induction fuel with
  | zero => intro r _; simp [trail]
  | succ fuel ih =>
    intro r remaining
    by_cases moving : r = (0, 0)
    · subst moving
      simp [trail]
    · have next := remaining.advance proper moving
      have shortened := major_advance proper remaining moving
      have bounds := @advance_le walk r
      rw [trail_succ_of_ne fuel moving, List.pairwise_cons]
      refine ⟨fun q member => ?_, ih next⟩
      obtain ⟨-, first, second⟩ := mem_trail proper fuel next member
      unfold major at shortened
      split at shortened <;> omega

theorem trail_chain (fuel : Nat) (r : Nat × Nat) :
    (walk.trail fuel r).IsChain fun q q' =>
      q'.1 ≤ q.1 ∧ q.1 ≤ q'.1 + 1 ∧ q'.2 ≤ q.2 ∧ q.2 ≤ q'.2 + 1 := by
  induction fuel generalizing r with
  | zero => exact List.isChain_nil
  | succ fuel ih =>
    by_cases moving : r = (0, 0)
    · subst moving
      simp only [trail, if_true]
      exact List.isChain_singleton _
    · rw [trail_succ_of_ne fuel moving, List.isChain_cons]
      refine ⟨fun q first => ?_, ih _⟩
      cases fuel with
      | zero => simp [trail] at first
      | succ fuel =>
        rw [trail_head?, Option.mem_some_iff] at first
        subst first
        exact advance_le r

end LineWalk

/-! ## The line between two pixels -/

section Line

variable (fromX fromY toX toY : Int)

theorem LineWalk.between_pixelAt_start :
    (LineWalk.between fromX fromY toX toY).pixelAt
      ((toX - fromX).natAbs, (toY - fromY).natAbs) = (fromX, fromY) := by
  simp only [LineWalk.pixelAt, LineWalk.between, Prod.mk.injEq]
  constructor <;> split <;> omega

theorem LineWalk.between_errorAt_start :
    (LineWalk.between fromX fromY toX toY).errorAt ((toX - fromX).natAbs, (toY - fromY).natAbs) =
      (LineWalk.between fromX fromY toX toY).dx + (LineWalk.between fromX fromY toX toY).dy := by
  simp only [LineWalk.errorAt, LineWalk.between]
  ring

theorem LineWalk.between_remaining_start :
    (LineWalk.between fromX fromY toX toY).Remaining
      ((toX - fromX).natAbs, (toY - fromY).natAbs) := by
  have start := LineWalk.between_errorAt_start fromX fromY toX toY
  refine ⟨by simp [LineWalk.between], by simp [LineWalk.between], ?_, ?_⟩ <;>
    rw [start] <;> simp only [LineWalk.between] <;> omega

theorem LineWalk.between_major_start :
    (LineWalk.between fromX fromY toX toY).major ((toX - fromX).natAbs, (toY - fromY).natAbs) =
      max (toX - fromX).natAbs (toY - fromY).natAbs := by
  simp only [LineWalk.major, LineWalk.between, neg_neg, Nat.cast_le]
  split <;> omega

theorem LineWalk.between_major_start_lt :
    (LineWalk.between fromX fromY toX toY).major ((toX - fromX).natAbs, (toY - fromY).natAbs) <
      (toX - fromX).natAbs + (toY - fromY).natAbs + 1 := by
  rw [LineWalk.between_major_start]
  omega

theorem walkLine_eq_foldl_trail_start {α : Type} (visit : α → Int × Int → α) (init : α)
    (fuel : Nat) :
    walkLine visit (LineWalk.between fromX fromY toX toY) fuel fromX fromY
        ((LineWalk.between fromX fromY toX toY).dx + (LineWalk.between fromX fromY toX toY).dy)
        init =
      (((LineWalk.between fromX fromY toX toY).trail fuel
        ((toX - fromX).natAbs, (toY - fromY).natAbs)).map
          (LineWalk.between fromX fromY toX toY).pixelAt).foldl visit init := by
  have walked := LineWalk.walkLine_eq_foldl_trail (LineWalk.proper_between fromX fromY toX toY)
    visit fuel init (LineWalk.between_remaining_start fromX fromY toX toY)
  rwa [LineWalk.between_pixelAt_start, LineWalk.between_errorAt_start] at walked

theorem linePixels_eq_map_trail :
    linePixels fromX fromY toX toY =
      ((LineWalk.between fromX fromY toX toY).trail
        ((toX - fromX).natAbs + (toY - fromY).natAbs + 1)
        ((toX - fromX).natAbs, (toY - fromY).natAbs)).map
          (LineWalk.between fromX fromY toX toY).pixelAt := by
  rw [linePixels, foldLine, walkLine_eq_foldl_trail_start, List.foldl_flip_cons_eq_append',
    List.append_nil, List.reverse_reverse]

theorem linePixels_eq_map_major :
    linePixels fromX fromY toX toY =
      ((LineWalk.between fromX fromY toX toY).trail
        (max (toX - fromX).natAbs (toY - fromY).natAbs + 1)
        ((toX - fromX).natAbs, (toY - fromY).natAbs)).map
          (LineWalk.between fromX fromY toX toY).pixelAt := by
  rw [linePixels_eq_map_trail, LineWalk.trail_eq_of_major_lt
    (LineWalk.proper_between fromX fromY toX toY) _
    (LineWalk.between_remaining_start fromX fromY toX toY)
    (LineWalk.between_major_start_lt fromX fromY toX toY), LineWalk.between_major_start]

/-- The walk ends by reaching the last pixel, not by running out of fuel: any fuel beyond the
longer leg visits exactly the pixels of the line. -/
theorem walkLine_eq_foldl_linePixels {α : Type} (visit : α → Int × Int → α) (init : α)
    (fuel : Nat) (enough : max (toX - fromX).natAbs (toY - fromY).natAbs < fuel) :
    walkLine visit (LineWalk.between fromX fromY toX toY) fuel fromX fromY
        ((LineWalk.between fromX fromY toX toY).dx + (LineWalk.between fromX fromY toX toY).dy)
        init =
      (linePixels fromX fromY toX toY).foldl visit init := by
  rw [walkLine_eq_foldl_trail_start, linePixels_eq_map_major,
    LineWalk.trail_eq_of_major_lt (LineWalk.proper_between fromX fromY toX toY) _
      (LineWalk.between_remaining_start fromX fromY toX toY)
      (by rwa [LineWalk.between_major_start]),
    LineWalk.between_major_start]

theorem foldLine_eq_foldl {α : Type} (visit : α → Int × Int → α) (init : α) :
    foldLine visit init fromX fromY toX toY = (linePixels fromX fromY toX toY).foldl visit init :=
  walkLine_eq_foldl_linePixels fromX fromY toX toY visit init _ (by omega)

theorem linePixels_length :
    (linePixels fromX fromY toX toY).length =
      max (toX - fromX).natAbs (toY - fromY).natAbs + 1 := by
  rw [linePixels_eq_map_trail, List.length_map, LineWalk.trail_length
    (LineWalk.proper_between fromX fromY toX toY) _
    (LineWalk.between_remaining_start fromX fromY toX toY)
    (LineWalk.between_major_start_lt fromX fromY toX toY), LineWalk.between_major_start]

theorem linePixels_head? : (linePixels fromX fromY toX toY).head? = some (fromX, fromY) := by
  rw [linePixels_eq_map_trail, List.head?_map, LineWalk.trail_head?, Option.map_some,
    LineWalk.between_pixelAt_start]

theorem linePixels_getLast? : (linePixels fromX fromY toX toY).getLast? = some (toX, toY) := by
  rw [linePixels_eq_map_trail, List.getLast?_map, LineWalk.trail_getLast?
    (LineWalk.proper_between fromX fromY toX toY) _
    (LineWalk.between_remaining_start fromX fromY toX toY)
    (LineWalk.between_major_start_lt fromX fromY toX toY), Option.map_some, LineWalk.pixelAt_zero]
  rfl

theorem linePixels_nodup : (linePixels fromX fromY toX toY).Nodup := by
  rw [linePixels_eq_map_trail]
  have proper := LineWalk.proper_between fromX fromY toX toY
  refine List.Nodup.map (fun r q same => LineWalk.pixelAt_injective proper same) ?_
  refine (LineWalk.trail_pairwise proper _
    (LineWalk.between_remaining_start fromX fromY toX toY)).imp ?_
  intro q q' shorter same
  subst same
  omega

theorem linePixels_chain :
    (linePixels fromX fromY toX toY).IsChain fun p q =>
      (p.1 - q.1).natAbs ≤ 1 ∧ (p.2 - q.2).natAbs ≤ 1 := by
  rw [linePixels_eq_map_trail]
  have proper := LineWalk.proper_between fromX fromY toX toY
  refine List.isChain_map_of_isChain _ ?_ (LineWalk.trail_chain _ _)
  intro q q' close
  simp only [LineWalk.pixelAt]
  rcases proper.stepX_unit with unitX | unitX <;> rcases proper.stepY_unit with unitY | unitY <;>
    rw [unitX, unitY] <;> omega

/-- Every pixel of the line lies in the box its two ends span. -/
theorem mem_linePixels_box {p : Int × Int} (member : p ∈ linePixels fromX fromY toX toY) :
    min fromX toX ≤ p.1 ∧ p.1 ≤ max fromX toX ∧ min fromY toY ≤ p.2 ∧ p.2 ≤ max fromY toY := by
  rw [linePixels_eq_map_trail, List.mem_map] at member
  obtain ⟨q, inTrail, rfl⟩ := member
  obtain ⟨-, first, second⟩ := LineWalk.mem_trail (LineWalk.proper_between fromX fromY toX toY)
    _ (LineWalk.between_remaining_start fromX fromY toX toY) inTrail
  simp only [LineWalk.pixelAt, LineWalk.between]
  constructor <;> [skip; constructor <;> [skip; constructor]] <;> split <;> omega

end Line

end PlantPlot
