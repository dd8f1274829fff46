import Mathlib
import PlantPlot.Canvas.Basic
import PlantPlot.Proofs.LineWalk

/-!
# Drawing on the wrap-around canvas

Every point of the plane, not-a-number and the infinities included, folds onto a pixel of the
canvas (`pixelOf_lt`). A segment whose ends share a tile is drawn as the line between the ends'
pixels, which lies on the canvas; since the line never visits a pixel twice, each of its pixels
gains exactly one stroke, up to the count limit, and no other pixel changes (`pixel?_foldl_hit`).
A segment across a tile edge only counts as clipped.

Main statement: `drawing_stays_on_canvas`.
-/

namespace PlantPlot

/-- Row-major indices of pixels within a row width are those of one pixel only. -/
theorem row_major_index_inj {width x y x' y' : Nat} (column : x < width) (column' : x' < width)
    (same : y * width + x = y' * width + x') : x = x' ∧ y = y' := by
  have remainders := congrArg (· % width) same
  have quotients := congrArg (· / width) same
  have positive : 0 < width := Nat.lt_of_le_of_lt (Nat.zero_le x) column
  simp only [Nat.mul_comm _ width, Nat.mul_add_mod, Nat.mod_eq_of_lt column,
    Nat.mod_eq_of_lt column'] at remainders
  simp only [Nat.mul_comm _ width, Nat.mul_add_div positive, Nat.div_eq_of_lt column,
    Nat.div_eq_of_lt column', Nat.add_zero] at quotients
  exact ⟨remainders, quotients⟩

namespace Canvas

variable {canvas : Canvas}

/-- A pixel of the canvas, as integer coordinates. -/
def OnCanvas (canvas : Canvas) (pixel : Int × Int) : Prop :=
  0 ≤ pixel.1 ∧ pixel.1 < canvas.width ∧ 0 ≤ pixel.2 ∧ pixel.2 < canvas.height

instance (canvas : Canvas) (pixel : Int × Int) : Decidable (canvas.OnCanvas pixel) :=
  inferInstanceAs (Decidable (0 ≤ pixel.1 ∧ pixel.1 < canvas.width ∧ 0 ≤ pixel.2 ∧
    pixel.2 < canvas.height))

theorem new_eq_ok {width height : Nat} (made : Canvas.new width height = .ok canvas) :
    0 < width ∧ 0 < height ∧ width * height < 2 ^ 64 ∧ canvas = ⟨width, height, ∅, 0, 0⟩ := by
  unfold Canvas.new at made
  split at made
  · cases made
  · next sized =>
    cases made
    refine ⟨Nat.pos_of_ne_zero fun zero => sized (.inl ?_),
      Nat.pos_of_ne_zero fun zero => sized (.inl ?_), ?_, rfl⟩
    · simp [zero]
    · simp [zero]
    · exact Nat.lt_of_not_le fun above => sized (.inr above)

theorem pixel?_new {width height : Nat} (made : Canvas.new width height = .ok canvas) (x y : Nat) :
    canvas.pixel? x y = if x < width ∧ y < height then some 0 else none := by
  obtain ⟨-, -, -, rfl⟩ := new_eq_ok made
  simp [pixel?]

theorem pixelCoordinate_lt {size : Nat} (positive : 0 < size) (value : Float32) :
    pixelCoordinate value size < size := by
  unfold pixelCoordinate
  split <;> omega

/-- Every point folds onto a pixel of the canvas, whatever its coordinates. -/
theorem pixelOf_lt (wide : 0 < canvas.width) (tall : 0 < canvas.height) (p : Point) :
    (canvas.pixelOf p).1 < canvas.width ∧ (canvas.pixelOf p).2 < canvas.height :=
  ⟨pixelCoordinate_lt wide p.x, pixelCoordinate_lt tall p.y⟩

/-- The line between two pixels of the canvas stays on the canvas, within its buffer. -/
theorem onCanvas_of_mem_linePixels {fromX fromY toX toY : Int}
    (start : canvas.OnCanvas (fromX, fromY)) (finish : canvas.OnCanvas (toX, toY))
    {pixel : Int × Int} (member : pixel ∈ linePixels fromX fromY toX toY) :
    canvas.OnCanvas pixel ∧ pixel.2.toNat * canvas.width + pixel.1.toNat < canvas.width * canvas.height := by
  obtain ⟨left, right, low, high⟩ := mem_linePixels_box fromX fromY toX toY member
  obtain ⟨fromLeft, fromRight, fromLow, fromHigh⟩ := start
  obtain ⟨toLeft, toRight, toLow, toHigh⟩ := finish
  have onCanvas : canvas.OnCanvas pixel := by
    refine ⟨?_, ?_, ?_, ?_⟩ <;> omega
  refine ⟨onCanvas, ?_⟩
  obtain ⟨column, columnBelow, row, rowBelow⟩ := onCanvas
  have columnNat : pixel.1.toNat < canvas.width := by omega
  have rowNat : pixel.2.toNat + 1 ≤ canvas.height := by omega
  calc pixel.2.toNat * canvas.width + pixel.1.toNat
      < pixel.2.toNat * canvas.width + canvas.width := by omega
    _ = (pixel.2.toNat + 1) * canvas.width := by ring
    _ ≤ canvas.height * canvas.width := Nat.mul_le_mul_right _ rowNat
    _ = canvas.width * canvas.height := Nat.mul_comm _ _

theorem foldl_hit_frame (pixels : List (Int × Int)) (canvas : Canvas) :
    ∃ hits, pixels.foldl hit canvas = { canvas with hits := hits } := by
  induction pixels generalizing canvas with
  | nil => exact ⟨canvas.hits, rfl⟩
  | cons pixel rest ih =>
    obtain ⟨hits, folded⟩ := ih (canvas.hit pixel)
    exact ⟨hits, by rw [List.foldl_cons, folded]; rfl⟩

/-- A stroke across a pixel of the canvas adds one to its count, up to the limit, and to no other
pixel. -/
theorem pixel?_hit {pixel : Int × Int} (onCanvas : canvas.OnCanvas pixel) (x y : Nat) :
    (canvas.hit pixel).pixel? x y = (canvas.pixel? x y).map fun count =>
      if ((x : Int), (y : Int)) = pixel then min (count + 1) countLimit else count := by
  obtain ⟨column, columnBelow, row, rowBelow⟩ := onCanvas
  unfold pixel?
  by_cases inside : x < canvas.width ∧ y < canvas.height
  · simp only [hit, inside, and_self, if_true, Option.map_some, Option.some.injEq]
    simp only [Std.TreeMap.getD_alter, Nat.compare_eq_eq]
    by_cases atPixel : ((x : Int), (y : Int)) = pixel
    · subst atPixel
      simp [Std.TreeMap.getD_eq_getD_getElem?]
    · -- another pixel of the canvas has another index
      have otherIndex : pixel.2.toNat * canvas.width + pixel.1.toNat ≠ y * canvas.width + x := by
        intro same
        obtain ⟨sameX, sameY⟩ := row_major_index_inj (by omega) inside.1 same
        exact atPixel (Prod.ext (by omega) (by omega))
      simp [otherIndex, atPixel]
  · simp [hit, inside]

/-- Strokes across distinct pixels of the canvas add one to the count of each of them, up to the
limit, and change no other pixel. -/
theorem pixel?_foldl_hit (pixels : List (Int × Int)) (distinct : pixels.Nodup) :
    ∀ {canvas : Canvas}, (∀ pixel ∈ pixels, canvas.OnCanvas pixel) → ∀ x y,
      (pixels.foldl hit canvas).pixel? x y = (canvas.pixel? x y).map fun count =>
        if ((x : Int), (y : Int)) ∈ pixels then min (count + 1) countLimit else count := by
  induction pixels with
  | nil => intro canvas _ x y; simp
  | cons pixel rest ih =>
    intro canvas onCanvas x y
    obtain ⟨notLater, restDistinct⟩ := List.nodup_cons.1 distinct
    -- a stroke keeps the canvas's size, so the later pixels stay on it
    have restOn : ∀ later ∈ rest, (canvas.hit pixel).OnCanvas later :=
      fun later member => onCanvas later (List.mem_cons_of_mem _ member)
    rw [List.foldl_cons, ih restDistinct restOn, pixel?_hit (onCanvas pixel List.mem_cons_self),
      Option.map_map]
    congr 1
    funext count
    by_cases atPixel : ((x : Int), (y : Int)) = pixel
    · subst atPixel
      simp [notLater]
    · simp [atPixel]

theorem onCanvas_pixelOf (wide : 0 < canvas.width) (tall : 0 < canvas.height) (p : Point) :
    canvas.OnCanvas ((canvas.pixelOf p).1, (canvas.pixelOf p).2) := by
  obtain ⟨column, row⟩ := pixelOf_lt wide tall p
  refine ⟨?_, ?_, ?_, ?_⟩ <;> simp only <;> omega

theorem draw_fst (start finish : Point) :
    (canvas.draw start finish).1 = decide (canvas.tileOf start = canvas.tileOf finish) := by
  unfold draw
  split <;> simp_all

theorem draw_of_ne {start finish : Point} (apart : canvas.tileOf start ≠ canvas.tileOf finish) :
    canvas.draw start finish = (false, { canvas with clipped := canvas.clipped + 1 }) := by
  simp [draw, apart]

theorem draw_of_eq {start finish : Point} (together : canvas.tileOf start = canvas.tileOf finish) :
    canvas.draw start finish =
      (true, { (linePixels (canvas.pixelOf (canvas.wrap start)).1
          (canvas.pixelOf (canvas.wrap start)).2 (canvas.pixelOf (canvas.wrap finish)).1
          (canvas.pixelOf (canvas.wrap finish)).2).foldl hit canvas with
        drawn := canvas.drawn + 1 }) := by
  simp only [draw, together, ne_eq, not_true_eq_false, if_false, foldLine_eq_foldl]
  obtain ⟨hits, folded⟩ := foldl_hit_frame (linePixels (canvas.pixelOf (canvas.wrap start)).1
    (canvas.pixelOf (canvas.wrap start)).2 (canvas.pixelOf (canvas.wrap finish)).1
    (canvas.pixelOf (canvas.wrap finish)).2) canvas
  rw [folded]

/-- A segment whose ends share a tile adds one stroke, up to the count limit, to each pixel of
the line between the ends' pixels and to no other pixel, and counts as drawn. -/
theorem draw_of_eq_spec (wide : 0 < canvas.width) (tall : 0 < canvas.height) {start finish : Point}
    (together : canvas.tileOf start = canvas.tileOf finish) :
    (canvas.draw start finish).2.width = canvas.width ∧
      (canvas.draw start finish).2.height = canvas.height ∧
      (canvas.draw start finish).2.drawn = canvas.drawn + 1 ∧
      (canvas.draw start finish).2.clipped = canvas.clipped ∧
      ∀ x y, (canvas.draw start finish).2.pixel? x y = (canvas.pixel? x y).map fun count =>
        if ((x : Int), (y : Int)) ∈ linePixels (canvas.pixelOf (canvas.wrap start)).1
            (canvas.pixelOf (canvas.wrap start)).2 (canvas.pixelOf (canvas.wrap finish)).1
            (canvas.pixelOf (canvas.wrap finish)).2
        then min (count + 1) countLimit else count := by
  obtain ⟨hits, folded⟩ := foldl_hit_frame (linePixels (canvas.pixelOf (canvas.wrap start)).1
    (canvas.pixelOf (canvas.wrap start)).2 (canvas.pixelOf (canvas.wrap finish)).1
    (canvas.pixelOf (canvas.wrap finish)).2) canvas
  have onCanvas : ∀ pixel ∈ linePixels (canvas.pixelOf (canvas.wrap start)).1
      (canvas.pixelOf (canvas.wrap start)).2 (canvas.pixelOf (canvas.wrap finish)).1
      (canvas.pixelOf (canvas.wrap finish)).2, canvas.OnCanvas pixel :=
    fun pixel member => (onCanvas_of_mem_linePixels (onCanvas_pixelOf wide tall _)
      (onCanvas_pixelOf wide tall _) member).1
  rw [draw_of_eq together]
  refine ⟨?_, ?_, ?_, ?_, fun x y => ?_⟩
  · rw [folded]
  · rw [folded]
  · rw [folded]
  · rw [folded]
  · exact pixel?_foldl_hit _ (linePixels_nodup _ _ _ _) onCanvas x y

end Canvas

/-- Drawing stays on the canvas. A canvas that can be made has at least one pixel each way, all
blank, and every point, whatever its coordinates, folds onto one of its pixels. The line between
two pixels has one more pixel than its longer leg, all distinct, from the first end to the
second, one step apart along each axis and inside the box of the ends; the walk that visits
them stops at the last one whatever fuel it has left, and between pixels of the canvas each of
them indexes the canvas's buffer. A segment is drawn exactly when its ends share a tile: then
each pixel of its line gains one stroke, up to the count limit, no other pixel changes and the
drawn count grows by one; otherwise only the clipped count grows by one. -/
theorem drawing_stays_on_canvas :
    (∀ width height (canvas : Canvas), Canvas.new width height = .ok canvas →
      0 < width ∧ 0 < height ∧ width * height < 2 ^ 64 ∧ canvas.width = width ∧
        canvas.height = height ∧
        ∀ x y, canvas.pixel? x y = if x < width ∧ y < height then some 0 else none) ∧
    (∀ canvas : Canvas, 0 < canvas.width → 0 < canvas.height → ∀ p : Point,
      (canvas.pixelOf (canvas.wrap p)).1 < canvas.width ∧
        (canvas.pixelOf (canvas.wrap p)).2 < canvas.height) ∧
    (∀ fromX fromY toX toY : Int,
      (linePixels fromX fromY toX toY).length =
          max (toX - fromX).natAbs (toY - fromY).natAbs + 1 ∧
        (∀ {α : Type} (visit : α → Int × Int → α) (init : α) (fuel : Nat),
          max (toX - fromX).natAbs (toY - fromY).natAbs < fuel →
          walkLine visit (LineWalk.between fromX fromY toX toY) fuel fromX fromY
            ((LineWalk.between fromX fromY toX toY).dx +
              (LineWalk.between fromX fromY toX toY).dy) init =
          (linePixels fromX fromY toX toY).foldl visit init) ∧
        (linePixels fromX fromY toX toY).Nodup ∧
        (linePixels fromX fromY toX toY).head? = some (fromX, fromY) ∧
        (linePixels fromX fromY toX toY).getLast? = some (toX, toY) ∧
        (linePixels fromX fromY toX toY).IsChain (fun p q =>
          (p.1 - q.1).natAbs ≤ 1 ∧ (p.2 - q.2).natAbs ≤ 1) ∧
        ∀ p ∈ linePixels fromX fromY toX toY,
          min fromX toX ≤ p.1 ∧ p.1 ≤ max fromX toX ∧ min fromY toY ≤ p.2 ∧ p.2 ≤ max fromY toY) ∧
    (∀ (canvas : Canvas) (fromX fromY toX toY : Int), canvas.OnCanvas (fromX, fromY) →
      canvas.OnCanvas (toX, toY) → ∀ p ∈ linePixels fromX fromY toX toY,
        canvas.OnCanvas p ∧ p.2.toNat * canvas.width + p.1.toNat < canvas.width * canvas.height) ∧
    ∀ canvas : Canvas, 0 < canvas.width → 0 < canvas.height → ∀ start finish : Point,
      (canvas.draw start finish).1 = decide (canvas.tileOf start = canvas.tileOf finish) ∧
      (canvas.tileOf start ≠ canvas.tileOf finish →
        (canvas.draw start finish).2 = { canvas with clipped := canvas.clipped + 1 }) ∧
      (canvas.tileOf start = canvas.tileOf finish →
        (canvas.draw start finish).2.width = canvas.width ∧
        (canvas.draw start finish).2.height = canvas.height ∧
        (canvas.draw start finish).2.drawn = canvas.drawn + 1 ∧
        (canvas.draw start finish).2.clipped = canvas.clipped ∧
        ∀ x y, (canvas.draw start finish).2.pixel? x y = (canvas.pixel? x y).map fun count =>
          if ((x : Int), (y : Int)) ∈ linePixels (canvas.pixelOf (canvas.wrap start)).1
              (canvas.pixelOf (canvas.wrap start)).2 (canvas.pixelOf (canvas.wrap finish)).1
              (canvas.pixelOf (canvas.wrap finish)).2
          then min (count + 1) Canvas.countLimit else count) := by
  refine ⟨fun width height canvas made => ?_, fun canvas wide tall p => ?_,
    fun fromX fromY toX toY => ?_, fun canvas fromX fromY toX toY start finish p member => ?_,
    fun canvas wide tall start finish => ?_⟩
  · obtain ⟨wide, tall, fits, rfl⟩ := Canvas.new_eq_ok made
    exact ⟨wide, tall, fits, rfl, rfl, Canvas.pixel?_new made⟩
  · exact Canvas.pixelOf_lt wide tall _
  · exact ⟨linePixels_length _ _ _ _,
      fun visit init fuel enough => walkLine_eq_foldl_linePixels _ _ _ _ visit init fuel enough,
      linePixels_nodup _ _ _ _, linePixels_head? _ _ _ _, linePixels_getLast? _ _ _ _,
      linePixels_chain _ _ _ _, fun p member => mem_linePixels_box _ _ _ _ member⟩
  · exact Canvas.onCanvas_of_mem_linePixels start finish member
  · exact ⟨Canvas.draw_fst start finish, fun apart => by rw [Canvas.draw_of_ne apart],
      Canvas.draw_of_eq_spec wide tall⟩

example : linePixels 1 1 6 3 = [(1, 1), (2, 1), (3, 2), (4, 2), (5, 3), (6, 3)] := by decide

theorem sixteen_square_holds_short_line :
    Canvas.new 16 16 = .ok ⟨16, 16, ∅, 0, 0⟩ ∧
      (linePixels 1 1 6 3).length = 6 ∧
      ∀ p ∈ linePixels 1 1 6 3, (⟨16, 16, ∅, 0, 0⟩ : Canvas).OnCanvas p ∧
        p.2.toNat * 16 + p.1.toNat < 16 * 16 := by
  have made : Canvas.new 16 16 = .ok ⟨16, 16, ∅, 0, 0⟩ := rfl
  have start : (⟨16, 16, ∅, 0, 0⟩ : Canvas).OnCanvas (1, 1) := by decide
  have finish : (⟨16, 16, ∅, 0, 0⟩ : Canvas).OnCanvas (6, 3) := by decide
  exact ⟨made, (drawing_stays_on_canvas.2.2.1 1 1 6 3).1,
    drawing_stays_on_canvas.2.2.2.1 _ 1 1 6 3 start finish⟩

end PlantPlot
