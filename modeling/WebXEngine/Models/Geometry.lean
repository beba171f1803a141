import Mathlib.Algebra.Group.Basic
import Mathlib.Algebra.Group.Int.Defs
import Mathlib.Data.Int.Order.Basic
import Mathlib.Data.Set.Lattice

/-! # Sizes and rectangles

The geometry of the windows, in whole pixels. X gives positions and sizes of 16 bits, so that the
coordinates of the source stay far from the limits of their 32 bits; here they are integers. The areas
do not stay below the limit, and wrap around as they do when they are compiled.

* **`WebXSize`** — a width and a height.
* **`WebXRectangle`** — a rectangle with its position, its size and its four edges, which are kept
  consistent with each other.
* **`WebXRectangle.pixels`** — the pixels of a rectangle. -/

namespace WebXEngine

/-- A width and a height. -/
structure WebXSize where
  width : ℤ
  height : ℤ
  deriving DecidableEq, Repr

/-- The number of pixels of a size, in 32 bits. -/
def WebXSize.area (size : WebXSize) : Int32 := .ofInt size.width * .ofInt size.height

/-- A size has no more pixels than 32 bits can count. -/
theorem WebXSize.toInt_area_eq_iff {size : WebXSize} (hpositive : 0 < size.width ∧ 0 < size.height) :
    size.area.toInt = size.width * size.height ↔ size.width * size.height < 2 ^ 31 := by
  have hpixels := Int.mul_pos hpositive.1 hpositive.2
  rw [area, ← Int32.ofInt_mul]
  constructor
  · intro h
    rw [← h]
    exact Int32.toInt_lt _
  · intro h
    exact Int32.toInt_ofInt_of_le (by omega) h

/-- A rectangle: position, size and edges. -/
structure WebXRectangle where
  x : ℤ
  y : ℤ
  size : WebXSize
  left : ℤ
  right : ℤ
  top : ℤ
  bottom : ℤ
  left_eq : left = x
  right_eq : right = x + size.width
  top_eq : top = y + size.height
  bottom_eq : bottom = y
  deriving DecidableEq, Repr

namespace WebXRectangle

/-- The rectangle of a position and a size. -/
def ofSize (x y width height : ℤ) : WebXRectangle :=
  ⟨x, y, ⟨width, height⟩, x, x + width, y + height, y, rfl, rfl, rfl, rfl⟩

/-- Some part of the rectangle is inside a viewport that begins at the origin. -/
def isVisible (r : WebXRectangle) (viewport : WebXSize) : Bool :=
  r.left < viewport.width && r.right > 0 && r.bottom < viewport.height && r.top > 0

/-- The rectangles share pixels or touch each other. -/
def overlapOrTouching (r s : WebXRectangle) : Bool :=
  r.left < s.right + 1 && r.right > s.left - 1 && r.top > s.bottom - 1 && r.bottom < s.top + 1

/-- The rectangles share pixels. -/
def overlap (r s : WebXRectangle) : Bool :=
  r.left < s.right && r.right > s.left && r.top > s.bottom && r.bottom < s.top

/-- The second rectangle is inside the first. -/
def contains (r s : WebXRectangle) : Bool :=
  r.left ≤ s.left && r.right ≥ s.right && r.top ≥ s.top && r.bottom ≤ s.bottom

/-- The number of pixels of a rectangle, in 32 bits. -/
def area (r : WebXRectangle) : Int32 := r.size.area

/-- The smallest rectangle that contains both. -/
def add (r s : WebXRectangle) : WebXRectangle :=
  let left := if s.left < r.left then s.left else r.left
  let right := if s.right > r.right then s.right else r.right
  let bottom := if s.bottom < r.bottom then s.bottom else r.bottom
  let top := if s.top > r.top then s.top else r.top
  { x := left, y := bottom, size := ⟨right - left, top - bottom⟩, left, right, top, bottom,
    left_eq := rfl, right_eq := (add_sub_cancel left right).symm,
    top_eq := (add_sub_cancel bottom top).symm, bottom_eq := rfl }

/-- A rectangle contains another one, by their sides. -/
theorem contains_iff {r s : WebXRectangle} : r.contains s = true ↔
    r.left ≤ s.left ∧ s.right ≤ r.right ∧ s.top ≤ r.top ∧ r.bottom ≤ s.bottom := by
  simp [contains, and_assoc]

/-! ## Pixels -/

/-- The pixels of a rectangle: the left and the bottom edges belong to it, the others do not. -/
def pixels (r : WebXRectangle) : Set (ℤ × ℤ) :=
  {p | r.left ≤ p.1 ∧ p.1 < r.right ∧ r.bottom ≤ p.2 ∧ p.2 < r.top}

/-- The pixels of a rectangle, by its sides. -/
theorem mem_pixels {r : WebXRectangle} {p : ℤ × ℤ} :
    p ∈ r.pixels ↔ r.left ≤ p.1 ∧ p.1 < r.right ∧ r.bottom ≤ p.2 ∧ p.2 < r.top := Iff.rfl

instance (r : WebXRectangle) (p : ℤ × ℤ) : Decidable (p ∈ r.pixels) :=
  decidable_of_iff _ mem_pixels.symm

/-- Combining rectangles keeps the pixels of the first. -/
theorem pixels_subset_add_left (r s : WebXRectangle) : r.pixels ⊆ (r.add s).pixels := by
  intro p hp
  rw [mem_pixels] at hp
  rw [mem_pixels, add]
  refine ⟨?_, ?_, ?_, ?_⟩ <;> dsimp only <;> split_ifs <;> omega

/-- Combining rectangles keeps the pixels of the second. -/
theorem pixels_subset_add_right (r s : WebXRectangle) : s.pixels ⊆ (r.add s).pixels := by
  intro p hp
  rw [mem_pixels] at hp
  rw [mem_pixels, add]
  refine ⟨?_, ?_, ?_, ?_⟩ <;> dsimp only <;> split_ifs <;> omega

end WebXRectangle

end WebXEngine
