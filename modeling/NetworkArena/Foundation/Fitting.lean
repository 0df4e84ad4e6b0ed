/-
# NetworkArena.Foundation.Fitting -- a rectangle fitted into another

A rectangle is drawn into another one, as large as it can be without losing its shape, and in the
middle (`Placement.Fits`). There is one way to do that, so two computations of it agree.
-/
import Mathlib.Algebra.Order.Field.Basic
import Mathlib.Tactic.Linarith

namespace NetworkArena.Foundation

variable {K : Type*} [Field K] [LinearOrder K] [IsStrictOrderedRing K]

/-- A change of size that keeps the shape, and a shift. -/
@[ext]
structure Placement (K : Type*) where
  scale : K
  offsetX : K
  offsetY : K
  deriving DecidableEq, Repr

namespace Placement

/-- The picture of a rectangle lies in another one. -/
structure Inside (p : Placement K) (width height outerWidth outerHeight : K) : Prop where
  left : 0 ≤ p.offsetX
  top : 0 ≤ p.offsetY
  right : p.offsetX + width * p.scale ≤ outerWidth
  bottom : p.offsetY + height * p.scale ≤ outerHeight

/-- The picture of a rectangle is in the middle of another one, and reaches from edge to edge in one
direction at least. -/
structure Fits (p : Placement K) (width height outerWidth outerHeight : K) : Prop where
  scale : 0 < p.scale
  inside : p.Inside width height outerWidth outerHeight
  centredX : p.offsetX + width * p.scale + p.offsetX = outerWidth
  centredY : p.offsetY + height * p.scale + p.offsetY = outerHeight
  touches : p.offsetX = 0 ∨ p.offsetY = 0

variable {width height outerWidth outerHeight : K} {p p' : Placement K}

/-- **Nothing larger fits.** -/
theorem Fits.largest (h : p.Fits width height outerWidth outerHeight) (hwidth : 0 < width)
    (hheight : 0 < height) (h' : p'.Inside width height outerWidth outerHeight) :
    p'.scale ≤ p.scale := by
  rcases h.touches with hzero | hzero
  · have hedge := h.centredX
    rw [hzero, zero_add, add_zero] at hedge
    have hroom : width * p'.scale ≤ width * p.scale := by
      linarith [h'.left, h'.right]
    exact le_of_mul_le_mul_left hroom hwidth
  · have hedge := h.centredY
    rw [hzero, zero_add, add_zero] at hedge
    have hroom : height * p'.scale ≤ height * p.scale := by
      linarith [h'.top, h'.bottom]
    exact le_of_mul_le_mul_left hroom hheight

/-- **There is one way to fit a rectangle.** -/
theorem Fits.unique (h : p.Fits width height outerWidth outerHeight)
    (h' : p'.Fits width height outerWidth outerHeight) (hwidth : 0 < width)
    (hheight : 0 < height) : p = p' := by
  have hscale : p.scale = p'.scale :=
    le_antisymm (h'.largest hwidth hheight h.inside) (h.largest hwidth hheight h'.inside)
  have hx := h.centredX.trans h'.centredX.symm
  have hy := h.centredY.trans h'.centredY.symm
  rw [hscale] at hx hy
  ext
  · exact hscale
  · linarith
  · linarith

/-- A smaller rectangle stays within the picture of the one around it. -/
theorem Inside.part (h : p.Inside width height outerWidth outerHeight) (hscale : 0 ≤ p.scale)
    {x y partWidth partHeight : K} (hx : 0 ≤ x) (hy : 0 ≤ y) (hright : x + partWidth ≤ width)
    (hbottom : y + partHeight ≤ height) :
    (⟨p.scale, x * p.scale + p.offsetX, y * p.scale + p.offsetY⟩ : Placement K).Inside
      partWidth partHeight outerWidth outerHeight where
  left := add_nonneg (mul_nonneg hx hscale) h.left
  top := add_nonneg (mul_nonneg hy hscale) h.top
  right := by
    have hpart := mul_le_mul_of_nonneg_right hright hscale
    rw [add_mul] at hpart
    linarith [h.right]
  bottom := by
    have hpart := mul_le_mul_of_nonneg_right hbottom hscale
    rw [add_mul] at hpart
    linarith [h.bottom]

end Placement

end NetworkArena.Foundation
