/-
# NetworkArena.Foundation.Plane -- bounds on the lengths of plane vectors

`Within a v` says that `v` is no longer than `a`, by their squares, so that no roots are needed to
say it: a triangle inequality, scaling, and that shrinking the coordinates shrinks the vector. Where
lengths themselves are wanted there is a root function, and `Within` bounds what it returns.
-/
import Mathlib.Algebra.Order.Field.Basic
import Mathlib.Tactic.Linarith
import Mathlib.Tactic.Positivity
import Mathlib.Tactic.Ring

namespace NetworkArena.Foundation

variable {K : Type} [Field K] [LinearOrder K]

/-- A vector of length at most `a`. -/
def Within (a : K) (v : K × K) : Prop := 0 ≤ a ∧ v.1 * v.1 + v.2 * v.2 ≤ a * a

instance (a : K) (v : K × K) : Decidable (Within a v) := inferInstanceAs (Decidable (_ ∧ _))

variable [IsStrictOrderedRing K] {a b c : K} {u v : K × K}

theorem within_zero (ha : 0 ≤ a) : Within a 0 := by
  refine ⟨ha, ?_⟩
  simpa using mul_nonneg ha ha

theorem Within.mono (h : Within a v) (hab : a ≤ b) : Within b v := by
  obtain ⟨ha, hv⟩ := h
  refine ⟨ha.trans hab, hv.trans ?_⟩
  exact mul_le_mul hab hab ha (ha.trans hab)

/-- The inner product of two bounded vectors. -/
theorem Within.inner_le (hu : Within a u) (hv : Within b v) : u.1 * v.1 + u.2 * v.2 ≤ a * b := by
  obtain ⟨ha, hu⟩ := hu
  obtain ⟨hb, hv⟩ := hv
  have hcauchy : (u.1 * v.1 + u.2 * v.2) ^ 2 ≤ (a * b) ^ 2 := by
    calc (u.1 * v.1 + u.2 * v.2) ^ 2
        = (u.1 * u.1 + u.2 * u.2) * (v.1 * v.1 + v.2 * v.2) - (u.1 * v.2 - u.2 * v.1) ^ 2 := by ring
      _ ≤ (u.1 * u.1 + u.2 * u.2) * (v.1 * v.1 + v.2 * v.2) :=
          sub_le_self _ (sq_nonneg _)
      _ ≤ a * a * (b * b) :=
          mul_le_mul hu hv (add_nonneg (mul_self_nonneg _) (mul_self_nonneg _)) (mul_self_nonneg a)
      _ = (a * b) ^ 2 := by ring
  exact (le_abs_self _).trans (abs_le_of_sq_le_sq hcauchy (mul_nonneg ha hb))

/-- **The triangle inequality.** -/
theorem Within.add (hu : Within a u) (hv : Within b v) : Within (a + b) (u + v) := by
  have hinner := hu.inner_le hv
  obtain ⟨ha, hu⟩ := hu
  obtain ⟨hb, hv⟩ := hv
  refine ⟨add_nonneg ha hb, ?_⟩
  calc (u + v).1 * (u + v).1 + (u + v).2 * (u + v).2
      = (u.1 * u.1 + u.2 * u.2) + 2 * (u.1 * v.1 + u.2 * v.2) +
          (v.1 * v.1 + v.2 * v.2) := by rw [Prod.fst_add, Prod.snd_add]; ring
    _ ≤ a * a + 2 * (a * b) + b * b := by linarith
    _ = (a + b) * (a + b) := by ring

omit [IsStrictOrderedRing K] in
theorem Within.neg (h : Within a v) : Within a (-v) := by
  refine ⟨h.1, ?_⟩
  simpa using h.2

theorem Within.sub (hu : Within a u) (hv : Within b v) : Within (a + b) (u - v) := by
  rw [sub_eq_add_neg]
  exact hu.add hv.neg

theorem Within.scale (h : Within a v) (hc : 0 ≤ c) : Within (a * c) (v.1 * c, v.2 * c) := by
  obtain ⟨ha, hv⟩ := h
  refine ⟨mul_nonneg ha hc, ?_⟩
  calc v.1 * c * (v.1 * c) + v.2 * c * (v.2 * c) = (v.1 * v.1 + v.2 * v.2) * (c * c) := by ring
    _ ≤ a * a * (c * c) := mul_le_mul_of_nonneg_right hv (mul_self_nonneg c)
    _ = a * c * (a * c) := by ring

/-- Shorter coordinates make a shorter vector. -/
theorem Within.of_abs_le (h : Within a v) (hx : |u.1| ≤ |v.1|) (hy : |u.2| ≤ |v.2|) :
    Within a u :=
  ⟨h.1, (add_le_add (abs_le_iff_mul_self_le.mp hx) (abs_le_iff_mul_self_le.mp hy)).trans h.2⟩

/-- A coordinate is no longer than the vector. -/
theorem Within.abs_fst_le (h : Within a v) : |v.1| ≤ a := by
  apply abs_le_of_sq_le_sq _ h.1
  have hy := mul_self_nonneg v.2
  have hv := h.2
  rw [sq, sq]
  linarith

theorem Within.abs_snd_le (h : Within a v) : |v.2| ≤ a := by
  apply abs_le_of_sq_le_sq _ h.1
  have hx := mul_self_nonneg v.1
  have hv := h.2
  rw [sq, sq]
  linarith

end NetworkArena.Foundation
