/-
# NetworkArena.Foundation.Quadratic -- the first root of a quadratic

A quadratic that opens upwards and is positive at zero stays positive up to its first root, and has
no root at all if its discriminant is negative. The root of the discriminant is whatever squares to
it, so nothing here needs real numbers.
-/
import Mathlib.Algebra.Order.Field.Basic
import Mathlib.Tactic.FieldSimp
import Mathlib.Tactic.Linarith
import Mathlib.Tactic.Positivity
import Mathlib.Tactic.Ring

namespace NetworkArena.Foundation

variable {K : Type} [Field K]

/-- The value of a quadratic. -/
def quadratic (a b c t : K) : K := a * (t * t) + b * t + c

/-- The smaller root, for a non-negative root `d` of the discriminant. -/
def firstRoot (a b d : K) : K := (-b - d) / (2 * a)

/-- The larger root. -/
def secondRoot (a b d : K) : K := (-b + d) / (2 * a)

variable [LinearOrder K] [IsStrictOrderedRing K] {a b c d t : K}

omit [LinearOrder K] [IsStrictOrderedRing K] in
theorem quadratic_zero : quadratic a b c 0 = c := by
  simp [quadratic]

/-- **The two roots** are all there is to a quadratic. -/
theorem quadratic_factor (ha : 0 < a) (hd : d * d = b * b - 4 * a * c) (t : K) :
    quadratic a b c t = a * ((t - firstRoot a b d) * (t - secondRoot a b d)) := by
  have hne : a ≠ 0 := ha.ne'
  have hc : c = (b * b - d * d) / (4 * a) := by
    rw [hd]
    field_simp
    ring
  unfold quadratic firstRoot secondRoot
  rw [hc]
  field_simp
  ring

theorem firstRoot_le_secondRoot (ha : 0 < a) (hd : 0 ≤ d) : firstRoot a b d ≤ secondRoot a b d := by
  unfold firstRoot secondRoot
  apply div_le_div_of_nonneg_right
  · linarith
  · linarith

/-- The first root is a root. -/
theorem quadratic_firstRoot (ha : 0 < a) (hd : d * d = b * b - 4 * a * c) :
    quadratic a b c (firstRoot a b d) = 0 := by
  rw [quadratic_factor ha hd, sub_self, zero_mul, mul_zero]

/-- Nothing happens before the first root. -/
theorem quadratic_pos_of_lt (ha : 0 < a) (hd : 0 ≤ d) (hdd : d * d = b * b - 4 * a * c)
    (ht : t < firstRoot a b d) : 0 < quadratic a b c t := by
  rw [quadratic_factor ha hdd]
  have horder := firstRoot_le_secondRoot (b := b) ha hd
  apply mul_pos ha
  apply mul_pos_of_neg_of_neg
  · linarith
  · linarith

/-- Both roots are on one side of zero, so nothing happens later if the first root is past. -/
theorem quadratic_pos_of_past (ha : 0 < a) (hdd : d * d = b * b - 4 * a * c) (hc : 0 < c)
    (hpast : firstRoot a b d < 0) (ht : 0 ≤ t) : 0 < quadratic a b c t := by
  have hzero := quadratic_factor ha hdd 0
  rw [quadratic_zero] at hzero
  have hproduct : 0 < (0 - firstRoot a b d) * (0 - secondRoot a b d) := by
    by_contra hnot
    have hle : a * ((0 - firstRoot a b d) * (0 - secondRoot a b d)) ≤ 0 :=
      mul_nonpos_of_nonneg_of_nonpos ha.le (not_lt.mp hnot)
    linarith
  have hsecond : secondRoot a b d < 0 := by
    have hleft : 0 < 0 - firstRoot a b d := by linarith
    have hright := (mul_pos_iff_of_pos_left hleft).mp hproduct
    linarith
  rw [quadratic_factor ha hdd]
  apply mul_pos ha
  apply mul_pos
  · linarith
  · linarith

/-- Without a root of the discriminant there is nothing at all. -/
theorem quadratic_pos_of_discriminant (ha : 0 < a) (h : b * b - 4 * a * c < 0) (t : K) :
    0 < quadratic a b c t := by
  have hsquare : 4 * a * quadratic a b c t =
      (2 * a * t + b) * (2 * a * t + b) - (b * b - 4 * a * c) := by
    unfold quadratic
    ring
  have hpositive : 0 < 4 * a * quadratic a b c t := by
    rw [hsquare]
    have hnonneg := mul_self_nonneg (2 * a * t + b)
    linarith
  have hfour : 0 < 4 * a := by linarith
  exact (mul_pos_iff_of_pos_left hfour).mp hpositive

end NetworkArena.Foundation
