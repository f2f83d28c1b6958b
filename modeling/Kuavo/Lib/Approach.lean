import Mathlib.Algebra.Order.AbsoluteValue.Basic
import Mathlib.Tactic.Linarith
import Mathlib.Tactic.Ring

/-!
Approaching a target by a fixed share of the way.

Every step covers the same share of the distance that is left, so the distance shrinks
geometrically, and what starts within a bound that the target keeps to stays within it.
-/

namespace Kuavo.Lib.Approach

section Field

variable {K : Type*} [Field K]

/-- A step from `x` to `t` over the share `r` of the way. -/
def toward (r x t : K) : K := x + r * (t - x)

lemma toward_sub (r x t : K) : toward r x t - t = (1 - r) * (x - t) := by
  unfold toward
  ring

end Field

section Ordered

variable {K : Type*} [Field K] [LinearOrder K] [IsStrictOrderedRing K]

lemma abs_toward_le {r x t b : K} (h0 : 0 ≤ r) (h1 : r ≤ 1) (hx : |x| ≤ b) (ht : |t| ≤ b) :
    |toward r x t| ≤ b := by
  have hmix : toward r x t = (1 - r) * x + r * t := by
    unfold toward
    ring
  have hr : 0 ≤ 1 - r := by linarith
  calc |toward r x t| ≤ |(1 - r) * x| + |r * t| := hmix ▸ abs_add_le _ _
    _ = (1 - r) * |x| + r * |t| := by rw [abs_mul, abs_mul, abs_of_nonneg hr, abs_of_nonneg h0]
    _ ≤ (1 - r) * b + r * b :=
      add_le_add (mul_le_mul_of_nonneg_left hx hr) (mul_le_mul_of_nonneg_left ht h0)
    _ = b := by ring

/-- Clamping does nothing to a step between values within the bound. -/
lemma clamp_toward {r x t b : K} (h0 : 0 ≤ r) (h1 : r ≤ 1) (hx : |x| ≤ b) (ht : |t| ≤ b) :
    max (-b) (min (toward r x t) b) = toward r x t := by
  obtain ⟨hlo, hhi⟩ := abs_le.mp (abs_toward_le h0 h1 hx ht)
  rw [min_eq_left hhi, max_eq_right hlo]

end Ordered

end Kuavo.Lib.Approach
