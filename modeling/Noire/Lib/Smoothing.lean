import Mathlib.Algebra.Order.Field.Basic
import Mathlib.Algebra.Order.Group.Abs
import Mathlib.Order.Interval.Set.UnorderedInterval
import Mathlib.Tactic.Linarith
import Mathlib.Tactic.Ring

namespace Noire.Lib

/-!
# Smoothing that stays within its bounds

Over any ordered field, the operations that smooth a control value.

* `clamp_mem`, `clamp_eq` — what is clamped is within its bounds, and is left alone there;
* `lerp_mem` — a move from one value towards another stays between bounds of both;
* `smooth_mem` — the cubic that eases in and out maps the unit interval to itself;
* `sub_clamp_mem` — what is taken off a value, clamped around it, leaves little;
* `glide` — the even steps from one value to another: `glide_mem_uIcc` (each is between the one
  before and the target), `abs_glide_sub_le` (its size) and `glide_of_le` (the landing).
-/

section Clamp

variable {K : Type*} [LinearOrder K]

/-- What is clamped is within its bounds. -/
theorem clamp_mem {low high : K} (h : low ≤ high) (x : K) :
    min high (max low x) ∈ Set.Icc low high :=
  ⟨le_min h (le_max_left low x), min_le_left high _⟩

/-- Within its bounds a value is left alone. -/
theorem clamp_eq {low high x : K} (h : x ∈ Set.Icc low high) : min high (max low x) = x := by
  rw [max_eq_right h.1, min_eq_right h.2]

/-- Whichever of two coefficients is taken, it is one. -/
theorem ite_mem {low high x y : K} {p : Prop} [Decidable p] (hx : x ∈ Set.Ioo low high)
    (hy : y ∈ Set.Ioo low high) : (if p then x else y) ∈ Set.Icc low high := by
  split
  · exact Set.Ioo_subset_Icc_self hx
  · exact Set.Ioo_subset_Icc_self hy

end Clamp

variable {K : Type*} [Field K] [LinearOrder K] [IsStrictOrderedRing K]

/-- A move towards a value stays between bounds of both. -/
theorem lerp_mem {low high x y t : K} (hx : x ∈ Set.Icc low high) (hy : y ∈ Set.Icc low high)
    (ht : t ∈ Set.Icc 0 1) : x + t * (y - x) ∈ Set.Icc low high := by
  have hsplit : x + t * (y - x) = (1 - t) * x + t * y := by ring
  have hrest : 0 ≤ 1 - t := sub_nonneg.mpr ht.2
  rw [hsplit]
  constructor
  · calc low = (1 - t) * low + t * low := by ring
      _ ≤ (1 - t) * x + t * y :=
        add_le_add (mul_le_mul_of_nonneg_left hx.1 hrest) (mul_le_mul_of_nonneg_left hy.1 ht.1)
  · calc (1 - t) * x + t * y ≤ (1 - t) * high + t * high :=
        add_le_add (mul_le_mul_of_nonneg_left hx.2 hrest) (mul_le_mul_of_nonneg_left hy.2 ht.1)
      _ = high := by ring

/-- A product of two values of the unit interval is below either. -/
theorem mul_mem {high x t : K} (hx : x ∈ Set.Icc 0 high) (ht : t ∈ Set.Icc 0 1) :
    x * t ∈ Set.Icc 0 high :=
  ⟨mul_nonneg hx.1 ht.1, (mul_le_of_le_one_right hx.1 ht.2).trans hx.2⟩

/-- Easing in and out maps the unit interval to itself. -/
theorem smooth_mem {t : K} (ht : t ∈ Set.Icc 0 1) : t * t * (3 - 2 * t) ∈ Set.Icc 0 1 := by
  have hfactor : 0 ≤ 3 - 2 * t := by linarith [ht.2]
  refine ⟨mul_nonneg (mul_self_nonneg t) hfactor, sub_nonneg.mp ?_⟩
  have hsquare : 1 - t * t * (3 - 2 * t) = (1 - t) * (1 - t) * (1 + 2 * t) := by ring
  rw [hsquare]
  exact mul_nonneg (mul_self_nonneg _) (by linarith [ht.1])

/-- What is taken off a value, clamped around it, leaves no more than the clamp's width. -/
theorem sub_clamp_mem {width : K} (h : 0 ≤ width) (x y : K) :
    x - min (x + width) (max (x - width) y) ∈ Set.Icc (-width) width := by
  obtain ⟨hlow, hhigh⟩ := clamp_mem (show x - width ≤ x + width by linarith) y
  constructor <;> linarith

/-! ## Even steps -/

/-- The value after `k` of `n` even steps from `start` to `target`, and there from then on. -/
def glide (start target : K) (n k : ℕ) : K :=
  start + ((min k n : ℕ) : K) / n * (target - start)

variable (start target : K) (n : ℕ)

omit [LinearOrder K] [IsStrictOrderedRing K] in
theorem glide_zero : glide start target n 0 = start := by simp [glide]

/-- **Landing.** From the last step on the value is the target. -/
theorem glide_of_le {n k : ℕ} (hn : 0 < n) (h : n ≤ k) : glide start target n k = target := by
  have hfull : (n : K) / n = 1 := div_self (Nat.cast_ne_zero.mpr hn.ne')
  rw [glide, min_eq_right h, hfull, one_mul, add_sub_cancel]

omit [LinearOrder K] [IsStrictOrderedRing K] in
/-- From the last step on nothing moves. -/
theorem glide_succ_of_le {n k : ℕ} (h : n ≤ k) :
    glide start target n (k + 1) = glide start target n k := by
  rw [glide, glide, min_eq_right h, min_eq_right (Nat.le_succ_of_le h)]

/-- One of the steps. -/
theorem glide_succ {n k : ℕ} (h : k < n) :
    glide start target n (k + 1) = glide start target n k + (target - start) / n := by
  rw [glide, glide, min_eq_left h, min_eq_left h.le, Nat.cast_succ]
  ring

/-- A value that is where it is to go stays there. -/
theorem glide_self (k : ℕ) : glide target target n k = target := by simp [glide]

/-- The share of the way behind, which does not exceed the whole. -/
theorem glide_share (k : ℕ) : ((min k n : ℕ) : K) / n ∈ Set.Icc 0 1 := by
  refine ⟨div_nonneg (Nat.cast_nonneg _) (Nat.cast_nonneg _), ?_⟩
  rcases Nat.eq_zero_or_pos n with rfl | hn
  · simp
  · exact (div_le_one (Nat.cast_pos.mpr hn)).mpr (Nat.cast_le.mpr (min_le_right k n))

/-- A larger share of the way is nearer to its end. -/
theorem add_mul_mem_uIcc {x d s t : K} (hst : s ≤ t) (ht : t ≤ 1) :
    x + t * d ∈ Set.uIcc (x + s * d) (x + d) := by
  rw [Set.mem_uIcc]
  rcases le_total 0 d with hd | hd
  · have hlow : s * d ≤ t * d := mul_le_mul_of_nonneg_right hst hd
    have hhigh : t * d ≤ d := mul_le_of_le_one_left hd ht
    exact .inl ⟨by linarith, by linarith⟩
  · have hlow : t * d ≤ s * d := mul_le_mul_of_nonpos_right hst hd
    have hhigh : 1 * d ≤ t * d := mul_le_mul_of_nonpos_right ht hd
    exact .inr ⟨by linarith, by linarith⟩

/-- **Towards the target.** Every later value is between an earlier one and the target. -/
theorem glide_mem_uIcc {j k : ℕ} (h : j ≤ k) :
    glide start target n k ∈ Set.uIcc (glide start target n j) target := by
  have hshare : ((min j n : ℕ) : K) / n ≤ ((min k n : ℕ) : K) / n :=
    div_le_div_of_nonneg_right (Nat.cast_le.mpr (min_le_min_right n h)) (Nat.cast_nonneg n)
  have hmem := add_mul_mem_uIcc (x := start) (d := target - start) hshare (glide_share n k).2
  rw [add_sub_cancel] at hmem
  exact hmem

/-- **The size of a step.** -/
theorem abs_glide_sub_le (k : ℕ) :
    |glide start target n (k + 1) - glide start target n k| ≤ |target - start| / n := by
  rcases Nat.lt_or_ge k n with hlt | hge
  · rw [glide_succ start target hlt, add_sub_cancel_left, abs_div, Nat.abs_cast]
  · rw [glide_succ_of_le start target hge, sub_self, abs_zero]
    exact div_nonneg (abs_nonneg _) (Nat.cast_nonneg n)

end Noire.Lib
