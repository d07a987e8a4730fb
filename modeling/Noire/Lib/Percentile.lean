import Mathlib.Algebra.Order.Floor.Div
import Mathlib.Data.List.Sort
import Mathlib.Tactic.Common

namespace Noire.Lib

/-!
# Nearest-rank percentiles

The percentile of a list of values, and how counting bounds it.

* `percentileRank` — the rank of a percentile among a number of values, from one on;
* `percentile` — the value at that rank, when the values are put in order;
* `getElem_le_iff_countP` — an ordered list is at most a bound up to the count of such values;
* `percentile_le_iff` — so a percentile is at most a bound when enough values are.
-/

/-- The nearest rank of a percentile among `count` values, from one on. -/
def percentileRank (count percent : ℕ) : ℕ := max 1 ((count * percent) ⌈/⌉ 100)

theorem percentileRank_mono (count : ℕ) {percent percent' : ℕ} (h : percent ≤ percent') :
    percentileRank count percent ≤ percentileRank count percent' := by
  have hmul : count * percent ≤ count * percent' := Nat.mul_le_mul_left count h
  unfold percentileRank
  rw [Nat.ceilDiv_eq_add_pred_div, Nat.ceilDiv_eq_add_pred_div]
  omega

/-- A percentile up to the hundredth has a value. -/
theorem percentileRank_le {count percent : ℕ} (hcount : 0 < count) (hpercent : percent ≤ 100) :
    percentileRank count percent ≤ count := by
  have hmul : count * percent ≤ count * 100 := Nat.mul_le_mul_left count hpercent
  unfold percentileRank
  rw [Nat.ceilDiv_eq_add_pred_div]
  omega

/-- The hundredth percentile is the last value. -/
theorem percentileRank_hundred {count : ℕ} (hcount : 0 < count) :
    percentileRank count 100 = count := by
  unfold percentileRank
  rw [Nat.ceilDiv_eq_add_pred_div]
  omega

variable {α : Type*} [LinearOrder α]

/-- The value at the nearest rank of a percentile, when there is one. -/
def percentile (values : List α) (percent : ℕ) : Option α :=
  (values.insertionSort (· ≤ ·))[percentileRank values.length percent - 1]?

/-- **An ordered list and a bound.** The values at most the bound are the first ones. -/
theorem getElem_le_iff_countP {values : List α} (hordered : values.Pairwise (· ≤ ·)) {k : ℕ}
    (hk : k < values.length) (bound : α) :
    values[k] ≤ bound ↔ k < values.countP (· ≤ bound) := by
  induction values generalizing k with
  | nil => exact absurd hk (Nat.not_lt_zero k)
  | cons value rest ih =>
    obtain ⟨hvalue, hrest⟩ := List.pairwise_cons.mp hordered
    by_cases hle : value ≤ bound
    · rw [List.countP_cons_of_pos (by simpa using hle)]
      cases k with
      | zero => simpa using hle
      | succ k =>
        rw [List.getElem_cons_succ, ih hrest (Nat.lt_of_succ_lt_succ hk)]
        omega
    · -- Nothing after a value above the bound is at most the bound.
      have hnone : (value :: rest).countP (· ≤ bound) = 0 := by
        rw [List.countP_eq_zero]
        intro other hother
        rcases List.mem_cons.mp hother with rfl | hother
        · simpa using hle
        · simpa using lt_of_lt_of_le (not_le.mp hle) (hvalue other hother)
      rw [hnone]
      refine iff_of_false ?_ (Nat.not_lt_zero k)
      cases k with
      | zero => exact hle
      | succ k =>
        exact fun hbound => hle ((hvalue _ (List.getElem_mem _)).trans hbound)

/-- **A percentile and a bound.** The percentile is at most the bound when as many values as its
    rank are. -/
theorem percentile_le_iff {values : List α} {percent : ℕ} {value : α}
    (h : percentile values percent = some value) (bound : α) :
    value ≤ bound ↔ percentileRank values.length percent ≤ values.countP (· ≤ bound) := by
  obtain ⟨hk, rfl⟩ := List.getElem?_eq_some_iff.mp h
  rw [getElem_le_iff_countP (List.pairwise_insertionSort (· ≤ ·) values) hk,
    (List.perm_insertionSort (· ≤ ·) values).countP_eq]
  have hone : 1 ≤ percentileRank values.length percent := Nat.le_max_left ..
  omega

/-- Values have a percentile. -/
theorem exists_percentile {values : List α} (hvalues : values ≠ []) {percent : ℕ}
    (hpercent : percent ≤ 100) : ∃ value, percentile values percent = some value := by
  have hpos : 0 < values.length := List.length_pos_iff.mpr hvalues
  have hrank := percentileRank_le hpos hpercent
  have hone : 1 ≤ percentileRank values.length percent := Nat.le_max_left ..
  refine ⟨_, List.getElem?_eq_getElem ?_⟩
  rw [List.length_insertionSort]
  omega

end Noire.Lib
