import Noire.Dsp.Sample
import Noire.Lib.Smoothing
import Mathlib.Algebra.Field.Rat
import Mathlib.Algebra.Order.Ring.Rat

namespace Noire

open Lib (Binary32)

/-!
# Arithmetic of the controls

What the controls of the signal path are computed with: the rounded arithmetic of the source, or
the exact one of an ordered field.

* `SampleOps` and `ControlOps` — what is asked of numbers besides the four operations;
* `ratio`, `smoothstep` and `finiteUnitOf` — what the controls share, over either arithmetic;
* `smoothstep_mem`, `finiteUnitOf_mem` — over exact numbers both are within the unit interval.
-/

/-- What is asked of numbers besides the four operations. -/
class SampleOps (α : Type) where
  lt : α → α → Bool
  clamp (x low high : α) : α
  /-- `sanitize_sample`. -/
  sanitize : α → SanitizeReport → α × SanitizeReport
  /-- Equality of `to_bits`. -/
  sameBits : α → α → Bool

instance : Add F32 := ⟨Binary32.add⟩
instance : Sub F32 := ⟨Binary32.sub⟩
instance : Mul F32 := ⟨Binary32.mul⟩
instance : Div F32 := ⟨Binary32.div⟩
instance : Neg F32 := ⟨Binary32.neg⟩
instance : NatCast F32 := ⟨Binary32.ofNat⟩

instance : SampleOps F32 where
  lt := Binary32.lt
  clamp := Binary32.clamp
  sanitize := sanitizeSample
  sameBits x y := x.bits = y.bits

/-- Exact numbers are finite, and never replaced. -/
instance {K : Type} [Field K] [LinearOrder K] : SampleOps K where
  lt x y := x < y
  clamp x low high := min high (max low x)
  sanitize x report := (x, report)
  sameBits x y := x = y

/-- What the controllers ask of numbers besides. -/
class ControlOps (α : Type) where
  le : α → α → Bool
  max : α → α → α

instance : ControlOps F32 where
  le := Binary32.le
  max := Binary32.max

instance {K : Type} [Field K] [LinearOrder K] : ControlOps K where
  le x y := x ≤ y
  max := max

/-- A value as the controls are given it: `none` if it is not finite. -/
def heard (value : F32) : Option F32 := if value.isFinite then some value else none

section

variable {α : Type} [Add α] [Sub α] [Mul α] [Div α] [NatCast α] [SampleOps α]

/-- A decimal literal. -/
def ratio (n d : ℕ) : α := (n : α) / (d : α)

/-- `smoothstep`. -/
def smoothstep (low high value : α) : α :=
  let position := SampleOps.clamp ((value - low) / (high - low)) (Nat.cast 0) (Nat.cast 1)
  position * position * (Nat.cast 3 - Nat.cast 2 * position)

/-- `finite_unit`: `none` is a value that is not finite. -/
def finiteUnitOf (value : Option α) : α :=
  match value with
  | some value => SampleOps.clamp value (Nat.cast 0) (Nat.cast 1)
  | none => Nat.cast 0

end

/-! ## Exact numbers -/

section Exact

variable {K : Type} [Field K] [LinearOrder K] [IsStrictOrderedRing K]

theorem smoothstep_mem (low high value : K) : smoothstep low high value ∈ Set.Icc 0 1 := by
  unfold smoothstep
  simp only [Nat.cast_zero, Nat.cast_one, Nat.cast_ofNat]
  exact Lib.smooth_mem (Lib.clamp_mem zero_le_one _)

/-- From its upper edge on the step is full. -/
theorem smoothstep_full {low high value : K} (h : low < high) (hvalue : high ≤ value) :
    smoothstep low high value = 1 := by
  have hposition : 1 ≤ (value - low) / (high - low) :=
    (one_le_div (sub_pos.mpr h)).mpr (sub_le_sub_right hvalue low)
  have hclamped : min 1 (max 0 ((value - low) / (high - low))) = 1 :=
    min_eq_left (hposition.trans (le_max_right _ _))
  unfold smoothstep
  simp only [Nat.cast_zero, Nat.cast_one, Nat.cast_ofNat]
  show min 1 (max 0 _) * min 1 (max 0 _) * (3 - 2 * min 1 (max 0 _)) = 1
  rw [hclamped]
  norm_num

theorem finiteUnitOf_mem (value : Option K) : finiteUnitOf value ∈ Set.Icc 0 1 := by
  cases value with
  | none => simp [finiteUnitOf]
  | some value =>
    unfold finiteUnitOf
    rw [Nat.cast_zero, Nat.cast_one]
    exact Lib.clamp_mem zero_le_one value

end Exact

end Noire
