import Noire.Lib.Binary32

namespace Noire

/-!
# Canonical samples

The bounds of the canonical audio domain, and the replacement of values no later stage
may see.

* `sanitizeSample` — one sample, with the counters of what was replaced;
* `sanitizeAll` — a run of samples; `sanitizeBuffer` is it on a whole buffer;
* `sanitized` — the value alone, which is all the signal law speaks of.  It is
  idempotent (`sanitized_sanitized`): the capture path sanitizes the same sample up to
  four times.
-/

/-- `f32`. -/
abbrev F32 := Lib.Binary32

/-- Samples of one model frame. -/
def modelFrameSamples : ℕ := 512

/-- The largest callback quantum the fixed buffers accept. -/
def maxCallbackFrames : ℕ := 4096

/-- The shortest strength transition, 20 ms at 48 kHz. -/
def minStrengthRampSamples : ℕ := 960

/-- The fade used for underflow and recovery, 5 ms at 48 kHz. -/
def faultRampSamples : ℕ := 240

/-- The largest dry delay: one model frame and one callback quantum. -/
def maxDryDelaySamples : ℕ := modelFrameSamples + maxCallbackFrames

/-- `u16::try_from(n).unwrap_or(u16::MAX)`. -/
def toU16 (n : ℕ) : ℕ := min n (2 ^ 16 - 1)

/-- A callback within the fixed boundary is counted exactly. -/
theorem toU16_of_le {n : ℕ} (h : n ≤ maxCallbackFrames) : toU16 n = n :=
  Nat.min_eq_left (h.trans (by decide))

/-- Counters of replaced samples. -/
structure SanitizeReport where
  nonFinite : ℕ := 0
  subnormal : ℕ := 0
  deriving DecidableEq

/-- `sanitize_sample`. -/
def sanitizeSample (sample : F32) (report : SanitizeReport) : F32 × SanitizeReport :=
  if !sample.isFinite then (.zero, { report with nonFinite := report.nonFinite + 1 })
  else if !sample.isZero && sample.isSubnormal then
    (.zero, { report with subnormal := report.subnormal + 1 })
  else (sample, report)

/-- Samples sanitized one after the other, with one report. -/
def sanitizeAll : List F32 → SanitizeReport → List F32 × SanitizeReport
  | [], report => ([], report)
  | sample :: rest, report =>
    let first := sanitizeSample sample report
    let others := sanitizeAll rest first.2
    (first.1 :: others.1, others.2)

/-- What a search for a sample that is not finite misses. -/
theorem not_any_not_isFinite {samples : List F32} :
    ¬(samples.any fun sample => !sample.isFinite) = true ↔
      ∀ sample ∈ samples, sample.isFinite = true := by simp

/-- `sanitize_buffer`. -/
def sanitizeBuffer (samples : List F32) : List F32 × SanitizeReport := sanitizeAll samples {}

/-- What sanitizing makes of one sample. -/
def sanitized (sample : F32) : F32 := (sanitizeSample sample {}).1

/-- The value does not depend on the counters. -/
@[simp] theorem sanitizeSample_fst (sample : F32) (report : SanitizeReport) :
    (sanitizeSample sample report).1 = sanitized sample := by
  unfold sanitized sanitizeSample
  split
  · rfl
  · split <;> rfl

/-- Sanitizing a buffer sanitizes each of its samples. -/
@[simp] theorem sanitizeAll_fst (samples : List F32) (report : SanitizeReport) :
    (sanitizeAll samples report).1 = samples.map sanitized := by
  induction samples generalizing report with
  | nil => rfl
  | cons sample rest ih => simp [sanitizeAll, ih]

/-- Sanitizing goes on with the report so far. -/
theorem sanitizeAll_append (samples others : List F32) (report : SanitizeReport) :
    sanitizeAll (samples ++ others) report =
      ((sanitizeAll samples report).1 ++ (sanitizeAll others (sanitizeAll samples report).2).1,
        (sanitizeAll others (sanitizeAll samples report).2).2) := by
  induction samples generalizing report with
  | nil => rfl
  | cons sample rest ih =>
    rw [List.cons_append, sanitizeAll, ih]
    rfl

@[simp] theorem sanitizeBuffer_fst (samples : List F32) :
    (sanitizeBuffer samples).1 = samples.map sanitized := sanitizeAll_fst samples {}

/-- A sanitized sample is one nothing replaces. -/
theorem sanitized_eq (sample : F32) : sanitized sample = sample ∨ sanitized sample = .zero := by
  unfold sanitized sanitizeSample
  split
  · exact .inr rfl
  · split
    · exact .inr rfl
    · exact .inl rfl

/-- A sanitized sample is finite, and not subnormal. -/
theorem sanitized_clean (sample : F32) :
    (sanitized sample).isFinite = true ∧ (sanitized sample).isSubnormal = false := by
  have hclean : Lib.Binary32.zero.isFinite = true ∧ Lib.Binary32.zero.isSubnormal = false := by
    decide
  unfold sanitized sanitizeSample
  by_cases hfinite : sample.isFinite = true
  · by_cases hzero : sample.isZero = true
    · rw [hfinite, hzero]
      refine ⟨hfinite, ?_⟩
      rcases Lib.Binary32.eq_of_isZero hzero with rfl | rfl <;> decide
    · rw [hfinite, Bool.eq_false_iff.mpr hzero]
      by_cases hsubnormal : sample.isSubnormal = true
      · rw [hsubnormal]
        exact hclean
      · rw [Bool.eq_false_iff.mpr hsubnormal]
        exact ⟨hfinite, Bool.eq_false_iff.mpr hsubnormal⟩
  · rw [Bool.eq_false_iff.mpr hfinite]
    exact hclean

@[simp] theorem sanitized_zero : sanitized .zero = .zero := by decide

/-- Sanitizing twice is sanitizing once. -/
@[simp] theorem sanitized_sanitized (sample : F32) :
    sanitized (sanitized sample) = sanitized sample := by
  rcases sanitized_eq sample with h | h <;> rw [h]
  · exact h
  · exact sanitized_zero

/-- Sanitizing a buffer twice is sanitizing it once. -/
theorem map_sanitized_sanitized (samples : List F32) :
    (samples.map sanitized).map sanitized = samples.map sanitized := by
  rw [List.map_map]
  exact List.map_congr_left fun sample _ => sanitized_sanitized sample

end Noire
