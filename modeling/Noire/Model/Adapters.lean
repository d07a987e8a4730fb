import Noire.Dsp.Dereverb
import Noire.Model.Offline

namespace Noire

open Lib (Binary32)

/-!
# The adapters of the models

The adapters between the model contract and the inference engines, which may do anything.

* `FrameStats` — a valid probability; `prepareProcessFrame` and `finalizeProcessOutput`, the
  checks that the adapters share;
* `RnnoiseDenoiser`, `RnnoiseCandidateDenoiser`, `EnhancedRnnoiseDenoiser`,
  `FastEnhancerDenoiser` — the adapters, each over any engine;
* `CleanAnswer` — an answer that is either silence or clean;
* `outputActivityProbability_valid` — the last check of the fourth adapter, made after its
  output is written, never fails;
* `adapters_fail_silent` — so all four answer cleanly, and a call that is refused is as none.

The input buffers are overwritten before they are read, and so is the buffer the enhanced adapter
passes to the inner one; they are the values computed.

The engines are functions without any law: they may write anything into the buffer, and answer
with any number.  So cleanness has to come from the checks, which all adapters make in the same
order: first the shapes and the input, which refuse the call before the engine sees it; last the
probability and the output.  A lemma for each group of checks says how it ends, and the adapters
are put together from these.
-/

/-! ## The shared checks

`prepare_process_frame` and `finalize_process_output`: what comes in is checked, and what goes
out.
-/

/-- `FrameStats`: a valid probability. -/
structure FrameStats where
  vadProbability : F32
  valid : vadProbability.isFinite = true ∧ Binary32.zero.le vadProbability = true ∧
    vadProbability.le .one = true

namespace FrameStats

/-- `FrameStats::new`. -/
def new (vadProbability : F32) : Except ProcessError FrameStats :=
  if valid : vadProbability.isFinite = true ∧ Binary32.zero.le vadProbability = true ∧
      vadProbability.le .one = true then
    .ok ⟨vadProbability, valid⟩
  else .error .invalidStatistics

/-- `FrameStats::silence`. -/
def silence : FrameStats := ⟨.zero, by decide⟩

end FrameStats

/-- `ModelDescriptor::frame_buffer_samples`. -/
def ModelDescriptor.frameBufferSamples (descriptor : ModelDescriptor) : ℕ :=
  descriptor.frameSamples * descriptor.channels

/-- `output.fill(0.0)`. -/
def silenced (output : List F32) : List F32 := .replicate output.length .zero

/-- `prepare_process_frame`, with what it leaves in the output. -/
def prepareProcessFrame (descriptor : ModelDescriptor) (input output : List F32) :
    Except ProcessError Unit × List F32 :=
  let output := silenced output
  let expected := descriptor.frameBufferSamples
  if input.length ≠ expected then (.error .inputFrameLength, output)
  else if output.length ≠ expected then (.error .outputFrameLength, output)
  else if input.any fun sample => !sample.isFinite then (.error .nonFiniteInput, output)
  else (.ok (), output)

/-- The loop body of `finalize_process_output`. -/
def flushSubnormal (sample : F32) : F32 :=
  if !sample.isZero && sample.isSubnormal then .zero else sample

/-- `finalize_process_output`, with what it leaves in the output. -/
def finalizeProcessOutput (output : List F32) (stats : FrameStats) :
    Except ProcessError FrameStats × List F32 :=
  if output.any fun sample => !sample.isFinite then (.error .nonFiniteOutput, silenced output)
  else (.ok stats, output.map flushSubnormal)

/-- What an adapter answers to a call: its result, the output, and the adapter after it. -/
abbrev FrameAnswer (S : Type) := Except ProcessError FrameStats × List F32 × S

/-! ## RNNoise

Samples are scaled to the range of 16 bits for the library, and back.
-/

/-- The descriptor of the default model, less its names. -/
def rnnoiseDescriptor : ModelDescriptor where
  sampleRateHz := 48000
  channels := 1
  frameSamples := rnnoiseFrameSamples
  hopSamples := rnnoiseFrameSamples
  delaySamples := rnnoiseFrameSamples

/-- `MODEL_INPUT_POSITIVE_SCALE`. -/
def modelInputPositiveScale : F32 := .ofNat 32767

/-- `MODEL_INPUT_NEGATIVE_SCALE`. -/
def modelInputNegativeScale : F32 := .ofNat 32768

/-- `normalized_to_model_scale`. -/
def normalizedToModelScale (sample : F32) : F32 :=
  let sample := sample.clamp .minusOne .one
  if sample.negative then sample * modelInputNegativeScale else sample * modelInputPositiveScale

/-- `model_to_normalized_scale`. -/
def modelToNormalizedScale (sample : F32) : F32 :=
  let normalized :=
    if sample.negative then sample / modelInputNegativeScale else sample / modelInputPositiveScale
  normalized.clamp .minusOne .one

/-- `DenoiseState::process_frame`, whatever it does: from the state, what is in the output buffer
    and the input, the state and the buffer after it, and a probability. -/
abbrev RnnoiseEngine (σ : Type) :=
  σ → List F32 → List F32 → σ × Vector F32 rnnoiseFrameSamples × F32

/-- The fields that `RnnoiseDenoiser` and `RnnoiseCandidateDenoiser` process frames with. -/
structure RnnoiseAdapter (σ : Type) where
  state : σ
  modelOutput : List F32

/-- The body of `process_frame` that the two share. -/
def RnnoiseAdapter.processFrame {σ : Type} (descriptor : ModelDescriptor)
    (engine : RnnoiseEngine σ) (denoiser : RnnoiseAdapter σ) (input output : List F32) :
    FrameAnswer (RnnoiseAdapter σ) :=
  match prepareProcessFrame descriptor input output with
  | (.error error, output) => (.error error, output, denoiser)
  | (.ok (), output) =>
    let modelInput := input.map normalizedToModelScale
    let (state, modelOutput, vadProbability) :=
      engine denoiser.state denoiser.modelOutput modelInput
    match FrameStats.new vadProbability with
    | .error error => (.error error, output, ⟨state, modelOutput.toList⟩)
    | .ok stats =>
      match finalizeProcessOutput modelOutput.toList stats with
      | (.error error, modelOutput) => (.error error, output, ⟨state, modelOutput⟩)
      | (.ok _, modelOutput) =>
        -- The two buffers are of one length: every sample of the output is written.
        let (result, output) :=
          finalizeProcessOutput (modelOutput.map modelToNormalizedScale) stats
        (result, output, ⟨state, modelOutput⟩)

/-- `RnnoiseDenoiser`. -/
abbrev RnnoiseDenoiser := RnnoiseAdapter

/-- `RnnoiseDenoiser::process_frame`. -/
def RnnoiseDenoiser.processFrame {σ : Type} (engine : RnnoiseEngine σ) :
    RnnoiseDenoiser σ → List F32 → List F32 → FrameAnswer (RnnoiseDenoiser σ) :=
  RnnoiseAdapter.processFrame rnnoiseDescriptor engine

/-- `RnnoiseCandidateDenoiser`, less its model, which only `reset` reads. -/
abbrev RnnoiseCandidateDenoiser := RnnoiseAdapter

/-- `RnnoiseCandidateDenoiser::process_frame`. -/
def RnnoiseCandidateDenoiser.processFrame {σ : Type} (engine : RnnoiseEngine σ) :
    RnnoiseCandidateDenoiser σ → List F32 → List F32 → FrameAnswer (RnnoiseCandidateDenoiser σ) :=
  RnnoiseAdapter.processFrame rnnoiseDescriptor engine

/-! ## RNNoise with dereverberation

The inner adapter writes to a buffer of its own, which the reducer then reads.
-/

/-- `EnhancedRnnoiseDenoiser`. -/
structure EnhancedRnnoiseDenoiser (σ : Type) where
  inner : RnnoiseDenoiser σ
  dereverb : LateReverbReducer F32
  pendingVad : F32

/-- `EnhancedRnnoiseDenoiser::process_frame`. -/
def EnhancedRnnoiseDenoiser.processFrame {σ : Type} (engine : RnnoiseEngine σ)
    (denoiser : EnhancedRnnoiseDenoiser σ) (input output : List F32) :
    FrameAnswer (EnhancedRnnoiseDenoiser σ) :=
  match prepareProcessFrame rnnoiseDescriptor input output with
  | (.error error, output) => (.error error, output, denoiser)
  | (.ok (), output) =>
    match RnnoiseDenoiser.processFrame engine denoiser.inner input
        (.replicate rnnoiseFrameSamples .zero) with
    | (.error error, _, inner) => (.error error, output, { denoiser with inner })
    | (.ok stats, modelOutput, inner) =>
      let (turns, dereverb, _) := denoiser.dereverb.processFrame modelOutput
        (if denoiser.pendingVad.isFinite then some denoiser.pendingVad else none)
      let enhanced := turns.map (·.destination)
      let (result, output) := finalizeProcessOutput enhanced stats
      (result, output, { inner, dereverb, pendingVad := stats.vadProbability })

/-! ## FastEnhancer

The engine tells by a number whether it has failed, and has no probability of its own.
-/

/-- `FASTENHANCER_FRAME_SAMPLES`. -/
def fastEnhancerFrameSamples : ℕ := 512

/-- The descriptor of `FastEnhancer-B`, less its names. -/
def fastEnhancerDescriptor : ModelDescriptor where
  sampleRateHz := 48000
  channels := 1
  frameSamples := fastEnhancerFrameSamples
  hopSamples := fastEnhancerFrameSamples
  delaySamples := 512

/-- `fe_process`, whatever it does: from the state, what is in the output buffer and the input, the
    state and the buffer after it, and a code. -/
abbrev FastEnhancerEngine (σ : Type) :=
  σ → List F32 → List F32 → σ × Vector F32 fastEnhancerFrameSamples × ℤ

/-- `State::process`: whether it succeeds, and the state and the output after it. -/
def FastEnhancerEngine.process {σ : Type} (engine : FastEnhancerEngine σ) (state : σ)
    (output input : List F32) : Bool × σ × List F32 :=
  let (state, output, result) := engine state output input
  if result = 0 then (true, state, output.toList) else (false, state, silenced output.toList)

/-- `output_activity_probability`.  A sum of floats starts at `-0`. -/
def outputActivityProbability (output : List F32) : F32 :=
  let squares := output.map fun sample =>
    let sample := sample.clamp .minusOne .one
    sample * sample
  let meanSquare := squares.foldl (· + ·) (-Binary32.zero) / (.ofNat 512 : F32)
  ((meanSquare - ratio 1 (10 ^ 8)) / (ratio 1 (10 ^ 4) - ratio 1 (10 ^ 8))).clamp .zero .one

/-- `FastEnhancerDenoiser`. -/
structure FastEnhancerDenoiser (σ : Type) where
  state : σ
  rawOutput : List F32

/-- `FastEnhancerDenoiser::process_frame`. -/
def FastEnhancerDenoiser.processFrame {σ : Type} (engine : FastEnhancerEngine σ)
    (denoiser : FastEnhancerDenoiser σ) (input output : List F32) :
    FrameAnswer (FastEnhancerDenoiser σ) :=
  match prepareProcessFrame fastEnhancerDescriptor input output with
  | (.error error, output) => (.error error, output, denoiser)
  | (.ok (), output) =>
    match engine.process denoiser.state denoiser.rawOutput input with
    | (false, state, rawOutput) => (.error .modelFailure, output, ⟨state, rawOutput⟩)
    | (true, state, rawOutput) =>
      match finalizeProcessOutput rawOutput .silence with
      | (.error error, output) => (.error error, output, ⟨state, rawOutput⟩)
      | (.ok _, output) =>
        (FrameStats.new (outputActivityProbability output), output, ⟨state, rawOutput⟩)

/-! ## The activity

It is computed from a mean of squares, clamped, so it is a probability for any output that is
finite.
-/

/-- A sum of squares of numbers is a number. -/
theorem squares_nonneg {samples : List F32} (h : ∀ sample ∈ samples, sample.isNaN = false)
    {sum : F32} (hsum : Binary32.zero.le sum = true) :
    Binary32.zero.le ((samples.map fun sample =>
      sample.clamp .minusOne .one * sample.clamp .minusOne .one).foldl (· + ·) sum) = true := by
  induction samples generalizing sum with
  | nil => exact hsum
  | cons sample rest ih =>
    obtain ⟨hsample, hrest⟩ := List.forall_mem_cons.mp h
    have hclamped : (sample.clamp .minusOne .one).isNaN = false :=
      (Binary32.isNaN_of_le (Binary32.clamp_mem (by decide) hsample).2).1
    exact ih hrest (Binary32.zero_le_add hsum (Binary32.zero_le_mul_self hclamped))

/-- **The activity of a finite output is a probability.** -/
theorem outputActivityProbability_valid {output : List F32}
    (h : ∀ sample ∈ output, sample.isFinite = true) :
    ∃ stats, FrameStats.new (outputActivityProbability output) = .ok stats := by
  have hsum := squares_nonneg (fun sample hsample => Binary32.isNaN_of_isFinite (h sample hsample))
    (show Binary32.zero.le (-Binary32.zero) = true by decide)
  unfold outputActivityProbability
  dsimp only
  generalize hmean : (output.map fun sample =>
    sample.clamp .minusOne .one * sample.clamp .minusOne .one).foldl (· + ·) (-Binary32.zero) /
      (Binary32.ofNat 512 : F32) = mean
  -- Neither the mean nor the ratio is a NaN, so the clamp brings it into range.
  have hmeanNaN : mean.isNaN = false := by
    rw [← hmean]
    exact Binary32.isNaN_div (Binary32.zero_le_iff.mp hsum).1 (by decide) (by decide)
  have hquotient : ((mean - ratio 1 (10 ^ 8)) / (ratio 1 (10 ^ 4) - ratio 1 (10 ^ 8))).isNaN =
      false :=
    Binary32.isNaN_div (Binary32.isNaN_sub hmeanNaN (by decide +kernel)) (by decide +kernel)
      (by decide +kernel)
  obtain ⟨hnonneg, hle⟩ :=
    Binary32.clamp_mem (show Binary32.zero.le .one = true by decide) hquotient
  have hvalid := And.intro (Binary32.isFinite_of_mem hnonneg hle) (And.intro hnonneg hle)
  unfold FrameStats.new
  rw [dif_pos hvalid]
  exact ⟨_, rfl⟩

/-! ## Answers

A call is refused and leaves the adapter as it was, or it fails, or it succeeds with an output
that was checked; in the first two cases the output is silence.
-/

/-- The errors of a call that the model has not seen. -/
def ProcessError.Refuses : ProcessError → Prop
  | inputFrameLength => True
  | outputFrameLength => True
  | nonFiniteInput => True
  | nonFiniteOutput => False
  | invalidStatistics => False
  | modelFailure => False

/-- An answer that is silence, or clean: one that refuses the call leaves the adapter alone. -/
structure CleanAnswer {S : Type} (adapter : S) (output : List F32) (answer : FrameAnswer S) :
    Prop where
  silent : ∀ error, answer.1 = .error error → answer.2.1 = silenced output
  unchanged : ∀ error, answer.1 = .error error → error.Refuses → answer.2.2 = adapter
  length : answer.2.1.length = output.length
  clean : ∀ stats, answer.1 = .ok stats →
    (∀ sample ∈ answer.2.1, sample.isFinite = true ∧ sample.isSubnormal = false) ∧
      Binary32.zero.le stats.vadProbability = true ∧ stats.vadProbability.le .one = true

/-- The answers to a stream of calls. -/
def answers {S : Type} (process : S → List F32 → List F32 → FrameAnswer S) :
    S → List (List F32 × List F32) → List (Except ProcessError FrameStats × List F32)
  | _, [] => []
  | adapter, (input, output) :: calls =>
    let answer := process adapter input output
    (answer.1, answer.2.1) :: answers process answer.2.2 calls

/-- Every answer is clean, and after a call that is refused the rest of a stream is answered as
    without it. -/
structure FailsSilent {S : Type} (process : S → List F32 → List F32 → FrameAnswer S) : Prop where
  clean : ∀ adapter input output, CleanAnswer adapter output (process adapter input output)
  stream : ∀ adapter input output error, (process adapter input output).1 = .error error →
    error.Refuses → ∀ calls,
      answers process (process adapter input output).2.2 calls = answers process adapter calls

/-- Clean answers are enough. -/
theorem FailsSilent.of_clean {S : Type} {process : S → List F32 → List F32 → FrameAnswer S}
    (h : ∀ adapter input output, CleanAnswer adapter output (process adapter input output)) :
    FailsSilent process where
  clean := h
  stream adapter input output error herror hrefuses calls := by
    rw [(h adapter input output).unchanged error herror hrefuses]

section Answers

variable {S : Type} {adapter adapter' : S} {output : List F32}

theorem length_silenced (output : List F32) : (silenced output).length = output.length :=
  List.length_replicate ..

/-- Silence that changes nothing. -/
theorem CleanAnswer.refused (error : ProcessError) :
    CleanAnswer adapter output (.error error, silenced output, adapter) :=
  ⟨fun _ _ => rfl, fun _ _ _ => rfl, length_silenced output, nofun⟩

/-- Silence after the model has seen the call. -/
theorem CleanAnswer.failed {error : ProcessError} (h : ¬error.Refuses) :
    CleanAnswer adapter output (.error error, silenced output, adapter') := by
  refine ⟨fun _ _ => rfl, fun error' herror hrefuses => ?_, length_silenced output, nofun⟩
  obtain rfl : error = error' := Except.error.inj herror
  exact absurd hrefuses h

/-- Flushed samples are finite, and not subnormal. -/
theorem flushSubnormal_clean {sample : F32} (h : sample.isFinite = true) :
    (flushSubnormal sample).isFinite = true ∧ (flushSubnormal sample).isSubnormal = false := by
  have hsanitized : flushSubnormal sample = sanitized sample := by
    unfold flushSubnormal sanitized sanitizeSample
    rw [h]
    simp only [Bool.not_true, Bool.false_eq_true, if_false]
    split <;> rfl
  rw [hsanitized]
  exact sanitized_clean sample

/-- The last check either silences what was written, or cleans it. -/
theorem finalizeProcessOutput_cases (written : List F32) (stats : FrameStats) :
    finalizeProcessOutput written stats = (.error .nonFiniteOutput, silenced written) ∨
      (finalizeProcessOutput written stats = (.ok stats, written.map flushSubnormal) ∧
        ∀ sample ∈ written.map flushSubnormal,
          sample.isFinite = true ∧ sample.isSubnormal = false) := by
  unfold finalizeProcessOutput
  by_cases hany : (written.any fun sample => !sample.isFinite) = true
  · rw [if_pos hany]
    exact .inl rfl
  · rw [if_neg hany]
    exact .inr ⟨rfl, List.forall_mem_map.mpr fun sample hsample =>
      flushSubnormal_clean (not_any_not_isFinite.mp hany sample hsample)⟩

/-- Silence is as long as what it replaces. -/
theorem silenced_congr {written : List F32} (h : written.length = output.length) :
    silenced written = silenced output := by
  unfold silenced
  rw [h]

/-- An output that is written and checked last. -/
theorem CleanAnswer.finalized {written : List F32} (hlen : written.length = output.length)
    (stats : FrameStats) :
    CleanAnswer adapter output ((finalizeProcessOutput written stats).1,
      (finalizeProcessOutput written stats).2, adapter') := by
  rcases finalizeProcessOutput_cases written stats with h | ⟨h, hclean⟩ <;> rw [h]
  · rw [silenced_congr hlen]
    exact .failed nofun
  · refine ⟨nofun, nofun, (List.length_map _).trans hlen, fun stats' hstats => ⟨hclean, ?_⟩⟩
    obtain rfl : stats = stats' := Except.ok.inj hstats
    exact stats.valid.2

/-- The first checks either refuse the call, or find exact shapes; the output is silence. -/
theorem prepareProcessFrame_cases (descriptor : ModelDescriptor) (input output : List F32) :
    (∃ error, prepareProcessFrame descriptor input output = (.error error, silenced output)) ∨
      (prepareProcessFrame descriptor input output = (.ok (), silenced output) ∧
        input.length = descriptor.frameBufferSamples ∧
        output.length = descriptor.frameBufferSamples ∧
        ∀ sample ∈ input, sample.isFinite = true) := by
  unfold prepareProcessFrame
  dsimp only
  rw [length_silenced]
  by_cases hinput : input.length = descriptor.frameBufferSamples
  · rw [if_neg (not_not.mpr hinput)]
    by_cases houtput : output.length = descriptor.frameBufferSamples
    · rw [if_neg (not_not.mpr houtput)]
      by_cases hany : (input.any fun sample => !sample.isFinite) = true
      · rw [if_pos hany]
        exact .inl ⟨_, rfl⟩
      · rw [if_neg hany]
        exact .inr ⟨rfl, hinput, houtput, not_any_not_isFinite.mp hany⟩
    · rw [if_pos houtput]
      exact .inl ⟨_, rfl⟩
  · rw [if_pos hinput]
    exact .inl ⟨_, rfl⟩

/-- A finite input of exact shape into an output of exact shape passes the first checks. -/
theorem prepareProcessFrame_ok {descriptor : ModelDescriptor} {input output : List F32}
    (hinput : input.length = descriptor.frameBufferSamples)
    (houtput : output.length = descriptor.frameBufferSamples)
    (hfinite : ∀ sample ∈ input, sample.isFinite = true) :
    prepareProcessFrame descriptor input output = (.ok (), silenced output) := by
  unfold prepareProcessFrame
  dsimp only
  rw [length_silenced, if_neg (not_not.mpr hinput), if_neg (not_not.mpr houtput),
    if_neg (not_any_not_isFinite.mpr hfinite)]

end Answers

/-! ## The adapters

Each adapter has its own body, since they differ in what is scaled and in which check comes where.
-/

variable {σ : Type}

/-- Only invalid statistics are refused as such. -/
theorem FrameStats.new_cases (vadProbability : F32) :
    FrameStats.new vadProbability = .error .invalidStatistics ∨
      ∃ stats, FrameStats.new vadProbability = .ok stats := by
  unfold FrameStats.new
  split
  · exact .inr ⟨_, rfl⟩
  · exact .inl rfl

/-- A call that passes the first checks is answered cleanly, and not refused. -/
theorem RnnoiseAdapter.processFrame_ok {descriptor : ModelDescriptor} (engine : RnnoiseEngine σ)
    (denoiser : RnnoiseAdapter σ) {input output : List F32}
    (hprepare : prepareProcessFrame descriptor input output = (.ok (), silenced output))
    (houtput : output.length = rnnoiseFrameSamples) :
    CleanAnswer denoiser output (denoiser.processFrame descriptor engine input output) ∧
      ∀ error, (denoiser.processFrame descriptor engine input output).1 = .error error →
        ¬error.Refuses := by
  -- Each failure on the way leaves the output silent.
  have hfailed : ∀ (error : ProcessError) (after : RnnoiseAdapter σ), ¬error.Refuses →
      CleanAnswer denoiser output (.error error, silenced output, after) ∧
        ∀ error', (Except.error error : Except ProcessError FrameStats) = .error error' →
          ¬error'.Refuses := fun error after hnot =>
    ⟨.failed hnot, fun error' herror => Except.error.inj herror ▸ hnot⟩
  unfold RnnoiseAdapter.processFrame
  rw [hprepare]
  dsimp only
  obtain ⟨state, modelOutput, vadProbability⟩ :=
    engine denoiser.state denoiser.modelOutput (input.map normalizedToModelScale)
  dsimp only
  rcases FrameStats.new_cases vadProbability with hstats | ⟨stats, hstats⟩ <;> rw [hstats] <;>
    dsimp only
  · exact hfailed _ _ nofun
  rcases finalizeProcessOutput_cases modelOutput.toList stats with hfinal | ⟨hfinal, -⟩ <;>
    rw [hfinal] <;> dsimp only
  · exact hfailed _ _ nofun
  -- What is left to fail is the check of the scaled output.
  have hlen : ((modelOutput.toList.map flushSubnormal).map modelToNormalizedScale).length =
      output.length := by
    rw [List.length_map, List.length_map, Vector.length_toList, houtput]
  refine ⟨.finalized hlen stats, fun error herror => ?_⟩
  rcases finalizeProcessOutput_cases ((modelOutput.toList.map flushSubnormal).map
    modelToNormalizedScale) stats with hlast | ⟨hlast, -⟩ <;> rw [hlast] at herror
  · obtain rfl := Except.error.inj herror
    exact id
  · cases herror

/-- **RNNoise answers cleanly.** -/
theorem RnnoiseAdapter.clean {descriptor : ModelDescriptor}
    (hshape : descriptor.frameBufferSamples = rnnoiseFrameSamples) (engine : RnnoiseEngine σ)
    (denoiser : RnnoiseAdapter σ) (input output : List F32) :
    CleanAnswer denoiser output (denoiser.processFrame descriptor engine input output) := by
  rcases prepareProcessFrame_cases descriptor input output with
    ⟨error, hprepare⟩ | ⟨hprepare, -, houtput, -⟩
  · unfold RnnoiseAdapter.processFrame
    rw [hprepare]
    exact .refused error
  · exact (denoiser.processFrame_ok engine hprepare (houtput.trans hshape)).1

/-- **The enhanced adapter answers cleanly.**  Its inner one refuses nothing that it lets pass. -/
theorem EnhancedRnnoiseDenoiser.clean (engine : RnnoiseEngine σ)
    (denoiser : EnhancedRnnoiseDenoiser σ) (input output : List F32) :
    CleanAnswer denoiser output (denoiser.processFrame engine input output) := by
  have hshape : rnnoiseDescriptor.frameBufferSamples = rnnoiseFrameSamples := rfl
  unfold EnhancedRnnoiseDenoiser.processFrame
  rcases prepareProcessFrame_cases rnnoiseDescriptor input output with
    ⟨error, hprepare⟩ | ⟨hprepare, hinput, houtput, hfinite⟩ <;> rw [hprepare]
  · exact .refused error
  have hbuffer : (List.replicate rnnoiseFrameSamples Binary32.zero).length =
      rnnoiseFrameSamples := List.length_replicate ..
  -- The inner adapter answers first, into a buffer of its own.
  obtain ⟨hinner, hnot⟩ := denoiser.inner.processFrame_ok engine
    (prepareProcessFrame_ok hinput (hbuffer.trans hshape.symm) hfinite) hbuffer
  dsimp only
  unfold RnnoiseDenoiser.processFrame
  rcases hanswer : RnnoiseAdapter.processFrame rnnoiseDescriptor engine denoiser.inner input
    (.replicate rnnoiseFrameSamples .zero) with ⟨result, modelOutput, inner⟩
  rw [hanswer] at hinner hnot
  cases result with
  | error error => exact .failed (hnot error rfl)
  | ok stats =>
    dsimp only
    have hlen : ((denoiser.dereverb.processFrame modelOutput
        (if denoiser.pendingVad.isFinite then some denoiser.pendingVad else none)).1.map
          (·.destination)).length = output.length := by
      rw [List.length_map, houtput, hshape, ← hbuffer, ← hinner.length]
      exact LateReverbReducer.length_processSamples ..
    exact .finalized hlen stats

/-- **FastEnhancer answers cleanly.**  Once its output is written nothing fails. -/
theorem FastEnhancerDenoiser.clean (engine : FastEnhancerEngine σ)
    (denoiser : FastEnhancerDenoiser σ) (input output : List F32) :
    CleanAnswer denoiser output (denoiser.processFrame engine input output) := by
  have hshape : fastEnhancerDescriptor.frameBufferSamples = fastEnhancerFrameSamples := rfl
  unfold FastEnhancerDenoiser.processFrame
  rcases prepareProcessFrame_cases fastEnhancerDescriptor input output with
    ⟨error, hprepare⟩ | ⟨hprepare, -, houtput, -⟩ <;> rw [hprepare]
  · exact .refused error
  dsimp only
  unfold FastEnhancerEngine.process
  obtain ⟨state, rawOutput, result⟩ := engine denoiser.state denoiser.rawOutput input
  dsimp only
  -- The engine tells by its result whether the output is one.
  by_cases hresult : result = 0
  · rw [if_pos hresult]
    dsimp only
    have hlen : rawOutput.toList.length = output.length :=
      Vector.length_toList.trans (houtput.trans hshape).symm
    rcases finalizeProcessOutput_cases rawOutput.toList .silence with hfinal | ⟨hfinal, hclean⟩ <;>
      rw [hfinal] <;> dsimp only
    · rw [silenced_congr hlen]
      exact .failed nofun
    · obtain ⟨stats, hstats⟩ :=
        outputActivityProbability_valid fun sample hsample => (hclean sample hsample).1
      rw [hstats]
      refine ⟨nofun, nofun, (List.length_map _).trans hlen, fun stats' hstats' => ⟨hclean, ?_⟩⟩
      obtain rfl : stats = stats' := Except.ok.inj hstats'
      exact stats.valid.2
  · rw [if_neg hresult]
    exact .failed nofun

/-- **Adapters fail silent and clean.** Whatever the engines do, for every adapter, input and
    output: an answer is silence, or is finite and not subnormal with a valid probability; and a
    call that is refused changes nothing, so that the rest of the stream is as without it. -/
theorem adapters_fail_silent (σ : Type) :
    (∀ engine : RnnoiseEngine σ, FailsSilent (RnnoiseDenoiser.processFrame engine)) ∧
      (∀ engine : RnnoiseEngine σ, FailsSilent (RnnoiseCandidateDenoiser.processFrame engine)) ∧
      (∀ engine : RnnoiseEngine σ, FailsSilent (EnhancedRnnoiseDenoiser.processFrame engine)) ∧
      ∀ engine : FastEnhancerEngine σ, FailsSilent (FastEnhancerDenoiser.processFrame engine) :=
  ⟨fun engine => .of_clean (RnnoiseAdapter.clean rfl engine),
    fun engine => .of_clean (RnnoiseAdapter.clean rfl engine),
    fun engine => .of_clean (EnhancedRnnoiseDenoiser.clean engine),
    fun engine => .of_clean (FastEnhancerDenoiser.clean engine)⟩

end Noire
