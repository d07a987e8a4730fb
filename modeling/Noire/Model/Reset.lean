import Noire.Model.Adapters

namespace Noire

open Lib (Binary32)

/-!
# Resetting a model

A model's `reset` gives back the instance that was created, whatever it was fed and however it
failed: its configuration is what neither a frame nor a reset touches.

* `reset`, `new` — the resets of the adapters and of the reverberation reducer, and the instances
  that the factories create, for an engine that starts at `fresh`;
* `ModelCall`, `called` — what is done to an instance, and what it makes of it;
* `Resets` — a reset that gives back the new instance, before a frame and after it;
* `reset_restores_new` — so each of the four adapters can be reset to what was created.

The input buffers are not part of the adapters, so neither reset clears them.

Every field of an adapter is of one of three kinds: it is set at creation and touched by nothing,
a reset writes it, or a frame overwrites it before it reads it.  So the relation kept through a
use is that a reset of the instance is the new one, and one frame keeps it.
-/

/-! ## The resets

A new instance of each adapter, and what its `reset` clears.
-/

/-- `LateReverbReducer::reset`. -/
def LateReverbReducer.reset {α : Type} [NatCast α] (reducer : LateReverbReducer α) :
    LateReverbReducer α :=
  { reducer with
    history := .replicate lateDelaySamples (Nat.cast 0)
    position := 0
    correlation := Nat.cast 0
    referencePower := Nat.cast 0
    prediction := Nat.cast 0
    mix := Nat.cast 0 }

variable {σ : Type}

/-- The instance that `RnnoiseFactory::create` and `RnnoiseCandidateFactory::create` return. -/
def RnnoiseAdapter.new (fresh : σ) : RnnoiseAdapter σ :=
  ⟨fresh, .replicate rnnoiseFrameSamples .zero⟩

/-- `reset` of `RnnoiseDenoiser`, and of `RnnoiseCandidateDenoiser`, whose model is what its fresh
    state is made from. -/
def RnnoiseAdapter.reset (fresh : σ) (denoiser : RnnoiseAdapter σ) : RnnoiseAdapter σ :=
  ⟨fresh, silenced denoiser.modelOutput⟩

/-- The instance that `EnhancedRnnoiseFactory::create` returns. -/
def EnhancedRnnoiseDenoiser.new (fresh : σ) (dereverbStrength : Option F32)
    (smoothing : LateReverbSmoothing F32) : EnhancedRnnoiseDenoiser σ where
  inner := RnnoiseAdapter.new fresh
  dereverb := .new dereverbStrength smoothing
  pendingVad := .zero

/-- `EnhancedRnnoiseDenoiser::reset`. -/
def EnhancedRnnoiseDenoiser.reset (fresh : σ) (denoiser : EnhancedRnnoiseDenoiser σ) :
    EnhancedRnnoiseDenoiser σ where
  inner := RnnoiseAdapter.reset fresh denoiser.inner
  dereverb := denoiser.dereverb.reset
  pendingVad := .zero

/-- The instance that `FastEnhancerFactory::create` returns. -/
def FastEnhancerDenoiser.new (fresh : σ) : FastEnhancerDenoiser σ :=
  ⟨fresh, .replicate fastEnhancerFrameSamples .zero⟩

/-- `FastEnhancerDenoiser::reset`, where `feReset` is `fe_reset`. -/
def FastEnhancerDenoiser.reset (feReset : σ → σ) (denoiser : FastEnhancerDenoiser σ) :
    FastEnhancerDenoiser σ :=
  ⟨feReset denoiser.state, silenced denoiser.rawOutput⟩

/-! ## Instances in use

An instance that was called any number of times can still be reset to a new one, if a call leaves
nothing behind that the reset does not clear.
-/

/-- What is done to an instance of a model. -/
inductive ModelCall
  | processFrame (input output : List F32)
  | reset

section Used

variable {S : Type} (process : S → List F32 → List F32 → FrameAnswer S) (reset : S → S)

/-- An instance after a call. -/
def called (adapter : S) : ModelCall → S
  | .processFrame input output => (process adapter input output).2.2
  | .reset => reset adapter

/-- A reset gives back the new instance, and a frame leaves it so. -/
structure Resets (new : S) : Prop where
  restored : reset new = new
  processFrame : ∀ adapter input output, reset adapter = new →
    reset (process adapter input output).2.2 = new

/-- **In use**, an instance can always be reset to the new one. -/
theorem Resets.used {process : S → List F32 → List F32 → FrameAnswer S} {reset : S → S} {new : S}
    (h : Resets process reset new) (calls : List ModelCall) :
    reset (calls.foldl (called process reset) new) = new := by
  induction calls using List.reverseRecOn with
  | nil => exact h.restored
  | append_singleton calls call ih =>
    rw [List.foldl_append]
    cases call with
    | processFrame input output => exact h.processFrame _ input output ih
    | reset => exact (congrArg reset ih).trans h.restored

end Used

/-! ## The adapters

So it is for the four of them; what the foreign engine clears is its own contract.
-/

/-- A loop over samples changes nothing that a reset keeps. -/
theorem LateReverbReducer.reset_processSamples (nonSpeech : F32)
    (reducer : LateReverbReducer F32) (report : LateReverbReport F32) (input : List F32) :
    (reducer.processSamples nonSpeech report input).2.1.reset = reducer.reset := by
  induction input generalizing reducer report with
  | nil => rfl
  | cons source rest ih => exact ih _ _

/-- A whole buffer is all that a new adapter asks for. -/
theorem RnnoiseAdapter.reset_eq_new_iff {fresh : σ} {denoiser : RnnoiseAdapter σ} :
    denoiser.reset fresh = .new fresh ↔ denoiser.modelOutput.length = rnnoiseFrameSamples := by
  refine ⟨fun h => ?_, fun h => ?_⟩
  · have hlength := congrArg (·.modelOutput.length) h
    simpa [RnnoiseAdapter.reset, RnnoiseAdapter.new, length_silenced] using hlength
  · rw [RnnoiseAdapter.reset, RnnoiseAdapter.new, silenced, h]

/-- A frame leaves a whole buffer, whichever way it goes. -/
theorem RnnoiseAdapter.length_modelOutput {descriptor : ModelDescriptor} (engine : RnnoiseEngine σ)
    {denoiser : RnnoiseAdapter σ} (h : denoiser.modelOutput.length = rnnoiseFrameSamples)
    (input output : List F32) :
    (denoiser.processFrame descriptor engine input output).2.2.modelOutput.length =
      rnnoiseFrameSamples := by
  unfold RnnoiseAdapter.processFrame
  rcases prepareProcessFrame descriptor input output with ⟨error | ⟨⟩, prepared⟩
  · exact h
  dsimp only
  obtain ⟨state, modelOutput, vadProbability⟩ :=
    engine denoiser.state denoiser.modelOutput (input.map normalizedToModelScale)
  have hlength : modelOutput.toList.length = rnnoiseFrameSamples := Vector.length_toList
  dsimp only
  rcases FrameStats.new_cases vadProbability with hstats | ⟨stats, hstats⟩ <;> rw [hstats]
  · exact hlength
  dsimp only
  rcases finalizeProcessOutput_cases modelOutput.toList stats with hfinal | ⟨hfinal, -⟩ <;>
    rw [hfinal]
  · exact (length_silenced _).trans hlength
  · exact (List.length_map _).trans hlength

/-- RNNoise is reset to the new instance. -/
theorem RnnoiseAdapter.resets (descriptor : ModelDescriptor) (engine : RnnoiseEngine σ)
    (fresh : σ) : Resets (RnnoiseAdapter.processFrame descriptor engine)
      (RnnoiseAdapter.reset fresh) (.new fresh) where
  restored := reset_eq_new_iff.mpr (List.length_replicate ..)
  processFrame _ input output h :=
    reset_eq_new_iff.mpr (length_modelOutput engine (reset_eq_new_iff.mp h) input output)

/-- The parts of the enhanced adapter are reset one by one. -/
theorem EnhancedRnnoiseDenoiser.reset_eq_new {fresh : σ} {dereverbStrength : Option F32}
    {smoothing : LateReverbSmoothing F32} {denoiser : EnhancedRnnoiseDenoiser σ}
    (hinner : RnnoiseAdapter.reset fresh denoiser.inner = .new fresh)
    (hdereverb : denoiser.dereverb.reset = .new dereverbStrength smoothing) :
    denoiser.reset fresh = .new fresh dereverbStrength smoothing := by
  rw [EnhancedRnnoiseDenoiser.reset, EnhancedRnnoiseDenoiser.new, hinner, hdereverb]

/-- **The enhanced adapter** is reset to the new instance: the loop of its reducer keeps the
    strength and the smoothing that it was created with. -/
theorem EnhancedRnnoiseDenoiser.resets (engine : RnnoiseEngine σ) (fresh : σ)
    (dereverbStrength : Option F32) (smoothing : LateReverbSmoothing F32) :
    Resets (EnhancedRnnoiseDenoiser.processFrame engine) (EnhancedRnnoiseDenoiser.reset fresh)
      (.new fresh dereverbStrength smoothing) where
  restored := reset_eq_new (RnnoiseAdapter.resets rnnoiseDescriptor engine fresh).restored rfl
  processFrame denoiser input output h := by
    have hdereverb : denoiser.dereverb.reset = .new dereverbStrength smoothing :=
      congrArg (·.dereverb) h
    have hinner := (RnnoiseAdapter.resets rnnoiseDescriptor engine fresh).processFrame
      denoiser.inner input (.replicate rnnoiseFrameSamples .zero) (congrArg (·.inner) h)
    unfold EnhancedRnnoiseDenoiser.processFrame
    rcases prepareProcessFrame rnnoiseDescriptor input output with ⟨error | ⟨⟩, prepared⟩
    · exact h
    dsimp only
    unfold RnnoiseDenoiser.processFrame
    -- The inner adapter has seen the frame, also where it fails on it.
    rcases hanswer : RnnoiseAdapter.processFrame rnnoiseDescriptor engine denoiser.inner input
      (.replicate rnnoiseFrameSamples .zero) with ⟨result, modelOutput, inner⟩
    rw [hanswer] at hinner
    cases result with
    | error error => exact reset_eq_new hinner hdereverb
    | ok stats =>
      exact reset_eq_new hinner
        ((LateReverbReducer.reset_processSamples _ _ _ modelOutput).trans hdereverb)

/-- What `fe_reset` clears: all but the weights, which no frame changes.  A state is taken without
    the transform's scratch buffers, which a frame writes before it reads them. -/
structure FastEnhancerEngine.Clears (engine : FastEnhancerEngine σ) (feReset : σ → σ) (fresh : σ) :
    Prop where
  restored : feReset fresh = fresh
  process : ∀ state output input, feReset (engine state output input).1 = feReset state

/-- The parts of the FastEnhancer adapter are reset one by one. -/
theorem FastEnhancerDenoiser.reset_eq_new {feReset : σ → σ} {fresh : σ}
    {denoiser : FastEnhancerDenoiser σ} (hstate : feReset denoiser.state = fresh)
    (hlength : denoiser.rawOutput.length = fastEnhancerFrameSamples) :
    denoiser.reset feReset = .new fresh := by
  rw [FastEnhancerDenoiser.reset, FastEnhancerDenoiser.new, silenced, hstate, hlength]

/-- FastEnhancer is reset to the new instance, also after a frame that its engine refuses. -/
theorem FastEnhancerDenoiser.resets {engine : FastEnhancerEngine σ} {feReset : σ → σ} {fresh : σ}
    (hclears : engine.Clears feReset fresh) :
    Resets (FastEnhancerDenoiser.processFrame engine) (FastEnhancerDenoiser.reset feReset)
      (.new fresh) where
  restored := reset_eq_new hclears.restored (List.length_replicate ..)
  processFrame denoiser input output h := by
    have hstate : feReset denoiser.state = fresh := congrArg (·.state) h
    have hcleared := hclears.process denoiser.state denoiser.rawOutput input
    unfold FastEnhancerDenoiser.processFrame
    rcases prepareProcessFrame fastEnhancerDescriptor input output with ⟨error | ⟨⟩, prepared⟩
    · exact h
    dsimp only
    unfold FastEnhancerEngine.process
    rcases hanswer : engine denoiser.state denoiser.rawOutput input with ⟨state, rawOutput, result⟩
    rw [hanswer, hstate] at hcleared
    have hlength : rawOutput.toList.length = fastEnhancerFrameSamples := Vector.length_toList
    dsimp only
    by_cases hresult : result = 0
    · rw [if_pos hresult]
      dsimp only
      rcases finalizeProcessOutput_cases rawOutput.toList .silence with hfinal | ⟨hfinal, -⟩ <;>
        rw [hfinal] <;> exact reset_eq_new hcleared hlength
    · rw [if_neg hresult]
      -- The engine's output is silenced in place: the buffer stays whole.
      exact reset_eq_new hcleared ((length_silenced _).trans hlength)

/-- **A reset restores the new instance.** Whatever was done to an instance of any of the four
    adapters, frames that failed and earlier resets included, and whatever its engine makes of
    them, its reset leaves what was created: with the engine's fresh state, silent buffers, and
    the strength and the smoothing that it was created with. -/
theorem reset_restores_new (σ : Type) (fresh : σ) (calls : List ModelCall) :
    (∀ engine : RnnoiseEngine σ, RnnoiseAdapter.reset fresh (calls.foldl
        (called (RnnoiseDenoiser.processFrame engine) (RnnoiseAdapter.reset fresh))
          (.new fresh)) = .new fresh) ∧
      (∀ engine : RnnoiseEngine σ, RnnoiseAdapter.reset fresh (calls.foldl
        (called (RnnoiseCandidateDenoiser.processFrame engine) (RnnoiseAdapter.reset fresh))
          (.new fresh)) = .new fresh) ∧
      (∀ (engine : RnnoiseEngine σ) (dereverbStrength : Option F32)
        (smoothing : LateReverbSmoothing F32), EnhancedRnnoiseDenoiser.reset fresh (calls.foldl
          (called (EnhancedRnnoiseDenoiser.processFrame engine)
            (EnhancedRnnoiseDenoiser.reset fresh)) (.new fresh dereverbStrength smoothing)) =
          .new fresh dereverbStrength smoothing) ∧
      ∀ (engine : FastEnhancerEngine σ) (feReset : σ → σ), engine.Clears feReset fresh →
        FastEnhancerDenoiser.reset feReset (calls.foldl
          (called (FastEnhancerDenoiser.processFrame engine) (FastEnhancerDenoiser.reset feReset))
            (.new fresh)) = .new fresh :=
  ⟨fun engine => (RnnoiseAdapter.resets rnnoiseDescriptor engine fresh).used calls,
    fun engine => (RnnoiseAdapter.resets rnnoiseDescriptor engine fresh).used calls,
    fun engine dereverbStrength smoothing =>
      (EnhancedRnnoiseDenoiser.resets engine fresh dereverbStrength smoothing).used calls,
    fun _ _ hclears => (FastEnhancerDenoiser.resets hclears).used calls⟩

/-- An engine that counts its frames, and refuses each. -/
def refusingEngine : FastEnhancerEngine ℕ := fun state _ _ => (state + 1, .replicate _ .one, 1)

/-- Its adapter is as created after a frame that it refused. -/
theorem reset_restores_new_refused :
    FastEnhancerDenoiser.reset (fun _ => 0) (called
      (FastEnhancerDenoiser.processFrame refusingEngine) (FastEnhancerDenoiser.reset fun _ => 0)
        (.new 0) (.processFrame (.replicate 512 .zero) (.replicate 512 .zero))) = .new 0 :=
  (reset_restores_new ℕ 0 [.processFrame (.replicate 512 .zero) (.replicate 512 .zero)]).2.2.2
    refusingEngine (fun _ => 0) ⟨rfl, fun _ _ _ => rfl⟩

end Noire
