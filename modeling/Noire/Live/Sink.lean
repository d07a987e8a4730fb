import Noire.Config
import Noire.Telemetry
import Noire.Dsp.Framing
import Noire.Transport.Bypass

namespace Noire

/-!
# The live capture sink

The capture callback's owner of the model, of the signal state and of the processed
producer.  It is written over any monad `m` with an operation `writeProcessed`, the
transport's: the signal law reads it with a transport that only records, the lock-step
laws with the real one.

* `Denoiser` — a model as the trait describes it: a state, and a step on exact frames;
* `LiveCaptureSink.loadParameters`, `processFrameParts`, `write` — the callback;
* `createLiveChannel` — its construction;
* `LiveCaptureSink.write_eq` — a callback is its parameter load, then `processFrameParts`
  on each block of the stream that it completes.

Left out are the deadline window, the timing histograms and the rate-limited meter: they
read the clock or the processed samples, and only publish.  The callback, dry, wet and
mixed buffers are overwritten before they are read, so they are the values computed.
-/

/-! ## The model contract

A model is a state and a function, and may refuse a frame or fail on it.
-/

/-- One exact model frame. -/
abbrev ModelFrame := Vector F32 modelFrameSamples

/-- `ProcessError`. -/
inductive ProcessError
  | inputFrameLength
  | outputFrameLength
  | nonFiniteInput
  | nonFiniteOutput
  | invalidStatistics
  | modelFailure
  deriving DecidableEq

/-- The fields of `ModelDescriptor` the live path reads. -/
structure ModelDescriptor where
  sampleRateHz : ℕ
  channels : ℕ
  frameSamples : ℕ
  hopSamples : ℕ
  delaySamples : ℕ
  deriving DecidableEq

/-- `Denoiser`: the recurrent state of a model is a `σ`. -/
structure Denoiser (σ : Type) where
  descriptor : ModelDescriptor
  processFrame : σ → List F32 → σ × Except ProcessError ModelFrame

/-- The model never fails on an exact frame of sanitized samples. -/
def Denoiser.AlwaysOk {σ : Type} (model : Denoiser σ) : Prop :=
  ∀ (state : σ) (frame : List F32), frame.length = modelFrameSamples →
    (∀ x ∈ frame, sanitized x = x) → (model.processFrame state frame).2.isOk = true

/-! ## Parameters

What the control thread sets and the data thread reads at the start of a callback.
-/

/-- `AtomicParameters`. -/
structure AtomicParameters where
  epoch : ℕ := 0
  strength : F32 := .one
  enabled : Bool := true
  failMode : FailMode := .closed
  deriving DecidableEq

/-- The wet strength the parameters ask for: a bypassed model mixes at zero. -/
def AtomicParameters.target (shared : AtomicParameters) : F32 :=
  if shared.enabled then shared.strength else .zero

/-- `ParameterSnapshot`. -/
structure ParameterSnapshot where
  epoch : ℕ := 0
  failMode : FailMode := .closed
  deriving DecidableEq

/-- The live telemetry the capture callback writes. -/
structure LiveCounters where
  state : LiveState := .running
  inputSamples : ℕ := 0
  modelFrames : ℕ := 0
  dryFrames : ℕ := 0
  modelErrors : ℕ := 0
  hardCeilingSamples : ℕ := 0
  sanitizedSamples : ℕ := 0
  deriving DecidableEq

/-! ## The sink

`LiveCaptureSink`, over any way of publishing a block: the real one goes through the ring, the
ones of the proofs keep what they are given.
-/

/-- `LiveCaptureSink`, less its transport. -/
structure LiveCaptureSink (σ : Type) where
  model : σ
  assembler : FrameAssembler
  dryDelay : DryDelay
  strength : StrengthRamp
  parameters : ParameterSnapshot := {}
  failed : Bool := false
  shared : LiveCounters := {}

/-- `LivePipelineError`. -/
inductive LivePipelineError
  | incompatibleModel
  | dryDelay (error : DryDelayError)
  deriving DecidableEq

/-- The mixing loop of one frame: one draw of the strength for each pair of samples. -/
def mixAll : List (F32 × F32) → StrengthRamp → MixReport → List F32 × StrengthRamp × MixReport
  | [], ramp, report => ([], ramp, report)
  | (dry, wet) :: rest, ramp, report =>
    let strength := ramp.next
    let first := LinearMixer.mix dry wet strength.1 report
    let others := mixAll rest strength.2 first.2
    (first.1 :: others.1, others.2)

namespace LiveCaptureSink

variable {σ : Type}

/-- `LiveCaptureSink::new`. -/
def new (model : Denoiser σ) (initial : σ) : Except LivePipelineError (LiveCaptureSink σ) :=
  if model.descriptor.sampleRateHz ≠ 48000 ∨ model.descriptor.channels ≠ 1 ∨
      model.descriptor.frameSamples ≠ modelFrameSamples ∨
      model.descriptor.hopSamples ≠ modelFrameSamples then
    .error .incompatibleModel
  else
    match DryDelay.new model.descriptor.delaySamples with
    | .error error => .error (.dryDelay error)
    | .ok dryDelay => .ok {
        model := initial
        assembler := .new
        dryDelay := dryDelay
        strength := .new .one }

/-- `LiveCaptureSink::load_parameters`.  The second read of the epoch differs only when an
    update is under way, and then nothing is loaded, as at an odd epoch. -/
def loadParameters (shared : AtomicParameters) (sink : LiveCaptureSink σ) :
    LiveCaptureSink σ :=
  if shared.epoch = sink.parameters.epoch ∨ shared.epoch % 2 ≠ 0 then sink
  else
    let sink := { sink with parameters := ⟨shared.epoch, shared.failMode⟩ }
    -- A ramp under way is restarted only by another target.
    if shared.target.bits ≠ sink.strength.target.bits then
      { sink with strength := sink.strength.setTarget shared.target 0 }
    else sink

/-- The model failed: count it and latch the failure. -/
def modelFailed (sink : LiveCaptureSink σ) : LiveCaptureSink σ :=
  { sink with
    failed := true
    shared := { sink.shared with
      state := .modelFailed
      modelErrors := sink.shared.modelErrors + 1 } }

/-- Count what a stage sanitized. -/
def countSanitized (sink : LiveCaptureSink σ) (report : SanitizeReport) : LiveCaptureSink σ :=
  { sink with
    shared := { sink.shared with
      sanitizedSamples :=
        sink.shared.sanitizedSamples + (report.nonFinite + report.subnormal) } }

/-- The mixing part of a frame: the mixed samples, and the sink with the strength drawn and
    the mixer's counters added. -/
def mixFrame (sink : LiveCaptureSink σ) (dry wet : List F32) : List F32 × LiveCaptureSink σ :=
  let mixed := mixAll (dry.zip wet) sink.strength {}
  let sink := { sink with
    strength := mixed.2.1
    shared := { sink.shared with
      hardCeilingSamples := sink.shared.hardCeilingSamples + mixed.2.2.hardCeiling } }
  (mixed.1, sink.countSanitized mixed.2.2.sanitized)

variable {m : Type → Type} [Monad m] (writeProcessed : List F32 → m Bool)

/-- The dry frame of a failed path, published when the user opted in. -/
def failOpen (sink : LiveCaptureSink σ) (dry : List F32) : m (LiveCaptureSink σ) :=
  if sink.parameters.failMode = .opened then do
    if ← writeProcessed dry then
      return { sink with shared := { sink.shared with dryFrames := sink.shared.dryFrames + 1 } }
    else return sink
  else return sink

/-- The transport's verdict on a processed frame. -/
def settleFrame (sink : LiveCaptureSink σ) (accepted : Bool) : LiveCaptureSink σ :=
  if accepted then
    { sink with shared := { sink.shared with modelFrames := sink.shared.modelFrames + 1 } }
  else { sink with failed := true, shared := { sink.shared with state := .transportFailed } }

/-- `LiveCaptureSink::process_frame_parts`. -/
def processFrameParts (model : Denoiser σ) (sink : LiveCaptureSink σ) (frame : List F32) :
    m (LiveCaptureSink σ) :=
  match sink.dryDelay.process frame modelFrameSamples with
  | .error _ => return sink.modelFailed
  -- The dry path advances even while the sink is failed, so it stays aligned.
  | .ok (report, dry, dryDelay) =>
    let sink := { sink with dryDelay := dryDelay }.countSanitized report
    if sink.failed then sink.failOpen writeProcessed dry
    else
      let processed := model.processFrame sink.model frame
      -- A model that fails has still moved its recurrent state.
      let sink := { sink with model := processed.1 }
      match processed.2 with
      | .error _ => sink.modelFailed.failOpen writeProcessed dry
      | .ok wet =>
        let mixed := sink.mixFrame dry wet.toList
        mixed.2.settleFrame <$> writeProcessed mixed.1

/-- The callback's entry: count the input, load the parameters, count what sanitizing the
    buffer replaced. -/
def enter (shared : AtomicParameters) (sink : LiveCaptureSink σ) (samples : List F32) :
    LiveCaptureSink σ :=
  let sink := { sink with
    shared := { sink.shared with inputSamples := sink.shared.inputSamples + samples.length } }
  (sink.loadParameters shared).countSanitized (sanitizeBuffer samples).2

/-- `LiveCaptureSink::write`, under the parameters the callback finds.  The source indexes
    a fixed scratch array, so it is defined up to `maxCallbackFrames` samples. -/
def write (model : Denoiser σ) (shared : AtomicParameters) (sink : LiveCaptureSink σ)
    (samples : List F32) : m (LiveCaptureSink σ) := do
  let sink := sink.enter shared samples
  let pushed ← sink.assembler.push (sanitizeBuffer samples).1
    (processFrameParts writeProcessed model) sink
  let sink := { pushed.2.2 with assembler := pushed.2.1 }
  match pushed.1 with
  | .error _ => return sink.modelFailed
  | .ok _ => return sink

end LiveCaptureSink

/-- `create_live_channel`: the sink, and the channel it writes to. -/
def createLiveChannel {σ : Type} (model : Denoiser σ) (initial : σ) :
    Except LivePipelineError (LiveCaptureSink σ × SharedState × BypassOutput) :=
  match LiveCaptureSink.new model initial with
  | .error error => .error error
  | .ok sink => .ok (sink, createProcessedChannel)

/-! ## What a callback does

The branches of a healthy frame, put into one equation: the model is asked once, the dry path
moves on, and one mixed block is handed over.
-/

/-- A frame of pairs draws one strength for each. -/
theorem mixAll_eq (pairs : List (F32 × F32)) (ramp : StrengthRamp) (report : MixReport) :
    (mixAll pairs ramp report).1 = pairs.mapIdx (fun i pair =>
        LinearMixer.mixed pair.1 pair.2 (ramp.strengthAt i)) ∧
      (mixAll pairs ramp report).2.1 = ramp.after pairs.length := by
  induction pairs generalizing ramp report with
  | nil => exact ⟨rfl, rfl⟩
  | cons pair rest ih =>
    obtain ⟨hmixed, hramp⟩ :=
      ih ramp.next.2 (LinearMixer.mix pair.1 pair.2 ramp.next.1 report).2
    -- The draws of the rest are those of the whole, one later.
    have hshift : ∀ i, ramp.next.2.strengthAt i = ramp.strengthAt (i + 1) := fun i => by
      rw [Nat.add_comm, ← StrengthRamp.strengthAt_after]
      rfl
    simp only [hshift] at hmixed
    refine ⟨?_, ?_⟩
    · rw [List.mapIdx_cons, ← hmixed, mixAll, LinearMixer.mix_fst]
      rfl
    · rw [List.length_cons, Nat.add_comm, StrengthRamp.after_add]
      exact hramp

/-- The wet frame of a model step. -/
def Denoiser.wet {σ : Type} (model : Denoiser σ) (state : σ) (frame : List F32) : List F32 :=
  match (model.processFrame state frame).2 with
  | .ok wet => wet.toList
  | .error _ => []

/-- The state a model step leaves. -/
def Denoiser.next {σ : Type} (model : Denoiser σ) (state : σ) (frame : List F32) : σ :=
  (model.processFrame state frame).1

/-- An exact frame of sanitized samples. -/
def IsFrame (frame : List F32) : Prop :=
  frame.length = modelFrameSamples ∧ ∀ x ∈ frame, sanitized x = x

namespace LiveCaptureSink

variable {σ : Type} {model : Denoiser σ}

/-- The processed frame a healthy sink hands to its transport. -/
def mixedFrame (model : Denoiser σ) (sink : LiveCaptureSink σ) (frame : List F32) : List F32 :=
  (((sink.dryDelay.queue ++ frame).take modelFrameSamples).zip
    (model.wet sink.model frame)).mapIdx fun i pair =>
      LinearMixer.mixed pair.1 pair.2 (sink.strength.strengthAt i)

/-- A sink that has not failed. -/
structure Healthy (sink : LiveCaptureSink σ) : Prop where
  failed : sink.failed = false
  inBounds : sink.dryDelay.InBounds

/-- What processing one frame makes of a healthy sink. -/
structure Processed (model : Denoiser σ) (sink : LiveCaptureSink σ) (frame : List F32)
    (after : LiveCaptureSink σ) : Prop where
  model : after.model = model.next sink.model frame
  queue : after.dryDelay.queue = (sink.dryDelay.queue ++ frame).drop modelFrameSamples
  strength : after.strength = sink.strength.after modelFrameSamples
  healthy : after.Healthy
  parameters : after.parameters = sink.parameters

/-- A healthy sink hands one mixed frame to its transport. -/
theorem processFrameParts_eq (hok : model.AlwaysOk) {sink : LiveCaptureSink σ}
    (healthy : sink.Healthy) {frame : List F32} (hframe : IsFrame frame) :
    ∃ after, Processed model sink frame after ∧ ∀ {m : Type → Type} [Monad m]
      (writeProcessed : List F32 → m Bool), processFrameParts writeProcessed model sink frame =
        after.settleFrame <$> writeProcessed (sink.mixedFrame model frame) := by
  have hclean : frame.map sanitized = frame :=
    (List.map_congr_left hframe.2).trans (List.map_id _)
  -- A clean frame passes the delay as it is.
  obtain ⟨report, dryDelay, hprocess, hqueue, hbounds'⟩ :=
    sink.dryDelay.process_eq healthy.inBounds frame (by rw [hframe.1]; decide)
  rw [hclean, hframe.1] at hprocess hqueue
  have hwet := hok sink.model frame hframe.1 hframe.2
  rcases hstep : model.processFrame sink.model frame with ⟨state, result⟩
  rw [hstep] at hwet
  cases result with
  | error error => cases hwet
  | ok wet =>
    have hmodel : model.wet sink.model frame = wet.toList := by rw [Denoiser.wet, hstep]
    have hlen : ((sink.dryDelay.queue ++ frame).take modelFrameSamples).length =
        modelFrameSamples := by
      rw [List.length_take, List.length_append, hframe.1]
      omega
    -- The mixer draws one strength a sample.
    obtain ⟨hmixed, hstrength⟩ := mixAll_eq
      (((sink.dryDelay.queue ++ frame).take modelFrameSamples).zip wet.toList) sink.strength {}
    rw [List.length_zip, hlen, Vector.length_toList, Nat.min_self] at hstrength
    refine ⟨(mixFrame { countSanitized { sink with dryDelay := dryDelay } report with
      model := state } ((sink.dryDelay.queue ++ frame).take modelFrameSamples) wet.toList).2,
      ⟨by rw [Denoiser.next, hstep]; rfl, hqueue, hstrength, ⟨healthy.failed, hbounds'⟩, rfl⟩,
      fun writeProcessed => ?_⟩
    unfold processFrameParts
    rw [hprocess]
    dsimp only [countSanitized]
    rw [if_neg (by rw [healthy.failed]; decide), hstep, mixedFrame, hmodel, ← hmixed]
    rfl

/-- Loading parameters touches the parameters and the strength only. -/
theorem loadParameters_fields (shared : AtomicParameters) (sink : LiveCaptureSink σ) :
    ∃ parameters strength, sink.loadParameters shared =
      { sink with parameters := parameters, strength := strength } := by
  unfold loadParameters
  split
  · exact ⟨_, _, rfl⟩
  · dsimp only
    split <;> exact ⟨_, _, rfl⟩

/-- The parameters of `shared` are those in force: its epoch was loaded, or an update is
    under way. -/
def Loaded (shared : AtomicParameters) (sink : LiveCaptureSink σ) : Prop :=
  shared.epoch = sink.parameters.epoch ∨ shared.epoch % 2 ≠ 0

/-- Parameters in force are not loaded again. -/
theorem loadParameters_of_loaded {shared : AtomicParameters} {sink : LiveCaptureSink σ}
    (h : sink.Loaded shared) : sink.loadParameters shared = sink := if_pos h

/-- Loading puts the parameters in force. -/
theorem loaded_loadParameters (shared : AtomicParameters) (sink : LiveCaptureSink σ) :
    (sink.loadParameters shared).Loaded shared := by
  by_cases h : shared.epoch = sink.parameters.epoch ∨ shared.epoch % 2 ≠ 0
  · rwa [loadParameters_of_loaded h]
  · unfold loadParameters
    rw [if_neg h]
    dsimp only
    split <;> exact .inl rfl

/-- The entry of a callback loads the parameters, and otherwise only counts. -/
theorem enter_fields (shared : AtomicParameters) (sink : LiveCaptureSink σ)
    (samples : List F32) :
    ∃ counters, sink.enter shared samples =
      { sink.loadParameters shared with shared := counters } := by
  -- Loading reads no counter, so counting first or after is the same.
  have hcounters : ∀ counters, loadParameters shared { sink with shared := counters } =
      { sink.loadParameters shared with shared := counters } := fun counters => by
    unfold loadParameters
    split
    · rfl
    · dsimp only
      split <;> rfl
  rw [enter, hcounters]
  exact ⟨_, rfl⟩

/-- **A callback.** It enters, then processes each block of the stream that its samples
    complete, and keeps the leftover. -/
theorem write_eq {m : Type → Type} [Monad m] [LawfulMonad m]
    (writeProcessed : List F32 → m Bool) (shared : AtomicParameters) {sink : LiveCaptureSink σ}
    {stream samples : List F32} (hassembler : sink.assembler = .holding stream)
    (hsamples : samples.length ≤ maxCallbackFrames) :
    write writeProcessed model shared sink samples = (fun after =>
        { after with assembler := .holding (stream ++ samples.map sanitized) }) <$>
      (Lib.blocks modelFrameSamples ((FrameAssembler.holding stream).stored ++
        samples.map sanitized)).foldlM (processFrameParts writeProcessed model)
          (sink.enter shared samples) := by
  obtain ⟨report, hpush⟩ := FrameAssembler.push_eq (processFrameParts writeProcessed model)
    stream (samples.map sanitized) (by rwa [List.length_map])
  have hassembler' : (sink.enter shared samples).assembler = .holding stream := by
    obtain ⟨_, henter⟩ := enter_fields shared sink samples
    obtain ⟨_, _, hload⟩ := loadParameters_fields shared sink
    rw [henter, hload]
    exact hassembler
  rw [write]
  dsimp only
  rw [hassembler', sanitizeBuffer_fst, hpush, map_sanitized_sanitized, bind_map_left]
  exact bind_pure_comp ..

/-- A callback, by what its assembler holds. -/
theorem write_stored {m : Type → Type} [Monad m] [LawfulMonad m]
    (writeProcessed : List F32 → m Bool) (model : Denoiser σ) (shared : AtomicParameters)
    (sink : LiveCaptureSink σ) {samples : List F32}
    (hsamples : samples.length ≤ maxCallbackFrames) :
    write writeProcessed model shared sink samples = (fun after =>
        { after with
          assembler := .holding (sink.assembler.stored ++ samples.map sanitized) }) <$>
      (Lib.blocks modelFrameSamples (sink.assembler.stored ++ samples.map sanitized)).foldlM
        (processFrameParts writeProcessed model) (sink.enter shared samples) := by
  have hholding : sink.assembler = .holding sink.assembler.stored :=
    FrameAssembler.ext (Lib.leftover_of_lt sink.assembler.pending_lt).symm
  have hwrite : write writeProcessed model shared sink samples = _ :=
    write_eq writeProcessed shared hholding hsamples
  rwa [← hholding] at hwrite

end LiveCaptureSink

end Noire
