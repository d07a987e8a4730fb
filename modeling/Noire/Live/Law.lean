import Noire.Live.Sink

namespace Noire

/-!
# The signal law of the live path

What the live sink does to the signal, free of the callbacks it arrives in.

* `LiveSignal` — the part of the sink the signal passes through: the model's state, the
  samples in flight in the dry delay and the strength ramp, stepped one frame at a time;
* `recorded` — the blocks a sink hands to a transport that accepts everything;
* `recorded_eq` — a sink refines the signal machine on the blocks of its whole input,
  however the input was cut into callbacks;
* `live_law` — the machine's outputs in closed form, sample by sample;
* `LiveCaptureSink.new_settles` — when a bypassed sink is settled at strength zero.

The sink is refined by a machine on whole frames, so that the cuts disappear: what a callback
leaves in the assembler is a prefix of the next frame, and `write_recording` says by induction
over the callbacks that the blocks recorded are those of the blocks of the whole input.  Then the
machine is solved: after `k` frames the model's state and the strength are iterates, and the delay
holds the last samples of the stream, from which the block `k` is written down sample by sample.
-/

variable {σ : Type}

/-- The signal state of the live path. -/
structure LiveSignal (σ : Type) where
  model : σ
  inFlight : List F32
  strength : StrengthRamp

/-- The signal state of a sink. -/
def LiveCaptureSink.signal (sink : LiveCaptureSink σ) : LiveSignal σ :=
  ⟨sink.model, sink.dryDelay.queue, sink.strength⟩

namespace LiveSignal

variable (model : Denoiser σ)

/-- The processed block of one frame. -/
def block (signal : LiveSignal σ) (frame : List F32) : List F32 :=
  (((signal.inFlight ++ frame).take modelFrameSamples).zip
    (model.wet signal.model frame)).mapIdx fun i pair =>
      LinearMixer.mixed pair.1 pair.2 (signal.strength.strengthAt i)

/-- The signal state after one frame. -/
def next (signal : LiveSignal σ) (frame : List F32) : LiveSignal σ where
  model := model.next signal.model frame
  inFlight := (signal.inFlight ++ frame).drop modelFrameSamples
  strength := signal.strength.after modelFrameSamples

/-- The processed blocks of consecutive frames. -/
def processed (signal : LiveSignal σ) : List (List F32) → List (List F32)
  | [] => []
  | frame :: rest => signal.block model frame :: (signal.next model frame).processed rest

/-- The signal state after consecutive frames. -/
def after (signal : LiveSignal σ) (frames : List (List F32)) : LiveSignal σ :=
  frames.foldl (next model) signal

theorem processed_append (signal : LiveSignal σ) (frames more : List (List F32)) :
    signal.processed model (frames ++ more) =
      signal.processed model frames ++ (signal.after model frames).processed model more := by
  induction frames generalizing signal with
  | nil => rfl
  | cons frame rest ih => exact congrArg (_ :: ·) (ih _)

/-- A block is what the machine makes of its frame after the frames before it. -/
theorem processed_getElem? (signal : LiveSignal σ) (frames : List (List F32)) (k : ℕ) :
    (signal.processed model frames)[k]? =
      frames[k]?.map ((signal.after model (frames.take k)).block model) := by
  induction frames generalizing signal k with
  | nil => rfl
  | cons frame rest ih =>
    cases k with
    | zero => rfl
    | succ k => exact ih _ k

end LiveSignal

/-! ## The sink refines the signal machine

A healthy sink stays healthy as long as its model does not fail and its transport accepts
everything.
-/

/-- A transport that accepts every block and remembers it. -/
def recording (block : List F32) : StateM (List (List F32)) Bool :=
  fun written => (true, written ++ [block])

/-- The blocks a sink hands to its transport over a sequence of callbacks, under parameters
    that do not change. -/
def recorded (model : Denoiser σ) (shared : AtomicParameters) (sink : LiveCaptureSink σ)
    (chunks : List (List F32)) : List (List F32) :=
  ((chunks.foldlM (LiveCaptureSink.write recording model shared) sink).run []).2

/-- Frames through a healthy sink: it stays healthy, records the machine's blocks and
    reaches the machine's state. -/
theorem process_recording {model : Denoiser σ} (hok : model.AlwaysOk)
    {frames : List (List F32)} (hframes : ∀ frame ∈ frames, IsFrame frame)
    {sink : LiveCaptureSink σ} (healthy : sink.Healthy) (written : List (List F32)) :
    ∃ after : LiveCaptureSink σ, after.Healthy ∧
      (frames.foldlM (LiveCaptureSink.processFrameParts recording model) sink).run written =
        (after, written ++ sink.signal.processed model frames) ∧
      after.signal = sink.signal.after model frames ∧ after.parameters = sink.parameters := by
  induction frames generalizing sink written with
  | nil =>
    refine ⟨sink, healthy, ?_, rfl, rfl⟩
    rw [List.foldlM_nil, LiveSignal.processed, List.append_nil]
    rfl
  | cons frame rest ih =>
    obtain ⟨hframe, hrest⟩ := List.forall_mem_cons.mp hframes
    obtain ⟨after, hprocessed, hstep⟩ :=
      LiveCaptureSink.processFrameParts_eq hok healthy hframe
    -- An accepted frame is only counted.
    have hnext : (after.settleFrame true).signal = sink.signal.next model frame := by
      show LiveSignal.mk after.model after.dryDelay.queue after.strength = _
      rw [hprocessed.model, hprocessed.queue, hprocessed.strength]
      rfl
    have hhealthy : (after.settleFrame true).Healthy :=
      ⟨hprocessed.healthy.failed, hprocessed.healthy.inBounds⟩
    obtain ⟨last, hhealthy, hrun, hsignal, hparameters⟩ :=
      ih hrest hhealthy (written ++ [sink.mixedFrame model frame])
    refine ⟨last, hhealthy, ?_, ?_, hparameters.trans hprocessed.parameters⟩
    · rw [List.foldlM_cons, hstep]
      refine hrun.trans ?_
      rw [hnext, List.append_assoc]
      rfl
    · rw [hsignal, hnext]
      rfl

/-- A loaded signal state is that of the sink the callback enters with. -/
theorem signal_enter (shared : AtomicParameters) (sink : LiveCaptureSink σ)
    (samples : List F32) :
    (sink.enter shared samples).signal = (sink.loadParameters shared).signal := by
  obtain ⟨_, henter⟩ := LiveCaptureSink.enter_fields shared sink samples
  rw [henter]
  rfl

/-- Callbacks of a healthy sink: with what it has pending, their samples go through the
    signal machine block by block. -/
theorem write_recording {model : Denoiser σ} (hok : model.AlwaysOk) (shared : AtomicParameters)
    {chunks : List (List F32)} (hchunks : ∀ chunk ∈ chunks, chunk.length ≤ maxCallbackFrames)
    {sink : LiveCaptureSink σ} (healthy : sink.Healthy) {stream : List F32}
    (hassembler : sink.assembler = .holding stream) (hstream : ∀ x ∈ stream, sanitized x = x)
    (written : List (List F32)) :
    ((chunks.foldlM (LiveCaptureSink.write recording model shared) sink).run written).2 =
      written ++ (sink.loadParameters shared).signal.processed model (Lib.blocks
        modelFrameSamples ((FrameAssembler.holding stream).stored ++
          chunks.flatten.map sanitized)) := by
  -- By the callbacks: after each, the sink holds the leftover of the longer stream, and the
  -- blocks of what is still to come start from there.
  induction chunks generalizing sink stream written with
  | nil =>
    rw [List.flatten_nil, List.map_nil, List.append_nil,
      Lib.blocks_of_lt (FrameAssembler.holding stream).pending_lt, LiveSignal.processed,
      List.append_nil]
    rfl
  | cons chunk rest ih =>
    obtain ⟨hchunk, hrest⟩ := List.forall_mem_cons.mp hchunks
    have hclean : ∀ x ∈ stream ++ chunk.map sanitized, sanitized x = x := by
      refine List.forall_mem_append.mpr ⟨hstream, List.forall_mem_map.mpr fun x _ => ?_⟩
      exact sanitized_sanitized x
    have hframes : ∀ frame ∈ Lib.blocks modelFrameSamples
        ((FrameAssembler.holding stream).stored ++ chunk.map sanitized), IsFrame frame := by
      refine fun frame hframe => ⟨Lib.length_of_mem_blocks hframe, fun x hx => ?_⟩
      rcases List.mem_append.mp (Lib.mem_of_mem_blocks hframe hx) with hx | hx
      · exact hclean x (List.mem_append_left _ (List.mem_of_mem_drop hx))
      · exact hclean x (List.mem_append_right _ hx)
    obtain ⟨_, henter⟩ := LiveCaptureSink.enter_fields shared sink chunk
    obtain ⟨_, _, hload⟩ := LiveCaptureSink.loadParameters_fields shared sink
    have hentered : (sink.enter shared chunk).Healthy := by
      rw [henter, hload]
      exact ⟨healthy.failed, healthy.inBounds⟩
    obtain ⟨after, hhealthy, hrun, hsignal, hparameters⟩ :=
      process_recording hok hframes hentered written
    obtain ⟨next, hnext⟩ : ∃ next : LiveCaptureSink σ, next =
        { after with assembler := .holding (stream ++ chunk.map sanitized) } := ⟨_, rfl⟩
    have hwrite : (LiveCaptureSink.write recording model shared sink chunk).run written =
        (next, written ++ (sink.enter shared chunk).signal.processed model (Lib.blocks
          modelFrameSamples ((FrameAssembler.holding stream).stored ++
            chunk.map sanitized))) := by
      rw [LiveCaptureSink.write_eq recording shared hassembler hchunk, StateT.run_map, hrun, hnext]
      rfl
    -- The parameters are in force from the first callback on, so the ramp is set only once.
    have hloaded : next.Loaded shared := by
      have := LiveCaptureSink.loaded_loadParameters shared sink
      rw [LiveCaptureSink.Loaded, hnext]
      show _ = after.parameters.epoch ∨ _
      rw [hparameters, henter]
      exact this
    have hnextSignal : next.signal = after.signal := by rw [hnext]; rfl
    have hnextHealthy : next.Healthy := hnext ▸ ⟨hhealthy.failed, hhealthy.inBounds⟩
    rw [List.foldlM_cons, StateT.run_bind, hwrite]
    refine (ih hrest hnextHealthy (by rw [hnext]) hclean _).trans ?_
    rw [LiveCaptureSink.loadParameters_of_loaded hloaded, hnextSignal, hsignal, signal_enter,
      List.flatten_cons, List.map_append, List.append_assoc, ← LiveSignal.processed_append,
      ← List.append_assoc (FrameAssembler.holding stream).stored]
    have hcut : (FrameAssembler.holding (stream ++ chunk.map sanitized)).stored =
        Lib.leftover modelFrameSamples
          ((FrameAssembler.holding stream).stored ++ chunk.map sanitized) :=
      (Lib.blocks_append (by decide) stream (chunk.map sanitized)).2
    rw [hcut, ← (Lib.blocks_append (by decide) _ (rest.flatten.map sanitized)).1]

/-! ## The closed form

The delayed stream is indexed as a whole, with zeros before it; the delay of the sink, which moves
samples through a queue, is compared with it.
-/

/-- The signal `samples` delayed by `delaySamples`, with zeros before. -/
def delayed (delaySamples : ℕ) (samples : List F32) (i : ℕ) : F32 :=
  if i < delaySamples then .zero else samples.getD (i - delaySamples) .zero

/-- The model's output on the block `k` of a stream, after the blocks before it. -/
def Denoiser.outputAt (model : Denoiser σ) (initial : σ) (stream : List F32) (k : ℕ) :
    List F32 :=
  let frames := Lib.blocks modelFrameSamples stream
  model.wet ((frames.take k).foldl model.next initial) (frames.getD k [])

/-- The delayed signal is the stream behind as many zeros as the delay. -/
theorem getElem?_padded (delaySamples : ℕ) (samples : List F32) {i : ℕ}
    (hi : i < delaySamples + samples.length) :
    (List.replicate delaySamples .zero ++ samples)[i]? =
      some (delayed delaySamples samples i) := by
  unfold delayed
  split
  · rename_i hlt
    rw [List.getElem?_append_left (by rwa [List.length_replicate]), List.getElem?_replicate,
      if_pos hlt]
  · rw [List.getElem?_append_right (by rw [List.length_replicate]; omega),
      List.length_replicate, List.getD_eq_getElem?_getD,
      List.getElem?_eq_getElem (show i - delaySamples < samples.length by omega)]
    rfl

/-- The delayed signal of sanitized samples is sanitized. -/
theorem sanitized_delayed (delaySamples : ℕ) (samples : List F32) (i : ℕ) :
    sanitized (delayed delaySamples (samples.map sanitized) i) =
      delayed delaySamples (samples.map sanitized) i := by
  unfold delayed
  split
  · exact sanitized_zero
  · rw [List.getD_eq_getElem?_getD, List.getElem?_map]
    cases samples[i - delaySamples]? with
    | none => exact sanitized_zero
    | some sample => exact sanitized_sanitized sample

/-- A model that never fails puts out whole frames. -/
theorem Denoiser.AlwaysOk.length_wet {model : Denoiser σ} (hok : model.AlwaysOk) (state : σ)
    {frame : List F32} (hframe : IsFrame frame) :
    (model.wet state frame).length = modelFrameSamples := by
  have hresult := hok state frame hframe.1 hframe.2
  unfold wet
  cases h : (model.processFrame state frame).2 with
  | error error => rw [h] at hresult; cases hresult
  | ok wet => exact wet.size_toArray

namespace LiveSignal

variable (model : Denoiser σ) (signal : LiveSignal σ) {frames : List (List F32)}

/-- The model's state and the strength after some frames. -/
theorem after_model (frames : List (List F32)) :
    (signal.after model frames).model = frames.foldl model.next signal.model := by
  induction frames generalizing signal with
  | nil => rfl
  | cons frame rest ih => exact ih _

theorem after_strength (frames : List (List F32)) :
    (signal.after model frames).strength =
      signal.strength.after (modelFrameSamples * frames.length) := by
  induction frames generalizing signal with
  | nil => rfl
  | cons frame rest ih =>
    have hnext : (signal.next model frame).strength =
        signal.strength.after modelFrameSamples := by rw [next]
    rw [List.length_cons, Nat.mul_succ, Nat.add_comm, StrengthRamp.after_add, ← hnext]
    exact ih (signal.next model frame)

/-- The samples in flight after some frames: what was in flight, then the frames, less as
    many samples as came out. -/
theorem after_inFlight (hframes : ∀ frame ∈ frames, frame.length = modelFrameSamples) :
    (signal.after model frames).inFlight =
      (signal.inFlight ++ frames.flatten).drop (modelFrameSamples * frames.length) := by
  induction frames generalizing signal with
  | nil => simp [after]
  | cons frame rest ih =>
    obtain ⟨hframe, hrest⟩ := List.forall_mem_cons.mp hframes
    have hlen : modelFrameSamples ≤ (signal.inFlight ++ frame).length := by
      rw [List.length_append, hframe]
      omega
    refine (ih (signal.next model frame) hrest).trans ?_
    show List.drop _ ((signal.inFlight ++ frame).drop modelFrameSamples ++ rest.flatten) = _
    rw [← List.drop_append_of_le_length hlen, List.drop_drop, List.length_cons, Nat.mul_succ,
      List.flatten_cons, List.append_assoc, Nat.add_comm]

/-- What the dry delay puts out for the block `k` of a stream. -/
theorem dry_eq (stream : List F32) {delaySamples k : ℕ}
    (hinFlight : signal.inFlight = .replicate delaySamples .zero)
    (hk : k < stream.length / modelFrameSamples) {j : ℕ} (hj : j < modelFrameSamples) :
    ((signal.after model ((Lib.blocks modelFrameSamples stream).take k)).inFlight ++
        (stream.drop (modelFrameSamples * k)).take modelFrameSamples)[j]? =
      some (delayed delaySamples stream (modelFrameSamples * k + j)) := by
  have hlen : modelFrameSamples * (k + 1) ≤ stream.length :=
    (Nat.mul_le_mul_left _ hk).trans (Nat.mul_div_le ..)
  rw [Nat.mul_succ] at hlen
  have htake : ((Lib.blocks modelFrameSamples stream).take k).length = k := by
    rw [List.length_take, Lib.length_blocks]
    omega
  rw [after_inFlight model signal fun frame hframe =>
      Lib.length_of_mem_blocks (List.mem_of_mem_take hframe),
    htake, Lib.flatten_take_blocks (Nat.le_of_lt hk), hinFlight]
  -- What has come out so far is shorter than the padded stream up to here, so dropping it
  -- leaves the samples that follow.
  have hshift : modelFrameSamples * k ≤ (List.replicate delaySamples (.zero : F32) ++
      stream.take (modelFrameSamples * k)).length := by
    rw [List.length_append, List.length_take]
    omega
  rw [← List.drop_append_of_le_length hshift, List.append_assoc, ← List.take_add,
    List.getElem?_drop]
  have hpadded := getElem?_padded delaySamples stream
    (show modelFrameSamples * k + j < delaySamples + stream.length by omega)
  have hsplit : List.replicate delaySamples .zero ++ stream =
      (List.replicate delaySamples .zero ++
        stream.take (modelFrameSamples * k + modelFrameSamples)) ++
          stream.drop (modelFrameSamples * k + modelFrameSamples) := by
    rw [List.append_assoc, List.take_append_drop]
  have hinside : modelFrameSamples * k + j < (List.replicate delaySamples (.zero : F32) ++
      stream.take (modelFrameSamples * k + modelFrameSamples)).length := by
    rw [List.length_append, List.length_replicate, List.length_take]
    omega
  rw [← hpadded, hsplit, List.getElem?_append_left hinside]

/-- The block `k` of a stream, sample by sample. -/
theorem block_eq (hok : model.AlwaysOk) {stream : List F32}
    (hstream : ∀ x ∈ stream, sanitized x = x) {delaySamples : ℕ}
    (hinFlight : signal.inFlight = .replicate delaySamples .zero) {k : ℕ}
    (hk : k < stream.length / modelFrameSamples) :
    (signal.after model ((Lib.blocks modelFrameSamples stream).take k)).block model
        ((stream.drop (modelFrameSamples * k)).take modelFrameSamples) =
      (List.range modelFrameSamples).map fun j =>
        LinearMixer.mixed (delayed delaySamples stream (modelFrameSamples * k + j))
          ((model.outputAt signal.model stream k).getD j .zero)
          (signal.strength.strengthAt (modelFrameSamples * k + j)) := by
  have hblock := Lib.getElem?_blocks hk
  have hframe : IsFrame ((stream.drop (modelFrameSamples * k)).take modelFrameSamples) :=
    ⟨Lib.length_of_mem_blocks (List.mem_of_getElem? hblock), fun x hx =>
      hstream x (List.mem_of_mem_drop (List.mem_of_mem_take hx))⟩
  -- The model is where the frames before have brought it.
  have hwet : model.wet
      (signal.after model ((Lib.blocks modelFrameSamples stream).take k)).model
      ((stream.drop (modelFrameSamples * k)).take modelFrameSamples) =
      model.outputAt signal.model stream k := by
    rw [Denoiser.outputAt, List.getD_eq_getElem?_getD, hblock, after_model]
    rfl
  have hlength : (model.outputAt signal.model stream k).length = modelFrameSamples :=
    hwet ▸ hok.length_wet _ hframe
  have htake : ((Lib.blocks modelFrameSamples stream).take k).length = k := by
    rw [List.length_take, Lib.length_blocks]
    omega
  -- Sample by sample: the pair that meets in the mixer at `j`, and its draw of the strength.
  refine List.ext_getElem? fun j => ?_
  rw [block, List.getElem?_mapIdx, List.getElem?_map, hwet]
  rcases Nat.lt_or_ge j modelFrameSamples with hj | hj
  · have hpair : (((signal.after model ((Lib.blocks modelFrameSamples stream).take k)).inFlight ++
        (stream.drop (modelFrameSamples * k)).take modelFrameSamples).take
          modelFrameSamples |>.zip (model.outputAt signal.model stream k))[j]? =
        some (delayed delaySamples stream (modelFrameSamples * k + j),
          (model.outputAt signal.model stream k).getD j .zero) := by
      refine List.getElem?_zip_eq_some.mpr ⟨?_, ?_⟩
      · rw [List.getElem?_take_of_lt hj]
        exact dry_eq model signal stream hinFlight hk hj
      · rw [List.getD_eq_getElem?_getD, List.getElem?_eq_getElem (by omega)]
        rfl
    rw [hpair, List.getElem?_range hj, Option.map_some, Option.map_some, after_strength, htake,
      StrengthRamp.strengthAt_after]
  · -- past the end of the frame both sides are done
    rw [List.getElem?_eq_none (by rw [List.length_zip]; omega),
      List.getElem?_eq_none (by rwa [List.length_range])]
    rfl

/-- **The machine in closed form.** The block `k` mixes, sample by sample, the delayed
    stream and the model's output on the block `k` of the stream, at one draw of the
    strength for each sample. -/
theorem processed_blocks (hok : model.AlwaysOk) {stream : List F32}
    (hstream : ∀ x ∈ stream, sanitized x = x) {delaySamples : ℕ}
    (hinFlight : signal.inFlight = .replicate delaySamples .zero) :
    signal.processed model (Lib.blocks modelFrameSamples stream) =
      (List.range (stream.length / modelFrameSamples)).map fun k =>
        (List.range modelFrameSamples).map fun j =>
          LinearMixer.mixed (delayed delaySamples stream (modelFrameSamples * k + j))
            ((model.outputAt signal.model stream k).getD j .zero)
            (signal.strength.strengthAt (modelFrameSamples * k + j)) := by
  refine List.ext_getElem? fun k => ?_
  rw [processed_getElem?, List.getElem?_map]
  rcases Nat.lt_or_ge k (stream.length / modelFrameSamples) with hk | hk
  · rw [Lib.getElem?_blocks hk, List.getElem?_range hk, Option.map_some, Option.map_some]
    exact congrArg some (block_eq model signal hok hstream hinFlight hk)
  · rw [List.getElem?_eq_none (by rwa [Lib.length_blocks]),
      List.getElem?_eq_none (by rwa [List.length_range])]
    rfl

end LiveSignal

/-! ## The law

A new sink that is bypassed starts at strength one and glides to zero, and rests there once the
transition is over.
-/

/-- A new sink is healthy, holds nothing, and delays by its model's delay. -/
theorem LiveCaptureSink.new_ok {model : Denoiser σ} {initial : σ} {sink : LiveCaptureSink σ}
    (h : new model initial = .ok sink) : sink.Healthy ∧ sink.assembler = .holding [] ∧
      sink.model = initial ∧ sink.strength = .new .one ∧
      sink.dryDelay.queue = .replicate model.descriptor.delaySamples .zero ∧
      sink.parameters = {} := by
  unfold new at h
  split at h
  · cases h
  · split at h
    · cases h
    · rename_i dryDelay hdelay
      cases h
      obtain ⟨hqueue, hbounds⟩ := DryDelay.new_queue hdelay
      exact ⟨⟨rfl, hbounds⟩, FrameAssembler.ext rfl, rfl, rfl, hqueue, rfl⟩

/-- A new sink that is bypassed from its first callback rests at strength zero once the
    shortest transition is over. -/
theorem LiveCaptureSink.new_settles {model : Denoiser σ} {initial : σ}
    {sink : LiveCaptureSink σ} (h : new model initial = .ok sink) {shared : AtomicParameters}
    (hepoch : shared.epoch ≠ 0) (heven : shared.epoch % 2 = 0)
    (htarget : shared.target.isZero = true) :
    ((sink.loadParameters shared).strength.after minStrengthRampSamples).SettledAtZero := by
  obtain ⟨-, -, -, hstrength, -, hparameters⟩ := new_ok h
  have hload : ¬(shared.epoch = sink.parameters.epoch ∨ shared.epoch % 2 ≠ 0) := by
    rw [hparameters]
    exact not_or.mpr ⟨hepoch, not_not.mpr heven⟩
  have hzero : (finiteUnit shared.target).isZero = true := by
    rcases Lib.Binary32.eq_of_isZero htarget with htarget | htarget <;>
      rw [htarget] <;> decide
  -- A new sink ramps from one, which is neither zero.
  have hbits : shared.target.bits ≠ sink.strength.target.bits := by
    rw [hstrength]
    rcases Lib.Binary32.eq_of_isZero htarget with htarget | htarget <;>
      rw [htarget] <;> decide
  obtain ⟨hremaining, hcurrent⟩ := sink.strength.setTarget_lands shared.target
  unfold loadParameters
  rw [if_neg hload]
  dsimp only
  rw [if_pos hbits]
  exact ⟨hremaining, hcurrent ▸ hzero⟩

/-- The blocks of a new sink are those of the signal machine, in closed form. -/
theorem recorded_eq {model : Denoiser σ} (hok : model.AlwaysOk) {initial : σ}
    {sink : LiveCaptureSink σ} (hnew : LiveCaptureSink.new model initial = .ok sink)
    (shared : AtomicParameters) {chunks : List (List F32)}
    (hchunks : ∀ chunk ∈ chunks, chunk.length ≤ maxCallbackFrames) :
    recorded model shared sink chunks =
      (List.range ((chunks.flatten.map sanitized).length / modelFrameSamples)).map fun k =>
        (List.range modelFrameSamples).map fun j =>
          LinearMixer.mixed
            (delayed model.descriptor.delaySamples (chunks.flatten.map sanitized)
              (modelFrameSamples * k + j))
            ((model.outputAt initial (chunks.flatten.map sanitized) k).getD j .zero)
            ((sink.loadParameters shared).strength.strengthAt (modelFrameSamples * k + j)) := by
  obtain ⟨healthy, hassembler, hmodel, -, hqueue, -⟩ := LiveCaptureSink.new_ok hnew
  obtain ⟨_, _, hload⟩ := LiveCaptureSink.loadParameters_fields shared sink
  have hinFlight : (sink.loadParameters shared).signal.inFlight =
      .replicate model.descriptor.delaySamples .zero := by
    rw [hload]
    exact hqueue
  have hinitial : (sink.loadParameters shared).signal.model = initial := by
    rw [hload]
    exact hmodel
  have hclean : ∀ x ∈ chunks.flatten.map sanitized, sanitized x = x :=
    List.forall_mem_map.mpr fun x _ => sanitized_sanitized x
  have hblocks := LiveSignal.processed_blocks model (sink.loadParameters shared).signal hok
    hclean hinFlight
  rw [hinitial] at hblocks
  exact (write_recording hok shared hchunks healthy hassembler nofun []).trans hblocks

/-- **The live signal law.** A new sink is given an input in callbacks of any lengths, under
    parameters that do not change, and a model that never fails:

    * its block `k` mixes, sample by sample, the sanitized input delayed by exactly the
      model's delay and the model's output on the block `k` of the sanitized input, and the
      strength ramp advances once for each sample;
    * so cutting the same input otherwise gives the same blocks;
    * from where the strength rests at zero, the output is the delayed sanitized input
      clamped to `[-1, 1]`. -/
theorem live_law {model : Denoiser σ} (hok : model.AlwaysOk) {initial : σ}
    {sink : LiveCaptureSink σ} (hnew : LiveCaptureSink.new model initial = .ok sink)
    (shared : AtomicParameters) {chunks : List (List F32)}
    (hchunks : ∀ chunk ∈ chunks, chunk.length ≤ maxCallbackFrames) :
    let input := chunks.flatten.map sanitized
    let strength := (sink.loadParameters shared).strength
    let dry := delayed model.descriptor.delaySamples input
    recorded model shared sink chunks =
        (List.range (input.length / modelFrameSamples)).map (fun k =>
          (List.range modelFrameSamples).map fun j =>
            LinearMixer.mixed (dry (modelFrameSamples * k + j))
              ((model.outputAt initial input k).getD j .zero)
              (strength.strengthAt (modelFrameSamples * k + j))) ∧
      (∀ chunks' : List (List F32), (∀ chunk ∈ chunks', chunk.length ≤ maxCallbackFrames) →
        chunks'.flatten = chunks.flatten →
          recorded model shared sink chunks' = recorded model shared sink chunks) ∧
      ∀ n, (strength.after n).SettledAtZero →
        ∀ (block : List F32) (k j : ℕ), n ≤ modelFrameSamples * k + j → j < modelFrameSamples →
          (recorded model shared sink chunks)[k]? = some block →
            block[j]? = some ((dry (modelFrameSamples * k + j)).clamp .minusOne .one) := by
  intro input strength dry
  have hlaw := recorded_eq hok hnew shared hchunks
  refine ⟨hlaw, fun chunks' hchunks' hflatten => ?_, fun n hsettled block k j hn hj hblock => ?_⟩
  · -- how the input is cut does not occur in the law
    rw [hlaw, recorded_eq hok hnew shared hchunks', hflatten]
  · -- a settled strength of zero mixes nothing but the dry sample
    rw [hlaw, List.getElem?_map, Option.map_eq_some_iff] at hblock
    obtain ⟨i, hi, rfl⟩ := hblock
    obtain ⟨-, rfl⟩ := List.getElem?_eq_some_iff.mp hi
    rw [List.getElem_range, List.getElem?_map, List.getElem?_range hj, Option.map_some,
      LinearMixer.mix_zero _ _ (hsettled.strengthAt hn), sanitized_delayed]

/-- A model that puts out its input. -/
def echo : Denoiser Unit where
  descriptor := ⟨48000, 1, modelFrameSamples, modelFrameSamples, modelFrameSamples⟩
  processFrame _ frame := ((), .ok (Vector.ofFn fun i => frame.getD i .zero))

/-- Two callbacks of 300 samples through a bypassed echo make one block. -/
theorem live_law_echo : ∃ sink, LiveCaptureSink.new echo () = .ok sink ∧
    (recorded echo { epoch := 2, enabled := false } sink
      (.replicate 2 (.replicate 300 .one))).length = 1 := by
  have hchunks : ∀ chunk ∈ List.replicate 2 (List.replicate 300 (.one : F32)),
      chunk.length ≤ maxCallbackFrames := fun chunk hchunk => by
    rw [List.eq_of_mem_replicate hchunk, List.length_replicate]
    decide
  refine ⟨_, rfl, ?_⟩
  rw [(live_law (show echo.AlwaysOk from fun _ _ _ _ => rfl) rfl _ hchunks).1, List.length_map,
    List.length_range, List.length_map, List.length_flatten, List.map_replicate,
    List.length_replicate]
  rfl

end Noire
