import Noire.Lib.FrameMachine
import Noire.Live.Sink
import Noire.Native.Capture

namespace Noire

open Lib (FrameMachine blocks leftover)

/-!
# The offline runner

The sample runner for offline comparisons: chunks are assembled into frames of the model, and
what the model says is aligned with the input once the stream is finished.

* `RnnoiseFrameAssembler` — collects chunks into frames; `push_eq`: they are the blocks of the
  stream;
* `OfflineDenoiser` — the runner: `pushChunk`, and `finish`, over any model;
* `Holds` — what a runner of a machine that always succeeds holds after a stream;
* `finish_eq` — what `finish` returns;
* `offline_schedule` — so however a stream is cut, what is returned is the machine's output on
  the stream followed by zeros, from the declared delay on.

The runner is compared with a machine that is applied to whole frames.  `streamed` is the runner
after a stream: the machine has processed the whole frames of the stream, and the assembler holds
what is left.  Every function of the runner maps a streamed runner to a streamed one, a chunk by
appending itself, the end by appending silence, and so the cuts disappear.  What `finish` returns
is then the machine's output on the stream and the silence, from the delay on.

The last sections are about chunks that are rejected.  A rejection leaves the frames and the
output as they are, but not always the count of the samples accepted, which `finish` compares with
what it has; silent samples make the account visible.
-/

/-- `RNNOISE_FRAME_SAMPLES`. -/
def rnnoiseFrameSamples : ℕ := 480

instance : NeZero rnnoiseFrameSamples := ⟨by decide⟩

/-! ## The assembler

The loop is the one of `Lib/Blocks.lean`, here for frames of 480 samples.
-/

/-- `RnnoiseFrameAssembler`: the pending part of its storage, which never holds a whole frame
    between calls. -/
structure RnnoiseFrameAssembler where
  stored : List F32
  pending_lt : stored.length < rnnoiseFrameSamples

namespace RnnoiseFrameAssembler

/-- `RnnoiseFrameAssembler::new`. -/
def new : RnnoiseFrameAssembler := ⟨[], by decide⟩

/-- `RnnoiseFrameAssembler::pending_samples`. -/
def pendingSamples (assembler : RnnoiseFrameAssembler) : ℕ := assembler.stored.length

theorem ext {a b : RnnoiseFrameAssembler} (h : a.stored = b.stored) : a = b := by
  cases a
  cases b
  cases h
  rfl

variable {S : Type}

/-- The loop of `push` over the input that is not yet consumed. -/
def pushLoop (emit : S → List F32 → S) (assembler : RnnoiseFrameAssembler) (rest : List F32)
    (state : S) : RnnoiseFrameAssembler × S :=
  if hrest : rest = [] then (assembler, state)
  else
    let copied := min (rnnoiseFrameSamples - assembler.pendingSamples) rest.length
    let stored := assembler.stored ++ rest.take copied
    if hfull : stored.length = rnnoiseFrameSamples then
      pushLoop emit new (rest.drop copied) (emit state stored)
    else
      -- Not full: the input ran out, and what is stored stays below a frame.
      pushLoop emit ⟨stored, by
        have := assembler.pending_lt
        simp only [stored, List.length_append, List.length_take, copied, pendingSamples]
          at hfull ⊢
        omega⟩ (rest.drop copied) state
  termination_by rest.length
  decreasing_by
    all_goals
      have := assembler.pending_lt
      have := List.length_pos_of_ne_nil hrest
      simp only [List.length_drop, pendingSamples]
      omega

/-- `RnnoiseFrameAssembler::push`, calling `emit` on each frame. -/
def push (assembler : RnnoiseFrameAssembler) (input : List F32) (emit : S → List F32 → S)
    (state : S) : Except FrameAssemblerError Unit × RnnoiseFrameAssembler × S :=
  if maxCallbackFrames < input.length then (.error .quantumTooLarge, assembler, state)
  else (.ok (), pushLoop emit assembler input state)

/-- The assembler holding the leftover of a stream. -/
def holding (stream : List F32) : RnnoiseFrameAssembler :=
  ⟨leftover rnnoiseFrameSamples stream,
    (Lib.length_leftover ..).trans_lt (Nat.mod_lt _ (by decide))⟩

/-- The loop emits the blocks of what is stored and what is pushed, in order, and keeps the
    leftover. -/
theorem pushLoop_eq (emit : S → List F32 → S) (assembler : RnnoiseFrameAssembler)
    (rest : List F32) (state : S) :
    pushLoop emit assembler rest state = (holding (assembler.stored ++ rest),
      (blocks rnnoiseFrameSamples (assembler.stored ++ rest)).foldl emit state) := by
  refine Lib.fill_induct (by decide) id (motive := fun stored rest => ∀ hstored state,
    pushLoop emit ⟨stored, hstored⟩ rest state = (holding (stored ++ rest),
      (blocks rnnoiseFrameSamples (stored ++ rest)).foldl emit state))
    ?done ?full ?short assembler.pending_lt assembler.pending_lt state
  case done =>
    intro stored hlt hstored state
    rw [pushLoop, dif_pos rfl, List.append_nil, Lib.blocks_of_lt hlt, List.foldl_nil]
    exact Prod.ext (ext (Lib.leftover_of_lt hlt).symm) rfl
  case full =>
    -- The frame completes: it is the first block, and the rest starts afresh.
    intro stored rest copied hlt hrest hcopied hfull hblocks hleft ih hstored state
    simp only [List.map_id] at hfull hblocks hleft
    rw [pushLoop, dif_neg hrest]
    simp only [pendingSamples, ← hcopied]
    rw [dif_pos hfull, hblocks, List.foldl_cons]
    exact (ih new.pending_lt _).trans (Prod.ext (ext hleft.symm) rfl)
  case short =>
    intro stored rest copied hlt hrest hcopied hshort hsame ih hstored state
    simp only [List.map_id] at hshort hsame ih
    rw [pushLoop, dif_neg hrest]
    simp only [pendingSamples, ← hcopied]
    rw [dif_neg (Nat.ne_of_lt hshort), hsame]
    exact ih hshort state

/-- **Framing.** The frames emitted are the blocks of the stream, wherever it was cut. -/
theorem push_eq (emit : S → List F32 → S) (stream input : List F32) (state : S)
    (hinput : input.length ≤ maxCallbackFrames) :
    push (holding stream) input emit state = (.ok (), holding (stream ++ input),
      (blocks rnnoiseFrameSamples ((holding stream).stored ++ input)).foldl emit state) := by
  rw [push, if_neg (Nat.not_lt.mpr hinput), pushLoop_eq]
  have hholding : holding ((holding stream).stored ++ input) = holding (stream ++ input) :=
    ext (Lib.blocks_append (by decide) stream input).2.symm
  rw [hholding]

end RnnoiseFrameAssembler

/-! ## The runner

`OfflineDenoiser`, with its stages: chunks, the flush of what is pending, that of the delay, and
the alignment.
-/

/-- A model on frames of 480 samples: a state, and a step. -/
abbrev RnnoiseModel (σ : Type) :=
  σ → List F32 → σ × Except ProcessError (Vector F32 rnnoiseFrameSamples)

/-- `OfflineError`, less a failure to create the model. -/
inductive OfflineError
  | nonFiniteInput
  | process (error : ProcessError)
  | chunk (error : FrameAssemblerError)
  | lengthOverflow
  | sampleConservation
  deriving DecidableEq

/-- `OfflineDenoiser`; the buffer of one frame's output is overwritten before it is read. -/
structure OfflineDenoiser (σ : Type) where
  assembler : RnnoiseFrameAssembler
  denoiser : σ
  rawOutput : List F32
  acceptedSamples : ℕ
  delaySamples : ℕ

namespace OfflineDenoiser

variable {σ : Type}

/-- `OfflineDenoiser::new`, for a model that starts in `denoiser`. -/
def new (denoiser : σ) (delaySamples : ℕ) : OfflineDenoiser σ where
  assembler := .new
  denoiser
  rawOutput := []
  acceptedSamples := 0
  delaySamples

/-- What `process_chunk` does with one frame: nothing after a failure. -/
def emitFrame (model : RnnoiseModel σ) (state : σ × List F32 × Option ProcessError)
    (frame : List F32) : σ × List F32 × Option ProcessError :=
  let (denoiser, rawOutput, processError) := state
  if processError.isSome then state
  else
    match model denoiser frame with
    | (denoiser, .ok output) => (denoiser, rawOutput ++ output.toList, none)
    | (denoiser, .error error) => (denoiser, rawOutput, some error)

/-- `OfflineDenoiser::process_chunk`. -/
def processChunk (model : RnnoiseModel σ) (runner : OfflineDenoiser σ) (input : List F32) :
    Except OfflineError Unit × OfflineDenoiser σ :=
  let (result, assembler, denoiser, rawOutput, processError) :=
    runner.assembler.push input (emitFrame model) (runner.denoiser, runner.rawOutput, none)
  let runner := { runner with assembler, denoiser, rawOutput }
  match result with
  | .error error => (.error (.chunk error), runner)
  | .ok () =>
    match processError with
    | none => (.ok (), runner)
    | some error => (.error (.process error), runner)

variable (target : CompileTarget)

/-- `OfflineDenoiser::push_chunk`. -/
def pushChunk (model : RnnoiseModel σ) (runner : OfflineDenoiser σ) (input : List F32) :
    Except OfflineError Unit × OfflineDenoiser σ :=
  if input.any fun sample => !sample.isFinite then (.error .nonFiniteInput, runner)
  else
    match target.checkedAdd runner.acceptedSamples input.length with
    | none => (.error .lengthOverflow, runner)
    | some acceptedSamples => processChunk model { runner with acceptedSamples } input

/-- `process_chunk(..)?`: an error ends `finish`. -/
def processed (model : RnnoiseModel σ) (runner : OfflineDenoiser σ) (input : List F32) :
    Except OfflineError (OfflineDenoiser σ) :=
  match runner.processChunk model input with
  | (.ok (), runner) => .ok runner
  | (.error error, _) => .error error

/-- Completes a partial frame with silence. -/
def flushPending (model : RnnoiseModel σ) (runner : OfflineDenoiser σ) :
    Except OfflineError (OfflineDenoiser σ) :=
  let pending := runner.assembler.pendingSamples
  if pending ≠ 0 then
    runner.processed model (.replicate (rnnoiseFrameSamples - pending) .zero)
  else .ok runner

/-- The loop that pushes the delay as silence, a frame at a time. -/
def flushDelay (model : RnnoiseModel σ) (remainingDelay : ℕ) (runner : OfflineDenoiser σ) :
    Except OfflineError (OfflineDenoiser σ) :=
  if _ : remainingDelay = 0 then .ok runner
  else
    let pushed := min remainingDelay rnnoiseFrameSamples
    match runner.processed model (.replicate pushed .zero) with
    | .ok runner => flushDelay model (remainingDelay - pushed) runner
    | .error error => .error error
  termination_by remainingDelay
  decreasing_by
    have hframe : rnnoiseFrameSamples = 480 := rfl
    omega

/-- The end of `finish`: the accepted samples' part of the output. -/
def aligned (runner : OfflineDenoiser σ) : Except OfflineError (List F32) :=
  match target.checkedAdd runner.delaySamples runner.acceptedSamples with
  | none => .error .lengthOverflow
  | some outputEnd =>
    match sliceGet runner.rawOutput runner.delaySamples outputEnd with
    | none => .error .sampleConservation
    | some aligned =>
      if aligned.length ≠ runner.acceptedSamples then .error .sampleConservation
      else .ok aligned

/-- `OfflineDenoiser::finish`. -/
def finish (model : RnnoiseModel σ) (runner : OfflineDenoiser σ) :
    Except OfflineError (List F32) := do
  let runner ← runner.flushPending model
  let runner ← runner.flushDelay model runner.delaySamples
  let runner ← runner.flushPending model
  runner.aligned target

/-- What a caller sees: the result of each chunk, and what is returned at the end. -/
def observe (model : RnnoiseModel σ) : OfflineDenoiser σ → List (List F32) →
    List (Except OfflineError Unit) × Except OfflineError (List F32)
  | runner, [] => ([], runner.finish target model)
  | runner, chunk :: chunks =>
    let pushed := runner.pushChunk target model chunk
    let others := observe model pushed.2 chunks
    (pushed.1 :: others.1, others.2)

/-! ## A machine that always succeeds

A model that never fails is a machine.  What it does with a stream does not depend on the calls.
-/

variable (machine : FrameMachine σ F32 F32 rnnoiseFrameSamples) (start : σ)

/-- A machine as a model. -/
def ofMachine : RnnoiseModel σ := fun state frame =>
  ((machine.step state frame).1, .ok (machine.step state frame).2)

/-- A runner after a stream. -/
def streamed (stream : List F32) (acceptedSamples delaySamples : ℕ) : OfflineDenoiser σ where
  assembler := .holding stream
  denoiser := (machine.run start (blocks rnnoiseFrameSamples stream)).1
  rawOutput := (machine.run start (blocks rnnoiseFrameSamples stream)).2
  acceptedSamples
  delaySamples

/-- The frames of a chunk go through the machine. -/
theorem foldl_emitFrame (state : σ) (rawOutput : List F32) (frames : List (List F32)) :
    frames.foldl (emitFrame (ofMachine machine)) (state, rawOutput, none) =
      ((machine.run state frames).1, rawOutput ++ (machine.run state frames).2, none) := by
  induction frames generalizing state rawOutput with
  | nil => simp [FrameMachine.run]
  | cons frame frames ih =>
    rw [List.foldl_cons]
    show frames.foldl _ ((machine.step state frame).1,
      rawOutput ++ (machine.step state frame).2.toList, none) = _
    rw [ih, List.append_assoc]
    rfl

/-- **A chunk** within the bound is appended to the stream. -/
theorem processChunk_streamed (stream : List F32) (acceptedSamples delaySamples : ℕ)
    {input : List F32} (hinput : input.length ≤ maxCallbackFrames) :
    (streamed machine start stream acceptedSamples delaySamples).processChunk
        (ofMachine machine) input =
      (.ok (), streamed machine start (stream ++ input) acceptedSamples delaySamples) := by
  have hblocks := (Lib.blocks_append (n := rnnoiseFrameSamples) (by decide) stream input).1
  unfold processChunk
  rw [show (streamed machine start stream acceptedSamples delaySamples).assembler =
    .holding stream from rfl, RnnoiseFrameAssembler.push_eq _ _ _ _ hinput, foldl_emitFrame]
  unfold streamed
  rw [hblocks, FrameMachine.run_append]
  rfl

/-- A finite chunk within the bound is accepted. -/
theorem pushChunk_streamed (stream : List F32) {acceptedSamples : ℕ} (delaySamples : ℕ)
    {input : List F32} (hfinite : ∀ x ∈ input, x.isFinite = true)
    (hinput : input.length ≤ maxCallbackFrames)
    (hfits : acceptedSamples + input.length ≤ target.usizeMax) :
    (streamed machine start stream acceptedSamples delaySamples).pushChunk target
        (ofMachine machine) input =
      (.ok (), streamed machine start (stream ++ input) (acceptedSamples + input.length)
        delaySamples) := by
  have hadd : target.checkedAdd
      (streamed machine start stream acceptedSamples delaySamples).acceptedSamples input.length =
      some (acceptedSamples + input.length) := if_pos hfits
  unfold pushChunk
  rw [if_neg (not_any_not_isFinite.mpr hfinite), hadd]
  exact processChunk_streamed machine start stream _ delaySamples hinput

/-- A piece of silence, of a frame at most, is appended to the stream. -/
theorem processed_streamed (stream : List F32) (acceptedSamples delaySamples : ℕ) {zeros : ℕ}
    (hzeros : zeros ≤ rnnoiseFrameSamples) :
    (streamed machine start stream acceptedSamples delaySamples).processed (ofMachine machine)
        (.replicate zeros .zero) =
      .ok (streamed machine start (stream ++ .replicate zeros .zero) acceptedSamples
        delaySamples) := by
  unfold processed
  rw [processChunk_streamed]
  rw [List.length_replicate]
  exact hzeros.trans (by decide)

/-- **A partial frame** is completed with silence. -/
theorem flushPending_streamed (stream : List F32) (acceptedSamples delaySamples : ℕ) :
    ∃ zeros < rnnoiseFrameSamples, rnnoiseFrameSamples ∣ stream.length + zeros ∧
      (streamed machine start stream acceptedSamples delaySamples).flushPending
          (ofMachine machine) =
        .ok (streamed machine start (stream ++ .replicate zeros .zero) acceptedSamples
          delaySamples) := by
  have hpending : (streamed machine start stream acceptedSamples
      delaySamples).assembler.pendingSamples = stream.length % rnnoiseFrameSamples :=
    Lib.length_leftover ..
  have hframe : rnnoiseFrameSamples = 480 := rfl
  unfold flushPending
  rw [hpending]
  by_cases hpartial : stream.length % rnnoiseFrameSamples ≠ 0
  · have hdvd : 480 ∣ stream.length + (480 - stream.length % 480) := by omega
    refine ⟨rnnoiseFrameSamples - stream.length % rnnoiseFrameSamples, by omega, hdvd, ?_⟩
    rw [if_pos hpartial]
    exact processed_streamed machine start stream _ _ (Nat.sub_le _ _)
  · refine ⟨0, by decide, Nat.dvd_of_mod_eq_zero (not_not.mp hpartial), ?_⟩
    rw [if_neg hpartial, List.replicate_zero, List.append_nil]

/-- **The delay** is pushed as silence. -/
theorem flushDelay_streamed (stream : List F32) (acceptedSamples delaySamples remaining : ℕ) :
    flushDelay (ofMachine machine) remaining
        (streamed machine start stream acceptedSamples delaySamples) =
      .ok (streamed machine start (stream ++ .replicate remaining .zero) acceptedSamples
        delaySamples) := by
  have hframe : rnnoiseFrameSamples = 480 := rfl
  induction remaining using Nat.strongRecOn generalizing stream with
  | ind remaining ih =>
    unfold flushDelay
    by_cases hdone : remaining = 0
    · rw [dif_pos hdone, hdone, List.replicate_zero, List.append_nil]
    · rw [dif_neg hdone]
      dsimp only
      rw [processed_streamed _ _ _ _ _ (Nat.min_le_right ..)]
      dsimp only
      rw [ih (remaining - min remaining rnnoiseFrameSamples) (by omega), List.append_assoc,
        List.replicate_append_replicate]
      congr 4
      omega

/-- **The end of a stream**: silence, for the delay and up to a whole frame. -/
theorem finish_streamed (stream : List F32) (acceptedSamples delaySamples : ℕ) :
    ∃ zeros, delaySamples ≤ zeros ∧ zeros < delaySamples + 2 * rnnoiseFrameSamples ∧
      rnnoiseFrameSamples ∣ stream.length + zeros ∧
      (streamed machine start stream acceptedSamples delaySamples).finish target
          (ofMachine machine) =
        (streamed machine start (stream ++ .replicate zeros .zero) acceptedSamples
          delaySamples).aligned target := by
  obtain ⟨first, hfirst, -, hflushed⟩ :=
    flushPending_streamed machine start stream acceptedSamples delaySamples
  obtain ⟨last, hlast, hdvd, hflushed'⟩ := flushPending_streamed machine start
    ((stream ++ .replicate first .zero) ++ .replicate delaySamples .zero) acceptedSamples
    delaySamples
  -- Three runs of zeros in a row are one.
  have hzeros : (stream ++ .replicate first .zero) ++ .replicate delaySamples .zero ++
      .replicate last .zero =
      stream ++ (.replicate (first + (delaySamples + last)) .zero : List F32) := by
    rw [List.append_assoc, List.append_assoc, List.replicate_append_replicate,
      List.replicate_append_replicate]
  rw [List.length_append, List.length_append, List.length_replicate, List.length_replicate,
    Nat.add_assoc, Nat.add_assoc] at hdvd
  refine ⟨first + (delaySamples + last), by omega, by omega, hdvd, ?_⟩
  unfold finish
  rw [hflushed]
  show (flushDelay _ delaySamples _).bind _ = _
  rw [flushDelay_streamed]
  show (flushPending _ _).bind _ = _
  rw [hflushed', hzeros]
  rfl

/-- The stream of some samples followed by zeros. -/
def thenZeros (stream : List F32) (i : ℕ) : F32 := stream.getD i .zero

/-- **What is returned**: the machine's output from the delay on, for each accepted sample. -/
theorem finish_eq (stream : List F32) {delaySamples : ℕ}
    (hfits : delaySamples + stream.length ≤ target.usizeMax) :
    (streamed machine start stream stream.length delaySamples).finish target
        (ofMachine machine) =
      .ok ((List.range stream.length).map fun i =>
        machine.output start (thenZeros stream) (delaySamples + i)) := by
  obtain ⟨zeros, hdelay, -, hdvd, hfinish⟩ :=
    finish_streamed target machine start stream stream.length delaySamples
  -- The stream with its zeros is the beginning of the endless one.
  have hbegins : ∀ (i : ℕ) (hi : i < (stream ++ (.replicate zeros .zero : List F32)).length),
      (stream ++ (.replicate zeros .zero : List F32))[i] = thenZeros stream i := by
    intro i hi
    unfold thenZeros
    rw [List.getD_eq_getElem?_getD, List.getElem_append]
    split
    · rename_i hin
      rw [List.getElem?_eq_getElem hin, Option.getD_some]
    · rename_i hout
      rw [List.getElem_replicate, List.getElem?_eq_none (not_lt.mp hout), Option.getD_none]
  have hraw : (machine.run start (blocks rnnoiseFrameSamples
      (stream ++ (.replicate zeros .zero : List F32)))).2 =
      (List.range (stream.length + zeros)).map (machine.output start (thenZeros stream)) := by
    rw [machine.run_blocks start hbegins, List.length_append, List.length_replicate,
      Nat.mul_div_cancel' hdvd]
  have hadd : target.checkedAdd delaySamples stream.length = some (delaySamples + stream.length) :=
    if_pos hfits
  -- The delay is cut off the front, and the zeros off the end.
  have hslice : sliceGet ((List.range (stream.length + zeros)).map
      (machine.output start (thenZeros stream))) delaySamples (delaySamples + stream.length) =
      some ((List.range stream.length).map fun i =>
        machine.output start (thenZeros stream) (delaySamples + i)) := by
    unfold sliceGet
    rw [if_pos ⟨Nat.le_add_right _ _, by simp; omega⟩]
    refine congrArg some (List.ext_getElem (by simp; omega) fun i hi hi' => ?_)
    simp
  rw [hfinish]
  unfold aligned streamed
  dsimp only
  rw [hraw, hadd]
  dsimp only
  rw [hslice]
  exact if_neg (by simp)

/-- What a caller sees of a stream that is cut into chunks. -/
theorem observe_streamed (stream : List F32) {delaySamples : ℕ} {chunks : List (List F32)}
    (hfinite : ∀ chunk ∈ chunks, ∀ x ∈ chunk, x.isFinite = true)
    (hbounded : ∀ chunk ∈ chunks, chunk.length ≤ maxCallbackFrames)
    (hfits : delaySamples + (stream ++ chunks.flatten).length ≤ target.usizeMax) :
    observe target (ofMachine machine)
        (streamed machine start stream stream.length delaySamples) chunks =
      (chunks.map fun _ => .ok (),
        .ok ((List.range (stream ++ chunks.flatten).length).map fun i =>
          machine.output start (thenZeros (stream ++ chunks.flatten)) (delaySamples + i))) := by
  induction chunks generalizing stream with
  | nil =>
    rw [List.flatten_nil, List.append_nil] at hfits ⊢
    unfold observe
    rw [finish_eq target machine start stream hfits]
    rfl
  | cons chunk chunks ih =>
    obtain ⟨hfinite, hfinite'⟩ := List.forall_mem_cons.mp hfinite
    obtain ⟨hbounded, hbounded'⟩ := List.forall_mem_cons.mp hbounded
    rw [List.flatten_cons, ← List.append_assoc] at hfits ⊢
    -- No chunk goes beyond the bound, as all of them together do not.
    have hchunk : stream.length + chunk.length ≤ target.usizeMax := by
      rw [List.length_append, List.length_append] at hfits
      omega
    unfold observe
    rw [pushChunk_streamed target machine start stream delaySamples hfinite hbounded hchunk,
      ← List.length_append]
    dsimp only
    rw [ih (stream ++ chunk) hfinite' hbounded' hfits]
    rfl

end OfflineDenoiser

open OfflineDenoiser

/-- **Schedules do not matter.** However a finite stream is cut into chunks within the bound,
    each is accepted, and what is returned are as many samples as there were: the machine's
    output on the stream followed by zeros, from the declared delay on. -/
theorem offline_schedule (target : CompileTarget) {σ : Type}
    (machine : FrameMachine σ F32 F32 rnnoiseFrameSamples) (start : σ) {delaySamples : ℕ}
    {chunks : List (List F32)} (hfinite : ∀ chunk ∈ chunks, ∀ x ∈ chunk, x.isFinite = true)
    (hbounded : ∀ chunk ∈ chunks, chunk.length ≤ maxCallbackFrames)
    (hfits : delaySamples + chunks.flatten.length ≤ target.usizeMax) :
    observe target (ofMachine machine) (.new start delaySamples) chunks =
      (chunks.map fun _ => .ok (),
        .ok ((List.range chunks.flatten.length).map fun i =>
          machine.output start (thenZeros chunks.flatten) (delaySamples + i))) :=
  observe_streamed target machine start [] hfinite hbounded hfits

/-- A machine that gives silence. -/
def silentMachine : FrameMachine Unit F32 F32 rnnoiseFrameSamples where
  step state _ := (state, .replicate rnnoiseFrameSamples .zero)

/-- A compiled program whose `usize` has 64 bits. -/
def target64 : CompileTarget := ⟨false, 2 ^ 64 - 1⟩

/-- Two chunks of a stream. -/
theorem offline_schedule_two :
    observe target64 (ofMachine silentMachine) (.new () rnnoiseFrameSamples)
        [[.one, .one], [.one]] =
      ([.ok (), .ok ()], .ok ((List.range 3).map fun i =>
        silentMachine.output () (thenZeros [.one, .one, .one]) (480 + i))) :=
  offline_schedule target64 silentMachine ()
    (show ∀ chunk ∈ ([[.one, .one], [.one]] : List (List F32)), ∀ x ∈ chunk,
      x.isFinite = true by decide) (by decide) (by decide)

/-! ## Rejected chunks

When a rejected chunk leaves no trace in what comes after it, and when it does.
-/

namespace OfflineDenoiser

variable {σ : Type} (target : CompileTarget) (model : RnnoiseModel σ)

/-- The errors of a chunk that is rejected. -/
def rejections : List OfflineError :=
  [.nonFiniteInput, .chunk .quantumTooLarge, .lengthOverflow]

/-- A chunk that leaves no trace: whatever follows, a caller sees the same without it. -/
def Traceless (runner : OfflineDenoiser σ) (chunk : List F32) : Prop :=
  ∀ chunks, observe target model (runner.pushChunk target model chunk).2 chunks =
    observe target model runner chunks

/-- A chunk holds a sample that is not finite. -/
def NonFinite (chunk : List F32) : Prop := ∃ sample ∈ chunk, sample.isFinite = false

/-- A chunk of finite samples within the length. -/
theorem pushChunk_of_finite {runner : OfflineDenoiser σ} {chunk : List F32}
    (hfinite : ¬ NonFinite chunk)
    (hfits : runner.acceptedSamples + chunk.length ≤ target.usizeMax) :
    runner.pushChunk target model chunk = processChunk model
      { runner with acceptedSamples := runner.acceptedSamples + chunk.length } chunk := by
  have hnone : ¬ (chunk.any fun sample => !sample.isFinite) = true := by
    simpa [NonFinite] using hfinite
  have hadd : target.checkedAdd runner.acceptedSamples chunk.length =
      some (runner.acceptedSamples + chunk.length) := if_pos hfits
  unfold pushChunk
  rw [if_neg hnone, hadd]

/-- A chunk of finite samples beyond the length. -/
theorem pushChunk_of_overflow {runner : OfflineDenoiser σ} {chunk : List F32}
    (hfinite : ¬ NonFinite chunk)
    (hover : target.usizeMax < runner.acceptedSamples + chunk.length) :
    runner.pushChunk target model chunk = (.error .lengthOverflow, runner) := by
  have hnone : ¬ (chunk.any fun sample => !sample.isFinite) = true := by
    simpa [NonFinite] using hfinite
  have hadd : target.checkedAdd runner.acceptedSamples chunk.length = none :=
    if_neg (not_le.mpr hover)
  unfold pushChunk
  rw [if_neg hnone, hadd]

/-- A chunk with a sample that is not finite. -/
theorem pushChunk_of_nonFinite {runner : OfflineDenoiser σ} {chunk : List F32}
    (h : NonFinite chunk) :
    runner.pushChunk target model chunk = (.error .nonFiniteInput, runner) :=
  if_pos (by simpa [NonFinite] using h)

/-- Processing leaves the account of lengths alone, and fails as a chunk or as a frame does. -/
theorem processChunk_spec (runner : OfflineDenoiser σ) (input : List F32) :
    (runner.processChunk model input).2.acceptedSamples = runner.acceptedSamples ∧
      (runner.processChunk model input).1 ≠ .error .lengthOverflow ∧
      (runner.processChunk model input).1 ≠ .error .nonFiniteInput ∧
      (maxCallbackFrames < input.length ∧
        runner.processChunk model input = (.error (.chunk .quantumTooLarge), runner) ∨
      input.length ≤ maxCallbackFrames ∧
        (runner.processChunk model input).1 ≠ .error (.chunk .quantumTooLarge)) := by
  unfold processChunk RnnoiseFrameAssembler.push
  by_cases hlarge : maxCallbackFrames < input.length
  · rw [if_pos hlarge]
    exact ⟨rfl, by simp, by simp, .inl ⟨hlarge, rfl⟩⟩
  · rw [if_neg hlarge]
    dsimp only
    split <;> exact ⟨rfl, by simp, by simp, .inr ⟨not_lt.mp hlarge, by simp⟩⟩

/-- A chunk that is processed is not rejected, unless it is too large. -/
theorem length_of_rejected {runner : OfflineDenoiser σ} {input : List F32} {error : OfflineError}
    (h : (runner.processChunk model input).1 = .error error) (hrejected : error ∈ rejections) :
    maxCallbackFrames < input.length ∧
      (runner.processChunk model input).2 = runner := by
  obtain ⟨-, hover, hnonFinite, ⟨hlarge, hresult⟩ | ⟨-, hquantum⟩⟩ :=
    processChunk_spec model runner input
  · exact ⟨hlarge, congrArg Prod.snd hresult⟩
  · simp only [rejections, List.mem_cons, List.not_mem_nil, or_false] at hrejected
    rcases hrejected with rfl | rfl | rfl
    · exact absurd h hnonFinite
    · exact absurd h hquantum
    · exact absurd h hover

/-- **Silence shows the account.** Of some chunks of one silent sample, one overflows exactly
    when they are more than there is room for, whatever the model does with them. -/
theorem overflow_mem_observe_iff (runner : OfflineDenoiser σ)
    (haccepted : runner.acceptedSamples ≤ target.usizeMax) (count : ℕ) :
    .error .lengthOverflow ∈ (observe target model runner (.replicate count [.zero])).1 ↔
      target.usizeMax < runner.acceptedSamples + count := by
  have hfinite : ¬ NonFinite [.zero] := by simp [NonFinite]; decide
  induction count generalizing runner with
  | zero => simpa [observe] using haccepted
  | succ count ih =>
    rw [List.replicate_succ]
    unfold observe
    dsimp only
    rw [List.mem_cons]
    by_cases hfits : runner.acceptedSamples + [Lib.Binary32.zero].length ≤ target.usizeMax
    · rw [pushChunk_of_finite target model hfinite hfits]
      obtain ⟨hsame, hover, -⟩ := processChunk_spec model
        { runner with acceptedSamples := runner.acceptedSamples + [Lib.Binary32.zero].length }
        [.zero]
      have hrest := ih _ (hsame.trans_le hfits)
      rw [hsame] at hrest
      refine (or_iff_right hover.symm).trans (hrest.trans ?_)
      show _ < runner.acceptedSamples + 1 + count ↔ _
      omega
    · -- the count would overflow with this very sample
      have hfull : target.usizeMax < runner.acceptedSamples + 1 := not_le.mp hfits
      rw [pushChunk_of_overflow target model hfinite (not_le.mp hfits)]
      exact iff_of_true (.inl rfl) (by omega)

end OfflineDenoiser

/-- **Which rejected chunks leave no trace**: those that are turned away before they are counted,
    for a sample that is not finite or a length that overflows.  One that is too large is not. -/
theorem rejected_traceless_iff (target : CompileTarget) {σ : Type} (model : RnnoiseModel σ)
    {runner : OfflineDenoiser σ} {chunk : List F32} {error : OfflineError}
    (h : (runner.pushChunk target model chunk).1 = .error error)
    (hrejected : error ∈ rejections) :
    Traceless target model runner chunk ↔
      NonFinite chunk ∨ target.usizeMax < runner.acceptedSamples + chunk.length := by
  constructor
  · intro htraceless
    by_contra hcounted
    obtain ⟨hfinite, hfits⟩ := not_or.mp hcounted
    have hfits := not_lt.mp hfits
    have hpushed := pushChunk_of_finite target model hfinite hfits
    rw [hpushed] at h
    obtain ⟨hlarge, hafter⟩ := length_of_rejected model h hrejected
    have hcallback : maxCallbackFrames = 4096 := rfl
    -- As many silent samples as overflow the account with the chunk, but not without it.
    obtain ⟨count, hcount⟩ : ∃ count,
      count = target.usizeMax - (runner.acceptedSamples + chunk.length) + 1 := ⟨_, rfl⟩
    have hsame := congrArg Prod.fst (htraceless (.replicate count [.zero]))
    rw [hpushed, hafter] at hsame
    have hwith := (overflow_mem_observe_iff target model
      { runner with acceptedSamples := runner.acceptedSamples + chunk.length } hfits count).mpr
      (show target.usizeMax < runner.acceptedSamples + chunk.length + count by omega)
    rw [hsame, overflow_mem_observe_iff target model runner (by omega)] at hwith
    omega
  · rintro (hnonFinite | hover) chunks
    · rw [pushChunk_of_nonFinite target model hnonFinite]
    · by_cases hnonFinite : NonFinite chunk
      · rw [pushChunk_of_nonFinite target model hnonFinite]
      · rw [pushChunk_of_overflow target model hnonFinite hover]

/-- A chunk with a sample that is not a number. -/
theorem rejected_traceless_nan :
    Traceless target64 (ofMachine silentMachine) (.new () rnnoiseFrameSamples) [.nan] := by
  have hrejected : ((new () rnnoiseFrameSamples).pushChunk target64 (ofMachine silentMachine)
      [.nan]).1 = .error .nonFiniteInput := rfl
  exact (rejected_traceless_iff target64 _ hrejected (by decide)).mpr
    (.inl ⟨.nan, List.mem_cons_self, by decide⟩)

/-- An output that is too short for the account. -/
theorem aligned_short (target : CompileTarget) {σ : Type} {runner : OfflineDenoiser σ}
    (hfits : runner.delaySamples + runner.acceptedSamples ≤ target.usizeMax)
    (hshort : runner.rawOutput.length < runner.delaySamples + runner.acceptedSamples) :
    runner.aligned target = .error .sampleConservation := by
  have hadd : target.checkedAdd runner.delaySamples runner.acceptedSamples =
      some (runner.delaySamples + runner.acceptedSamples) := if_pos hfits
  have hslice : sliceGet runner.rawOutput runner.delaySamples
      (runner.delaySamples + runner.acceptedSamples) = none :=
    if_neg fun h => absurd h.2 (not_le.mpr hshort)
  unfold aligned
  rw [hadd]
  dsimp only
  rw [hslice]

/-- **A chunk that is too large** is counted though it is rejected: at the end of an empty stream
    nothing is returned for it, but that samples were lost. -/
theorem rejected_oversized : ¬ ∀ (target : CompileTarget) (σ : Type) (model : RnnoiseModel σ)
    (start : σ) (delaySamples : ℕ) (chunks : List (List F32)) (chunk : List F32)
    (error : OfflineError),
    let runner := chunks.foldl (fun runner chunk => (runner.pushChunk target model chunk).2)
      (new start delaySamples)
    (runner.pushChunk target model chunk).1 = .error error → error ∈ rejections →
      Traceless target model runner chunk := by
  intro hall
  obtain ⟨chunk, hchunk⟩ : ∃ chunk : List F32, chunk = .replicate 4097 .zero := ⟨_, rfl⟩
  have hlength : chunk.length = 4097 := by rw [hchunk, List.length_replicate]
  have hfinite : ¬ NonFinite chunk := by
    rintro ⟨sample, hmem, hsample⟩
    rw [hchunk] at hmem
    rw [List.eq_of_mem_replicate hmem] at hsample
    exact absurd hsample (by decide)
  -- The chunk is turned away, and counted.
  have hpushed : (new () rnnoiseFrameSamples).pushChunk target64 (ofMachine silentMachine) chunk =
      (.error (.chunk .quantumTooLarge),
        streamed silentMachine () [] (0 + chunk.length) rnnoiseFrameSamples) := by
    rw [pushChunk_of_finite target64 _ hfinite (show 0 + chunk.length ≤ 2 ^ 64 - 1 by omega)]
    obtain ⟨-, -, -, ⟨-, hresult⟩ | ⟨hsmall, -⟩⟩ := processChunk_spec (ofMachine silentMachine)
      (streamed silentMachine () [] (0 + chunk.length) rnnoiseFrameSamples) chunk
    · exact hresult
    · exact absurd hsmall (by rw [hlength]; decide)
  have htraceless := hall target64 Unit (ofMachine silentMachine) () rnnoiseFrameSamples [] chunk
    _ (congrArg Prod.fst hpushed) (by decide) []
  have hfinish : finish target64 (ofMachine silentMachine)
      ((new () rnnoiseFrameSamples).pushChunk target64 (ofMachine silentMachine) chunk).2 =
      finish target64 (ofMachine silentMachine) (new () rnnoiseFrameSamples) :=
    congrArg Prod.snd htraceless
  -- Without it the stream is empty, and with it the output is too short.
  have hempty : finish target64 (ofMachine silentMachine) (new () rnnoiseFrameSamples) = .ok [] :=
    finish_eq target64 silentMachine () [] (by decide)
  obtain ⟨zeros, -, hzeros, hdvd, hend⟩ := finish_streamed target64 silentMachine () []
    (0 + chunk.length) rnnoiseFrameSamples
  have hraw : (streamed silentMachine () ([] ++ .replicate zeros .zero) (0 + chunk.length)
      rnnoiseFrameSamples).rawOutput.length ≤ zeros := by
    show (silentMachine.run () _).2.length ≤ zeros
    rw [FrameMachine.length_run, Lib.length_blocks]
    simpa using Nat.mul_div_le zeros rnnoiseFrameSamples
  have hframe : rnnoiseFrameSamples = 480 := rfl
  rw [hpushed, hempty, hend, aligned_short] at hfinish
  · cases hfinish
  · show rnnoiseFrameSamples + (0 + chunk.length) ≤ 2 ^ 64 - 1
    omega
  · refine Nat.lt_of_le_of_lt hraw ?_
    show zeros < rnnoiseFrameSamples + (0 + chunk.length)
    omega

end Noire
