import Noire.Basic
import Noire.Lib.Prog
import Noire.Dsp.Ramp
import Mathlib.Logic.Function.Basic

namespace Noire

open Lib (Prog)

/-!
# The bounded sample transport

The capture callback and the source callback share a bounded single-producer
single-consumer ring and a record of atomics.  Every ring and atomic operation is one
`BypassOp`, and each call of either side is a program of them, written after the source's
own sequence, so that the same definitions run alone and among other threads.

* `SharedState` — the atomics and the ring.  The ring is the first-in first-out queue its
  contract describes; `consumed` and `runs` are histories that no operation reads;
* `BypassOp.exec` — what each operation returns and leaves;
* `writeProcessed`, `requestResync` — the capture side;
* `BypassOutput.fill`, `clearSensitive`, `discardPendingSensitive` — the source side;
* `createProcessedChannel`, `createBypassChannel` — the two channels the process builds.

Counters and the generation are naturals: the source's are 64-bit and start near zero.
The source's scratch array holds the block between the pops and the ramp; here it is the
list `popBlock` returns.
-/

/-- `BYPASS_RING_CAPACITY`. -/
def bypassRingCapacity : ℕ := 2 * maxCallbackFrames + 2 * modelFrameSamples

/-- `BYPASS_STARTUP_QUANTA`. -/
def bypassStartupQuanta : ℕ := 1

/-- A queued sample and the generation it was captured under. -/
structure TaggedSample where
  generation : ℕ
  value : F32
  deriving DecidableEq

/-- The counters of `SharedState` that only ever grow. -/
inductive BypassCounter
  | producedFrames
  | outputCallbacks
  | outputFrames
  | startupSilenceFrames
  | missingFrames
  | underflows
  | overflows
  | droppedFrames
  | discardedStaleFrames
  | generationResets
  | oversizedRequests
  | sanitizedSamples
  deriving DecidableEq

/-- One block handed to the fault ramp: the consumer's generation, the place of its first
    sample among all samples ever pushed, and the samples. -/
structure PublishedBlock where
  generation : ℕ
  first : ℕ
  samples : List TaggedSample
  deriving DecidableEq

/-- The atomics and the ring both sides share. -/
structure SharedState where
  generation : ℕ := 1
  publicationEnabled : Bool := true
  counters : BypassCounter → ℕ := fun _ => 0
  currentFrames : ℕ := 0
  highWaterFrames : ℕ := 0
  /-- The ring's content, oldest first. -/
  queue : List TaggedSample := []
  /-- Every sample popped so far, oldest first. -/
  consumed : List TaggedSample := []
  /-- The blocks handed to the fault ramp, one list for each startup, newest first. -/
  runs : List (List PublishedBlock) := []

namespace SharedState

/-- Every sample ever pushed, oldest first. -/
def pushed (s : SharedState) : List TaggedSample := s.consumed ++ s.queue

/-- `fetch_add` on a counter. -/
def count (s : SharedState) (counter : BypassCounter) (amount : ℕ) : SharedState :=
  { s with counters := Function.update s.counters counter (s.counters counter + amount) }

/-- Add a block to the newest run. -/
def recordBlock (s : SharedState) (block : PublishedBlock) : SharedState :=
  match s.runs with
  | [] => s
  | run :: older => { s with runs := (run ++ [block]) :: older }

end SharedState

/-! ## Operations

An operation is one access to shared memory.  What a thread computes between two of them is its
own.
-/

/-- One atomic or ring operation.  `startup` and `publish` only extend the history. -/
inductive BypassOp
  | loadPublication
  | loadGeneration
  | fetchAddGeneration
  | count (counter : BypassCounter) (amount : ℕ)
  | storeCurrentFrames (frames : ℕ)
  | maxHighWaterFrames (frames : ℕ)
  | producerSlots
  | push (sample : TaggedSample)
  | consumerSlots
  | peek
  | pop
  | startup
  | publish (generation : ℕ) (samples : List TaggedSample)

namespace BypassOp

/-- What an operation returns. -/
abbrev Res : BypassOp → Type
  | loadPublication => Bool
  | loadGeneration => ℕ
  | fetchAddGeneration => ℕ
  | count _ _ => Unit
  | storeCurrentFrames _ => Unit
  | maxHighWaterFrames _ => Unit
  | producerSlots => ℕ
  | push _ => Bool
  | consumerSlots => ℕ
  | peek => Option TaggedSample
  | pop => Option TaggedSample
  | startup => Unit
  | publish _ _ => Unit

/-- What an operation returns and leaves. -/
def exec : (o : BypassOp) → SharedState → Res o × SharedState
  | loadPublication, s => (s.publicationEnabled, s)
  | loadGeneration, s => (s.generation, s)
  | fetchAddGeneration, s => (s.generation, { s with generation := s.generation + 1 })
  | count counter amount, s => ((), s.count counter amount)
  | storeCurrentFrames frames, s => ((), { s with currentFrames := frames })
  | maxHighWaterFrames frames, s =>
    ((), { s with highWaterFrames := max s.highWaterFrames frames })
  | producerSlots, s => (bypassRingCapacity - s.queue.length, s)
  | push sample, s =>
    if s.queue.length < bypassRingCapacity then (true, { s with queue := s.queue ++ [sample] })
    else (false, s)
  | consumerSlots, s => (s.queue.length, s)
  | peek, s => (s.queue.head?, s)
  | pop, s =>
    match s.queue with
    | [] => (none, s)
    | sample :: rest =>
      (some sample, { s with queue := rest, consumed := s.consumed ++ [sample] })
  | startup, s => ((), { s with runs := [] :: s.runs })
  | publish generation samples, s =>
    -- The block is what was popped last, so its place is counted back from the end.
    ((), s.recordBlock ⟨generation, s.consumed.length - samples.length, samples⟩)

end BypassOp

/-- A program over the transport. -/
abbrev BypassProg := Prog BypassOp.Res

/-- Perform one operation of the transport. -/
abbrev perform (o : BypassOp) : BypassProg o.Res := Prog.call o

/-! ## The capture side -/

/-- `BypassControl::request_resync`. -/
def requestResync : BypassProg ℕ := do
  perform (.count .generationResets 1)
  let generation ← perform .fetchAddGeneration
  return generation + 1

/-- `BypassCaptureSink::record_overflow`. -/
def recordOverflow (samples : ℕ) : BypassProg Unit := do
  perform (.count .overflows 1)
  perform (.count .droppedFrames samples)
  let _ ← requestResync
  return ()

/-- The push loop of `write_processed`; `false` at the first push the ring refuses. -/
def pushAll (generation : ℕ) : List F32 → BypassProg Bool
  | [] => return true
  | sample :: rest => do
    if ← perform (.push ⟨generation, sample⟩) then pushAll generation rest
    else return false

/-- `BypassCaptureSink::write_processed`. -/
def writeProcessed (samples : List F32) : BypassProg Bool := do
  if ← perform .loadPublication then
    let generation ← perform .loadGeneration
    -- A whole block or none: without room for all of it nothing is pushed.
    if (← perform .producerSlots) < samples.length then
      recordOverflow samples.length
      return false
    else if ← pushAll generation samples then
      perform (.count .producedFrames samples.length)
      let slots ← perform .producerSlots
      perform (.storeCurrentFrames (bypassRingCapacity - slots))
      perform (.maxHighWaterFrames (bypassRingCapacity - slots))
      return true
    else
      recordOverflow samples.length
      return false
  -- While publication is disabled a block is accepted and dropped.
  else return true

/-- `BypassCaptureSink::reset`. -/
def resetCapture : BypassProg Unit := do
  let _ ← requestResync
  return ()

/-! ## The source side

The returns of `fill` are cut into functions where the source branches, from the last to the
first.
-/

/-- `BypassOutputError`. -/
inductive BypassOutputError
  | quantumTooLarge
  | faultRamp (error : FaultRampError)
  deriving DecidableEq

/-- `BypassOutputReport`. -/
structure BypassOutputReport where
  frames : ℕ := 0
  missingFrames : ℕ := 0
  startup : Bool := false
  rampState : FaultRampState := .passing
  deriving DecidableEq

/-- `BypassOutput`, less its ring and its scratch storage. -/
structure BypassOutput where
  generation : ℕ
  startupReady : Bool
  ramp : FaultRamp
  startupFrameSamples : ℕ
  startupQuanta : ℕ
  emptyWhileBuffering : Bool
  leadingSilencePending : Bool
  deriving DecidableEq

/-- What one fill returns, writes and leaves. -/
structure Filled where
  result : Except BypassOutputError BypassOutputReport
  output : List F32
  after : BypassOutput

/-- The pop loop of `fill`: a block of `frames` samples of one generation, or `none` when
    the ring runs empty or yields a sample of another. -/
def popBlock (generation : ℕ) : ℕ → BypassProg (Option (List TaggedSample))
  | 0 => return some []
  | frames + 1 => do
    match ← perform .pop with
    | some sample =>
      -- A sample of another generation is consumed all the same.
      if sample.generation = generation then
        return (← popBlock generation frames).map (sample :: ·)
      else return none
    | none => return none

/-- The loop of `discard_stale_prefix`. -/
def discardStalePrefix (generation : ℕ) : ℕ → BypassProg Unit
  | 0 => .stuck
  | fuel + 1 => do
    match ← perform .peek with
    | some sample =>
      if sample.generation ≠ generation then
        let _ ← perform .pop
        perform (.count .discardedStaleFrames 1)
        discardStalePrefix generation fuel
      else return ()
    | none => return ()

/-- The loop of `discard_pending_sensitive`. -/
def discardAll : ℕ → BypassProg Unit
  | 0 => .stuck
  | fuel + 1 => do
    match ← perform .pop with
    | some _ =>
      perform (.count .discardedStaleFrames 1)
      discardAll fuel
    | none => return ()

/-- `BypassOutput::publish_occupancy`. -/
def publishOccupancy : BypassProg Unit := do
  let slots ← perform .consumerSlots
  perform (.storeCurrentFrames slots)

/-- `BypassOutput::record_published_frames`. -/
def recordPublishedFrames (frames : ℕ) : BypassProg Unit := do
  perform (.count .outputFrames frames)
  publishOccupancy

namespace BypassOutput

/-- Back to the startup region: the tail `synchronize_generation` and
    `discard_pending_sensitive` share. -/
def restartSilent (out : BypassOutput) : BypassOutput :=
  { out with
    startupReady := false
    leadingSilencePending := out.emptyWhileBuffering
    ramp := out.ramp.resetSilent }

/-- `BypassOutput::synchronize_generation`. -/
def synchronizeGeneration (out : BypassOutput) : BypassProg BypassOutput := do
  let requested ← perform .loadGeneration
  if requested ≠ out.generation then
    return { out.restartSilent with generation := requested }
  else return out

/-- `BypassOutput::discard_pending_sensitive`. -/
def discardPendingSensitive (out : BypassOutput) (fuel : ℕ) : BypassProg BypassOutput := do
  discardAll fuel
  publishOccupancy
  return out.restartSilent

/-- `BypassOutput::clear_sensitive`. -/
def clearSensitive (out : BypassOutput) (fuel : ℕ) : BypassProg BypassOutput := do
  let _ ← requestResync
  let out ← out.discardPendingSensitive fuel
  let generation ← perform .loadGeneration
  return { out with generation := generation }

/-- The occupancy that ends the startup region, for a callback of `frames`. -/
def startupRequired (out : BypassOutput) (frames : ℕ) : ℕ :=
  saturatingAdd u64Max out.startupFrameSamples (saturatingMul u64Max frames out.startupQuanta)

/-- The two returns of `fill` from the startup region: silence, of which `published`
    frames count as output. -/
def fillSilence (out : BypassOutput) (frames published : ℕ) : BypassProg Filled := do
  recordPublishedFrames published
  perform (.count .startupSilenceFrames published)
  return {
    result := .ok { frames := toU16 published, startup := true, rampState := out.ramp.state }
    output := .replicate frames .zero
    after := out }

/-- The branch of `fill` on its pops: a complete block is on its way to the ramp, anything
    less is an underflow. -/
def fillBranch (out : BypassOutput) (block : Option (List TaggedSample)) :
    BypassProg BypassOutput :=
  match block with
  | some samples => do
    -- No operation of the source: the history records what the ramp is about to be given.
    perform (.publish out.generation samples)
    return out
  | none => do
    perform (.count .underflows 1)
    let _ ← requestResync
    return { out with startupReady := false, leadingSilencePending := out.emptyWhileBuffering }

variable (sin : F32 → F32)

/-- The end of `fill`: the ramp renders the block, or fades out without one. -/
def fillRendered (out : BypassOutput) (frames : ℕ) (block : Option (List TaggedSample)) :
    BypassProg Filled := do
  let rendered := out.ramp.process sin (block.map (·.map TaggedSample.value)) frames
  let after := { out with ramp := rendered.2.2 }
  match rendered.1 with
  | .error error => return ⟨.error (.faultRamp error), rendered.2.1, after⟩
  | .ok report =>
    perform (.count .missingFrames report.missingSamples)
    perform (.count .sanitizedSamples (report.sanitized.nonFinite + report.sanitized.subnormal))
    recordPublishedFrames frames
    return {
      result := .ok {
        frames := toU16 frames
        missingFrames := report.missingSamples
        startup := false
        rampState := report.state }
      output := rendered.2.1
      after := after }

/-- The part of `fill` past the startup gate. -/
def fillReady (out : BypassOutput) (frames : ℕ) : BypassProg Filled := do
  -- The processed channel publishes one quantum of silence before its first block.
  if out.emptyWhileBuffering && out.leadingSilencePending then
    fillSilence { out with leadingSilencePending := false } frames frames
  else
    let block ← popBlock out.generation frames
    let out ← out.fillBranch block
    out.fillRendered sin frames block

/-- The part of `fill` from the startup gate on. -/
def fillGated (out : BypassOutput) (frames : ℕ) : BypassProg Filled := do
  if out.startupReady then out.fillReady sin frames
  else if (← perform .consumerSlots) < out.startupRequired frames then
    out.fillSilence frames (if out.emptyWhileBuffering then 0 else frames)
  else
    perform .startup
    fillReady sin { out with startupReady := true, ramp := out.ramp.beginRecovery } frames

/-- `BypassOutput::fill` into a buffer of `frames` samples. -/
def fill (out : BypassOutput) (frames fuel : ℕ) : BypassProg Filled := do
  perform (.count .outputCallbacks 1)
  if maxCallbackFrames < frames then
    perform (.count .oversizedRequests 1)
    return {
      result := .error .quantumTooLarge
      output := .replicate frames .zero
      after := { out with ramp := out.ramp.resetSilent } }
  else
    let out ← out.synchronizeGeneration
    discardStalePrefix out.generation fuel
    out.fillGated sin frames

end BypassOutput

/-! ## Construction -/

/-- `create_channel`: the source side of a channel whose generation is `generation`. -/
def createChannel (generation startupFrameSamples startupQuanta : ℕ)
    (emptyWhileBuffering : Bool) : BypassOutput where
  generation := generation
  startupReady := false
  ramp := FaultRamp.new.resetSilent
  startupFrameSamples := startupFrameSamples
  startupQuanta := startupQuanta
  emptyWhileBuffering := emptyWhileBuffering
  leadingSilencePending := emptyWhileBuffering

/-- `create_bypass_channel`. -/
def createBypassChannel : SharedState × BypassOutput :=
  ({}, createChannel 1 modelFrameSamples bypassStartupQuanta false)

/-- `create_processed_channel`. -/
def createProcessedChannel : SharedState × BypassOutput :=
  ({}, createChannel 1 modelFrameSamples 0 true)

end Noire
