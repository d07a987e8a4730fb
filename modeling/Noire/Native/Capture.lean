import Noire.Basic
import Noire.Dsp.Sample
import Noire.Lib.Blocks
import Noire.Lib.Run

namespace Noire

/-!
# The capture callback

What the data thread does with one buffer that PipeWire hands over.  Neither its metadata nor its
length can be trusted, and another thread may ask for a new input generation between two calls.

* `Meter.observe` — the meter of one generation;
* `CaptureProcessor.processMapped` — the callback, over any sink; `none` stands for a panic;
* `captureOutcome` — what becomes of a buffer, by its metadata;
* `processMapped_eq` — the callback does exactly this, and never panics;
* `capture_lawful` — in every run the sink hears of a new generation before any of its samples.

The code checks the metadata in a row of conversions, each of which may fail, and decodes into a
fixed buffer chunk by chunk.  `captureOutcome` says the same by a comparison of lengths and by
indexing.  The two meet in `ChunkMetadata.region_of_lt` and `ChunkMetadata.region_of_le`, which say
when the conversions succeed, and in `decodeInto_eq`, which turns the loop into a map; what is left
of `processMapped_eq` is one case for each branch of the code.

For the runs, the sink is first taken to be a recorder, which keeps its calls.  `Lawful` is the
invariant over these, and an arbitrary sink is a fold over what the recorder kept (`mapSink`), since
a processor never looks at its sink.
-/

/-! ## The meter

A window of at most a second: peak, mean square and count, until it is full.
-/

/-- `MAX_METER_WINDOW_SAMPLES`. -/
def maxMeterWindowSamples : ℕ := 48000

/-- `Meter`. -/
structure Meter where
  peak : F32 := .zero
  meanSquare : F32 := .zero
  samples : ℕ := 0
  sanitized : SanitizeReport := {}

namespace Meter

/-- `Meter::new`. -/
def new : Meter := {}

/-- `Meter::observe`. -/
def observe (meter : Meter) : List F32 → Meter
  | [] => meter
  | sample :: rest =>
    if meter.samples = maxMeterWindowSamples then meter
    else
      let entered := sanitizeSample sample meter.sanitized
      let samples := meter.samples + 1
      let square := entered.1.mulAdd entered.1 meter.meanSquare.neg
      observe {
        peak := meter.peak.max entered.1.abs
        meanSquare := meter.meanSquare.add (square.div (.ofNat samples))
        samples
        sanitized := entered.2 } rest

/-- A full window ignores further samples. -/
theorem observe_full {meter : Meter} (h : meter.samples = maxMeterWindowSamples)
    (samples : List F32) : meter.observe samples = meter := by
  cases samples with
  | nil => rfl
  | cons sample rest => exact if_pos h

/-- Samples may be observed in several parts. -/
theorem observe_append (meter : Meter) (samples others : List F32) :
    meter.observe (samples ++ others) = (meter.observe samples).observe others := by
  induction samples generalizing meter with
  | nil => rfl
  | cons sample rest ih =>
    rw [List.cons_append, observe, observe]
    by_cases h : meter.samples = maxMeterWindowSamples
    · rw [if_pos h, if_pos h, observe_full h]
    · rw [if_neg h, if_neg h]
      exact ih _

end Meter

/-! ## Bytes

Byte order and the width of `usize` belong to the target the code is compiled for, and both are left
open.  A slice carries the bound of its own length.
-/

/-- One byte of a buffer. -/
abbrev Byte := BitVec 8

/-- What the compiled code depends on: the byte order, and the largest `usize`. -/
structure CompileTarget where
  bigEndian : Bool
  usizeMax : ℕ

namespace CompileTarget

/-- `f32::from_ne_bytes`. -/
def f32FromNeBytes (target : CompileTarget) (bytes : Vector Byte 4) : F32 :=
  if target.bigEndian then ⟨bytes[0] ++ bytes[1] ++ bytes[2] ++ bytes[3]⟩
  else ⟨bytes[3] ++ bytes[2] ++ bytes[1] ++ bytes[0]⟩

/-- A slice of bytes: its length is a `usize`. -/
structure Slice (target : CompileTarget) where
  bytes : List Byte
  fits : bytes.length ≤ target.usizeMax

/-- `usize::try_from`. -/
def usizeFrom (target : CompileTarget) (n : ℕ) : Option ℕ :=
  if n ≤ target.usizeMax then some n else none

/-- `usize::checked_add`. -/
def checkedAdd (target : CompileTarget) (m n : ℕ) : Option ℕ := target.usizeFrom (m + n)

end CompileTarget

/-- `<[u8; 4]>::try_from`. -/
def byteArray : List Byte → Option (Vector Byte 4)
  | [a, b, c, d] => some #v[a, b, c, d]
  | _ => none

/-- `slice.get(start..stop)`. -/
def sliceGet {α : Type} (slice : List α) (start stop : ℕ) : Option (List α) :=
  if start ≤ stop ∧ stop ≤ slice.length then some ((slice.take stop).drop start) else none

/-- `slice[..stop]`, which panics where the slice is shorter. -/
def sliceTo {α : Type} (slice : List α) (stop : ℕ) : Option (List α) :=
  if stop ≤ slice.length then some (slice.take stop) else none

/-! ## The processor

The functions of `capture.rs`, line by line.  What Rust would panic on (a slice out of range) is
`none` here, so that the absence of panics is something to prove.
-/

/-- `ChunkMetadata`. -/
structure ChunkMetadata where
  offsetBytes : ℕ := 0
  sizeBytes : ℕ := 0
  strideBytes : ℤ := 0
  corrupted : Bool := false

/-- The bytes that `process_mapped` reads: each of the five conversions may fail, and all failures
    are one rejection. -/
def ChunkMetadata.region (metadata : ChunkMetadata) (target : CompileTarget)
    (mapped : Option target.Slice) : Option (List Byte) := do
  let mapped ← mapped
  let offset ← target.usizeFrom metadata.offsetBytes
  let size ← target.usizeFrom metadata.sizeBytes
  let stop ← target.checkedAdd offset size
  sliceGet mapped.bytes offset stop

/-- `CaptureBufferError`. -/
inductive CaptureBufferError
  | malformedChunk
  | quantumTooLarge
  deriving DecidableEq

/-- `CaptureCounters`. -/
structure CaptureCounters where
  callbacks : ℕ := 0
  frames : ℕ := 0
  emptyBuffers : ℕ := 0
  malformedChunks : ℕ := 0
  oversizedChunks : ℕ := 0
  nonFiniteSamples : ℕ := 0
  subnormalSamples : ℕ := 0
  inputGenerationResets : ℕ := 0
  deriving DecidableEq

/-- `CaptureReport`. -/
structure CaptureReport where
  generation : ℕ := initialGeneration
  frames : ℕ := 0
  sanitized : SanitizeReport := {}
  deriving DecidableEq

/-- `CaptureSink`, whose methods return nothing. -/
structure CaptureSink (S : Type) where
  reset : ℕ → S → S
  write : ℕ → List F32 → S → S

/-- `CaptureTelemetry`: what the control plane may read. -/
structure CaptureTelemetry where
  generation : ℕ := initialGeneration
  counters : CaptureCounters := {}
  peak : F32 := .zero
  recentPeak : F32 := .zero
  rms : F32 := .zero

namespace CaptureTelemetry

/-- `CaptureTelemetry::publish`.  The largest peak is that of the largest bit pattern. -/
def publish (telemetry : CaptureTelemetry) (counters : CaptureCounters) (generation : ℕ)
    (samples : List F32) : CaptureTelemetry :=
  let peak := samples.foldl (fun peak sample => peak.max sample.abs) .zero
  let squares := (samples.map fun sample => sample.mul sample).foldl Lib.Binary32.add .zero
  { generation, counters
    peak := if telemetry.peak.bits ≤ peak.bits then peak else telemetry.peak
    recentPeak := peak
    rms := if samples = [] then .zero else (squares.div (.ofNat samples.length)).sqrt }

/-- `CaptureTelemetry::reset_generation`. -/
def resetGeneration (telemetry : CaptureTelemetry) (counters : CaptureCounters)
    (generation : ℕ) : CaptureTelemetry :=
  { telemetry with peak := .zero, recentPeak := .zero, rms := .zero }.publish counters generation []

end CaptureTelemetry

/-- The fixed buffer that samples are decoded into. -/
structure Scratch where
  samples : List F32
  full : samples.length = maxCallbackFrames

namespace Scratch

/-- A buffer filled with zeros. -/
def silent : Scratch := ⟨.replicate maxCallbackFrames .zero, List.length_replicate⟩

/-- The first samples of the buffer overwritten. -/
def overwrite (scratch : Scratch) (samples : List F32) : Scratch :=
  ⟨(samples ++ scratch.samples.drop samples.length).take maxCallbackFrames, by
    rw [List.length_take, List.length_append, List.length_drop, scratch.full]
    omega⟩

end Scratch

/-- `CaptureProcessor`, and the generation that was asked for last. -/
structure CaptureProcessor (S : Type) where
  sink : S
  scratch : Scratch := .silent
  meter : Meter := .new
  counters : CaptureCounters := {}
  telemetry : CaptureTelemetry := {}
  generation : ℕ := initialGeneration
  generationCommand : ℕ := initialGeneration

/-- The loop that decodes one sample a chunk, over the samples it overwrites.  A chunk that is no
    array of four bytes ends it. -/
def CompileTarget.decodeInto (target : CompileTarget) :
    List (List Byte) → List F32 → List F32 × Except CaptureBufferError Unit
  | chunk :: chunks, sample :: samples =>
    match byteArray chunk with
    | none => (sample :: samples, .error .malformedChunk)
    | some array =>
      let decoded := target.decodeInto chunks samples
      (target.f32FromNeBytes array :: decoded.1, decoded.2)
  | _, samples => (samples, .ok ())

namespace CaptureProcessor

variable {S : Type} (target : CompileTarget) (sink : CaptureSink S)

/-- `CaptureProcessor::new`. -/
def new (initial : S) : CaptureProcessor S := { sink := initial }

/-- `CaptureProcessor::apply_generation`. -/
def applyGeneration (p : CaptureProcessor S) (generation : ℕ) : CaptureProcessor S :=
  if generation = p.generation then p
  else
    let counters := { p.counters with
      inputGenerationResets := saturatingAdd u64Max p.counters.inputGenerationResets 1 }
    { p with
      scratch := .silent
      meter := .new
      sink := sink.reset generation p.sink
      generation, counters
      telemetry := p.telemetry.resetGeneration counters generation }

/-- `CaptureProcessor::synchronize_generation`. -/
def synchronizeGeneration (p : CaptureProcessor S) : CaptureProcessor S :=
  p.applyGeneration sink p.generationCommand

/-- `CaptureProcessor::reset_input_generation`. -/
def resetInputGeneration (p : CaptureProcessor S) (generation : ℕ) : CaptureProcessor S :=
  applyGeneration sink { p with generationCommand := generation } generation

/-- `CaptureProcessor::reject`. -/
def reject (p : CaptureProcessor S) (error : CaptureBufferError) :
    Except CaptureBufferError CaptureReport × CaptureProcessor S :=
  let counters := match error with
    | .malformedChunk => { p.counters with
        malformedChunks := saturatingAdd u64Max p.counters.malformedChunks 1 }
    | .quantumTooLarge => { p.counters with
        oversizedChunks := saturatingAdd u64Max p.counters.oversizedChunks 1 }
  (.error error, { p with
    counters, telemetry := p.telemetry.publish counters p.generation [] })

/-- The end of `process_mapped`, on the bytes that the metadata describe. -/
def processBytes (p : CaptureProcessor S) (bytes : List Byte) :
    Option (Except CaptureBufferError CaptureReport × CaptureProcessor S) :=
  let frames := bytes.length / 4
  if maxCallbackFrames < frames then some (p.reject .quantumTooLarge)
  else do
    let unwritten ← sliceTo p.scratch.samples frames
    let decoded := target.decodeInto (Lib.blocks 4 bytes) unwritten
    let p := { p with scratch := p.scratch.overwrite decoded.1 }
    match decoded.2 with
    | .error error => return (.error error, p)
    | .ok () =>
      let samples ← sliceTo p.scratch.samples frames
      let sanitized := sanitizeBuffer samples
      let counters := { p.counters with
        frames := saturatingAdd u64Max p.counters.frames frames
        nonFiniteSamples :=
          saturatingAdd u64Max p.counters.nonFiniteSamples sanitized.2.nonFinite
        subnormalSamples :=
          saturatingAdd u64Max p.counters.subnormalSamples sanitized.2.subnormal }
      return (.ok ⟨p.generation, toU16 frames, sanitized.2⟩, { p with
        scratch := p.scratch.overwrite sanitized.1
        meter := p.meter.observe sanitized.1
        sink := sink.write p.generation sanitized.1 p.sink
        counters, telemetry := p.telemetry.publish counters p.generation sanitized.1 })

/-- `CaptureProcessor::process_mapped`; `none` is a panic. -/
def processMapped (p : CaptureProcessor S) (mapped : Option target.Slice)
    (metadata : ChunkMetadata) :
    Option (Except CaptureBufferError CaptureReport × CaptureProcessor S) :=
  let p := p.synchronizeGeneration sink
  let counters := { p.counters with callbacks := saturatingAdd u64Max p.counters.callbacks 1 }
  let p := { p with counters }
  if metadata.sizeBytes = 0 then
    let counters := { p.counters with
      emptyBuffers := saturatingAdd u64Max p.counters.emptyBuffers 1 }
    some (.ok { generation := p.generation }, { p with
      counters, telemetry := p.telemetry.publish counters p.generation [] })
  else if metadata.corrupted = true ∨ ¬(metadata.strideBytes = 0 ∨ metadata.strideBytes = 4) ∨
      metadata.sizeBytes % 4 ≠ 0 then
    some (p.reject .malformedChunk)
  else match metadata.region target mapped with
    | none => some (p.reject .malformedChunk)
    | some bytes => p.processBytes target sink bytes

end CaptureProcessor

/-! ## What becomes of a buffer

The meaning of the callback, in terms of the metadata and of the bytes: four outcomes, each with
what the caller is told, what is counted and what the sink hears.
-/

/-- What becomes of a buffer; one that is delivered, with the samples that it decodes to. -/
inductive CaptureOutcome
  | empty
  | malformed
  | oversized
  | delivered (decoded : List F32)

/-- The sample in the four bytes from an index on. -/
def CompileTarget.sampleAt (target : CompileTarget) (bytes : List Byte) (index : ℕ) : F32 :=
  target.f32FromNeBytes (Vector.ofFn fun j : Fin 4 => bytes.getD (index + j) 0)

/-- What becomes of a buffer with these metadata. -/
def captureOutcome (target : CompileTarget) (mapped : Option target.Slice)
    (metadata : ChunkMetadata) : CaptureOutcome :=
  if metadata.sizeBytes = 0 then .empty
  else if metadata.corrupted = true ∨ ¬(metadata.strideBytes = 0 ∨ metadata.strideBytes = 4) ∨
      metadata.sizeBytes % 4 ≠ 0 then .malformed
  else match mapped with
    | none => .malformed
    | some mapped =>
      if mapped.bytes.length < metadata.offsetBytes + metadata.sizeBytes then .malformed
      else if maxCallbackFrames < metadata.sizeBytes / 4 then .oversized
      else .delivered ((List.range (metadata.sizeBytes / 4)).map fun k =>
        target.sampleAt mapped.bytes (metadata.offsetBytes + 4 * k))

/-- One call of a sink's methods. -/
inductive SinkCall
  | reset (generation : ℕ)
  | write (generation : ℕ) (samples : List F32)

namespace CaptureOutcome

/-- The samples the sink is given. -/
def samples : CaptureOutcome → List F32
  | delivered decoded => decoded.map sanitized
  | _ => []

/-- The calls the sink receives. -/
def calls (generation : ℕ) : CaptureOutcome → List SinkCall
  | delivered decoded => [.write generation (decoded.map sanitized)]
  | _ => []

/-- What is returned. -/
def result (generation : ℕ) : CaptureOutcome → Except CaptureBufferError CaptureReport
  | empty => .ok { generation }
  | malformed => .error .malformedChunk
  | oversized => .error .quantumTooLarge
  | delivered decoded => .ok ⟨generation, decoded.length, (sanitizeBuffer decoded).2⟩

/-- What is counted: the callback, and the outcome. -/
def count (counters : CaptureCounters) (outcome : CaptureOutcome) : CaptureCounters :=
  let callbacks := saturatingAdd u64Max counters.callbacks 1
  match outcome with
  | empty => { counters with
      callbacks, emptyBuffers := saturatingAdd u64Max counters.emptyBuffers 1 }
  | malformed => { counters with
      callbacks, malformedChunks := saturatingAdd u64Max counters.malformedChunks 1 }
  | oversized => { counters with
      callbacks, oversizedChunks := saturatingAdd u64Max counters.oversizedChunks 1 }
  | delivered decoded => { counters with
      callbacks
      frames := saturatingAdd u64Max counters.frames decoded.length
      nonFiniteSamples :=
        saturatingAdd u64Max counters.nonFiniteSamples (sanitizeBuffer decoded).2.nonFinite
      subnormalSamples :=
        saturatingAdd u64Max counters.subnormalSamples (sanitizeBuffer decoded).2.subnormal }

end CaptureOutcome

/-- A call, received by a sink. -/
def CaptureSink.hear {S : Type} (sink : CaptureSink S) (state : S) : SinkCall → S
  | .reset generation => sink.reset generation state
  | .write generation samples => sink.write generation samples state

/-! ## The callback does this

The buffer is overwritten twice in a callback, by the decoded and by the sanitized samples, and
keeps its length throughout; the first lemmas let the rest of the proof forget it.
-/

namespace Scratch

@[ext] theorem ext {scratch other : Scratch} (h : scratch.samples = other.samples) :
    scratch = other := by
  cases scratch
  cases other
  cases h
  rfl

/-- The rest of the buffer stays. -/
theorem samples_overwrite (scratch : Scratch) {samples : List F32}
    (h : samples.length ≤ maxCallbackFrames) :
    (scratch.overwrite samples).samples = samples ++ scratch.samples.drop samples.length := by
  refine List.take_of_length_le ?_
  rw [List.length_append, List.length_drop, scratch.full]
  omega

theorem overwrite_nil (scratch : Scratch) : scratch.overwrite [] = scratch :=
  ext (scratch.samples_overwrite (Nat.zero_le _))

/-- What is overwritten again leaves no trace. -/
theorem overwrite_overwrite (scratch : Scratch) {samples others : List F32}
    (h : samples.length ≤ maxCallbackFrames) (hlength : others.length = samples.length) :
    (scratch.overwrite samples).overwrite others = scratch.overwrite others := by
  have hothers : others.length ≤ maxCallbackFrames := hlength.trans_le h
  refine ext ?_
  rw [samples_overwrite _ hothers, samples_overwrite _ hothers, samples_overwrite _ h, hlength,
    List.drop_left]

/-- The overwritten samples can be sliced out again. -/
theorem sliceTo_overwrite (scratch : Scratch) {samples : List F32}
    (h : samples.length ≤ maxCallbackFrames) :
    sliceTo (scratch.overwrite samples).samples samples.length = some samples := by
  unfold sliceTo
  rw [if_pos (by rw [(scratch.overwrite samples).full]; exact h), samples_overwrite _ h,
    List.take_left]

/-- A slice within the bound is inside the buffer. -/
theorem sliceTo_eq (scratch : Scratch) {frames : ℕ} (h : frames ≤ maxCallbackFrames) :
    sliceTo scratch.samples frames = some (scratch.samples.take frames) :=
  if_pos (by rw [scratch.full]; exact h)

end Scratch

/-- Four bytes are an array. -/
theorem byteArray_eq (target : CompileTarget) {chunk : List Byte} (h : chunk.length = 4) :
    ∃ array, byteArray chunk = some array ∧
      target.f32FromNeBytes array = target.sampleAt chunk 0 := by
  match chunk, h with
  | [a, b, c, d], _ => exact ⟨#v[a, b, c, d], rfl, rfl⟩

/-- Chunks of four bytes are decoded, one into each sample. -/
theorem decodeInto_eq (target : CompileTarget) {chunks : List (List Byte)} {samples : List F32}
    (hchunks : ∀ chunk ∈ chunks, chunk.length = 4) (hlength : samples.length = chunks.length) :
    target.decodeInto chunks samples = (chunks.map (target.sampleAt · 0), .ok ()) := by
  induction chunks generalizing samples with
  | nil =>
    obtain rfl := List.length_eq_zero_iff.mp hlength
    rfl
  | cons chunk chunks ih =>
    cases samples with
    | nil => cases hlength
    | cons sample samples =>
      obtain ⟨array, harray, hsample⟩ := byteArray_eq target (hchunks chunk List.mem_cons_self)
      have hrest := ih (fun c hc => hchunks c (List.mem_cons_of_mem _ hc))
        (Nat.succ.inj hlength)
      unfold CompileTarget.decodeInto
      rw [harray]
      dsimp only
      rw [hrest, hsample, List.map_cons]

/-- A sample in a part of a slice is a sample in the slice. -/
theorem sampleAt_slice (target : CompileTarget) (bytes : List Byte) {start stop index : ℕ}
    (h : start + index + 4 ≤ stop) :
    target.sampleAt ((((bytes.take stop).drop start).drop index).take 4) 0 =
      target.sampleAt bytes (start + index) := by
  unfold CompileTarget.sampleAt
  congr 2
  funext j
  have hj := j.isLt
  simp only [List.getD_eq_getElem?_getD, Nat.zero_add, List.getElem?_take, List.getElem?_drop]
  rw [if_pos hj, if_pos (by omega), Nat.add_assoc]

/-- Bytes that are not there are none, wherever the computation of their range fails. -/
theorem ChunkMetadata.region_of_lt {target : CompileTarget} {mapped : target.Slice}
    {metadata : ChunkMetadata}
    (h : mapped.bytes.length < metadata.offsetBytes + metadata.sizeBytes) :
    metadata.region target (some mapped) = none := by
  unfold region CompileTarget.checkedAdd CompileTarget.usizeFrom sliceGet
  simp only [Option.bind_eq_bind, Option.bind_some]
  by_cases hoffset : metadata.offsetBytes ≤ target.usizeMax
  · by_cases hsize : metadata.sizeBytes ≤ target.usizeMax
    · rw [if_pos hoffset, if_pos hsize, Option.bind_some, Option.bind_some]
      by_cases hsum : metadata.offsetBytes + metadata.sizeBytes ≤ target.usizeMax
      · rw [if_pos hsum, Option.bind_some]
        exact if_neg fun hin => Nat.not_lt.mpr hin.2 h
      · rw [if_neg hsum, Option.bind_none]
    · rw [if_pos hoffset, if_neg hsize, Option.bind_some, Option.bind_none]
  · rw [if_neg hoffset, Option.bind_none]

/-- Bytes that are there are read, and no step of the computation fails. -/
theorem ChunkMetadata.region_of_le {target : CompileTarget} {mapped : target.Slice}
    {metadata : ChunkMetadata}
    (h : metadata.offsetBytes + metadata.sizeBytes ≤ mapped.bytes.length) :
    metadata.region target (some mapped) = some
      ((mapped.bytes.take (metadata.offsetBytes + metadata.sizeBytes)).drop
        metadata.offsetBytes) := by
  have hin : metadata.offsetBytes + metadata.sizeBytes ≤ target.usizeMax := h.trans mapped.fits
  unfold region CompileTarget.checkedAdd CompileTarget.usizeFrom sliceGet
  simp only [Option.bind_eq_bind, Option.bind_some]
  rw [if_pos ((Nat.le_add_right ..).trans hin), if_pos ((Nat.le_add_left ..).trans hin),
    Option.bind_some, Option.bind_some, if_pos hin, Option.bind_some]
  exact if_pos ⟨Nat.le_add_right .., h⟩

/-- The samples of these bytes are those the metadata describe. -/
theorem map_sampleAt_region (target : CompileTarget) (bytes : List Byte)
    {metadata : ChunkMetadata}
    (h : metadata.offsetBytes + metadata.sizeBytes ≤ bytes.length) :
    (Lib.blocks 4 ((bytes.take (metadata.offsetBytes + metadata.sizeBytes)).drop
        metadata.offsetBytes)).map (target.sampleAt · 0) =
      (List.range (metadata.sizeBytes / 4)).map fun k =>
        target.sampleAt bytes (metadata.offsetBytes + 4 * k) := by
  have hlength : ((bytes.take (metadata.offsetBytes + metadata.sizeBytes)).drop
      metadata.offsetBytes).length = metadata.sizeBytes := by
    rw [List.length_drop, List.length_take_of_le h]
    omega
  unfold Lib.blocks
  rw [hlength, List.map_map]
  refine List.map_congr_left fun k hk => ?_
  have hk := List.mem_range.mp hk
  exact sampleAt_slice target bytes (by omega)

namespace CaptureProcessor

variable {S : Type} (target : CompileTarget) (sink : CaptureSink S)

/-- The processor after a buffer, in its new generation, and what is returned. -/
def settle (outcome : CaptureOutcome) (p : CaptureProcessor S) :
    Except CaptureBufferError CaptureReport × CaptureProcessor S :=
  let counters := outcome.count p.counters
  (outcome.result p.generation, { p with
    scratch := p.scratch.overwrite outcome.samples
    meter := p.meter.observe outcome.samples
    sink := (outcome.calls p.generation).foldl sink.hear p.sink
    counters, telemetry := p.telemetry.publish counters p.generation outcome.samples })

/-- Bytes within the bound are decoded and delivered. -/
theorem processBytes_eq (p : CaptureProcessor S) {bytes : List Byte}
    (h : bytes.length / 4 ≤ maxCallbackFrames) :
    processBytes target sink { p with
        counters.callbacks := saturatingAdd u64Max p.counters.callbacks 1 } bytes =
      some (settle sink
        (.delivered ((Lib.blocks 4 bytes).map (target.sampleAt · 0))) p) := by
  obtain ⟨decoded, hdecoded⟩ : ∃ decoded, decoded =
    (Lib.blocks 4 bytes).map (target.sampleAt · 0) := ⟨_, rfl⟩
  have hlength : decoded.length = bytes.length / 4 := by
    rw [hdecoded, List.length_map, Lib.length_blocks]
  have hle : decoded.length ≤ maxCallbackFrames := by
    rw [hlength]
    exact h
  -- Every chunk is whole, so decoding fills the front of the scratch buffer.
  have hdecode : target.decodeInto (Lib.blocks 4 bytes)
      (p.scratch.samples.take (bytes.length / 4)) = (decoded, .ok ()) := by
    rw [hdecoded]
    refine decodeInto_eq target (fun chunk hchunk => Lib.length_of_mem_blocks hchunk) ?_
    rw [List.length_take_of_le (by rw [p.scratch.full]; exact h), Lib.length_blocks]
  have hslice := p.scratch.sliceTo_overwrite hle
  rw [hlength] at hslice
  unfold processBytes
  dsimp only
  rw [if_neg (Nat.not_lt.mpr h), Scratch.sliceTo_eq _ h, Option.bind_eq_bind, Option.bind_some,
    hdecode]
  dsimp only
  rw [hslice, Option.bind_some, sanitizeBuffer_fst,
    Scratch.overwrite_overwrite _ hle (List.length_map _), ← hlength, toU16_of_le hle, ← hdecoded]
  rfl

/-- **A callback** does not panic, and has one outcome. -/
theorem processMapped_eq (p : CaptureProcessor S) (mapped : Option target.Slice)
    (metadata : ChunkMetadata) :
    p.processMapped target sink mapped metadata = some (settle sink
      (captureOutcome target mapped metadata) (p.synchronizeGeneration sink)) := by
  unfold processMapped captureOutcome
  dsimp only
  generalize p.synchronizeGeneration sink = p
  -- What is rejected leaves the buffer, the meter and the sink alone.
  have hempty : ∀ (result : Except CaptureBufferError CaptureReport)
      (counters : CaptureCounters), (result, { p with
        counters, telemetry := p.telemetry.publish counters p.generation [] }) =
      (result, { p with
        scratch := p.scratch.overwrite []
        counters, telemetry := p.telemetry.publish counters p.generation [] }) := fun _ _ => by
    rw [Scratch.overwrite_nil]
  split
  · exact congrArg some (hempty _ _)
  split
  · exact congrArg some (hempty _ _)
  cases mapped with
  | none => exact congrArg some (hempty _ _)
  | some mapped =>
    dsimp only
    by_cases hshort : mapped.bytes.length < metadata.offsetBytes + metadata.sizeBytes
    · rw [if_pos hshort, ChunkMetadata.region_of_lt hshort]
      exact congrArg some (hempty _ _)
    -- The region lies inside the buffer: it is read, if it is not too large.
    have hlong := Nat.not_lt.mp hshort
    have hlength : ((mapped.bytes.take (metadata.offsetBytes + metadata.sizeBytes)).drop
        metadata.offsetBytes).length = metadata.sizeBytes := by
      rw [List.length_drop, List.length_take_of_le hlong]
      omega
    rw [if_neg hshort, ChunkMetadata.region_of_le hlong]
    dsimp only
    by_cases hlarge : maxCallbackFrames < metadata.sizeBytes / 4
    · unfold processBytes
      dsimp only
      rw [hlength, if_pos hlarge, if_pos hlarge]
      exact congrArg some (hempty _ _)
    · rw [if_neg hlarge, ← map_sampleAt_region target mapped.bytes hlong]
      exact processBytes_eq target sink p (by rw [hlength]; exact Nat.not_lt.mp hlarge)

/-! ## Runs

The other thread is an event of its own, which asks for a generation; the callback takes it up
before anything else.  The history is what the recorder keeps.
-/

/-- What happens to a processor: a generation is asked for, a buffer comes, or the generation is
    reset at once. -/
inductive Event
  | command (generation : ℕ)
  | process (mapped : Option target.Slice) (metadata : ChunkMetadata)
  | reset (generation : ℕ)

/-- One of these; `none` is a panic. -/
def step (p : CaptureProcessor S) : Event target → Option (CaptureProcessor S)
  | .command generation => some { p with generationCommand := generation }
  | .process mapped metadata => (p.processMapped target sink mapped metadata).map (·.2)
  | .reset generation => some (p.resetInputGeneration sink generation)

end CaptureProcessor

/-- The sink that records its calls. -/
def recorder : CaptureSink (List SinkCall) where
  reset generation calls := calls ++ [.reset generation]
  write generation samples calls := calls ++ [.write generation samples]

/-- The call is a reset. -/
def SinkCall.IsReset : SinkCall → Prop
  | .reset _ => True
  | .write _ _ => False

/-- The generation of the last reset. -/
def currentGeneration (calls : List SinkCall) : ℕ :=
  calls.foldl (fun current call => match call with
    | .reset generation => generation
    | .write _ _ => current) initialGeneration

/-- What has been written since the last reset. -/
def sinceReset (calls : List SinkCall) : List (List F32) :=
  calls.foldl (fun writes call => match call with
    | .reset _ => []
    | .write _ samples => writes ++ [samples]) []

/-- Every write of a generation comes after the reset of it with no other in between; or there has
    been no reset, and it is the initial one. -/
def Fenced (calls : List SinkCall) : Prop :=
  ∀ before generation samples after, calls = before ++ .write generation samples :: after →
    (generation = initialGeneration ∧ ∀ call ∈ before, ¬call.IsReset) ∨
      ∃ earlier between, before = earlier ++ .reset generation :: between ∧
        ∀ call ∈ between, ¬call.IsReset

theorem recorder_hear (calls : List SinkCall) (call : SinkCall) :
    recorder.hear calls call = calls ++ [call] := by
  cases call <;> rfl

/-- A recorder keeps every call. -/
theorem recorder_hears (calls more : List SinkCall) :
    more.foldl recorder.hear calls = calls ++ more :=
  Lib.foldl_log id recorder_hear calls more

@[simp] theorem currentGeneration_reset (calls : List SinkCall) (generation : ℕ) :
    currentGeneration (calls ++ [.reset generation]) = generation := by
  unfold currentGeneration
  rw [List.foldl_append]
  rfl

@[simp] theorem currentGeneration_write (calls : List SinkCall) (generation : ℕ)
    (samples : List F32) :
    currentGeneration (calls ++ [.write generation samples]) = currentGeneration calls := by
  unfold currentGeneration
  rw [List.foldl_append]
  rfl

@[simp] theorem sinceReset_reset (calls : List SinkCall) (generation : ℕ) :
    sinceReset (calls ++ [.reset generation]) = [] := by
  unfold sinceReset
  rw [List.foldl_append]
  rfl

@[simp] theorem sinceReset_write (calls : List SinkCall) (generation : ℕ) (samples : List F32) :
    sinceReset (calls ++ [.write generation samples]) = sinceReset calls ++ [samples] := by
  unfold sinceReset
  rw [List.foldl_append]
  rfl

/-- The last reset is in the sequence, with none after it. -/
theorem currentGeneration_cases (calls : List SinkCall) :
    (currentGeneration calls = initialGeneration ∧ ∀ call ∈ calls, ¬call.IsReset) ∨
      ∃ earlier between, calls = earlier ++ .reset (currentGeneration calls) :: between ∧
        ∀ call ∈ between, ¬call.IsReset := by
  induction calls using List.reverseRecOn with
  | nil => exact .inl ⟨rfl, fun _ h => absurd h List.not_mem_nil⟩
  | append_singleton calls call ih =>
    cases call with
    | reset generation =>
      rw [currentGeneration_reset]
      exact .inr ⟨calls, [], rfl, fun _ h => absurd h List.not_mem_nil⟩
    | write generation samples =>
      rw [currentGeneration_write]
      -- A write is no reset, and leaves the last one where it was.
      have hwrite : ∀ {others : List SinkCall}, (∀ call ∈ others, ¬call.IsReset) →
          ∀ call ∈ others ++ [.write generation samples], ¬call.IsReset := by
        intro others hothers call hcall
        rcases List.mem_append.mp hcall with hcall | hcall
        · exact hothers call hcall
        · rw [List.mem_singleton.mp hcall]
          exact id
      rcases ih with ⟨hinitial, hnone⟩ | ⟨earlier, between, heq, hbetween⟩
      · exact .inl ⟨hinitial, hwrite hnone⟩
      · refine .inr ⟨earlier, between ++ [.write generation samples], ?_, hwrite hbetween⟩
        rw [← List.cons_append, ← List.append_assoc, ← heq]

/-- What is found in a longer sequence is its last call, or was found before. -/
theorem append_singleton_eq {calls before after : List SinkCall} {call last : SinkCall}
    (h : calls ++ [last] = before ++ call :: after) :
    (calls = before ∧ last = call) ∨ ∃ after', calls = before ++ call :: after' := by
  rcases List.eq_nil_or_concat after with rfl | ⟨after', other, rfl⟩
  · obtain ⟨hcalls, hlast⟩ := List.append_inj' h rfl
    exact .inl ⟨hcalls, List.head_eq_of_cons_eq hlast⟩
  · rw [List.concat_eq_append, ← List.cons_append, ← List.append_assoc] at h
    exact .inr ⟨after', (List.append_inj' h rfl).1⟩

theorem Fenced.reset {calls : List SinkCall} (h : Fenced calls) (generation : ℕ) :
    Fenced (calls ++ [.reset generation]) := by
  intro before g samples after heq
  rcases append_singleton_eq heq with ⟨-, hlast⟩ | ⟨after', heq⟩
  · cases hlast
  · exact h before g samples after' heq

theorem Fenced.write {calls : List SinkCall} (h : Fenced calls) (samples : List F32) :
    Fenced (calls ++ [.write (currentGeneration calls) samples]) := by
  intro before g others after heq
  rcases append_singleton_eq heq with ⟨rfl, hlast⟩ | ⟨after', heq⟩
  · cases hlast
    exact currentGeneration_cases calls
  · exact h before g others after' heq

namespace CaptureProcessor

/-- What holds of a processor and the calls its sink has received: the last reset was of its
    generation, no write has come without, and the meter and the buffer hold what has been
    written since. -/
structure Lawful (p : CaptureProcessor (List SinkCall)) : Prop where
  current : currentGeneration p.sink = p.generation
  fenced : Fenced p.sink
  meter : p.meter = Meter.new.observe (sinceReset p.sink).flatten
  scratch : p.scratch = (sinceReset p.sink).foldl Scratch.overwrite .silent

theorem Lawful.new : Lawful (new []) where
  current := rfl
  fenced before _ _ _ h := by
    cases before <;> cases h
  meter := rfl
  scratch := rfl

/-- A new generation is announced to the sink, and starts afresh. -/
theorem Lawful.applyGeneration {p : CaptureProcessor (List SinkCall)} (h : p.Lawful)
    (generation : ℕ) : (p.applyGeneration recorder generation).Lawful := by
  unfold CaptureProcessor.applyGeneration
  split
  · exact h
  · refine ⟨currentGeneration_reset .., h.fenced.reset generation, ?_, ?_⟩
    · show Meter.new = Meter.new.observe (sinceReset (p.sink ++ [.reset generation])).flatten
      rw [sinceReset_reset]
      rfl
    · show Scratch.silent = (sinceReset (p.sink ++ [.reset generation])).foldl _ _
      rw [sinceReset_reset]
      rfl

/-- A buffer is written for the generation of the last reset, or not at all. -/
theorem Lawful.settle {p : CaptureProcessor (List SinkCall)} (h : p.Lawful)
    (outcome : CaptureOutcome) : (settle recorder outcome p).2.Lawful := by
  cases outcome with
  | delivered decoded =>
    refine ⟨?_, ?_, ?_, ?_⟩
    · exact (currentGeneration_write ..).trans h.current
    · show Fenced (p.sink ++ [.write p.generation (decoded.map sanitized)])
      rw [← h.current]
      exact h.fenced.write _
    · show p.meter.observe (decoded.map sanitized) =
        Meter.new.observe (sinceReset (p.sink ++ [.write _ _])).flatten
      rw [sinceReset_write, List.flatten_append, Meter.observe_append, ← h.meter,
        List.flatten_singleton]
    · show p.scratch.overwrite (decoded.map sanitized) =
        (sinceReset (p.sink ++ [.write _ _])).foldl _ _
      rw [sinceReset_write, List.foldl_append, ← h.scratch]
      rfl
  | _ => exact ⟨h.current, h.fenced, h.meter, p.scratch.overwrite_nil.trans h.scratch⟩

/-- What a buffer, and the generation it finds, do to a processor. -/
structure Served (before : CaptureProcessor (List SinkCall)) (outcome : CaptureOutcome)
    (after : CaptureProcessor (List SinkCall)) : Prop where
  generation : after.generation = before.generationCommand
  bounded : outcome.samples.length ≤ maxCallbackFrames
  counters : after.counters = outcome.count
    (if before.generationCommand = before.generation then before.counters
    else { before.counters with
      inputGenerationResets := saturatingAdd u64Max before.counters.inputGenerationResets 1 })
  calls : after.sink = before.sink ++
    (if before.generationCommand = before.generation then []
    else [.reset before.generationCommand]) ++ outcome.calls before.generationCommand
  kept : before.generationCommand = before.generation →
    after.meter = before.meter.observe outcome.samples ∧
      after.scratch = before.scratch.overwrite outcome.samples
  cleared : before.generationCommand ≠ before.generation →
    after.meter = Meter.new.observe outcome.samples ∧
      after.scratch = Scratch.silent.overwrite outcome.samples

/-- No more is delivered than the buffer holds. -/
theorem length_samples_captureOutcome (target : CompileTarget) (mapped : Option target.Slice)
    (metadata : ChunkMetadata) :
    (captureOutcome target mapped metadata).samples.length ≤ maxCallbackFrames := by
  unfold captureOutcome
  split
  · exact Nat.zero_le _
  split
  · exact Nat.zero_le _
  cases mapped with
  | none => exact Nat.zero_le _
  | some mapped =>
    dsimp only
    split
    · exact Nat.zero_le _
    split
    · exact Nat.zero_le _
    · -- only a delivered buffer has samples, and it was checked
      rename_i hfits
      show ((List.map _ _).map sanitized).length ≤ maxCallbackFrames
      rw [List.length_map, List.length_map, List.length_range]
      exact Nat.not_lt.mp hfits

/-- A buffer is served in the generation that was asked for last. -/
theorem processMapped_served (target : CompileTarget) (p : CaptureProcessor (List SinkCall))
    (mapped : Option target.Slice) (metadata : ChunkMetadata) :
    ∃ after, p.processMapped target recorder mapped metadata =
        some ((captureOutcome target mapped metadata).result p.generationCommand, after) ∧
      p.Served (captureOutcome target mapped metadata) after := by
  have hbounded := length_samples_captureOutcome target mapped metadata
  rw [processMapped_eq]
  generalize captureOutcome target mapped metadata = outcome at hbounded ⊢
  by_cases hsame : p.generationCommand = p.generation
  · have hsync : p.synchronizeGeneration recorder = p := if_pos hsame
    rw [hsync]
    refine ⟨(settle recorder outcome p).2, by rw [hsame]; rfl, hsame.symm, hbounded,
      by rw [if_pos hsame]; rfl, ?_, fun _ => ⟨rfl, rfl⟩, fun hchanged => absurd hsame hchanged⟩
    rw [if_pos hsame, List.append_nil, hsame]
    exact recorder_hears ..
  · unfold synchronizeGeneration CaptureProcessor.applyGeneration
    rw [if_neg hsame]
    refine ⟨_, rfl, rfl, hbounded, by rw [if_neg hsame], ?_, fun heq => absurd heq hsame,
      fun _ => ⟨rfl, rfl⟩⟩
    rw [if_neg hsame]
    exact recorder_hears ..

/-! ## Any sink

What holds of the calls that a recorder keeps holds of any sink that hears them.
-/

/-- The same processor with another sink. -/
def mapSink {S T : Type} (f : S → T) (p : CaptureProcessor S) : CaptureProcessor T where
  sink := f p.sink
  scratch := p.scratch
  meter := p.meter
  counters := p.counters
  telemetry := p.telemetry
  generation := p.generation
  generationCommand := p.generationCommand

section
variable {S : Type} (sink : CaptureSink S) (initial : S) (p : CaptureProcessor (List SinkCall))

/-- What a sink makes of the calls that a recorder has kept. -/
def hearing (calls : List SinkCall) : S := calls.foldl sink.hear initial

theorem mapSink_applyGeneration (generation : ℕ) :
    (p.mapSink (hearing sink initial)).applyGeneration sink generation =
      (p.applyGeneration recorder generation).mapSink (hearing sink initial) := by
  unfold CaptureProcessor.applyGeneration
  by_cases h : generation = p.generation
  · rw [if_pos h]
    exact if_pos h
  · have hreset : hearing sink initial (p.sink ++ [.reset generation]) =
        sink.reset generation (hearing sink initial p.sink) := by
      unfold hearing
      rw [List.foldl_append]
      rfl
    rw [if_neg h]
    refine (if_neg h).trans ?_
    unfold mapSink
    rw [← hreset]
    rfl

theorem mapSink_settle (outcome : CaptureOutcome) :
    (settle sink outcome (p.mapSink (hearing sink initial))).2 =
      (settle recorder outcome p).2.mapSink (hearing sink initial) := by
  have hcalls : (outcome.calls p.generation).foldl sink.hear (hearing sink initial p.sink) =
      hearing sink initial ((outcome.calls p.generation).foldl recorder.hear p.sink) := by
    rw [recorder_hears]
    exact List.foldl_append.symm
  unfold settle mapSink
  dsimp only
  rw [hcalls]

/-- A processor does not depend on what its sink does. -/
theorem mapSink_step (target : CompileTarget) (event : Event target) :
    (p.mapSink (hearing sink initial)).step target sink event =
      (p.step target recorder event).map (mapSink (hearing sink initial)) := by
  cases event with
  | command generation => rfl
  | process mapped metadata =>
    have hsync := p.mapSink_applyGeneration sink initial p.generationCommand
    unfold step
    dsimp only
    rw [processMapped_eq, processMapped_eq, Option.map_some, Option.map_some, Option.map_some]
    unfold synchronizeGeneration
    rw [← mapSink_settle, ← hsync]
    rfl
  | reset generation =>
    exact congrArg some (mapSink_applyGeneration sink initial
      { p with generationCommand := generation } generation)

end

/-! ## Every run

Each event keeps the law, and a run is any list of events.
-/

/-- An event is survived, and leaves a processor lawful. -/
theorem Lawful.step {p : CaptureProcessor (List SinkCall)} (h : p.Lawful)
    (target : CompileTarget) (event : Event target) :
    ∃ after, p.step target recorder event = some after ∧ after.Lawful := by
  cases event with
  | command generation => exact ⟨_, rfl, h.current, h.fenced, h.meter, h.scratch⟩
  | process mapped metadata =>
    unfold CaptureProcessor.step
    dsimp only
    rw [processMapped_eq]
    exact ⟨_, rfl, (h.applyGeneration _).settle _⟩
  | reset generation =>
    have hcommand : Lawful { p with generationCommand := generation } :=
      ⟨h.current, h.fenced, h.meter, h.scratch⟩
    exact ⟨_, rfl, hcommand.applyGeneration generation⟩

/-- **Every run** of a processor goes on without a panic. Whatever its sink is, it has received the
    calls of one recorded sequence; there, every write comes after the reset of its generation,
    and the meter and the buffer hold what has been written since; and the next buffer, whatever
    its metadata, has one outcome, which is counted, returned, and delivered if it is to be. -/
theorem capture_lawful (target : CompileTarget) (events : List (Event target)) :
    ∃ p : CaptureProcessor (List SinkCall),
      events.foldlM (CaptureProcessor.step target recorder) (new []) = some p ∧ p.Lawful ∧
      (∀ (mapped : Option target.Slice) (metadata : ChunkMetadata),
        ∃ after, p.processMapped target recorder mapped metadata =
            some ((captureOutcome target mapped metadata).result p.generationCommand, after) ∧
          p.Served (captureOutcome target mapped metadata) after) ∧
      ∀ {S : Type} (sink : CaptureSink S) (initial : S),
        events.foldlM (CaptureProcessor.step target sink) (new initial) =
          some (p.mapSink (hearing sink initial)) := by
  -- The same run serves any other sink, which hears what the recorder has noted.
  have hrun : ∃ p : CaptureProcessor (List SinkCall),
      events.foldlM (CaptureProcessor.step target recorder) (new []) = some p ∧ p.Lawful ∧
      ∀ {S : Type} (sink : CaptureSink S) (initial : S),
        events.foldlM (CaptureProcessor.step target sink) (new initial) =
          some (p.mapSink (hearing sink initial)) := by
    induction events using List.reverseRecOn with
    | nil => exact ⟨new [], rfl, .new, fun _ _ => rfl⟩
    | append_singleton events event ih =>
      obtain ⟨p, hrun, hlawful, hany⟩ := ih
      obtain ⟨after, hstep, hafter⟩ := hlawful.step target event
      refine ⟨after, ?_, hafter, fun sink initial => ?_⟩
      · rw [List.foldlM_append, hrun]
        simpa using hstep
      · have hmap := p.mapSink_step sink initial target event
        rw [hstep] at hmap
        rw [List.foldlM_append, hany sink initial]
        simpa using hmap
  obtain ⟨p, hrun, hlawful, hany⟩ := hrun
  exact ⟨p, hrun, hlawful, p.processMapped_served target, hany⟩

end CaptureProcessor

end Noire
