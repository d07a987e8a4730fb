import Noire.Basic

namespace Noire

/-!
# Telemetry

The lock-free counters the control plane copies from the audio threads: the health of the
live pipeline, its timing histograms, and the stream-boundary counters an observation sums.
A snapshot is whatever the audio threads left there, so the control plane takes it as an
input.
-/

/-- Current real-time model health. -/
inductive LiveState
  | running
  | degradedPerformance
  | modelFailed
  | transportFailed
  deriving DecidableEq

/-- Width of one timing bucket. -/
def timingBucketWidthNs : ℕ := 50000

/-- One fixed timing histogram copied from real-time atomics; there are 32 buckets. -/
structure TimingHistogramSnapshot where
  samples : ℕ := 0
  totalNs : ℕ := 0
  maximumNs : ℕ := 0
  buckets : List ℕ := []
  deriving DecidableEq

/-- The first bucket, from `index` on, at which the cumulative count reaches `rank`. -/
def percentileBucket (rank : ℕ) : ℕ → ℕ → List ℕ → Option ℕ
  | _, _, [] => none
  | index, cumulative, count :: counts =>
    let cumulative := saturatingAdd u64Max cumulative count
    if max rank 1 ≤ cumulative then some index
    else percentileBucket rank (index + 1) cumulative counts

/-- `percentile_ns`: the upper-bound nanoseconds for a percentile in `[0, 100]`. -/
def TimingHistogramSnapshot.percentileNs (t : TimingHistogramSnapshot) (percentile : ℕ) : ℕ :=
  if t.samples = 0 then 0
  else
    let rank := saturatingAdd u64Max (saturatingMul u64Max t.samples (min percentile 100)) 99 / 100
    match percentileBucket rank 0 0 t.buckets with
    | some index => saturatingMul u64Max (index + 1) timingBucketWidthNs
    | none => t.maximumNs

/-- What an observation reads of the processed transport. -/
structure TransportTelemetry where
  currentFrames : ℕ := 0
  highWaterFrames : ℕ := 0
  underflows : ℕ := 0
  overflows : ℕ := 0
  generationResets : ℕ := 0
  deriving DecidableEq

/-- What an observation reads of the live pipeline. -/
structure LiveTelemetrySnapshot where
  state : LiveState := .running
  modelErrors : ℕ := 0
  modelResets : ℕ := 0
  sanitizedSamples : ℕ := 0
  vadProbability : F64 := .finite 0
  peak : F64 := .finite 0
  rms : F64 := .finite 0
  modelTiming : TimingHistogramSnapshot := {}
  callbackTiming : TimingHistogramSnapshot := {}
  transport : TransportTelemetry := {}
  deriving DecidableEq

/-- What an observation reads at the capture boundary. -/
structure CaptureTelemetrySnapshot where
  malformedChunks : ℕ := 0
  nonFiniteSamples : ℕ := 0
  rms : F64 := .finite 0
  recentPeak : F64 := .finite 0
  deriving DecidableEq

/-- What an observation reads at the source boundary. -/
structure SourceTelemetrySnapshot where
  missingBuffers : ℕ := 0
  malformedBuffers : ℕ := 0
  deriving DecidableEq

/-- The snapshots one observation is built from. -/
structure GraphTelemetry where
  live : LiveTelemetrySnapshot := {}
  capture : CaptureTelemetrySnapshot := {}
  source : SourceTelemetrySnapshot := {}
  deriving DecidableEq

end Noire
