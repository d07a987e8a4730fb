import Noire.Config

namespace Noire

/-!
# The audio engine boundary

What the daemon and its audio engine say to each other: lifecycle states, classified
errors, the low-rate observation an engine returns, and the metrics and input descriptors
it carries.
-/

/-- Stable daemon lifecycle visible to all clients. -/
inductive LifecycleState
  | stopped
  | running
  | degraded
  deriving DecidableEq

/-- Publicly classifiable audio-engine failure. -/
structure EngineError where
  code : String
  message : String
  recovery : String
  retryable : Bool
  deriving DecidableEq

/-- Bounded low-rate metrics snapshot. -/
structure Metrics where
  callbackP50Ns : ℕ := 0
  callbackP95Ns : ℕ := 0
  callbackP99Ns : ℕ := 0
  callbackMaxNs : ℕ := 0
  modelP50Ns : ℕ := 0
  modelP95Ns : ℕ := 0
  modelP99Ns : ℕ := 0
  modelMaxNs : ℕ := 0
  ringCurrentSamples : ℕ := 0
  ringHighWaterSamples : ℕ := 0
  underflows : ℕ := 0
  overflows : ℕ := 0
  bufferErrors : ℕ := 0
  modelErrors : ℕ := 0
  resets : ℕ := 0
  nonFiniteSamples : ℕ := 0
  vadProbability : F64 := .finite 0
  rms : F64 := .finite 0
  peak : F64 := .finite 0
  deriving DecidableEq

/-- One candidate input exposed without transient registry IDs. -/
structure InputDescriptor where
  stableId : String
  displayName : String
  isDefault : Bool
  availability : String
  deriving DecidableEq

/-- Safe low-rate view returned after applying audio intent. -/
structure EngineObservation where
  state : LifecycleState := .stopped
  inputDisplayName : String := ""
  pipewireVersion : String := ""
  metrics : Metrics := {}
  fault : Option EngineError := none
  devices : List InputDescriptor := []
  deriving DecidableEq

end Noire
