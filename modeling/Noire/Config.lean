import Noire.Basic

namespace Noire

/-!
# Configuration

The schema-v1 configuration the daemon owns, with the source's defaults, and the
validation every candidate passes before it takes effect.

* `Config` — the complete record;
* `Config.validate` — the first stable, path-addressed failure, or nothing;
* `Config.Valid` — the condition validation checks, with `validate_ok_iff`.
-/

/-- Current on-disk configuration schema. -/
def configSchemaVersion : ℕ := 1

/-! ## The record -/

/-- Persisted input-selection mode. -/
inductive InputMode
  | selected
  | followDefault
  deriving DecidableEq

/-- Explicit channel mapping; `index` is a `u16`. -/
inductive ChannelSelection
  | auto
  | mono
  | left
  | right
  | index (n : Fin 65536)
  deriving DecidableEq

/-- `Display` of a channel selection. -/
def channelText : ChannelSelection → String
  | .auto => "auto"
  | .mono => "mono"
  | .left => "left"
  | .right => "right"
  | .index n => "index:" ++ toString n.val

/-- Supported stream latency profiles. -/
inductive LatencyProfile
  | low
  | balanced
  deriving DecidableEq

/-- Explicit unsafe-failure policy. -/
inductive FailMode
  | closed
  | opened
  deriving DecidableEq

/-- Supported stable logging levels. -/
inductive LogLevel
  | error
  | warn
  | info
  | debug
  deriving DecidableEq

/-- Input identity and fallback policy. -/
structure InputConfig where
  mode : InputMode := .followDefault
  stableId : String := ""
  channel : ChannelSelection := .auto
  fallbackToDefault : Bool := false
  deriving DecidableEq

/-- Output settings. -/
structure OutputConfig where
  latencyProfile : LatencyProfile := .low
  deriving DecidableEq

/-- Model and failure controls. -/
structure SuppressionConfig where
  enabled : Bool := true
  strength : F64 := F64.fiftyFivePercent
  failMode : FailMode := .closed
  deriving DecidableEq

/-- Diagnostic settings. -/
structure DiagnosticsConfig where
  logLevel : LogLevel := .info
  metering : Bool := true
  deriving DecidableEq

/-- Complete schema-v1 configuration owned by the daemon. -/
structure Config where
  schemaVersion : ℕ := configSchemaVersion
  active : Bool := false
  startWithNoiseReduction : Bool := false
  launchAtLogin : Bool := false
  input : InputConfig := {}
  output : OutputConfig := {}
  suppression : SuppressionConfig := {}
  diagnostics : DiagnosticsConfig := {}
  deriving DecidableEq

/-! ## Validation -/

/-- Stable validation failure suitable for UI and CLI presentation. -/
structure ValidationError where
  code : String
  path : String
  message : String
  deriving DecidableEq

/-- `Config::validate`: the first stable, path-addressed validation failure. -/
def Config.validate (config : Config) : Except ValidationError Unit :=
  if config.schemaVersion ≠ configSchemaVersion then
    .error ⟨"unsupported-schema", "schema_version", "must equal 1"⟩
  else if config.input.mode = .selected ∧ trim config.input.stableId = "" then
    .error ⟨"input-id-required", "input.stable_id",
      "must be non-empty when input.mode is selected"⟩
  else if config.input.mode = .followDefault ∧ config.input.stableId ≠ "" then
    .error ⟨"input-id-unexpected", "input.stable_id",
      "must be empty when input.mode is follow-default"⟩
  else if ¬ config.suppression.strength.isFinite ∨ ¬ config.suppression.strength.inRange 0 1 then
    .error ⟨"strength-out-of-range", "suppression.strength",
      "must be finite and in the inclusive range 0.0 through 1.0"⟩
  else .ok ()

/-- What a configuration that passes validation satisfies. -/
structure Config.Valid (config : Config) : Prop where
  schema : config.schemaVersion = configSchemaVersion
  selected : config.input.mode = .selected → trim config.input.stableId ≠ ""
  followDefault : config.input.mode = .followDefault → config.input.stableId = ""
  strength : ∃ value, config.suppression.strength = .finite value ∧ 0 ≤ value ∧ value ≤ 1

/-- A number in a range of finite bounds is a finite one in that range. -/
theorem F64.inRange_iff {low high : Dyadic} {x : F64} :
    x.inRange low high = true ↔ ∃ value, x = .finite value ∧ low ≤ value ∧ value ≤ high := by
  cases x with
  | finite value => simp [F64.inRange]
  | infinity negative => simp [F64.inRange]
  | nan => simp [F64.inRange]

/-- **Validation.** A configuration passes exactly if it is valid. -/
theorem Config.validate_ok_iff (config : Config) :
    config.validate = .ok () ↔ config.Valid := by
  have hfinite : config.suppression.strength.inRange 0 1 = true →
      config.suppression.strength.isFinite = true := by
    intro h
    obtain ⟨value, hv, -⟩ := F64.inRange_iff.mp h
    rw [hv]; rfl
  constructor
  · -- Each check in the order the source makes it.
    intro h
    simp only [Config.validate] at h
    split at h
    · cases h
    rename_i hschema
    split at h
    · cases h
    rename_i hselected
    split at h
    · cases h
    rename_i hfollow
    split at h
    · cases h
    rename_i hstrength
    refine ⟨not_not.mp hschema, fun hm ht => hselected ⟨hm, ht⟩,
      fun hm => not_not.mp fun ht => hfollow ⟨hm, ht⟩, F64.inRange_iff.mp ?_⟩
    exact not_not.mp fun hr => hstrength (.inr hr)
  · intro h
    have hrange := F64.inRange_iff.mpr h.strength
    simp only [Config.validate]
    rw [if_neg (not_not.mpr h.schema), if_neg (fun c => h.selected c.1 c.2),
      if_neg (fun c => c.2 (h.followDefault c.1)), if_neg]
    simp [hrange, hfinite hrange]

/-- The default configuration is valid. -/
theorem Config.validate_default : ({} : Config).validate = .ok () := by
  decide

end Noire
