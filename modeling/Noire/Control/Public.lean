import Noire.Engine

namespace Noire

/-!
# What clients see

The public error catalog, the public error details, and the snapshot the daemon returns.

* `errorCatalogEntry` — the stable contract of a public error code, with
  `errorCatalogEntry_of_mem`: a listed entry is found under its code;
* `ErrorInfo` / `Snapshot` — what a client receives.
-/

/-- One stable public error-catalog entry. -/
structure ErrorCatalogEntry where
  code : String
  cause : String
  recovery : String
  retryable : Bool
  deriving DecidableEq

/-- `ERROR_CATALOG`: stable user-facing error categories. -/
def errorCatalog : List ErrorCatalogEntry :=
  [ { code := "conflict"
      cause := "Another client committed a newer state revision."
      recovery := "Refresh daemon state and retry."
      retryable := true },
    { code := "invalid-argument"
      cause := "A requested setting failed complete validation."
      recovery := "Correct the rejected value and retry."
      retryable := false },
    { code := "config-persistence"
      cause := "The validated configuration could not be saved durably."
      recovery := "Check configuration directory permissions and free storage."
      retryable := true },
    { code := "config-rollback-failed"
      cause :=
        "Noire could not restore the previous audio state after a configuration save failed."
      recovery := "Restart Noire, then check configuration permissions and free storage."
      retryable := false },
    { code := "config-newer-schema"
      cause := "The configuration was written by a newer incompatible daemon."
      recovery := "Run a daemon supporting that schema; the file remains untouched."
      retryable := false },
    { code := "config-recovered"
      cause := "The primary configuration was invalid and a safe fallback was loaded."
      recovery := "Inspect the preserved primary configuration and correct it."
      retryable := false },
    { code := "input-unavailable"
      cause := "The selected or default input is not currently available."
      recovery := "Select an available input or enable explicit default fallback."
      retryable := true },
    { code := "pipewire-unavailable"
      cause := "The per-user PipeWire service cannot be reached."
      recovery := "Restore the user PipeWire session and retry."
      retryable := true },
    { code := "audio-backend-unavailable"
      cause := "This daemon build does not include the native audio backend."
      recovery := "Install or run the native daemon build."
      retryable := false },
    { code := "audio-thread-unavailable"
      cause := "Noire could not create its audio control thread."
      recovery := "Free process resources and restart Noire."
      retryable := true },
    { code := "audio-command-busy"
      cause := "The bounded audio control queue is temporarily full."
      recovery := "Wait briefly and retry."
      retryable := true },
    { code := "audio-command-timeout"
      cause := "The audio control thread did not respond in time."
      recovery := "Retry; restart Noire if the condition persists."
      retryable := true },
    { code := "audio-thread-stopped"
      cause := "The audio control thread stopped unexpectedly."
      recovery := "Restart the Noire user service."
      retryable := false },
    { code := "audio-stream-failed"
      cause := "A native capture or virtual-source stream stopped unexpectedly."
      recovery := "Allow bounded graph recovery; restart PipeWire if it persists."
      retryable := true },
    { code := "audio-transport-failed"
      cause := "The processed audio transport stalled and output was safely muted."
      recovery := "Allow automatic recovery; restart Noire if silence persists."
      retryable := true },
    { code := "audio-graph-unavailable"
      cause := "The live microphone processing graph could not be created."
      recovery := "Verify PipeWire and the selected input, then retry."
      retryable := true },
    { code := "audio-meter-unavailable"
      cause := "Live microphone metering could not be started or stopped."
      recovery := "Retry; restart PipeWire if the meter remains unavailable."
      retryable := true },
    { code := "model-initialization-failed"
      cause := "The bundled suppression model could not initialize."
      recovery := "Restart Noire; reinstall if the condition persists."
      retryable := true },
    { code := "model-processing-failed"
      cause := "The suppression model failed while processing microphone audio."
      recovery := "Allow automatic recovery; restart Noire if the failure persists."
      retryable := true },
    { code := "launch-manager-unavailable"
      cause := "The per-user systemd manager rejected launch-at-login control."
      recovery := "Verify the user systemd session and retry."
      retryable := true } ]

/-- `error_catalog_entry`. -/
def errorCatalogEntry (code : String) : Option ErrorCatalogEntry :=
  errorCatalog.find? (·.code = code)

/-- A listed entry is found under its code. -/
theorem errorCatalogEntry_of_mem :
    ∀ entry ∈ errorCatalog, errorCatalogEntry entry.code = some entry := by
  simp [errorCatalog, errorCatalogEntry]

/-- Public error details. -/
structure ErrorInfo where
  code : String := ""
  message : String := ""
  recovery : String := ""
  component : String := ""
  retryable : Bool := false
  timestampMillis : ℕ := 0
  deriving DecidableEq

/-- Complete low-rate daemon state. -/
structure Snapshot where
  schemaVersion : ℕ
  apiVersion : String
  buildVersion : String
  revision : ℕ
  deviceRevision : ℕ
  state : String
  active : Bool
  launchAtLogin : Bool
  inputMode : String
  inputStableId : String
  inputDisplayName : String
  channel : String
  fallbackToDefault : Bool
  sourceNodeName : String
  latencyProfile : String
  suppressionEnabled : Bool
  strength : F64
  failMode : String
  modelId : String
  modelDelaySamples : ℕ
  pipewireVersion : String
  uptimeMillis : ℕ
  hasError : Bool
  lastError : ErrorInfo
  metrics : Metrics

end Noire
