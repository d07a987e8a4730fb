import Noire.Ui.Worker

namespace Noire.Ui

/-!
# What the window knows of the daemon

The state that the window keeps of the daemon, and the texts that it is shown as.

* `UiState` — the last snapshot and its inputs, whether a request is in flight, and the client's own
  error; `converge`, `refresh`, `reject` and `updateMetrics` are its only changes;
* `Presentation` — what is shown; `presentation_healthy`: it says that noise reduction is active
  where the button is styled so, and nowhere else;
* `UiState.follow` — what a response makes of what is known.
-/

/-- `UiState`. -/
structure UiState where
  snapshot : Option Snapshot := none
  inputs : List InputDescriptor := []
  requestPending : Bool := false
  clientError : Option UserError := none

/-- `Presentation`. -/
structure Presentation where
  status : String
  detail : String
  controlsEnabled : Bool
  deriving DecidableEq

namespace UiState

/-- `set_request_pending`. -/
def setRequestPending (s : UiState) (pending : Bool) : UiState :=
  { s with requestPending := pending }

/-- `converge`. -/
def converge (_ : UiState) (snapshot : Snapshot) (inputs : List InputDescriptor) : UiState where
  snapshot := some snapshot
  inputs
  requestPending := false
  clientError := none

/-- `refresh`. -/
def refresh (s : UiState) (snapshot : Snapshot) (inputs : List InputDescriptor) : UiState where
  snapshot := some snapshot
  inputs
  requestPending := false
  clientError := if s.snapshot.isNone then none else s.clientError

/-- `reject`. -/
def reject (_ : UiState) (error : UserError)
    (recovered : Option (Snapshot × List InputDescriptor)) : UiState where
  snapshot := recovered.map Prod.fst
  inputs := (recovered.map Prod.snd).getD []
  requestPending := false
  clientError := some error

/-- `update_metrics`. -/
def updateMetrics (s : UiState) (metrics : Metrics) : UiState :=
  { s with snapshot := s.snapshot.map fun snapshot => { snapshot with metrics } }

/-- What a response makes of what is known, in `drain_responses`. -/
def follow (s : UiState) : Response → UiState
  | .state snapshot inputs _ refresh _ =>
    if refresh then s.refresh snapshot inputs else s.converge snapshot inputs
  | .rejected error recovered _ => s.reject error recovered
  | .diagnostics _ => s
  | .meters metrics => s.updateMetrics metrics

/-- `has_error`. -/
def hasError (s : UiState) : Bool := s.clientError.isSome || s.snapshot.any (·.hasError)

/-- `input_display_name`. -/
def inputDisplayName (s : UiState) : String :=
  match s.snapshot with
  | none => "System default"
  | some snapshot =>
    if snapshot.inputDisplayName ≠ "" then snapshot.inputDisplayName
    else if snapshot.inputMode = "selected" then
      ((s.inputs.find? (·.stableId = snapshot.inputStableId)).map (·.displayName)).getD
        snapshot.inputStableId
    else ((s.inputs.find? (·.isDefault)).map (·.displayName)).getD "System default"

/-- `lifecycle_copy`: the status and its detail. -/
def lifecycleCopy (snapshot : Snapshot) (input : String) : String × String :=
  if snapshot.hasError then
    ("Needs attention",
      if snapshot.lastError.code = "" then "The daemon reported a problem."
      else s!"Error code: {snapshot.lastError.code}")
  else if snapshot.state = "running" then
    ("Noise reduction is active", s!"Listening to {input}.")
  else if snapshot.state = "starting" ∨ snapshot.state = "recovering" then
    ("Reconnecting", s!"Restoring {input}; output remains safely muted until ready.")
  else if snapshot.state = "degraded" then
    ("Noise reduction is recovering",
      s!"Audio from {input} is safely muted while Noire restores processing.")
  else if snapshot.state = "stopping" then
    ("Stopping", "Removing the virtual microphone safely.")
  else ("Noise reduction is off", s!"Ready to use {input}.")

/-- `presentation`. -/
def presentation (s : UiState) : Presentation :=
  match s.snapshot with
  | none =>
    { status := "Daemon unavailable"
      detail := match s.clientError with
        | none => "Noire could not reach the background service."
        | some error => s!"Error code: {error.code}"
      controlsEnabled := false }
  | some snapshot =>
    let copy := lifecycleCopy snapshot s.inputDisplayName
    { status := copy.1, detail := copy.2, controlsEnabled := !s.requestPending }

end UiState

/-- `processing_state_is_healthy`. -/
def processingStateIsHealthy (state : String) (hasError : Bool) : Bool :=
  state = "running" && !hasError

/-- `processing_is_healthy`. -/
def processingIsHealthy (snapshot : Option Snapshot) : Bool :=
  snapshot.any fun snapshot => processingStateIsHealthy snapshot.state snapshot.hasError

/-- The status says that noise reduction is active exactly where it is styled as healthy. -/
theorem presentation_healthy (s : UiState) :
    s.presentation.status = "Noise reduction is active" ↔
      processingIsHealthy s.snapshot = true := by
  rcases s with ⟨_ | snapshot, inputs, pending, clientError⟩
  · simp [UiState.presentation, processingIsHealthy]
  · simp only [UiState.presentation, UiState.lifecycleCopy, processingIsHealthy, Option.any_some,
      processingStateIsHealthy]
    split
    · simp [*]
    · -- Without an error the state decides.
      split
      · simp [*]
      · split
        · simp [*]
        · split
          · simp [*]
          · split <;> simp [*]

/-- The controls are there to be used where the daemon is known and nothing is in flight. -/
theorem presentation_controlsEnabled (s : UiState) :
    s.presentation.controlsEnabled = true ↔ s.snapshot.isSome ∧ s.requestPending = false := by
  rcases s with ⟨_ | snapshot, inputs, pending, clientError⟩
  · simp [UiState.presentation]
  · simp [UiState.presentation]

end Noire.Ui
