import Noire.Basic

namespace Noire

/-!
# The virtual source's control state

What the owner thread keeps of the published microphone: the stream state its callbacks
copy, the debounced consumer demand resolved from it, and the command left for the data
thread.

* `SourceControl.stateChanged` / `paramChanged` — the two control callbacks;
* `resolveDemandTransition` — the edge a poll takes, at most one;
* `VirtualSourceStream` — the owner-thread side of the stream.
-/

/-- Delay before the last consumer pauses physical capture. -/
def consumerIdleDebounce : ℕ := fromMillis 500

/-- Stream lifecycle state copied for the control plane: `CaptureStreamState` and
    `SourceStreamState`. -/
inductive StreamState
  | unconnected
  | connecting
  | paused
  | streaming
  | error
  deriving DecidableEq

/-- A native state change, with the message an error carries. -/
inductive StreamChange
  | unconnected
  | connecting
  | paused
  | streaming
  | error (message : String)
  deriving DecidableEq

/-- `map_stream_state`. -/
def StreamChange.state : StreamChange → StreamState
  | unconnected => .unconnected
  | connecting => .connecting
  | paused => .paused
  | streaming => .streaming
  | error _ => .error

/-- Negotiated format event; a rejection carries the text of its reason. -/
inductive NegotiatedFormatEvent
  | accepted
  | rejected (reason : String)
  deriving DecidableEq

/-- Stable consumer-demand state maintained by the owning control loop. -/
inductive ConsumerDemand
  | idle
  | active
  deriving DecidableEq

/-- Edge returned exactly once when demand changes. -/
inductive DemandTransition
  | activate
  | deactivate
  deriving DecidableEq

/-- `ControlState` of the source. -/
structure SourceControl where
  streamState : StreamState := .unconnected
  demand : ConsumerDemand := .idle
  idleSince : Option ℕ := none
  formatEvent : Option NegotiatedFormatEvent := none
  streamError : Option String := none
  deriving DecidableEq

/-- The `state_changed` callback at clock reading `now`. -/
def SourceControl.stateChanged (control : SourceControl) (change : StreamChange) (now : ℕ) :
    SourceControl :=
  let control := { control with streamState := change.state }
  match change with
  | .streaming => { control with idleSince := none }
  -- The idle clock runs from the first report without a consumer, and only if there was one.
  | .paused =>
    if control.demand = .active then
      { control with idleSince := some (control.idleSince.getD now) }
    else control
  | .error message =>
    { control with
      streamError := some message
      idleSince := some (control.idleSince.getD now) }
  | .unconnected => { control with idleSince := some (control.idleSince.getD now) }
  | .connecting => control

/-- The `param_changed` callback for a format parameter. -/
def SourceControl.paramChanged (control : SourceControl) (event : NegotiatedFormatEvent) :
    SourceControl :=
  { control with formatEvent := some event }

/-- `resolve_demand_transition`: immediate activation, debounced deactivation. -/
def resolveDemandTransition (control : SourceControl) (now : ℕ) :
    Option DemandTransition × SourceControl :=
  -- Activation is immediate; the debounce is for the last consumer's departure.
  if control.streamState = .streaming ∧ control.demand = .idle then
    (some .activate, { control with demand := .active, idleSince := none })
  else if control.demand = .active ∧ control.streamState ≠ .streaming ∧
      control.idleSince.any (fun since => consumerIdleDebounce ≤ now - since) then
    (some .deactivate, { control with demand := .idle, idleSince := none })
  else (none, control)

/-- A callback never changes the demand: only a poll does. -/
@[simp] theorem SourceControl.stateChanged_demand (control : SourceControl)
    (change : StreamChange) (now : ℕ) :
    (control.stateChanged change now).demand = control.demand := by
  cases change with
  | unconnected => rfl
  | connecting => rfl
  | paused =>
    simp only [SourceControl.stateChanged]
    split <;> rfl
  | streaming => rfl
  | error message => rfl

/-- A change of the stream's state is copied. -/
theorem SourceControl.stateChanged_streamState (control : SourceControl) (change : StreamChange)
    (now : ℕ) : (control.stateChanged change now).streamState = change.state := by
  cases change with
  | unconnected => rfl
  | connecting => rfl
  | paused =>
    simp only [SourceControl.stateChanged]
    split <;> rfl
  | streaming => rfl
  | error message => rfl

/-- **Demand edges.** What a poll returns, and what it found: an activation takes an idle demand
    where the stream is streaming; a deactivation an active one where it is not, and the idle clock
    has run for the debounce; and no edge leaves the control state as it was. -/
theorem resolveDemandTransition_cases (control : SourceControl) (now : ℕ) :
    (resolveDemandTransition control now =
        (some .activate, { control with demand := .active, idleSince := none }) ∧
      control.streamState = .streaming ∧ control.demand = .idle) ∨
    (resolveDemandTransition control now =
        (some .deactivate, { control with demand := .idle, idleSince := none }) ∧
      control.streamState ≠ .streaming ∧ control.demand = .active ∧
      ∃ since ∈ control.idleSince, consumerIdleDebounce ≤ now - since) ∨
    (resolveDemandTransition control now = (none, control) ∧
      (control.streamState = .streaming → control.demand = .active) ∧
      (control.demand = .active → control.streamState ≠ .streaming →
        ∀ since ∈ control.idleSince, now - since < consumerIdleDebounce)) := by
  unfold resolveDemandTransition
  split
  · -- a consumer came to an idle source
    rename_i hcome
    exact .inl ⟨rfl, hcome⟩
  rename_i hcome
  split
  · -- the last one has been gone for the whole debounce
    rename_i hgone
    obtain ⟨hactive, hpaused, hidle⟩ := hgone
    obtain ⟨since, hsince, hlong⟩ := Option.any_eq_true _ _ |>.mp hidle
    exact .inr (.inl ⟨rfl, hpaused, hactive, since, hsince, of_decide_eq_true hlong⟩)
  · -- neither of the two, and so the demand fits the stream
    rename_i hgone
    refine .inr (.inr ⟨rfl, fun hstreaming => ?_, fun hactive hpaused since hsince => ?_⟩)
    · cases hdemand : control.demand with
      | idle => exact absurd ⟨hstreaming, hdemand⟩ hcome
      | active => rfl
    · refine Nat.lt_of_not_le fun hlong => hgone ⟨hactive, hpaused, ?_⟩
      exact Option.any_eq_true _ _ |>.mpr ⟨since, hsince, decide_eq_true hlong⟩

/-! ## The stream -/

/-- The command the owner leaves for the data thread's next callback. -/
inductive AudioCommand
  | none
  | discard
  | clear
  deriving DecidableEq

/-- `fetch_max` on the command: a clear dominates a discard. -/
def AudioCommand.schedule : AudioCommand → AudioCommand → AudioCommand
  | clear, _ => clear
  | _, clear => clear
  | discard, _ => discard
  | _, other => other

/-- The owner-thread side of the published microphone. -/
structure VirtualSourceStream where
  control : SourceControl := {}
  publicationEnabled : Bool := false
  audioCommand : AudioCommand := .none
  deriving DecidableEq

namespace VirtualSourceStream

/-- A native state change gates publication and updates the control state. -/
def stateChanged (source : VirtualSourceStream) (change : StreamChange) (now : ℕ) :
    VirtualSourceStream :=
  { source with
    publicationEnabled := change = .streaming
    control := source.control.stateChanged change now }

/-- Schedule clearing source-owned samples before the next buffer is published. -/
def clearSensitive (source : VirtualSourceStream) : VirtualSourceStream :=
  { source with audioCommand := source.audioCommand.schedule .clear }

/-- Schedule draining source audio without ending the current generation. -/
def discardPendingSensitive (source : VirtualSourceStream) : VirtualSourceStream :=
  { source with audioCommand := source.audioCommand.schedule .discard }

@[simp] theorem clearSensitive_control (source : VirtualSourceStream) :
    source.clearSensitive.control = source.control := rfl

@[simp] theorem discardPendingSensitive_control (source : VirtualSourceStream) :
    source.discardPendingSensitive.control = source.control := rfl

end VirtualSourceStream

end Noire
