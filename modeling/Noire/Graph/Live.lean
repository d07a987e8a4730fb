import Noire.Config
import Noire.Lib.Run
import Noire.Graph.Source

namespace Noire

/-!
# The live graph

The demand-driven graph the owner thread keeps between a physical microphone and the
published source: when physical capture runs, and why.

* `LiveGraph.serviceDemand` — one demand poll;
* `LiveGraph.setMeterMonitoring` — capture for a local meter, without a consumer;
* `LiveGraph.Converged` — capture runs exactly when a meter or a consumer wants it;
* `capture_follows_intent` — the runs in which every successful call leaves the graph
  converged, and `meter_retry_diverges`, one in which a call does not.

A stream request the native library may refuse takes its outcome as an argument.
-/

/-- The outcome of a native request: nothing, or the library's error text. -/
abbrev Native := Except String Unit

/-! ## Streams and parameters

The capture stream as far as the graph moves it, and the parameters that it shares with the live
path.
-/

/-- The owner-thread side of the physical capture stream.  `active` is what the last
    successful `set_active` asked for. -/
structure CaptureStream where
  active : Bool := false
  streamState : StreamState := .unconnected
  formatEvent : Option NegotiatedFormatEvent := none
  streamError : Option String := none
  generationCommand : ℕ := initialGeneration
  deriving DecidableEq

namespace CaptureStream

/-- The `state_changed` callback. -/
def stateChanged (capture : CaptureStream) (change : StreamChange) : CaptureStream :=
  let capture := { capture with streamState := change.state }
  match change with
  | .error message => { capture with streamError := some message }
  | _ => capture

/-- The `param_changed` callback for a format parameter. -/
def paramChanged (capture : CaptureStream) (event : NegotiatedFormatEvent) : CaptureStream :=
  { capture with formatEvent := some event }

/-- Advance the input lifecycle and schedule the callback-state reset. -/
def advanceInputGeneration (capture : CaptureStream) : CaptureStream :=
  { capture with generationCommand := saturatingAdd u64Max capture.generationCommand 1 }

/-- Activate or pause capture; a refused request leaves the stream as it was. -/
def setActive (capture : CaptureStream) (active : Bool) (outcome : Native) : CaptureStream :=
  match outcome with
  | .ok () => { capture with active }
  | .error _ => capture

@[simp] theorem advanceInputGeneration_active (capture : CaptureStream) :
    capture.advanceInputGeneration.active = capture.active := rfl

end CaptureStream

/-- Frame-boundary parameters written by the control plane (`AtomicParameters`). -/
structure LiveParameters where
  epoch : ℕ := 0
  strength : F64 := .finite 1
  enabled : Bool := true
  failMode : FailMode := .closed
  deriving DecidableEq

namespace LiveParameters

/-- One `LiveControl::update`: the epoch is odd while the write is under way, so a finished
    update adds two (`AtomicU64` wraps). -/
def update (parameters : LiveParameters) (write : LiveParameters → LiveParameters) :
    LiveParameters :=
  { write parameters with epoch := (parameters.epoch + 2) % 2 ^ 64 }

/-- Set the wet mix; non-finite input selects safe dry strength zero. -/
def setStrength (parameters : LiveParameters) (strength : F64) : LiveParameters :=
  parameters.update fun p =>
    { p with strength := if strength.isFinite then strength.clamp 0 1 else .finite 0 }

/-- Enable or bypass the model output. -/
def setEnabled (parameters : LiveParameters) (enabled : Bool) : LiveParameters :=
  parameters.update ({ · with enabled })

/-- Select the explicit model-failure policy. -/
def setFailMode (parameters : LiveParameters) (failMode : FailMode) : LiveParameters :=
  parameters.update ({ · with failMode })

end LiveParameters

/-! ## The graph

`LiveGraph`, with the two methods that switch the capture on and off.
-/

/-- Demand-driven live-model graph owned by one control thread. -/
structure LiveGraph where
  capture : CaptureStream := {}
  source : VirtualSourceStream := {}
  control : LiveParameters := {}
  targetNodeName : String
  meterMonitoring : Bool := false
  deriving DecidableEq

/-- Result of one demand-service poll. -/
inductive BypassGraphService
  | unchanged
  | activated
  | deactivated
  deriving DecidableEq

/-- Construction or demand-service failure for the live-model graph, with the text of what
    it wraps. -/
inductive LiveGraphError
  | selectedSourceUnavailable (nodeName : String)
  | pipeline (error : String)
  | capture (error : String)
  | source (error : String)
  | activation (error : String)
  deriving DecidableEq

/-- `Display` of the error. -/
def LiveGraphError.display : LiveGraphError → String
  | selectedSourceUnavailable nodeName => "selected source is unavailable: " ++ nodeName
  | pipeline error => "live pipeline failed: " ++ error
  | capture error => "capture graph failed: " ++ error
  | source error => "virtual source graph failed: " ++ error
  | activation error => "capture activation failed: " ++ error

/-- Low-rate graph fault requiring owner-thread reconstruction. -/
inductive GraphHealthIssue
  | captureStream
  | sourceStream
  | captureFormat
  | sourceFormat
  deriving DecidableEq

/-- One graph health issue with the native detail retained for diagnostics. -/
structure GraphHealthDiagnostic where
  issue : GraphHealthIssue
  detail : Option String
  deriving DecidableEq

namespace LiveGraph

/-- Whether a source consumer currently requires capture. -/
def demand (graph : LiveGraph) : ConsumerDemand := graph.source.control.demand

/-- `service_demand`: apply a source-demand edge on the owning control thread.  `setActive`
    is the outcome of the stream request, where the poll makes one. -/
def serviceDemand (graph : LiveGraph) (now : ℕ) (setActive : Native) :
    Except LiveGraphError BypassGraphService × LiveGraph :=
  let (transition, control) := resolveDemandTransition graph.source.control now
  let graph := { graph with source.control := control }
  match transition with
  | some .activate =>
    -- The old audio is cleared before the request that may fail.
    let graph :=
      { graph with
        source := graph.source.clearSensitive
        capture := graph.capture.advanceInputGeneration.setActive true setActive }
    (setActive.mapError .activation |>.map fun _ => .activated, graph)
  | some .deactivate =>
    if graph.meterMonitoring then
      (.ok .unchanged, { graph with source := graph.source.clearSensitive })
    else match setActive with
      -- Here nothing is cleared on failure; the owner discards the graph.
      | .error error => (.error (.activation error), graph)
      | .ok () =>
        (.ok .deactivated,
          { graph with
            capture := (graph.capture.setActive false setActive).advanceInputGeneration
            source := graph.source.clearSensitive })
  | none =>
    -- A paused consumer, or a meter without one: what arrives meanwhile is discarded.
    if (graph.demand = .active ∧ graph.source.control.streamState ≠ .streaming) ∨
        (graph.meterMonitoring ∧ graph.demand = .idle) then
      (.ok .unchanged, { graph with source := graph.source.discardPendingSensitive })
    else (.ok .unchanged, graph)

/-- `set_meter_monitoring`: keep physical capture active while a local meter is subscribed.
    The memo is replaced before the request that may fail. -/
def setMeterMonitoring (graph : LiveGraph) (enabled : Bool) (setActive : Native) :
    Except LiveGraphError Unit × LiveGraph :=
  if graph.meterMonitoring = enabled then (.ok (), graph)
  else
    let captureRequired := enabled || graph.demand = .active
    (setActive.mapError .activation,
      { graph with
        meterMonitoring := enabled
        capture := graph.capture.advanceInputGeneration.setActive captureRequired setActive
        source := graph.source.clearSensitive })

/-- `take_health_diagnostic`: remove and classify one health fault. -/
def takeHealthDiagnostic (graph : LiveGraph) : Option GraphHealthDiagnostic × LiveGraph :=
  if graph.capture.streamState = .error ∨ graph.capture.streamError.isSome then
    (some ⟨.captureStream, graph.capture.streamError⟩,
      { graph with capture.streamError := none })
  else if graph.source.control.streamState = .error ∨ graph.source.control.streamError.isSome then
    (some ⟨.sourceStream, graph.source.control.streamError⟩,
      { graph with source.control.streamError := none })
  else
    let captureFormat := graph.capture.formatEvent
    let graph := { graph with capture.formatEvent := none }
    match captureFormat with
    | some (.rejected reason) => (some ⟨.captureFormat, some reason⟩, graph)
    | _ =>
      let sourceFormat := graph.source.control.formatEvent
      let graph := { graph with source.control.formatEvent := none }
      match sourceFormat with
      | some (.rejected reason) => (some ⟨.sourceFormat, some reason⟩, graph)
      | _ => (none, graph)

/-! ## Capture follows what wants it

Two things want capture, a meter and a consumer, and each is turned on and off by its own call.  A
call that is refused must not be remembered as if it had succeeded; the meter's is.
-/

/-- Physical capture runs exactly when a meter or a consumer wants it. -/
def Converged (graph : LiveGraph) : Prop :=
  graph.capture.active = true ↔ graph.meterMonitoring = true ∨ graph.demand = .active

/-- A freshly connected graph: capture inactive, no consumer, no meter. -/
def connected (targetNodeName : String) : LiveGraph := { targetNodeName }

theorem connected_converged (targetNodeName : String) : (connected targetNodeName).Converged := by
  simp [Converged, connected, demand]

end LiveGraph

/-- What happens to a graph: a native change of the source stream, or one of the owner's two
    fallible calls with the outcome of the stream request it may make. -/
inductive GraphCall
  | sourceChanged (change : StreamChange) (now : ℕ)
  | serviceDemand (now : ℕ) (setActive : Native)
  | setMeterMonitoring (enabled : Bool) (setActive : Native)

namespace GraphCall

/-- Whether the call returns `Ok`, and the graph it leaves. -/
def exec (graph : LiveGraph) : GraphCall → Bool × LiveGraph
  | sourceChanged change now =>
    (true, { graph with source := graph.source.stateChanged change now })
  | serviceDemand now setActive =>
    let (result, graph) := graph.serviceDemand now setActive
    (result.isOk, graph)
  | setMeterMonitoring enabled setActive =>
    let (result, graph) := graph.setMeterMonitoring enabled setActive
    (result.isOk, graph)

/-- The graph that remains after the call: none when a demand poll failed, since its owner
    then discards the graph. -/
def next (graph : LiveGraph) (call : GraphCall) : Option LiveGraph :=
  match call, (call.exec graph).1 with
  | serviceDemand _ _, false => none
  | _, _ => some (call.exec graph).2

/-- A call that does not lose a stream request: a meter change that has to start or pause
    capture, no consumer holding it active, succeeds in doing so. -/
def RequestKept (graph : LiveGraph) : GraphCall → Prop
  | setMeterMonitoring enabled setActive =>
    graph.meterMonitoring ≠ enabled → graph.demand = .idle → setActive = .ok ()
  | _ => True

end GraphCall

namespace LiveGraph
variable {graph : LiveGraph}

/-- A demand poll that succeeds keeps a converged graph converged. -/
theorem serviceDemand_converged (h : graph.Converged) (now : ℕ) (setActive : Native)
    (hok : (graph.serviceDemand now setActive).1.isOk) :
    (graph.serviceDemand now setActive).2.Converged := by
  rcases resolveDemandTransition_cases graph.source.control now with
    ⟨hresolve, -, -⟩ | ⟨hresolve, -, hbefore, -⟩ | ⟨hresolve, -, -⟩
  · -- an activation starts capture, whatever it was
    cases setActive with
    | error error => simp [serviceDemand, hresolve, Except.mapError, Except.map, Except.isOk,
        Except.toBool] at hok
    | ok _ => simp [Converged, demand, serviceDemand, hresolve, CaptureStream.setActive]
  · -- the last consumer is gone: a meter keeps capture, and nothing else does
    have hactive : graph.capture.active = true := h.mpr (.inr hbefore)
    cases hmeter : graph.meterMonitoring with
    | true => simp [Converged, demand, serviceDemand, hresolve, hmeter, hactive]
    | false =>
      cases setActive with
      | error error => simp [serviceDemand, hresolve, hmeter, Except.isOk, Except.toBool] at hok
      | ok _ => simp [Converged, demand, serviceDemand, hresolve, hmeter,
          CaptureStream.setActive, CaptureStream.advanceInputGeneration]
  · -- no edge: at most pending samples are discarded
    simp only [Converged, demand, serviceDemand, hresolve]
    split
    · exact h
    · exact h

/-- A meter change that loses no request keeps a converged graph converged. -/
theorem setMeterMonitoring_converged (h : graph.Converged) (enabled : Bool)
    (setActive : Native)
    (hkept : graph.meterMonitoring ≠ enabled → graph.demand = .idle → setActive = .ok ()) :
    (graph.setMeterMonitoring enabled setActive).2.Converged := by
  unfold setMeterMonitoring
  split
  · exact h
  rename_i hchange
  cases setActive with
  | ok _ =>
    -- what is asked of the stream is the right-hand side itself
    simp only [Converged, CaptureStream.setActive, Bool.or_eq_true, decide_eq_true_eq]
    exact Iff.rfl
  | error error =>
    -- the request failed, so a consumer holds capture active already
    have hdemand : graph.source.control.demand = .active := by
      cases hd : graph.source.control.demand with
      | active => rfl
      | idle => cases hkept hchange hd
    have hactive : graph.capture.active = true := h.mpr (.inr hdemand)
    simp [Converged, demand, CaptureStream.setActive, hdemand, hactive]

/-- One call that loses no request, and leaves a graph, keeps it converged. -/
theorem exec_converged (h : graph.Converged) {call : GraphCall} (hkept : call.RequestKept graph)
    {after : LiveGraph} (hnext : call.next graph = some after) : after.Converged := by
  cases call with
  | sourceChanged change now =>
    obtain rfl := Option.some.inj hnext
    simpa [Converged, demand, GraphCall.exec, VirtualSourceStream.stateChanged] using h
  | serviceDemand now setActive =>
    cases hok : (graph.serviceDemand now setActive).1.isOk with
    | false => simp [GraphCall.next, GraphCall.exec, hok] at hnext
    | true =>
      simp only [GraphCall.next, GraphCall.exec, hok] at hnext
      obtain rfl := Option.some.inj hnext
      exact serviceDemand_converged h now setActive hok
  | setMeterMonitoring enabled setActive =>
    obtain rfl := Option.some.inj hnext
    exact setMeterMonitoring_converged h enabled setActive hkept

end LiveGraph

/-- The graph a call leaves is one its owner keeps, when the call returned `Ok`. -/
theorem GraphCall.next_of_ok {graph : LiveGraph} {call : GraphCall}
    (h : (call.exec graph).1 = true) : call.next graph = some (call.exec graph).2 := by
  unfold next
  rw [h]
  cases call <;> rfl

open Lib in
/-- **Capture follows intent.** From a fresh graph, through any calls none of which loses a
    stream request, every call that returns `Ok` leaves physical capture active exactly if a
    meter or a consumer wants it. -/
theorem capture_follows_intent {targetNodeName : String} {calls : List GraphCall}
    {graph : LiveGraph} {call : GraphCall}
    (run : Run (fun g c g' => GraphCall.next g c = some g') (fun g c => c.RequestKept g)
      (LiveGraph.connected targetNodeName) calls graph)
    (hkept : call.RequestKept graph) (hok : (call.exec graph).1 = true) :
    (call.exec graph).2.capture.active = true ↔
      (call.exec graph).2.meterMonitoring = true ∨ (call.exec graph).2.demand = .active := by
  have hgraph : graph.Converged :=
    run.invariant LiveGraph.Converged (LiveGraph.connected_converged _)
      fun _ _ _ h hC hR => LiveGraph.exec_converged h hC hR
  exact LiveGraph.exec_converged hgraph hkept (GraphCall.next_of_ok hok)

open Lib in
/-- A meter turned on, a consumer that comes, and the meter turned off again. -/
theorem capture_follows_intent_meter_then_consumer :
    let calls : List GraphCall := [.setMeterMonitoring true (.ok ()),
      .sourceChanged .streaming 0, .serviceDemand 1 (.ok ())]
    let graph := calls.foldl (fun g c => (c.exec g).2) (LiveGraph.connected "mic")
    let after := (GraphCall.exec graph (.setMeterMonitoring false (.ok ()))).2
    after.capture.active = true ↔ after.meterMonitoring = true ∨ after.demand = .active := by
  intro calls graph after
  have run : Run (fun g c g' => GraphCall.next g c = some g') (fun g c => c.RequestKept g)
      (LiveGraph.connected "mic") ([] ++ [.setMeterMonitoring true (.ok ())] ++
        [.sourceChanged .streaming 0] ++ [.serviceDemand 1 (.ok ())]) graph :=
    .snoc (.snoc (.snoc .nil (fun _ _ => rfl) rfl) trivial rfl) trivial rfl
  exact capture_follows_intent run (fun _ _ => rfl) rfl

open Lib in
/-- **A refused meter change is not retried.** The memo is set before the request that fails,
    so asking again returns `Ok` and leaves capture inactive with the meter enabled. -/
theorem meter_retry_diverges :
    ¬ ∀ (targetNodeName : String) (calls : List GraphCall) (graph : LiveGraph)
        (call : GraphCall),
      Run (fun g c g' => GraphCall.next g c = some g') Free
          (LiveGraph.connected targetNodeName) calls graph →
        (call.exec graph).1 = true →
        ((call.exec graph).2.capture.active = true ↔
          (call.exec graph).2.meterMonitoring = true ∨ (call.exec graph).2.demand = .active) := by
  intro h
  have hretry := h "mic" [.setMeterMonitoring true (.error "refused")] _
    (.setMeterMonitoring true (.ok ())) (.single trivial rfl) rfl
  exact absurd (hretry.mpr (.inl rfl)) (by decide)

end Noire
