import Noire.Engine
import Noire.Telemetry
import Noire.Recovery
import Noire.Registry.Monitor
import Noire.Graph.Live

namespace Noire

/-!
# Native audio resources

The connection and the graph the owner thread holds, and the one operation that builds,
keeps or drops them: `applyNative`.

The native library decides how each request ends and which callbacks an iteration of its
main loop dispatches, so an operation takes a record of these outcomes.  Every recorded
callback and clock reading carries the nanoseconds since the reading before it, so the clock
of any run is monotone.

* `Audio` — the clock, the connection and the graph;
* `Audio.dispatch` — native callbacks, in order;
* `rebuildGraph` — connect, resolve the configured input, build a fresh graph;
* `applyNative` — make the graph what a configuration asks for.
-/

/-! ## The connection

`connection.rs`: what callbacks of the core and of the registry leave for the control thread.
-/

/-- Compact control-plane description of a fatal core error. -/
structure CoreFailure where
  objectId : ℕ
  result : ℤ
  message : String
  deriving DecidableEq

/-- The control-plane side of one connection.  `lastEvent` is not a field of the source: it
    records when the last registry callback was dispatched. -/
structure PipewireConnection where
  clockOrigin : ℕ
  registryMonitor : RegistryMonitor := {}
  runtimeVersion : Option String := none
  failure : Option CoreFailure := none
  lastEvent : Option ℕ := none

/-- One native callback the owner thread may run while it dispatches. -/
inductive LoopEvent
  | registry (event : RegistryEvent)
  | coreInfo (version : String)
  | coreError (failure : CoreFailure)
  | captureState (change : StreamChange)
  | captureFormat (event : NegotiatedFormatEvent)
  | sourceState (change : StreamChange)
  | sourceFormat (event : NegotiatedFormatEvent)

/-- Callbacks, each with the nanoseconds since the reading before it. -/
abbrev Dispatched := List (ℕ × LoopEvent)

/-- The native resources of the owner thread. -/
structure Audio where
  clock : ℕ := 0
  connection : Option PipewireConnection := none
  graph : Option LiveGraph := none

/-- One registry callback at clock reading `now`. -/
def PipewireConnection.registryEvent (c : PipewireConnection) (event : RegistryEvent) (now : ℕ) :
    PipewireConnection :=
  { c with
    registryMonitor := c.registryMonitor.apply event (elapsedMillis c.clockOrigin now)
    lastEvent := some now }

namespace Audio

/-- One native callback: registry and core callbacks reach the connection, stream callbacks
    the graph that owns the stream. -/
def deliver (a : Audio) (elapsed : ℕ) (event : LoopEvent) : Audio :=
  let a := { a with clock := a.clock + elapsed }
  match event with
  | .registry event => { a with connection := a.connection.map (·.registryEvent event a.clock) }
  | .coreInfo version =>
    { a with connection := a.connection.map ({ · with runtimeVersion := some version }) }
  | .coreError failure =>
    { a with connection := a.connection.map ({ · with failure := some failure }) }
  | .captureState change =>
    { a with graph := a.graph.map fun g => { g with capture := g.capture.stateChanged change } }
  | .captureFormat event =>
    { a with graph := a.graph.map fun g => { g with capture := g.capture.paramChanged event } }
  | .sourceState change =>
    { a with
      graph := a.graph.map fun g => { g with source := g.source.stateChanged change a.clock } }
  | .sourceFormat event =>
    { a with
      graph := a.graph.map fun g =>
        { g with source.control := g.source.control.paramChanged event } }

/-- Callbacks dispatched one after another. -/
def dispatch (a : Audio) (events : Dispatched) : Audio :=
  events.foldl (fun a e => a.deliver e.1 e.2) a

section
variable [UnicodeCase]

/-- `registry_snapshot_now`; an absent connection has no candidates. -/
def registrySnapshotNow (a : Audio) : RegistrySnapshot × Audio :=
  match a.connection with
  | none => (⟨0, [], []⟩, a)
  | some c =>
    -- Publishing clears the dirty flag, whoever asked for the view.
    let (snapshot, monitor) := c.registryMonitor.publishNow
    (snapshot, { a with connection := some { c with registryMonitor := monitor } })

end

/-- The version the connection reported. -/
def runtimeVersion (a : Audio) : Option String := a.connection.bind (·.runtimeVersion)

end Audio

/-! ## Outcomes of one attempt

The requests and the callbacks come in the order in which an attempt meets them; what is not
reached is not looked at.
-/

/-- How the native library answers one attempt to apply a configuration: the requests in the
    order they are made, with the callbacks dispatched in between. -/
structure AttemptEnv where
  /-- `PipewireConnection::connect_default`, and how long it took. -/
  connect : Native := .ok ()
  connectElapsed : ℕ := 0
  /-- The 25 bounded iterations of `refresh_registry`. -/
  refreshed : Dispatched := []
  /-- `FastEnhancerFactory::new` and `create`. -/
  model : Native := .ok ()
  /-- `create_live_channel`. -/
  pipeline : Native := .ok ()
  /-- Callbacks inside `LiveGraph::connect_with_latency`, before it looks its node up. -/
  connecting : Dispatched := []
  /-- The capture stream and the virtual source. -/
  capture : Native := .ok ()
  source : Native := .ok ()
  /-- Callbacks inside `LiveGraph::connect_with_latency`, after it looked its node up. -/
  connected : Dispatched := []
  /-- The activity request of `LiveGraph::set_meter_monitoring`. -/
  setActive : Native := .ok ()
  /-- What the audio threads left for `observe_graph`. -/
  telemetry : GraphTelemetry := {}

/-! ## Observations

What the owner reports of its graph, and what a configuration resolves to in a view of the
registry.
-/

/-- `input_descriptors`. -/
def inputDescriptors (snapshot : RegistrySnapshot) : List InputDescriptor :=
  snapshot.candidates.map fun node =>
    { stableId := node.nodeName
      displayName := node.label
      isDefault := node.isDefault
      availability := match node.availability with
        | .available => "available"
        | .unavailable => "unavailable"
        | .unknown => "unknown" }

/-- The selection policy of a configuration. -/
def Config.policy (config : Config) : SelectionPolicy where
  selector :=
    if config.input.mode = .selected then some { nodeName := config.input.stableId } else none
  followDefault := config.input.mode = .followDefault
  fallbackToDefault := config.input.fallbackToDefault

/-- `resolve_input`. -/
def resolveInput (snapshot : RegistrySnapshot) (config : Config) : Option String :=
  (snapshot.resolve config.policy).toOption.map (·.nodeName)

/-- `live_state_error`. -/
def liveStateError : LiveState → Option EngineError
  | .running | .degradedPerformance => none
  | .modelFailed => some {
      code := "model-processing-failed"
      message := "the suppression model failed while processing audio"
      recovery := "allow automatic recovery; restart Noire if the failure persists"
      retryable := true }
  | .transportFailed => some {
      code := "audio-transport-failed"
      message := "the processed audio transport stalled"
      recovery := "allow automatic recovery; restart Noire if silence persists"
      retryable := true }

/-- `meter_levels`: the path users hear. -/
def meterLevels (processingActive suppressionEnabled : Bool) (processed physical : F64 × F64) :
    F64 × F64 :=
  if processingActive && suppressionEnabled then processed else physical

/-- `observe_graph`. -/
def observeGraph (telemetry : GraphTelemetry) (inputDisplayName pipewireVersion : String)
    (processingActive suppressionEnabled : Bool) : EngineObservation :=
  let live := telemetry.live
  let capture := telemetry.capture
  let source := telemetry.source
  let (rms, peak) := meterLevels processingActive suppressionEnabled
    (live.rms, live.peak) (capture.rms, capture.recentPeak)
  let fault := if processingActive then liveStateError live.state else none
  { state :=
      if !processingActive then .stopped
      else if fault.isNone then .running
      else .degraded
    inputDisplayName
    pipewireVersion
    metrics :=
      { callbackP50Ns := live.callbackTiming.percentileNs 50
        callbackP95Ns := live.callbackTiming.percentileNs 95
        callbackP99Ns := live.callbackTiming.percentileNs 99
        callbackMaxNs := live.callbackTiming.maximumNs
        modelP50Ns := live.modelTiming.percentileNs 50
        modelP95Ns := live.modelTiming.percentileNs 95
        modelP99Ns := live.modelTiming.percentileNs 99
        modelMaxNs := live.modelTiming.maximumNs
        ringCurrentSamples := live.transport.currentFrames
        ringHighWaterSamples := live.transport.highWaterFrames
        underflows := live.transport.underflows
        overflows := live.transport.overflows
        bufferErrors := saturatingAdd u64Max
          (saturatingAdd u64Max capture.malformedChunks source.malformedBuffers)
          source.missingBuffers
        modelErrors := live.modelErrors
        resets := saturatingAdd u64Max live.modelResets live.transport.generationResets
        nonFiniteSamples := saturatingAdd u64Max live.sanitizedSamples capture.nonFiniteSamples
        vadProbability := live.vadProbability
        rms
        peak }
    fault
    devices := [] }

/-! ## Building a graph

`connect_with_latency` and what it needs: a connection, a fresh view, the input that the policy
selects, and the node of that name.
-/

variable [UnicodeCase]

/-- `ensure_connection`. -/
def ensureConnection (a : Audio) (env : AttemptEnv) : Except EngineError Unit × Audio :=
  if a.connection.isSome then (.ok (), a)
  else
    let a := { a with clock := a.clock + env.connectElapsed }
    match env.connect with
    | .error error =>
      (.error {
        code := "pipewire-unavailable"
        message := "could not connect to the user PipeWire server: " ++ error
        recovery := "start or repair the user PipeWire session, then retry"
        retryable := true }, a)
    | .ok () => (.ok (), { a with connection := some { clockOrigin := a.clock } })

/-- `refresh_registry`: a round trip request whose answer is ignored, then 25 bounded
    iterations of the main loop. -/
def refreshRegistry (a : Audio) (env : AttemptEnv) : Audio := a.dispatch env.refreshed

/-- `Debug` of the reason no node was selected. -/
def InputUnavailable.debug : InputUnavailable → String
  | .selectedInputMissing => "SelectedInputMissing"
  | .defaultInputMissing => "DefaultInputMissing"
  | .notConfigured => "NotConfigured"

/-- The node of a name in the registry, as a second publication shows it. -/
def Audio.lookUp (a : Audio) (env : AttemptEnv) (nodeName : String) : Option ℕ × Audio :=
  let (snapshot, a) := (a.dispatch env.connecting).registrySnapshotNow
  ((snapshot.candidates.find? (·.nodeName = nodeName)).map (·.globalId), a)

/-- `LiveGraph::connect_with_latency`: a graph on the node of that name, if the registry still
    has it and both streams connect. -/
def connectWithLatency (a : Audio) (env : AttemptEnv) (selectedNodeName : String) :
    Except LiveGraphError Unit × Audio :=
  match env.pipeline with
  | .error error => (.error (.pipeline error), a)
  | .ok () =>
    -- The capture stream is opened before the source stream: the first error wins.
    let (selectedNodeId, a) := a.lookUp env selectedNodeName
    match selectedNodeId, env.capture, env.source with
    | none, _, _ => (.error (.selectedSourceUnavailable selectedNodeName), a)
    | some _, .error error, _ => (.error (.capture error), a.dispatch env.connected)
    | some _, .ok (), .error error => (.error (.source error), a.dispatch env.connected)
    | some _, .ok (), .ok () =>
      (.ok (), { a with graph := some (LiveGraph.connected selectedNodeName) }.dispatch
        env.connected)

/-- The error of a model that does not initialize. -/
def modelInitializationFailed (error : String) : EngineError where
  code := "model-initialization-failed"
  message := "the bundled FastEnhancer-B model could not initialize: " ++ error
  recovery := "restart Noire; reinstall if the condition persists"
  retryable := true

/-- The registry a rebuild resolves its input in: connected, refreshed and published. -/
def resolvedRegistry (a : Audio) (env : AttemptEnv) :
    Except EngineError RegistrySnapshot × Audio :=
  match ensureConnection a env with
  | (.error error, a) => (.error error, a)
  | (.ok (), a) =>
    let (snapshot, a) := (refreshRegistry a env).registrySnapshotNow
    (.ok snapshot, a)

/-- The rebuild of `apply_native`: drop the graph, resolve the configured input in a fresh
    registry view and connect a graph to it.  Returns the label of the input. -/
def rebuildGraph (a : Audio) (config : Config) (env : AttemptEnv) :
    Except EngineError String × Audio :=
  match resolvedRegistry { a with graph := none } env with
  | (.error error, a) => (.error error, a)
  | (.ok snapshot, a) =>
    match snapshot.resolve config.policy, env.model with
    | .error reason, _ =>
      (.error {
        code := "input-unavailable"
        message := "the configured input could not be resolved: " ++ reason.debug
        recovery := "select an available input or enable explicit default fallback"
        retryable := true }, a)
    | .ok _, .error error => (.error (modelInitializationFailed error), a)
    | .ok selected, .ok () =>
      match connectWithLatency a env selected.nodeName with
      | (.error error, a) =>
        (.error {
          code := "audio-graph-unavailable"
          message := "the live PipeWire graph could not start: " ++ error.display
          recovery := "verify PipeWire and the selected input, then retry"
          retryable := true }, a)
      | (.ok (), a) => (.ok selected.label, a)

/-! ## Applying a configuration

A graph is kept where neither the input nor the output of the configuration has changed, and
controlled either way; a configuration that wants none drops it.
-/

/-- `apply_controls`. -/
def applyControls (graph : LiveGraph) (config : Config) : LiveGraph :=
  { graph with
    control := ((graph.control.setEnabled config.suppression.enabled).setStrength
      config.suppression.strength.toF32).setFailMode config.suppression.failMode }

/-- The label and devices a fresh registry view gives a stopped engine, if it has one. -/
def freshLabel (a : Audio) (config : Config) (previousDevices : List InputDescriptor)
    (env : AttemptEnv) : Option String × List InputDescriptor × Audio :=
  match resolvedRegistry a env with
  | (.error _, a) => (none, previousDevices, a)
  | (.ok snapshot, a) =>
    ((resolveInput snapshot config).bind fun nodeName =>
      (snapshot.candidates.find? (·.nodeName = nodeName)).map (·.label),
      inputDescriptors snapshot, a)

/-- `stopped_observation`: the label and devices of a stopped engine, from the last
    observation while the input is unchanged, else from a fresh registry view. -/
def stoppedObservation (a : Audio) (previous : Option Config)
    (previousObservation : Option EngineObservation) (config : Config) (env : AttemptEnv) :
    EngineObservation × Audio :=
  let inputUnchanged := previous.any (·.input = config.input)
  let previousLabel := (((previousObservation.filter fun _ => inputUnchanged).map
    (·.inputDisplayName)).filter (· ≠ ""))
  let previousDevices := (previousObservation.map (·.devices)).getD []
  let (resolvedLabel, devices, a) :=
    match previousLabel with
    | some label => (some label, previousDevices, a)
    | none => freshLabel a config previousDevices env
  ({ state := .stopped
     inputDisplayName := resolvedLabel.getD
       (if config.input.mode = .selected then config.input.stableId else "System default")
     pipewireVersion :=
       (a.runtimeVersion.or (previousObservation.map (·.pipewireVersion))).getD ""
     devices }, a)

/-- The label a kept graph is shown under. -/
def keptLabel (previousObservation : Option EngineObservation) (config : Config) : String :=
  (previousObservation.map (·.inputDisplayName)).getD
    (if config.input.mode = .selected then config.input.stableId else "Default input")

/-- Whether `apply_native` has to build a new graph. -/
def requiresRebuild (a : Audio) (previous : Option Config) (config : Config) : Bool :=
  a.graph.isNone ||
    previous.all fun p => p.input ≠ config.input || p.output ≠ config.output

/-- The end of `apply_native`: parameters and metering of the graph it built or kept, and the
    observation of it. -/
def controlGraph (a : Audio) (previousObservation : Option EngineObservation) (config : Config)
    (meterMonitoring : Bool) (rebuilt : Bool) (label : String) (env : AttemptEnv) :
    Except EngineError EngineObservation × Audio :=
  match a.graph with
  | none =>
    (.error {
      code := "audio-graph-unavailable"
      message := "the live audio graph is absent"
      recovery := "retry the operation"
      retryable := true }, a)
  | some graph =>
    match (applyControls graph config).setMeterMonitoring meterMonitoring env.setActive with
    | (.error error, graph) =>
      -- The graph stays where it is, with the controls already applied.
      (.error {
        code := "audio-meter-unavailable"
        message := "microphone metering could not change state: " ++ error.display
        recovery := "retry; restart PipeWire if the meter remains unavailable"
        retryable := true }, { a with graph := some graph })
    | (.ok (), graph) =>
      let a := { a with graph := some graph }
      let next := observeGraph env.telemetry label (a.runtimeVersion.getD "") config.active
        config.suppression.enabled
      if rebuilt then
        -- A third publication of the attempt; only its devices are used.
        let (snapshot, a) := a.registrySnapshotNow
        (.ok { next with devices := inputDescriptors snapshot }, a)
      else
        (.ok { next with devices := (previousObservation.map (·.devices)).getD [] }, a)

/-- `apply_native`: make the graph what `config` and metering ask for. -/
def applyNative (a : Audio) (previous : Option Config)
    (previousObservation : Option EngineObservation) (config : Config) (meterMonitoring : Bool)
    (env : AttemptEnv) : Except EngineError EngineObservation × Audio :=
  if !config.active && !meterMonitoring then
    -- Nobody wants a graph: it is dropped before anything can fail.
    let (observation, a) :=
      stoppedObservation { a with graph := none } previous previousObservation config env
    (.ok observation, a)
  else if requiresRebuild a previous config then
    match rebuildGraph a config env with
    | (.error error, a) => (.error error, a)
    | (.ok label, a) =>
      controlGraph a previousObservation config meterMonitoring true label env
  else
    controlGraph a previousObservation config meterMonitoring false
      (keptLabel previousObservation config) env

end Noire
