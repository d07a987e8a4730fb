import Noire.Native.Audio

namespace Noire

/-!
# The owner loop

The thread that owns every native object: it takes one bounded command at a time, carries it
out, and then services the connection, the graph and its recovery.

* `Owner` — the loop's state, with the committed intent `applied` / `meterMonitoring`;
* `handle` — one command: apply, inputs, observe or meter monitoring;
* `serviceNative` — one service tick, in its three stages;
* `iterate` — one iteration of the loop, `none` when it ends.
-/

/-- Minimum spacing between latched live-failure deactivated resets. -/
def liveFailureResetInterval : ℕ := fromMillis 250

/-- The state of `run_native`. -/
structure Owner where
  audio : Audio := {}
  applied : Option Config := none
  observation : Option EngineObservation := none
  meterMonitoring : Bool := false
  lastLiveFailureReset : Option ℕ := none
  recoveryOrigin : ℕ := 0
  recovery : RecoveryController := {}

/-! ## Degradation

What is observed once a graph is lost: the last observation with its state degraded and the error
of the fault.
-/

/-- `recovery_error`. -/
def recoveryError : RecoveryFault → EngineError
  | .core => {
      code := "pipewire-unavailable"
      message := "the user PipeWire server disconnected"
      recovery := "Noire is retrying with bounded backoff; restart PipeWire if needed"
      retryable := true }
  | .captureStream | .sourceStream => {
      code := "audio-stream-failed"
      message := "a native audio stream stopped unexpectedly"
      recovery := "Noire is rebuilding the audio graph with bounded backoff"
      retryable := true }
  | .inputUnavailable => {
      code := "input-unavailable"
      message := "the configured input is unavailable"
      recovery := "reconnect the selected input or choose another available input"
      retryable := true }
  | .defaultChanged => {
      code := "input-unavailable"
      message := "the session default input changed"
      recovery := "Noire is following the new default input"
      retryable := true }

/-- `mark_degraded`. -/
def markDegraded (observation : Option EngineObservation) (fault : RecoveryFault) :
    Option EngineObservation :=
  let next := observation.getD {}
  some { next with
    state := .degraded
    metrics.resets := saturatingAdd u64Max next.metrics.resets 1
    fault := some (recoveryError fault) }

/-- `degraded_observation`. -/
def degradedObservation (previous : Option EngineObservation) (error : Option EngineError) :
    EngineObservation :=
  { previous.getD {} with state := .degraded, fault := error }

/-- `cache_observed_devices`. -/
def cacheObservedDevices (observation : Option EngineObservation)
    (devices : List InputDescriptor) : Option EngineObservation :=
  some { observation.getD { state := .stopped, inputDisplayName := "System default" } with
    devices }

/-- `classify_initial_fault`. -/
def classifyInitialFault (error : EngineError) : RecoveryFault :=
  if error.code = "input-unavailable" then .inputUnavailable
  else if error.code = "audio-graph-unavailable" then .captureStream
  else .core

/-! ## Commands

The arms of `run_native`, one function each.
-/

/-- `NativeCommand`, without its reply channel and cancel flag. -/
inductive NativeCommand
  | apply (config : Config)
  | inputs
  | observe
  | setMeterMonitoring (enabled : Bool)
  deriving DecidableEq

/-- What a command is answered with. -/
inductive Reply
  | observation (result : Except EngineError EngineObservation)
  | inputs (result : Except EngineError (List InputDescriptor))
  | unit (result : Except EngineError Unit)

/-- Whether the answer is `Ok`. -/
def Reply.isOk : Reply → Bool
  | observation result => result.isOk
  | inputs result => result.isOk
  | unit result => result.isOk

/-- Outcomes of one command: the attempt it makes, the attempt to restore the previous
    configuration, the time until a fault is stamped, and the telemetry it observes. -/
structure CommandEnv where
  first : AttemptEnv := {}
  restore : AttemptEnv := {}
  faultElapsed : ℕ := 0
  telemetry : GraphTelemetry := {}

variable [UnicodeCase]

/-- The `Apply` command. -/
def handleApply (o : Owner) (config : Config) (env : CommandEnv) : Reply × Owner :=
  match applyNative o.audio o.applied o.observation config o.meterMonitoring env.first with
  | (.ok observation, audio) =>
    (.observation (.ok observation),
      { o with
        audio
        applied := some config
        observation := some observation
        recovery := if config.active then o.recovery.recovered else o.recovery.stop })
  | (.error error, audio) =>
    match o.applied with
    | some previous =>
      -- `previous` is passed as absent, so the restore always rebuilds.
      match applyNative audio none o.observation previous o.meterMonitoring env.restore with
      | (.ok restored, audio) =>
        (.observation (.error error),
          { o with
            audio
            observation := some restored
            recovery := o.recovery.recovered })
      -- Neither recovery nor the observation hears of a restore that failed.
      | (.error _, audio) => (.observation (.error error), { o with audio })
    | none =>
      if config.active then
        let clock := audio.clock + env.faultElapsed
        (.observation (.error error),
          { o with
            audio := { audio with clock }
            applied := some config
            observation := some (degradedObservation o.observation (some error))
            recovery := o.recovery.fault (classifyInitialFault error)
              (elapsedMillis o.recoveryOrigin clock) })
      else (.observation (.error error), { o with audio })

/-- The `Inputs` command. -/
def handleInputs (o : Owner) (env : CommandEnv) : Reply × Owner :=
  match resolvedRegistry o.audio env.first with
  | (.error error, audio) => (.inputs (.error error), { o with audio })
  | (.ok snapshot, audio) =>
    let devices := inputDescriptors snapshot
    (.inputs (.ok devices),
      { o with audio, observation := cacheObservedDevices o.observation devices })

/-- The `Observe` command. -/
def handleObserve (o : Owner) (env : CommandEnv) : Reply × Owner :=
  let observation :=
    match o.audio.connection, o.audio.graph, o.observation with
    | some connection, some _, some previous =>
      { observeGraph env.telemetry previous.inputDisplayName
          (connection.runtimeVersion.getD "") (o.applied.any (·.active))
          (o.applied.any (·.suppression.enabled)) with
        devices := previous.devices }
    | _, _, _ => o.observation.getD {}
  (.observation (.ok observation), { o with observation := some observation })

/-- The `SetMeterMonitoring` command, with `update_meter_monitoring`. -/
def handleSetMeterMonitoring (o : Owner) (enabled : Bool) (env : CommandEnv) : Reply × Owner :=
  match o.applied with
  | none => (.unit (.ok ()), { o with meterMonitoring := enabled })
  | some config =>
    match applyNative o.audio (some config) o.observation config enabled env.first with
    | (.ok next, audio) =>
      (.unit (.ok ()),
        { o with audio, observation := some next, meterMonitoring := enabled })
    -- Whatever graph the failed attempt left stays.
    | (.error error, audio) => (.unit (.error error), { o with audio })

/-- Carry out one command that was not cancelled. -/
def handle (o : Owner) (command : NativeCommand) (env : CommandEnv) : Reply × Owner :=
  match command with
  | .apply config => handleApply o config env
  | .inputs => handleInputs o env
  | .observe => handleObserve o env
  | .setMeterMonitoring enabled => handleSetMeterMonitoring o enabled env

/-! ## The service tick

The three stages are functions of the owner that each stage leaves, so that a later stage sees
what an earlier one has dropped.
-/

/-- Outcomes of one service tick. -/
structure TickEnv where
  /-- Time until the tick reads the clock. -/
  elapsed : ℕ := 0
  /-- Callbacks of its one dispatch. -/
  dispatched : Dispatched := []
  /-- Time until the debounce window is compared. -/
  dueElapsed : ℕ := 0
  /-- The activity request of a demand edge. -/
  setActive : Native := .ok ()
  /-- The health of the live pipeline. -/
  liveState : LiveState := .running
  /-- The rebuild a due recovery attempt makes. -/
  attempt : AttemptEnv := {}

/-- `live_failure_latched`. -/
def liveFailureLatched (state : LiveState) : Bool :=
  state = .modelFailed || state = .transportFailed

/-- `live_failure_reset_due`. -/
def liveFailureResetDue (last : Option ℕ) (now : ℕ) : Bool :=
  last.all fun previous => liveFailureResetInterval ≤ now - previous

/-- Mark the observation degraded and report the fault. -/
def Owner.degrade (o : Owner) (fault : RecoveryFault) (nowMillis : ℕ) : Owner :=
  { o with
    observation := markDegraded o.observation fault
    recovery := o.recovery.fault fault nowMillis }

/-- The clock reading of a tick, both as an instant and in milliseconds. -/
def Owner.tickNow (o : Owner) (env : TickEnv) : ℕ := o.audio.clock + env.elapsed

/-- First stage of `service_native`: dispatch once, and drop everything on a fatal core
    error. -/
def serviceCore (o : Owner) (env : TickEnv) : Owner :=
  let now := o.tickNow env
  let o := { o with audio.clock := now }
  if o.audio.connection.isNone then o
  else
    let o := { o with audio := o.audio.dispatch env.dispatched }
    -- A failure may have arrived with this dispatch or with an earlier one.
    if o.audio.connection.any (·.failure.isSome) then
      ({ o with audio.graph := none, audio.connection := none } : Owner).degrade .core
        (elapsedMillis o.recoveryOrigin now)
    else o

/-- The clock reading `registry_snapshot_if_due` compares the debounce window at. -/
def Owner.dueNow (o : Owner) (env : TickEnv) : ℕ := o.audio.clock + env.dueElapsed

/-- `registry_snapshot_if_due` on the owner's connection. -/
def registrySnapshotIfDue (o : Owner) (env : TickEnv) : Option RegistrySnapshot × Owner :=
  match o.audio.connection with
  | none => (none, o)
  | some c =>
    let now := o.dueNow env
    let (snapshot, monitor) := c.registryMonitor.publishIfDue (elapsedMillis c.clockOrigin now)
    (snapshot,
      { o with
        audio.clock := now
        audio.connection := some { c with registryMonitor := monitor } })

/-- The recovery fault of a graph health issue. -/
def GraphHealthIssue.fault : GraphHealthIssue → RecoveryFault
  | .captureStream | .captureFormat => .captureStream
  | .sourceStream | .sourceFormat => .sourceStream

/-- The fault a freshly published view shows in a graph that targets `target`. -/
def inputFault (snapshot : RegistrySnapshot) (config : Config) (target : String) :
    Option RecoveryFault :=
  match resolveInput snapshot config with
  | none => some .inputUnavailable
  | some node => if node ≠ target then some .defaultChanged else none

/-- The check of the present graph against its health and the published view, and its demand
    poll: the fault that invalidates it, or the graph it leaves. -/
def checkGraph (graph : LiveGraph) (config : Config) (snapshot : Option RegistrySnapshot)
    (now : ℕ) (env : TickEnv) : Except RecoveryFault LiveGraph :=
  let (diagnostic, graph) := graph.takeHealthDiagnostic
  match diagnostic, snapshot.bind (inputFault · config graph.targetNodeName) with
  -- Health is looked at before the input, and demand only when both are fine.
  | some diagnostic, _ => .error diagnostic.issue.fault
  | none, some fault => .error fault
  | none, none =>
    match graph.serviceDemand now env.setActive with
    | (.error _, _) => .error .captureStream
    | (.ok _, graph) => .ok graph

/-- Carry the devices of a published view in the observation. -/
def Owner.publishDevices (o : Owner) (snapshot : Option RegistrySnapshot) : Owner :=
  match snapshot with
  | none => o
  | some snapshot =>
    { o with
      observation := o.observation.map fun observation =>
        { observation with devices := inputDescriptors snapshot } }

/-- The owner after a due publication, its devices carried in the observation. -/
def Owner.published (o : Owner) (env : TickEnv) : Owner :=
  (registrySnapshotIfDue o env).2.publishDevices (registrySnapshotIfDue o env).1

/-- Second stage of `service_native`: publish a due registry view, check the graph against it,
    poll its demand and reset a latched live failure. -/
def serviceGraph (o : Owner) (env : TickEnv) (now : ℕ) : Owner :=
  let snapshot := (registrySnapshotIfDue o env).1
  let o := o.published env
  match o.audio.graph, o.applied with
  | some graph, some config =>
    match checkGraph graph config snapshot now env with
    | .error fault =>
      ({ o with audio.graph := none } : Owner).degrade fault
        (elapsedMillis o.recoveryOrigin now)
    | .ok graph =>
      if liveFailureLatched env.liveState && liveFailureResetDue o.lastLiveFailureReset now then
        -- A new input generation makes the capture callback reset the model.
        { o with
          audio.graph := some { graph with capture := graph.capture.advanceInputGeneration }
          lastLiveFailureReset := some now }
      else { o with audio.graph := some graph }
  | _, _ => o

/-- Third stage of `service_native`: a due recovery attempt for a graph that is intended and
    absent. -/
def serviceRecovery (o : Owner) (env : TickEnv) (now : ℕ) : Owner :=
  match o.applied.filter fun config => config.active || o.meterMonitoring with
  | none => { o with recovery := o.recovery.stop }
  | some config =>
    if o.audio.graph.isSome then o
    else
      let nowMillis := elapsedMillis o.recoveryOrigin now
      match o.recovery.poll nowMillis with
      | (none, recovery) => { o with recovery }
      | (some _, recovery) =>
        match applyNative o.audio none o.observation config o.meterMonitoring env.attempt with
        | (.ok recovered, audio) =>
          { o with audio, observation := some recovered, recovery := recovery.recovered }
        | (.error _, audio) =>
          -- The fault that started the recovery is reported again.
          { o with
            audio
            observation := match recovery.faultKind with
              | some fault => markDegraded o.observation fault
              | none => o.observation
            recovery := recovery.failed nowMillis }

/-- `service_native`. -/
def serviceNative (o : Owner) (env : TickEnv) : Owner :=
  let now := o.tickNow env
  serviceRecovery (serviceGraph (serviceCore o env) env now) env now

/-! ## The loop

`run_native`: it waits for a command up to the length of a tick, carries it out, and services.
-/

/-- What `recv_timeout` returns: a command with its cancel flag as the owner reads it, the
    end of the channel, or nothing in time. -/
inductive Received
  | command (command : NativeCommand) (cancelled : Bool)
  | shutdown
  | disconnected
  | timeout

/-- One iteration: what arrives after `elapsed`, and the outcomes of carrying it out and of
    the tick. -/
structure Iteration where
  elapsed : ℕ := 0
  received : Received := .timeout
  env : CommandEnv := {}
  tick : TickEnv := {}

/-- The owner after `elapsed` nanoseconds in `recv_timeout`. -/
def Owner.wait (o : Owner) (elapsed : ℕ) : Owner :=
  { o with audio.clock := o.audio.clock + elapsed }

/-- One iteration of `run_native`, `none` when the loop ends.  A cancelled command skips the
    tick (`continue`). -/
def iterate (o : Owner) (it : Iteration) : Option Owner :=
  let o := o.wait it.elapsed
  match it.received with
  | .command _ true => some o
  | .command command false => some (serviceNative (handle o command it.env).2 it.tick)
  | .timeout => some (serviceNative o it.tick)
  | .shutdown | .disconnected => none

end Noire
