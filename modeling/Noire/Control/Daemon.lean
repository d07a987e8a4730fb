import Noire.Control.Public
import Noire.Registry.Node
import Noire.Store.ConfigStore

namespace Noire

/-!
# The daemon

The single authoritative state machine behind the D-Bus service: every change of configuration
goes through the audio engine, then through the store, and only then becomes the daemon's own.

The engine is abstract: any state and any functions.  How the store and the launch manager
answer, and the clocks an operation reads, come with the operation.

* `AudioEngine` — the adapter, and `AudioEngine.Contract`, what it documents;
* `Daemon.mutate` — the transaction behind the setters;
* `Daemon.refreshObservation` / `Daemon.retry` / ... — the other operations;
* `Daemon.perform` — one operation of any kind; `Operation.change`: the change it asks for;
* `Activates` and `Prefers` — all that the two switches and the two preferences can do, so that no
  later proof takes their branches again.
-/

universe u

/-! ## The engine

`AudioEngine` is a trait of the source, so what the daemon relies on is what the trait documents,
and the contract states that.
-/

/-- Bounded daemon-to-audio adapter over a state `ε`. -/
structure AudioEngine (ε : Type u) where
  apply : Config → ε → Except EngineError EngineObservation × ε
  retry : Config → ε → Except EngineError EngineObservation × ε
  observe : EngineObservation → ε → Except EngineError EngineObservation × ε
  setMeterMonitoring : Bool → ε → Except EngineError Unit × ε
  inputs : ε → Except EngineError (List InputDescriptor) × ε

/-- The documented contract of an engine whose processing intent is `intent`: applying a
    configuration makes it the intent or leaves the intent intact, nothing else changes the
    intent, and a running state is reported only of an active intent. -/
structure AudioEngine.Contract {ε : Type u} (engine : AudioEngine ε) (intent : ε → Config) :
    Prop where
  apply_ok : ∀ config e observation e',
    engine.apply config e = (.ok observation, e') → intent e' = config
  apply_error : ∀ config e error e',
    engine.apply config e = (.error error, e') → intent e' = intent e
  retry_ok : ∀ config e observation e',
    engine.retry config e = (.ok observation, e') → intent e' = config
  retry_error : ∀ config e error e',
    engine.retry config e = (.error error, e') → intent e' = intent e
  observe : ∀ previous e, intent (engine.observe previous e).2 = intent e
  observe_running : ∀ previous e observation e',
    engine.observe previous e = (.ok observation, e') → observation.state = .running →
      (intent e).active = true
  setMeterMonitoring : ∀ enabled e, intent (engine.setMeterMonitoring enabled e).2 = intent e
  inputs : ∀ e, intent (engine.inputs e).2 = intent e

/-! ## Errors

What a request is rejected with, and how an error is shown.
-/

/-- Transaction rejection with a stable D-Bus mapping. -/
inductive ControlError
  | conflict (expected current : ℕ)
  | invalid (message : String)
  | audio (error : EngineError)
  | persistence (message : String)
  | persistenceRollback (persistence : String) (rollback : EngineError)
  | readOnly
  | launchManager (message : String)
  deriving DecidableEq

/-- What an operation meets outside the daemon: the clocks, the texts of the errors of the
    store, and those of the launch manager. -/
structure ControlEnv where
  unixMillis : ℕ := 0
  uptimeMillis : ℕ := 0
  save : Except String Unit := .ok ()
  setEnabled : Except String Unit := .ok ()
  rollbackEnabled : Except String Unit := .ok ()

/-- `error_info`. -/
def errorInfo (error : EngineError) (unixMillis : ℕ) : ErrorInfo :=
  match errorCatalogEntry error.code with
  | some entry =>
    { code := entry.code
      message := entry.cause
      recovery := entry.recovery
      component := "audio"
      retryable := entry.retryable
      timestampMillis := unixMillis }
  | none =>
    { code := error.code
      message := error.message
      recovery := error.recovery
      component := "audio"
      retryable := error.retryable
      timestampMillis := unixMillis }

/-- `catalog_error_info`. -/
def catalogErrorInfo (code component : String) (unixMillis : ℕ) : ErrorInfo :=
  match errorCatalogEntry code with
  | none =>
    { code
      message := "Noire recovered from a configuration problem."
      recovery := "Inspect the preserved configuration before retrying."
      component
      retryable := false
      timestampMillis := unixMillis }
  | some entry =>
    { code := entry.code
      message := entry.cause
      recovery := entry.recovery
      component
      retryable := entry.retryable
      timestampMillis := unixMillis }

/-! ## The state

The fields of `ControlState`, and the snapshot that clients see of them.
-/

/-- `Daemon`, without its store. -/
structure Daemon (ε : Type u) where
  config : Config
  writable : Bool
  revision : ℕ
  deviceRevision : ℕ
  devices : List InputDescriptor
  engine : ε
  observation : EngineObservation
  lastError : Option ErrorInfo

namespace Daemon

variable {ε : Type u} (engine : AudioEngine ε)

/-- `Daemon::new`. -/
def new (e : ε) (loaded : LoadOutcome) (env : ControlEnv) : Daemon ε :=
  -- processing resumes only if the user opted in
  let config := { loaded.config with active := loaded.config.startWithNoiseReduction }
  let warned := loaded.warning.map fun _ => catalogErrorInfo
    (if loaded.source = .newerReadOnly then "config-newer-schema" else "config-recovered")
    "config" env.unixMillis
  let (result, e) := engine.apply config e
  let (observation, lastError) := match result with
    | .ok observation => (observation, warned)
    | .error error => ({ state := .degraded }, some (errorInfo error env.unixMillis))
  { config
    writable := loaded.writable
    revision := 1
    deviceRevision := if observation.devices = [] then 0 else 1
    devices := observation.devices
    engine := e
    observation
    lastError }

/-- The next revision, in a `u64`. -/
def nextRevision (revision : ℕ) : ℕ := saturatingAdd u64Max revision 1

/-- `Display` of a lifecycle state. -/
def stateText : LifecycleState → String
  | .stopped => "stopped"
  | .running => "running"
  | .degraded => "degraded"

/-- `snapshot`. -/
def snapshot (d : Daemon ε) (env : ControlEnv) : Snapshot where
  schemaVersion := 1
  apiVersion := "1.0"
  buildVersion := "1.1.16"
  revision := d.revision
  deviceRevision := d.deviceRevision
  state := stateText d.observation.state
  active := d.config.active
  launchAtLogin := d.config.launchAtLogin
  inputMode := match d.config.input.mode with
    | .selected => "selected"
    | .followDefault => "follow-default"
  inputStableId := d.config.input.stableId
  inputDisplayName := d.observation.inputDisplayName
  channel := channelText d.config.input.channel
  fallbackToDefault := d.config.input.fallbackToDefault
  sourceNodeName := reservedNodeName
  latencyProfile := match d.config.output.latencyProfile with
    | .low => "low"
    | .balanced => "balanced"
  suppressionEnabled := d.config.suppression.enabled
  strength := d.config.suppression.strength
  failMode := match d.config.suppression.failMode with
    | .closed => "closed"
    | .opened => "open"
  modelId := "org.noire.fastenhancer.base-48khz"
  modelDelaySamples := 512
  pipewireVersion := d.observation.pipewireVersion
  uptimeMillis := env.uptimeMillis
  hasError := d.lastError.isSome
  lastError := d.lastError.getD {}
  metrics := d.observation.metrics

/-! ## Observing

What the engine is doing is read here, by the monitor and by the list of inputs; a change is
adopted with a new revision.
-/

/-- The error a good observation leaves: its fault, or the last error, unless that was an audio
    error and the engine is not degraded. -/
def observedError (lastError : Option ErrorInfo) (observation : EngineObservation)
    (unixMillis : ℕ) : Option ErrorInfo :=
  match observation.fault with
  | some error => some (errorInfo error unixMillis)
  | none =>
    if observation.state ≠ .degraded && lastError.any (·.component = "audio") then none
    else lastError

/-- `refresh_observation`: whether public state changed. -/
def refreshObservation (d : Daemon ε) (env : ControlEnv) : Bool × Daemon ε :=
  let (result, e) := engine.observe d.observation d.engine
  let next := match result with
    | .ok observation =>
      let changed := observation.devices ≠ d.devices
      { d with
        engine := e
        lastError := observedError d.lastError observation env.unixMillis
        devices := if changed then observation.devices else d.devices
        deviceRevision := if changed then nextRevision d.deviceRevision else d.deviceRevision
        observation }
    -- An engine that cannot be observed is reported degraded, the rest as it was.
    | .error error =>
      { d with
        engine := e
        lastError := some (errorInfo error env.unixMillis)
        observation.state := .degraded }
  let changed := d.observation.state ≠ next.observation.state ||
    d.observation.inputDisplayName ≠ next.observation.inputDisplayName ||
    d.observation.pipewireVersion ≠ next.observation.pipewireVersion ||
    d.observation.fault.map (·.code) ≠ next.observation.fault.map (·.code)
  (changed, if changed then { next with revision := nextRevision next.revision } else next)

/-- `inputs`. -/
def inputs (d : Daemon ε) : Except ControlError (List InputDescriptor) × Daemon ε :=
  match engine.inputs d.engine with
  | (.error error, e) => (.error (.audio error), { d with engine := e })
  | (.ok next, e) =>
    let changed := next ≠ d.devices
    (.ok next,
      { d with
        engine := e
        devices := if changed then next else d.devices
        deviceRevision := if changed then nextRevision d.deviceRevision else d.deviceRevision
        observation.devices := next })

/-- `set_meter_monitoring`. -/
def setMeterMonitoring (d : Daemon ε) (enabled : Bool) : Except ControlError Unit × Daemon ε :=
  match engine.setMeterMonitoring enabled d.engine with
  | (.error error, e) => (.error (.audio error), { d with engine := e })
  | (.ok (), e) => (.ok (), { d with engine := e })

/-! ## Transactions

The setters differ in the change they ask for and are one function otherwise.  The two switches
look first whether they have anything to do; the two preferences do not go through the engine.
-/

/-- `mutate`: validate a changed configuration, apply it, persist it, and only then adopt it. -/
def mutate (d : Daemon ε) (expected : ℕ) (update : Config → Config) (env : ControlEnv) :
    Except ControlError Snapshot × Daemon ε :=
  if expected ≠ d.revision then (.error (.conflict expected d.revision), d)
  else if !d.writable then (.error .readOnly, d)
  else
    let candidate := update d.config
    match candidate.validate with
    | .error error => (.error (.invalid (error.path ++ ": " ++ error.message)), d)
    | .ok () =>
      match engine.apply candidate d.engine with
      | (.error error, e) =>
        (.error (.audio error),
          { d with engine := e, lastError := some (errorInfo error env.unixMillis) })
      | (.ok observation, e) =>
        match env.save with
        | .error persistence =>
          -- The configuration was not persisted: apply the previous one again.
          match engine.apply d.config e with
          | (.ok restored, e) =>
            (.error (.persistence persistence), { d with engine := e, observation := restored })
          | (.error rollback, e) =>
            (.error (.persistenceRollback persistence rollback),
              { d with
                engine := e
                lastError := some (errorInfo rollback env.unixMillis)
                observation := { d.observation with state := .degraded, fault := some rollback }
                revision := nextRevision d.revision })
        | .ok () =>
          let d :=
            { d with
              engine := e
              config := candidate
              observation
              lastError := none
              revision := nextRevision d.revision }
          (.ok (d.snapshot env), d)

/-- `start`. -/
def start (d : Daemon ε) (expected : ℕ) (env : ControlEnv) :
    Except ControlError Snapshot × Daemon ε :=
  if expected ≠ d.revision then (.error (.conflict expected d.revision), d)
  else if d.config.active then (.ok (d.snapshot env), d)
  else mutate engine d expected ({ · with active := true }) env

/-- `stop`. -/
def stop (d : Daemon ε) (expected : ℕ) (env : ControlEnv) :
    Except ControlError Snapshot × Daemon ε :=
  if expected ≠ d.revision then (.error (.conflict expected d.revision), d)
  else if !d.config.active then (.ok (d.snapshot env), d)
  else mutate engine d expected ({ · with active := false }) env

/-- The input `select_input` asks for. -/
def selectedInput (stableId : String) (input : InputConfig) : InputConfig :=
  if stableId = "" then { input with mode := .followDefault, stableId := "" }
  else { input with mode := .selected, stableId }

/-- `select_input`. -/
def selectInput (d : Daemon ε) (stableId : String) (expected : ℕ) (env : ControlEnv) :
    Except ControlError Snapshot × Daemon ε :=
  mutate engine d expected (fun c => { c with input := selectedInput stableId c.input }) env

/-- `set_suppression_enabled`. -/
def setSuppressionEnabled (d : Daemon ε) (enabled : Bool) (expected : ℕ) (env : ControlEnv) :
    Except ControlError Snapshot × Daemon ε :=
  mutate engine d expected ({ · with suppression.enabled := enabled }) env

/-- `set_strength`. -/
def setStrength (d : Daemon ε) (strength : F64) (expected : ℕ) (env : ControlEnv) :
    Except ControlError Snapshot × Daemon ε :=
  mutate engine d expected ({ · with suppression.strength := strength }) env

/-- `set_latency_profile`. -/
def setLatencyProfile (d : Daemon ε) (profile : LatencyProfile) (expected : ℕ)
    (env : ControlEnv) : Except ControlError Snapshot × Daemon ε :=
  mutate engine d expected ({ · with output.latencyProfile := profile }) env

/-- `set_fail_mode`. -/
def setFailMode (d : Daemon ε) (mode : FailMode) (expected : ℕ) (env : ControlEnv) :
    Except ControlError Snapshot × Daemon ε :=
  mutate engine d expected ({ · with suppression.failMode := mode }) env

/-- `set_start_with_noise_reduction`. -/
def setStartWithNoiseReduction (d : Daemon ε) (enabled : Bool) (expected : ℕ)
    (env : ControlEnv) : Except ControlError Snapshot × Daemon ε :=
  if expected ≠ d.revision then (.error (.conflict expected d.revision), d)
  else if !d.writable then (.error .readOnly, d)
  else if d.config.startWithNoiseReduction = enabled then (.ok (d.snapshot env), d)
  else
    match env.save with
    | .error persistence => (.error (.persistence persistence), d)
    | .ok () =>
      let d :=
        { d with
          config.startWithNoiseReduction := enabled
          lastError := none
          revision := nextRevision d.revision }
      (.ok (d.snapshot env), d)

/-- `set_launch_at_login`. -/
def setLaunchAtLogin (d : Daemon ε) (enabled : Bool) (expected : ℕ) (env : ControlEnv) :
    Except ControlError Snapshot × Daemon ε :=
  if expected ≠ d.revision then (.error (.conflict expected d.revision), d)
  else if !d.writable then (.error .readOnly, d)
  else if d.config.launchAtLogin = enabled then (.ok (d.snapshot env), d)
  else
    match env.setEnabled, env.save with
    | .error manager, _ => (.error (.launchManager manager), d)
    | .ok (), .error error =>
      let detail := match env.rollbackEnabled with
        | .error rollback => error ++ "; systemd rollback also failed: " ++ rollback
        | .ok () => error
      (.error (.persistence detail), d)
    | .ok (), .ok () =>
      let d :=
        { d with
          config.launchAtLogin := enabled
          revision := nextRevision d.revision
          lastError := none }
      (.ok (d.snapshot env), d)

/-- `retry`. -/
def retry (d : Daemon ε) (expected : ℕ) (env : ControlEnv) :
    Except ControlError Snapshot × Daemon ε :=
  if expected ≠ d.revision then (.error (.conflict expected d.revision), d)
  else
    match engine.retry d.config d.engine with
    | (.ok observation, e) =>
      let d :=
        { d with
          engine := e
          observation
          lastError := none
          revision := nextRevision d.revision }
      (.ok (d.snapshot env), d)
    | (.error error, e) =>
      (.error (.audio error),
        { d with
          engine := e
          lastError := some (errorInfo error env.unixMillis)
          observation.state := .degraded })

/-! ## Any operation

An operation carries its arguments; what it meets outside comes as `ControlEnv`.
-/

/-- The operations of the daemon. -/
inductive Operation
  | start (expected : ℕ)
  | stop (expected : ℕ)
  | selectInput (stableId : String) (expected : ℕ)
  | setSuppressionEnabled (enabled : Bool) (expected : ℕ)
  | setStrength (strength : F64) (expected : ℕ)
  | setLatencyProfile (profile : LatencyProfile) (expected : ℕ)
  | setFailMode (mode : FailMode) (expected : ℕ)
  | setStartWithNoiseReduction (enabled : Bool) (expected : ℕ)
  | setLaunchAtLogin (enabled : Bool) (expected : ℕ)
  | setMeterMonitoring (enabled : Bool)
  | retry (expected : ℕ)
  | refreshObservation
  | inputs

/-- The daemon after one operation. -/
def perform (d : Daemon ε) (operation : Operation) (env : ControlEnv) : Daemon ε :=
  match operation with
  | .start expected => (start engine d expected env).2
  | .stop expected => (stop engine d expected env).2
  | .selectInput stableId expected => (selectInput engine d stableId expected env).2
  | .setSuppressionEnabled enabled expected =>
    (setSuppressionEnabled engine d enabled expected env).2
  | .setStrength strength expected => (setStrength engine d strength expected env).2
  | .setLatencyProfile profile expected => (setLatencyProfile engine d profile expected env).2
  | .setFailMode mode expected => (setFailMode engine d mode expected env).2
  | .setStartWithNoiseReduction enabled expected =>
    (setStartWithNoiseReduction d enabled expected env).2
  | .setLaunchAtLogin enabled expected => (setLaunchAtLogin d enabled expected env).2
  | .setMeterMonitoring enabled => (setMeterMonitoring engine d enabled).2
  | .retry expected => (retry engine d expected env).2
  | .refreshObservation => (refreshObservation engine d env).2
  | .inputs => (inputs engine d).2

/-- The transaction of an operation that is one: the expected revision and the change. -/
def Operation.transaction : Operation → Option (ℕ × (Config → Config))
  | .start expected => some (expected, ({ · with active := true }))
  | .stop expected => some (expected, ({ · with active := false }))
  | .selectInput stableId expected =>
    some (expected, fun c => { c with input := selectedInput stableId c.input })
  | .setSuppressionEnabled enabled expected =>
    some (expected, ({ · with suppression.enabled := enabled }))
  | .setStrength strength expected => some (expected, ({ · with suppression.strength := strength }))
  | .setLatencyProfile profile expected =>
    some (expected, ({ · with output.latencyProfile := profile }))
  | .setFailMode mode expected => some (expected, ({ · with suppression.failMode := mode }))
  | .setStartWithNoiseReduction _ _ | .setLaunchAtLogin _ _ | .setMeterMonitoring _ | .retry _
  | .refreshObservation | .inputs => none

/-- The revision and the change of an operation that changes the configuration. -/
def Operation.change : Operation → Option (ℕ × (Config → Config))
  | .setStartWithNoiseReduction enabled expected =>
    some (expected, ({ · with startWithNoiseReduction := enabled }))
  | .setLaunchAtLogin enabled expected => some (expected, ({ · with launchAtLogin := enabled }))
  | operation => operation.transaction

/-! ## What the switches and the preferences can do

The two relations have one constructor an outcome.  A switch that finds processing as it is to be
returns at once, a preference never asks the engine.
-/

/-- What `start` and `stop` can do: they are refused, find processing as it is to be, or are a
    transaction. -/
inductive Activates (d : Daemon ε) (active : Bool) (expected : ℕ) (env : ControlEnv) :
    Except ControlError Snapshot × Daemon ε → Prop
  | conflict (hne : expected ≠ d.revision) :
    Activates d active expected env (.error (.conflict expected d.revision), d)
  | already (hactive : d.config.active = active) :
    Activates d active expected env (.ok (d.snapshot env), d)
  | transaction (hactive : d.config.active = !active) :
    Activates d active expected env (mutate engine d expected ({ · with active }) env)

/-- What the setter of a preference can do: it is refused, finds the preference as it is to be, or
    has saved `candidate`, which it does only if `saves`. -/
inductive Prefers (d : Daemon ε) (candidate : Config) (saves : Prop) (env : ControlEnv) :
    Except ControlError Snapshot × Daemon ε → Prop
  | refused (error : ControlError) : Prefers d candidate saves env (.error error, d)
  | already : Prefers d candidate saves env (.ok (d.snapshot env), d)
  | saved {d' : Daemon ε} (hsaves : saves)
    (hsaved : d' = { d with
      config := candidate
      lastError := none
      revision := nextRevision d.revision }) :
    Prefers d candidate saves env (.ok (d'.snapshot env), d')

section

variable (d : Daemon ε) (expected : ℕ) (env : ControlEnv)

theorem start_activates : Activates engine d true expected env (start engine d expected env) := by
  unfold start
  split
  · exact .conflict ‹_›
  split
  · exact .already ‹_›
  · exact .transaction (by simpa using ‹¬d.config.active = true›)

theorem stop_activates : Activates engine d false expected env (stop engine d expected env) := by
  unfold stop
  split
  · exact .conflict ‹_›
  split
  · exact .already (by simpa using ‹(!d.config.active) = true›)
  · exact .transaction (by simpa using ‹¬(!d.config.active) = true›)

theorem setStartWithNoiseReduction_prefers (enabled : Bool) :
    Prefers d { d.config with startWithNoiseReduction := enabled }
      (expected = d.revision ∧ d.writable = true ∧ d.config.startWithNoiseReduction ≠ enabled ∧
        env.save = .ok ()) env (setStartWithNoiseReduction d enabled expected env) := by
  unfold setStartWithNoiseReduction
  split
  · exact .refused _
  rename_i hrevision
  split
  · exact .refused _
  rename_i hwritable
  split
  · exact .already
  rename_i hchanges
  split
  · exact .refused _
  rename_i hsave
  exact .saved ⟨not_not.mp hrevision, by simpa using hwritable, hchanges, hsave⟩ rfl

theorem setLaunchAtLogin_prefers (enabled : Bool) :
    Prefers d { d.config with launchAtLogin := enabled }
      (expected = d.revision ∧ d.writable = true ∧ d.config.launchAtLogin ≠ enabled ∧
        env.setEnabled = .ok () ∧ env.save = .ok ()) env
      (setLaunchAtLogin d enabled expected env) := by
  unfold setLaunchAtLogin
  split
  · exact .refused _
  rename_i hrevision
  split
  · exact .refused _
  rename_i hwritable
  split
  · exact .already
  rename_i hchanges
  split
  · exact .refused _
  · exact .refused _
  rename_i hmanager hsave
  -- Past every guard both the manager and the store have done their part.
  exact .saved ⟨not_not.mp hrevision, by simpa using hwritable, hchanges, hmanager, hsave⟩ rfl

end

end Daemon

end Noire
