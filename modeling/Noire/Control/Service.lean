import Noire.Control.Daemon
import Noire.Lib.Pool

namespace Noire

/-!
# The D-Bus service

The adapter between the bus and the daemon.  A method is a program: it holds the daemon's lock
once or not at all, the subscribers' lock likewise, and emits its signals after it has let go of
the daemon.  Methods and monitor ticks run at the same time, and interleave between any two of
their operations.

* `Locked` — what one hold of the daemon's lock does;
* `ServiceOp` — the operations of the programs, and what they do to a `NoireService`;
* `NoireService.publish` / `NoireService.subscribeMeters` / ... — the programs;
* `ServiceCall` / `NoireService.system` — the calls, and how they run over one service.

Every emission succeeds.  What a call meets outside the service comes with it: the clocks, how
the store and the launch manager answer, and what the bus says of its clients.

The module has definitions only.  A method's program is written in the order of the source, with
an operation wherever another task may come between: at each lock, each emission, each load and
store of the flag.  What is read or changed inside one hold of the daemon's lock is one operation,
and calls `Control/Daemon.lean`.  The pool of `Lib/Pool.lean` runs the programs over one service,
and the service records what the claims about it speak of: the signals, the revisions that each
call raised, and the last call for meters.
-/

open Lib

/-! ## Errors

What a client hears of a rejected request, and the limiter that holds back repeated signals.
-/

/-- Stable D-Bus failures for rejected mutations. -/
inductive ServiceError
  | conflict (message : String)
  | invalidArgument (message : String)
  | unavailable (message : String)
  | rollbackFailed (message : String)
  | persistence (message : String)
  | launchManager (message : String)
  | busy (message : String)
  | internal (message : String)
  deriving DecidableEq

/-- `Display` of a rejected transaction. -/
def ControlError.text : ControlError → String
  | .conflict expected current =>
    "expected revision " ++ toString expected ++ ", current revision is " ++ toString current
  | .invalid message => "invalid candidate: " ++ message
  | .audio error => "audio unavailable: " ++ error.message
  | .persistence message => "persistence failed: " ++ message
  | .persistenceRollback detail rollback =>
    "persistence failed: " ++ detail ++ "; runtime rollback failed: " ++ rollback.message
  | .readOnly => "configuration belongs to a newer schema and is read-only"
  | .launchManager message => "launch manager failed: " ++ message

/-- `map_error`. -/
def mapError (error : ControlError) : ServiceError :=
  match error with
  | .conflict _ _ => .conflict error.text
  | .invalid _ => .invalidArgument error.text
  | .audio engine =>
    if engine.code = "audio-command-busy" then .busy engine.message
    else .unavailable engine.message
  | .persistence _ | .readOnly => .persistence error.text
  | .persistenceRollback _ _ => .rollbackFailed error.text
  | .launchManager _ => .launchManager error.text

/-- `public_error`: the event an error is logged as, and what clients are told. -/
def publicError (error : ControlError) (unixMillis : ℕ) : String × ErrorInfo :=
  let (event, code, component) := match error with
    | .conflict _ _ => ("control.conflict", "conflict", "control")
    | .invalid _ => ("control.invalid", "invalid-argument", "control")
    | .audio engine => ("audio.unavailable", engine.code, "audio")
    | .persistence _ => ("config.persistence", "config-persistence", "config")
    | .persistenceRollback _ _ => ("config.rollback-failed", "config-rollback-failed", "audio")
    | .readOnly => ("config.read-only", "config-newer-schema", "config")
    | .launchManager _ => ("systemd.manager", "launch-manager-unavailable", "systemd")
  let (message, recovery, retryable) := match errorCatalogEntry code, error with
    | some catalog, _ => (catalog.cause, catalog.recovery, catalog.retryable)
    | none, .audio engine => (engine.message, engine.recovery, engine.retryable)
    | none, _ =>
      ("Noire rejected the requested change.", "Refresh daemon state and retry.", false)
  (event, { code, message, recovery, component, retryable, timestampMillis := unixMillis })

/-- `EventRateLimiter`: when each event was last emitted, in milliseconds. -/
structure EventRateLimiter where
  interval : ℕ
  last : List (String × ℕ) := []

/-- `MAX_EVENT_KEYS`. -/
def maxEventKeys : ℕ := 64

/-- `should_emit`. -/
def EventRateLimiter.shouldEmit (limiter : EventRateLimiter) (event : String) (now : ℕ) :
    Bool × EventRateLimiter :=
  match limiter.last.lookup event with
  | some previous =>
    if now - previous < limiter.interval then (false, limiter)
    else
      (true, { limiter with
        last := limiter.last.map fun entry => if entry.1 = event then (event, now) else entry })
  | none =>
    if limiter.last.length ≥ maxEventKeys then (false, limiter)
    else (true, { limiter with last := (event, now) :: limiter.last })

/-! ## Holding the daemon

A hold of the lock is a function of the daemon.  What it returns depends on which hold it is.
-/

/-- The requests of a client that change the daemon. -/
inductive DaemonRequest
  | start (expected : ℕ)
  | stop (expected : ℕ)
  | setStartWithNoiseReduction (enabled : Bool) (expected : ℕ)
  | selectInput (stableId : String) (expected : ℕ)
  | setSuppressionEnabled (enabled : Bool) (expected : ℕ)
  | setStrength (strength : F64) (expected : ℕ)
  | setLatencyProfile (profile : LatencyProfile) (expected : ℕ)
  | setFailMode (mode : FailMode) (expected : ℕ)
  | retry (expected : ℕ)
  | setLaunchAtLogin (enabled : Bool) (expected : ℕ)

/-- The operation of the daemon behind a request. -/
def DaemonRequest.operation : DaemonRequest → Daemon.Operation
  | start expected => .start expected
  | stop expected => .stop expected
  | setStartWithNoiseReduction enabled expected => .setStartWithNoiseReduction enabled expected
  | selectInput stableId expected => .selectInput stableId expected
  | setSuppressionEnabled enabled expected => .setSuppressionEnabled enabled expected
  | setStrength strength expected => .setStrength strength expected
  | setLatencyProfile profile expected => .setLatencyProfile profile expected
  | setFailMode mode expected => .setFailMode mode expected
  | retry expected => .retry expected
  | setLaunchAtLogin enabled expected => .setLaunchAtLogin enabled expected

/-- Privacy-safe user-initiated diagnostic report. -/
structure DiagnosticReport where
  schemaVersion : ℕ
  buildVersion : String
  apiVersion : String
  state : String
  sourceNodeName : String
  selectedInputId : String
  lastErrorCode : String
  journalHint : String
  privacy : String

/-- What a tick of the monitor takes from the daemon. -/
structure Ticked where
  stateChanged : Bool
  deviceChanged : Bool
  snapshot : Snapshot

/-- What one hold of the daemon's lock does. -/
inductive Locked
  /-- A tick of `monitor`. -/
  | tick (env : ControlEnv)
  /-- `get_snapshot`. -/
  | snapshot (env : ControlEnv)
  /-- `list_inputs`. -/
  | inputs
  /-- A request. -/
  | request (request : DaemonRequest) (env : ControlEnv)
  /-- `get_start_with_noise_reduction`. -/
  | startWithNoiseReduction
  /-- `diagnostics`. -/
  | diagnostics (env : ControlEnv)
  /-- `set_meter_monitoring`, for one of three methods. -/
  | setMeterMonitoring (enabled : Bool)
  /-- `state_revision`. -/
  | revision
  /-- `device_revision`. -/
  | deviceRevision

/-- What a hold of the daemon's lock returns. -/
def Locked.Result : Locked → Type
  | .tick _ => Ticked
  | .snapshot _ => Bool × Snapshot
  | .inputs => Except ControlError (List InputDescriptor × ℕ × ℕ)
  | .request _ _ => Except ControlError Snapshot
  | .startWithNoiseReduction => Bool
  | .diagnostics _ => DiagnosticReport
  | .setMeterMonitoring _ => Except ControlError Unit
  | .revision | .deviceRevision => ℕ

namespace Daemon

variable {ε : Type} (engine : AudioEngine ε)

/-- `diagnostics`. -/
def diagnostics (d : Daemon ε) : DiagnosticReport where
  schemaVersion := 1
  buildVersion := "1.1.16"
  apiVersion := "1.0"
  state := stateText d.observation.state
  sourceNodeName := reservedNodeName
  selectedInputId := d.config.input.stableId
  lastErrorCode := match d.lastError with
    | none => ""
    | some error => error.code
  journalHint := "journalctl --user-unit=noire.service --since=-15min"
  privacy := "contains no audio, raw device properties, environment dump, or automatic upload"

/-- A request to the daemon. -/
def request (d : Daemon ε) (request : DaemonRequest) (env : ControlEnv) :
    Except ControlError Snapshot × Daemon ε :=
  match request with
  | .start expected => start engine d expected env
  | .stop expected => stop engine d expected env
  | .setStartWithNoiseReduction enabled expected =>
    setStartWithNoiseReduction d enabled expected env
  | .selectInput stableId expected => selectInput engine d stableId expected env
  | .setSuppressionEnabled enabled expected => setSuppressionEnabled engine d enabled expected env
  | .setStrength strength expected => setStrength engine d strength expected env
  | .setLatencyProfile profile expected => setLatencyProfile engine d profile expected env
  | .setFailMode mode expected => setFailMode engine d mode expected env
  | .retry expected => retry engine d expected env
  | .setLaunchAtLogin enabled expected => setLaunchAtLogin d enabled expected env

/-- The daemon is held: what is returned, and what is left. -/
def hold (d : Daemon ε) : (locked : Locked) → locked.Result × Daemon ε
  | .tick env =>
    let before := d.deviceRevision
    let (stateChanged, d) := refreshObservation engine d env
    ({ stateChanged, deviceChanged := before ≠ d.deviceRevision, snapshot := d.snapshot env }, d)
  | .snapshot env =>
    let (changed, d) := refreshObservation engine d env
    ((changed, d.snapshot env), d)
  | .inputs =>
    let before := d.deviceRevision
    match inputs engine d with
    | (.error error, d) => (.error error, d)
    | (.ok inputs, d) => (.ok (inputs, before, d.deviceRevision), d)
  | .request r env => request engine d r env
  | .startWithNoiseReduction => (d.config.startWithNoiseReduction, d)
  | .diagnostics env =>
    let (_, d) := refreshObservation engine d env
    (d.diagnostics, d)
  | .setMeterMonitoring enabled => setMeterMonitoring engine d enabled
  | .revision => (d.revision, d)
  | .deviceRevision => (d.deviceRevision, d)

end Daemon

/-! ## The service

The operations are what the programs are made of; `NoireService.exec` says what each of them does.
-/

/-- A signal on the bus. -/
inductive Signal
  | stateChanged (revision : ℕ)
  | devicesChanged (deviceRevision : ℕ)
  | errorRaised (error : ErrorInfo)
  | metersChanged (destination : String) (metrics : Metrics)

/-- An operation of a method. -/
inductive ServiceOp
  /-- Lock the daemon, use it, and let it go. -/
  | locked (hold : Locked)
  /-- Emit a signal. -/
  | emit (signal : Signal)
  /-- Ask the limiter of repeated errors. -/
  | shouldEmit (event : String) (now : ℕ)
  | lockSubscribers
  | unlockSubscribers
  | subscribers
  | insertSubscriber (caller : String)
  | removeSubscriber (caller : String)
  | noSubscribers
  | loadMonitoring
  | storeMonitoring (enabled : Bool)

/-- What an operation of a method returns. -/
def ServiceOp.Res : ServiceOp → Type
  | .locked hold => hold.Result
  | .emit _ | .lockSubscribers | .unlockSubscribers | .storeMonitoring _ => Unit
  | .shouldEmit _ _ | .insertSubscriber _ | .removeSubscriber _ | .noSubscribers
  | .loadMonitoring => Bool
  | .subscribers => List String

/-- A program of the service. -/
abbrev ServiceProg := Prog ServiceOp.Res

/-- How the bus answers about its clients. -/
structure Bus where
  /-- A proxy of the bus could be created. -/
  proxy : Bool := true
  /-- A name is one a client can have. -/
  validName : String → Bool := fun _ => true
  /-- The answer to whether a name has an owner, if there is one. -/
  nameHasOwner : String → Option Bool := fun _ => some true

/-- What a call to the service meets outside it. -/
structure ServiceEnv where
  control : ControlEnv := {}
  now : ℕ := 0
  unixMillis : ℕ := 0
  bus : Bus := {}

namespace NoireService

/-- Hold the daemon. -/
def locked (hold : Locked) : ServiceProg hold.Result := Prog.call (ServiceOp.locked hold)

/-- Emit a signal. -/
def emit (signal : Signal) : ServiceProg Unit := Prog.call (ServiceOp.emit signal)

/-- Whether a repeated error is to be emitted. -/
def shouldEmit (event : String) (now : ℕ) : ServiceProg Bool :=
  Prog.call (ServiceOp.shouldEmit event now)

/-- Wait for the subscribers' lock, and take it. -/
def lockSubscribers : ServiceProg Unit := Prog.call ServiceOp.lockSubscribers

/-- Let the subscribers' lock go. -/
def unlockSubscribers : ServiceProg Unit := Prog.call ServiceOp.unlockSubscribers

/-- The subscribers. -/
def subscribers : ServiceProg (List String) := Prog.call ServiceOp.subscribers

/-- Insert a subscriber: whether it is new. -/
def insertSubscriber (caller : String) : ServiceProg Bool :=
  Prog.call (ServiceOp.insertSubscriber caller)

/-- Remove a subscriber: whether it was one. -/
def removeSubscriber (caller : String) : ServiceProg Bool :=
  Prog.call (ServiceOp.removeSubscriber caller)

/-- Whether there are no subscribers. -/
def noSubscribers : ServiceProg Bool := Prog.call ServiceOp.noSubscribers

/-- Load the `meter_monitoring` flag. -/
def loadMonitoring : ServiceProg Bool := Prog.call ServiceOp.loadMonitoring

/-- Store the `meter_monitoring` flag. -/
def storeMonitoring (enabled : Bool) : ServiceProg Unit :=
  Prog.call (ServiceOp.storeMonitoring enabled)

/-- `&&` before an operation. -/
def andThen (first : Bool) (second : ServiceProg Bool) : ServiceProg Bool :=
  if first then second else pure false

/-- `if` without `else`. -/
def ifThen (condition : Bool) (action : ServiceProg Unit) : ServiceProg Unit :=
  if condition then action else pure ()

/-- The subscribers, copied under their lock. -/
def copySubscribers : ServiceProg (List String) := do
  lockSubscribers
  let subscribers ← subscribers
  unlockSubscribers
  pure subscribers

/-- The subscribers the bus does not confirm. -/
def disconnected (bus : Bus) (subscribers : List String) : List String :=
  subscribers.filter fun subscriber =>
    bus.validName subscriber && bus.nameHasOwner subscriber ≠ some true

/-- Remove subscribers, under their lock. -/
def removeSubscribers : List String → ServiceProg Unit
  | [] => pure ()
  | subscriber :: rest => do
    let _ ← removeSubscriber subscriber
    removeSubscribers rest

/-- The end of `prune_meter_subscribers`: without subscribers, metering is stopped. -/
def pruned (disconnected : List String) : ServiceProg Unit := do
  lockSubscribers
  removeSubscribers disconnected
  let idle ← noSubscribers
  let stopping ← andThen idle loadMonitoring
  let stopped ← andThen stopping do
    let result : Except ControlError Unit ← locked (.setMeterMonitoring false)
    pure result.isOk
  ifThen stopped (storeMonitoring false)
  unlockSubscribers

/-- `prune_meter_subscribers`. -/
def pruneMeterSubscribers (bus : Bus) : ServiceProg Unit := do
  let subscribers ← copySubscribers
  if subscribers = [] then pruned []
  else if bus.proxy then pruned (disconnected bus subscribers)
  else pure ()

/-- `meters_changed` to each subscriber. -/
def metersChanged (bus : Bus) (metrics : Metrics) : List String → ServiceProg Unit
  | [] => pure ()
  | subscriber :: rest => do
    ifThen (bus.validName subscriber) (emit (.metersChanged subscriber metrics))
    metersChanged bus metrics rest

/-- A tick of `monitor`, with its count of the ticks since the last prune, a `u8`. -/
def monitorTick (pruneTick : ℕ) (env : ServiceEnv) : ServiceProg ℕ := do
  let ticked : Ticked ← locked (.tick env.control)
  ifThen ticked.stateChanged (emit (.stateChanged ticked.snapshot.revision))
  ifThen ticked.deviceChanged (emit (.devicesChanged ticked.snapshot.deviceRevision))
  let pruneTick := (pruneTick + 1) % 256
  ifThen (10 ≤ pruneTick) (pruneMeterSubscribers env.bus)
  let subscribers ← copySubscribers
  metersChanged env.bus ticked.snapshot.metrics subscribers
  pure (if 10 ≤ pruneTick then 0 else pruneTick)

/-- `caller`. -/
def caller (sender : Option String) : Except ServiceError String :=
  match sender with
  | some sender => .ok sender
  | none => .error (.internal "D-Bus request did not identify its sender")

/-- `publish`. -/
def publish (result : Except ControlError Snapshot) (env : ServiceEnv) :
    ServiceProg (Except ServiceError Snapshot) :=
  match result with
  | .ok snapshot => do
    emit (.stateChanged snapshot.revision)
    pure (.ok snapshot)
  | .error error => do
    let (event, info) := publicError error env.unixMillis
    let emitting ← shouldEmit event env.now
    ifThen emitting (emit (.errorRaised info))
    pure (.error (mapError error))

/-- `get_snapshot`. -/
def getSnapshot (env : ServiceEnv) : ServiceProg Snapshot := do
  let (changed, snapshot) ← locked (.snapshot env.control)
  ifThen changed (emit (.stateChanged snapshot.revision))
  pure snapshot

/-- `list_inputs`. -/
def listInputs : ServiceProg (Except ServiceError (List InputDescriptor)) := do
  match ← locked .inputs with
  | .error error => pure (.error (mapError error))
  | .ok (inputs, before, after) =>
    ifThen (after ≠ before) (emit (.devicesChanged after))
    pure (.ok inputs)

/-- A request, and what it is answered with. -/
def request (request : DaemonRequest) (env : ServiceEnv) :
    ServiceProg (Except ServiceError Snapshot) := do
  let result ← locked (.request request env.control)
  publish result env

/-- `start`. -/
def start (expected : ℕ) : ServiceEnv → ServiceProg (Except ServiceError Snapshot) :=
  request (.start expected)

/-- `stop`. -/
def stop (expected : ℕ) : ServiceEnv → ServiceProg (Except ServiceError Snapshot) :=
  request (.stop expected)

/-- `get_start_with_noise_reduction`. -/
def getStartWithNoiseReduction : ServiceProg Bool := locked .startWithNoiseReduction

/-- `set_start_with_noise_reduction`. -/
def setStartWithNoiseReduction (enabled : Bool) (expected : ℕ) :
    ServiceEnv → ServiceProg (Except ServiceError Snapshot) :=
  request (.setStartWithNoiseReduction enabled expected)

/-- `select_input`. -/
def selectInput (stableId : String) (expected : ℕ) :
    ServiceEnv → ServiceProg (Except ServiceError Snapshot) :=
  request (.selectInput stableId expected)

/-- `set_suppression_enabled`. -/
def setSuppressionEnabled (enabled : Bool) (expected : ℕ) :
    ServiceEnv → ServiceProg (Except ServiceError Snapshot) :=
  request (.setSuppressionEnabled enabled expected)

/-- `set_strength`. -/
def setStrength (strength : F64) (expected : ℕ) :
    ServiceEnv → ServiceProg (Except ServiceError Snapshot) :=
  request (.setStrength strength expected)

/-- `set_latency_profile`. -/
def setLatencyProfile (profile : String) (expected : ℕ) (env : ServiceEnv) :
    ServiceProg (Except ServiceError Snapshot) :=
  match profile with
  | "low" => request (.setLatencyProfile .low expected) env
  | "balanced" => request (.setLatencyProfile .balanced expected) env
  | _ => pure (.error (.invalidArgument "latency profile must be low or balanced"))

/-- `set_fail_mode`. -/
def setFailMode (mode : String) (expected : ℕ) (env : ServiceEnv) :
    ServiceProg (Except ServiceError Snapshot) :=
  match mode with
  | "closed" => request (.setFailMode .closed expected) env
  | "open" => request (.setFailMode .opened expected) env
  | _ => pure (.error (.invalidArgument "fail mode must be closed or open"))

/-- `retry`. -/
def retry (expected : ℕ) : ServiceEnv → ServiceProg (Except ServiceError Snapshot) :=
  request (.retry expected)

/-- `set_launch_at_login`. -/
def setLaunchAtLogin (enabled : Bool) (expected : ℕ) :
    ServiceEnv → ServiceProg (Except ServiceError Snapshot) :=
  request (.setLaunchAtLogin enabled expected)

/-- `diagnostics`. -/
def diagnostics (env : ServiceEnv) : ServiceProg DiagnosticReport :=
  locked (.diagnostics env.control)

/-- `subscribe_meters`. -/
def subscribeMeters (sender : Option String) : ServiceProg (Except ServiceError Unit) :=
  match caller sender with
  | .error error => pure (.error error)
  | .ok caller => do
    lockSubscribers
    let inserted ← insertSubscriber caller
    let monitoring ← andThen inserted loadMonitoring
    if inserted && !monitoring then
      match ← locked (.setMeterMonitoring true) with
      | .error error =>
        let _ ← removeSubscriber caller
        unlockSubscribers
        pure (.error (mapError error))
      | .ok () =>
        storeMonitoring true
        unlockSubscribers
        pure (.ok ())
    else
      unlockSubscribers
      pure (.ok ())

/-- `unsubscribe_meters`. -/
def unsubscribeMeters (sender : Option String) : ServiceProg (Except ServiceError Unit) :=
  match caller sender with
  | .error error => pure (.error error)
  | .ok caller => do
    lockSubscribers
    let removed ← removeSubscriber caller
    let lastSubscriber ← andThen removed noSubscribers
    let stopping ← andThen lastSubscriber loadMonitoring
    if stopping then
      match ← locked (.setMeterMonitoring false) with
      | .error error =>
        let _ ← insertSubscriber caller
        unlockSubscribers
        pure (.error (mapError error))
      | .ok () =>
        storeMonitoring false
        unlockSubscribers
        pure (.ok ())
    else
      unlockSubscribers
      pure (.ok ())

/-- `state_revision`. -/
def stateRevision : ServiceProg ℕ := locked .revision

/-- `device_revision`. -/
def deviceRevision : ServiceProg ℕ := locked .deviceRevision

end NoireService

/-! ## Calls over one service

Each method of the interface is a call, and so is a tick of the monitor; the service they run over
is shared, and holds the two locks.
-/

/-- A call: a method, or a tick of the monitor. -/
inductive ServiceCall
  | monitorTick (pruneTick : ℕ) (env : ServiceEnv)
  | pruneMeterSubscribers (bus : Bus)
  | getSnapshot (env : ServiceEnv)
  | listInputs
  | start (expected : ℕ) (env : ServiceEnv)
  | stop (expected : ℕ) (env : ServiceEnv)
  | getStartWithNoiseReduction
  | setStartWithNoiseReduction (enabled : Bool) (expected : ℕ) (env : ServiceEnv)
  | selectInput (stableId : String) (expected : ℕ) (env : ServiceEnv)
  | setSuppressionEnabled (enabled : Bool) (expected : ℕ) (env : ServiceEnv)
  | setStrength (strength : F64) (expected : ℕ) (env : ServiceEnv)
  | setLatencyProfile (profile : String) (expected : ℕ) (env : ServiceEnv)
  | setFailMode (mode : String) (expected : ℕ) (env : ServiceEnv)
  | retry (expected : ℕ) (env : ServiceEnv)
  | setLaunchAtLogin (enabled : Bool) (expected : ℕ) (env : ServiceEnv)
  | diagnostics (env : ServiceEnv)
  | subscribeMeters (sender : Option String)
  | unsubscribeMeters (sender : Option String)
  | stateRevision
  | deviceRevision

/-- What a call runs; what it answers its client is left out. -/
def ServiceCall.program : ServiceCall → ServiceProg Unit
  | monitorTick pruneTick env => NoireService.monitorTick pruneTick env >>= fun _ => pure ()
  | pruneMeterSubscribers bus => NoireService.pruneMeterSubscribers bus
  | getSnapshot env => NoireService.getSnapshot env >>= fun _ => pure ()
  | listInputs => NoireService.listInputs >>= fun _ => pure ()
  | start expected env => NoireService.start expected env >>= fun _ => pure ()
  | stop expected env => NoireService.stop expected env >>= fun _ => pure ()
  | getStartWithNoiseReduction =>
    NoireService.getStartWithNoiseReduction >>= fun _ => pure ()
  | setStartWithNoiseReduction enabled expected env =>
    NoireService.setStartWithNoiseReduction enabled expected env >>= fun _ => pure ()
  | selectInput stableId expected env =>
    NoireService.selectInput stableId expected env >>= fun _ => pure ()
  | setSuppressionEnabled enabled expected env =>
    NoireService.setSuppressionEnabled enabled expected env >>= fun _ => pure ()
  | setStrength strength expected env =>
    NoireService.setStrength strength expected env >>= fun _ => pure ()
  | setLatencyProfile profile expected env =>
    NoireService.setLatencyProfile profile expected env >>= fun _ => pure ()
  | setFailMode mode expected env =>
    NoireService.setFailMode mode expected env >>= fun _ => pure ()
  | retry expected env => NoireService.retry expected env >>= fun _ => pure ()
  | setLaunchAtLogin enabled expected env =>
    NoireService.setLaunchAtLogin enabled expected env >>= fun _ => pure ()
  | diagnostics env => NoireService.diagnostics env >>= fun _ => pure ()
  | subscribeMeters sender => NoireService.subscribeMeters sender >>= fun _ => pure ()
  | unsubscribeMeters sender => NoireService.unsubscribeMeters sender >>= fun _ => pure ()
  | stateRevision => NoireService.stateRevision >>= fun _ => pure ()
  | deviceRevision => NoireService.deviceRevision >>= fun _ => pure ()

/-- What a call asked of the engine's meters, and whether it was accepted. -/
structure MeterCall where
  call : ServiceCall
  enabled : Bool
  accepted : Bool

/-- `NoireService`, with what has happened to it: the signals that were emitted, the revisions
    each call raised, as the signals they call for, and the last call for meters. -/
structure NoireService (ε : Type) where
  daemon : Daemon ε
  errorLimiter : EventRateLimiter := { interval := 5000 }
  meterSubscribers : List String := []
  meterMonitoring : Bool := false
  /-- The call that holds the subscribers' lock. -/
  subscribersLock : Option ℕ := none
  signals : List Signal := []
  raised : List (ℕ × Signal) := []
  lastMeterCall : Option MeterCall := none

namespace NoireService

/-- `new`. -/
def new {ε : Type} (daemon : Daemon ε) : NoireService ε := { daemon }

variable {ε : Type} (engine : AudioEngine ε)

/-- The revisions that differ, as the signals they call for. -/
def raises (before after : Daemon ε) : List Signal :=
  (if before.revision < after.revision then [.stateChanged after.revision] else []) ++
    if before.deviceRevision < after.deviceRevision then [.devicesChanged after.deviceRevision]
    else []

/-- What a hold of the daemon asked of the meters. -/
def meterCall (call : ServiceCall) : (hold : Locked) → hold.Result → Option MeterCall
  | .setMeterMonitoring enabled, result =>
    some { call, enabled, accepted := Except.isOk (ε := ControlError) (α := Unit) result }
  | _, _ => none

/-- An operation of call number `task`. -/
def exec (task : ℕ) (call : ServiceCall) :
    (o : ServiceOp) → NoireService ε → o.Res × NoireService ε
  | .locked hold, s =>
    let (result, daemon) := s.daemon.hold engine hold
    (result, { s with
      daemon
      raised := s.raised ++ (raises s.daemon daemon).map (task, ·)
      lastMeterCall := (meterCall call hold result).or s.lastMeterCall })
  | .emit signal, s => ((), { s with signals := s.signals ++ [signal] })
  | .shouldEmit event now, s =>
    let (emitting, errorLimiter) := s.errorLimiter.shouldEmit event now
    (emitting, { s with errorLimiter })
  | .lockSubscribers, s => ((), { s with subscribersLock := some task })
  | .unlockSubscribers, s => ((), { s with subscribersLock := none })
  | .subscribers, s => (s.meterSubscribers, s)
  | .insertSubscriber caller, s =>
    (decide (caller ∉ s.meterSubscribers),
      { s with meterSubscribers := s.meterSubscribers.insert caller })
  | .removeSubscriber caller, s =>
    (decide (caller ∈ s.meterSubscribers),
      { s with meterSubscribers := s.meterSubscribers.filter (· ≠ caller) })
  | .noSubscribers, s => (s.meterSubscribers.isEmpty, s)
  | .loadMonitoring, s => (s.meterMonitoring, s)
  | .storeMonitoring enabled, s => ((), { s with meterMonitoring := enabled })

/-- Only the subscribers' lock is waited for. -/
def ready : ServiceOp → NoireService ε → Bool
  | .lockSubscribers, s => s.subscribersLock.isNone
  | _, _ => true

/-- The calls over one service. -/
def system : Pool.System ServiceOp.Res ServiceCall (NoireService ε) where
  program := ServiceCall.program
  ready
  exec := exec engine

/-- A run of calls and ticks whose steps meet `C`. -/
abbrev Served (C : Pool ServiceOp.Res ServiceCall (NoireService ε) → Pool.Event ServiceCall → Prop)
    (d : Daemon ε) (events : List (Pool.Event ServiceCall))
    (p : Pool ServiceOp.Res ServiceCall (NoireService ε)) : Prop :=
  Pool.Runs (system engine) C { shared := new d } events p

end NoireService

end Noire
