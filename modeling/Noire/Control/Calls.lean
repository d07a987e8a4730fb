import Noire.Lib.Prog
import Noire.Control.Daemon

namespace Noire

/-!
# The calls of the daemon

The operations of the daemon as programs over what they call: the audio engine, the store and
the launch manager.  What a call returns is not fixed, so a program returns in as many ways as
its calls are answered.

* `DaemonCall` — a call, with what it returns (`DaemonCall.Answer`);
* `Operation.calls` — an operation, as a program over its calls, with `mutateCalls`;
* `Changing` — the paths an operation that asks for a change can take; `Operation.calls_changing`:
  each takes one of them, so what holds of every path holds of every such operation;
* `Operation.calls_run` — answered by an engine and an environment, it is `Daemon.perform`.

A daemon that answers from an engine does one thing; a daemon whose calls may be answered in any
way does many.  The claims about failures are about all of these, so the operations are written a
second time as programs, over a daemon without an engine, and `Operation.calls_run` says that the
two agree.

Most of the operations ask for a change of the configuration and go through the same few steps.
`Changing` lists the paths: refused, already made, applied and saved, saved only, or handed to the
launch manager and saved.  What is proved of these five is proved of all of them.
-/

open Lib

universe u

/-! ## Calls

The operations of the daemon once more, with its calls of the engine, the store and the launch
manager made one at a time, as a program.
-/

/-- A call of the daemon: of the engine, of the store, or of the launch manager. -/
inductive DaemonCall
  | apply (config : Config)
  | retry (config : Config)
  | observe (previous : EngineObservation)
  | setMeterMonitoring (enabled : Bool)
  | inputs
  | save (candidate : Config)
  | setEnabled (enabled : Bool)

/-- What a call returns; the errors of the store and of the launch manager are their texts. -/
abbrev DaemonCall.Answer : DaemonCall → Type
  | apply _ => Except EngineError EngineObservation
  | retry _ => Except EngineError EngineObservation
  | observe _ => Except EngineError EngineObservation
  | setMeterMonitoring _ => Except EngineError Unit
  | inputs => Except EngineError (List InputDescriptor)
  | save _ => Except String Unit
  | setEnabled _ => Except String Unit

/-- A program over these calls. -/
abbrev DaemonProg := Prog DaemonCall.Answer

/-- The calls a program made, each with its answer. -/
abbrev Calls := List ((call : DaemonCall) × call.Answer)

namespace DaemonCall

/-- Call the engine's `apply`. -/
def applied (config : Config) : DaemonProg (Except EngineError EngineObservation) :=
  Prog.call (DaemonCall.apply config)

/-- Call the engine's `retry`. -/
def retried (config : Config) : DaemonProg (Except EngineError EngineObservation) :=
  Prog.call (DaemonCall.retry config)

/-- Call the engine's `observe`. -/
def observed (previous : EngineObservation) : DaemonProg (Except EngineError EngineObservation) :=
  Prog.call (DaemonCall.observe previous)

/-- Call the engine's `set_meter_monitoring`. -/
def metered (enabled : Bool) : DaemonProg (Except EngineError Unit) :=
  Prog.call (DaemonCall.setMeterMonitoring enabled)

/-- Call the engine's `inputs`. -/
def listed : DaemonProg (Except EngineError (List InputDescriptor)) :=
  Prog.call DaemonCall.inputs

/-- Call the store's `save`. -/
def saved (candidate : Config) : DaemonProg (Except String Unit) :=
  Prog.call (DaemonCall.save candidate)

/-- Call the launch manager's `set_enabled`. -/
def managed (enabled : Bool) : DaemonProg (Except String Unit) :=
  Prog.call (DaemonCall.setEnabled enabled)

end DaemonCall

namespace Daemon

open DaemonCall

/-- The daemon without its engine. -/
def detached {ε : Type u} (d : Daemon ε) : Daemon Unit where
  config := d.config
  writable := d.writable
  revision := d.revision
  deviceRevision := d.deviceRevision
  devices := d.devices
  engine := ()
  observation := d.observation
  lastError := d.lastError

/-! ## Operations

A program makes a call where the source does, and decides what the source decides of its answer.
Each of these is named after the method, with `Calls` behind it.
-/

/-- `Daemon::new`. -/
def newCalls (loaded : LoadOutcome) (env : ControlEnv) : DaemonProg (Daemon Unit) := do
  let config := { loaded.config with active := loaded.config.startWithNoiseReduction }
  let warned := loaded.warning.map fun _ => catalogErrorInfo
    (if loaded.source = .newerReadOnly then "config-newer-schema" else "config-recovered")
    "config" env.unixMillis
  let (observation, lastError) := match ← applied config with
    | .ok observation => (observation, warned)
    | .error error => ({ state := .degraded }, some (errorInfo error env.unixMillis))
  pure
    { config
      writable := loaded.writable
      revision := 1
      deviceRevision := if observation.devices = [] then 0 else 1
      devices := observation.devices
      engine := ()
      observation
      lastError }

/-- What `mutate` does with a candidate that is valid. -/
def applyCandidate (d : Daemon Unit) (candidate : Config) (env : ControlEnv) :
    DaemonProg (Except ControlError Snapshot × Daemon Unit) := do
  match ← applied candidate with
  | .error error =>
    pure (.error (.audio error), { d with lastError := some (errorInfo error env.unixMillis) })
  | .ok observation =>
    match ← saved candidate with
    | .error persistence =>
      match ← applied d.config with
      | .ok restored =>
        pure (.error (.persistence persistence), { d with observation := restored })
      | .error rollback =>
        pure (.error (.persistenceRollback persistence rollback),
          { d with
            lastError := some (errorInfo rollback env.unixMillis)
            observation := { d.observation with state := .degraded, fault := some rollback }
            revision := nextRevision d.revision })
    | .ok () =>
      let d :=
        { d with
          config := candidate
          observation
          lastError := none
          revision := nextRevision d.revision }
      pure (.ok (d.snapshot env), d)

/-- `mutate`. -/
def mutateCalls (d : Daemon Unit) (expected : ℕ) (update : Config → Config) (env : ControlEnv) :
    DaemonProg (Except ControlError Snapshot × Daemon Unit) :=
  if expected ≠ d.revision then pure (.error (.conflict expected d.revision), d)
  else if !d.writable then pure (.error .readOnly, d)
  else
    let candidate := update d.config
    match candidate.validate with
    | .error error => pure (.error (.invalid (error.path ++ ": " ++ error.message)), d)
    | .ok () => applyCandidate d candidate env

/-- `start`. -/
def startCalls (d : Daemon Unit) (expected : ℕ) (env : ControlEnv) :
    DaemonProg (Except ControlError Snapshot × Daemon Unit) :=
  if expected ≠ d.revision then pure (.error (.conflict expected d.revision), d)
  else if d.config.active then pure (.ok (d.snapshot env), d)
  else mutateCalls d expected ({ · with active := true }) env

/-- `stop`. -/
def stopCalls (d : Daemon Unit) (expected : ℕ) (env : ControlEnv) :
    DaemonProg (Except ControlError Snapshot × Daemon Unit) :=
  if expected ≠ d.revision then pure (.error (.conflict expected d.revision), d)
  else if !d.config.active then pure (.ok (d.snapshot env), d)
  else mutateCalls d expected ({ · with active := false }) env

/-- What a preference is saved by, once it is to change. -/
def savePreference (d : Daemon Unit) (candidate : Config) (env : ControlEnv) :
    DaemonProg (Except ControlError Snapshot × Daemon Unit) := do
  match ← saved candidate with
  | .error persistence => pure (.error (.persistence persistence), d)
  | .ok () =>
    let d :=
      { d with
        config := candidate
        lastError := none
        revision := nextRevision d.revision }
    pure (.ok (d.snapshot env), d)

/-- `set_start_with_noise_reduction`. -/
def setStartWithNoiseReductionCalls (d : Daemon Unit) (enabled : Bool) (expected : ℕ)
    (env : ControlEnv) : DaemonProg (Except ControlError Snapshot × Daemon Unit) :=
  if expected ≠ d.revision then pure (.error (.conflict expected d.revision), d)
  else if !d.writable then pure (.error .readOnly, d)
  else if d.config.startWithNoiseReduction = enabled then pure (.ok (d.snapshot env), d)
  else savePreference d { d.config with startWithNoiseReduction := enabled } env

/-- What the launch setting is made and saved by, once it is to change. -/
def manageLaunch (d : Daemon Unit) (enabled : Bool) (candidate : Config) (env : ControlEnv) :
    DaemonProg (Except ControlError Snapshot × Daemon Unit) := do
  match ← managed enabled with
  | .error manager => pure (.error (.launchManager manager), d)
  | .ok () =>
    match ← saved candidate with
    | .error error =>
      let detail := match ← managed !enabled with
        | .error rollback => error ++ "; systemd rollback also failed: " ++ rollback
        | .ok () => error
      pure (.error (.persistence detail), d)
    | .ok () =>
      let d :=
        { d with
          config := candidate
          revision := nextRevision d.revision
          lastError := none }
      pure (.ok (d.snapshot env), d)

/-- `set_launch_at_login`. -/
def setLaunchAtLoginCalls (d : Daemon Unit) (enabled : Bool) (expected : ℕ) (env : ControlEnv) :
    DaemonProg (Except ControlError Snapshot × Daemon Unit) :=
  if expected ≠ d.revision then pure (.error (.conflict expected d.revision), d)
  else if !d.writable then pure (.error .readOnly, d)
  else if d.config.launchAtLogin = enabled then pure (.ok (d.snapshot env), d)
  else manageLaunch d enabled { d.config with launchAtLogin := enabled } env

/-- `retry`. -/
def retryCalls (d : Daemon Unit) (expected : ℕ) (env : ControlEnv) :
    DaemonProg (Except ControlError Snapshot × Daemon Unit) :=
  if expected ≠ d.revision then pure (.error (.conflict expected d.revision), d)
  else do
    match ← retried d.config with
    | .ok observation =>
      let d := { d with observation, lastError := none, revision := nextRevision d.revision }
      pure (.ok (d.snapshot env), d)
    | .error error =>
      pure (.error (.audio error),
        { d with
          lastError := some (errorInfo error env.unixMillis)
          observation.state := .degraded })

/-- What the answer of the engine's `observe` makes of the daemon. -/
def adopted {ε : Type u} (d : Daemon ε) (result : Except EngineError EngineObservation)
    (env : ControlEnv) : Daemon ε :=
  match result with
  | .ok observation =>
    let changed := observation.devices ≠ d.devices
    { d with
      lastError := observedError d.lastError observation env.unixMillis
      devices := if changed then observation.devices else d.devices
      deviceRevision := if changed then nextRevision d.deviceRevision else d.deviceRevision
      observation }
  | .error error =>
    { d with
      lastError := some (errorInfo error env.unixMillis)
      observation.state := .degraded }

/-- The changes of the observation that a refresh counts as changes of the public state. -/
def publiclyChanged (previous next : EngineObservation) : Bool :=
  previous.state ≠ next.state ||
    previous.inputDisplayName ≠ next.inputDisplayName ||
    previous.pipewireVersion ≠ next.pipewireVersion ||
    previous.fault.map (·.code) ≠ next.fault.map (·.code)

/-- The daemon after a refresh, with whether public state changed. -/
def announced {ε : Type u} (previous : EngineObservation) (next : Daemon ε) : Bool × Daemon ε :=
  (publiclyChanged previous next.observation,
    if publiclyChanged previous next.observation then
      { next with revision := nextRevision next.revision }
    else next)

/-- What is adopted of an answer changes neither the configuration nor the revision. -/
theorem adopted_keeps {ε : Type u} (d : Daemon ε) (result : Except EngineError EngineObservation)
    (env : ControlEnv) : (adopted d result env).config = d.config ∧
      (adopted d result env).revision = d.revision := by
  cases result with
  | error error => exact ⟨rfl, rfl⟩
  | ok observation => exact ⟨rfl, rfl⟩

/-- A refresh that changes public state is counted, and one that does not leaves what was
    adopted. -/
theorem announced_cases {ε : Type u} (previous : EngineObservation) (next : Daemon ε) :
    (publiclyChanged previous next.observation = false ∧ announced previous next = (false, next)) ∨
      (publiclyChanged previous next.observation = true ∧
        announced previous next =
          (true, { next with revision := nextRevision next.revision })) := by
  unfold announced
  cases publiclyChanged previous next.observation with
  | false => exact .inl ⟨rfl, rfl⟩
  | true => exact .inr ⟨rfl, rfl⟩

/-- A refresh is what it makes of the engine's answer. -/
theorem refreshObservation_eq {ε : Type u} (engine : AudioEngine ε) (d : Daemon ε)
    (env : ControlEnv) :
    refreshObservation engine d env =
      announced d.observation
        (adopted { d with engine := (engine.observe d.observation d.engine).2 }
          (engine.observe d.observation d.engine).1 env) := by
  rfl

/-- `refresh_observation`. -/
def refreshObservationCalls (d : Daemon Unit) (env : ControlEnv) :
    DaemonProg (Bool × Daemon Unit) := do
  let result ← observed d.observation
  pure (announced d.observation (adopted d result env))

/-- `inputs`. -/
def inputsCalls (d : Daemon Unit) :
    DaemonProg (Except ControlError (List InputDescriptor) × Daemon Unit) := do
  match ← listed with
  | .error error => pure (.error (.audio error), d)
  | .ok next =>
    let changed := next ≠ d.devices
    pure (.ok next,
      { d with
        devices := if changed then next else d.devices
        deviceRevision := if changed then nextRevision d.deviceRevision else d.deviceRevision
        observation.devices := next })

/-- `set_meter_monitoring`. -/
def setMeterMonitoringCalls (d : Daemon Unit) (enabled : Bool) :
    DaemonProg (Except ControlError Unit × Daemon Unit) := do
  match ← metered enabled with
  | .error error => pure (.error (.audio error), d)
  | .ok () => pure (.ok (), d)

/-- What an operation returns. -/
inductive Reply
  | snapshot (result : Except ControlError Snapshot)
  | inputs (result : Except ControlError (List InputDescriptor))
  | unit (result : Except ControlError Unit)
  | changed (changed : Bool)

/-- One operation. -/
def Operation.calls (operation : Operation) (d : Daemon Unit) (env : ControlEnv) :
    DaemonProg (Reply × Daemon Unit) :=
  match operation with
  | start expected => Prod.map .snapshot id <$> startCalls d expected env
  | stop expected => Prod.map .snapshot id <$> stopCalls d expected env
  | selectInput stableId expected =>
    Prod.map .snapshot id <$>
      mutateCalls d expected (fun c => { c with input := selectedInput stableId c.input }) env
  | setSuppressionEnabled enabled expected =>
    Prod.map .snapshot id <$>
      mutateCalls d expected ({ · with suppression.enabled := enabled }) env
  | setStrength strength expected =>
    Prod.map .snapshot id <$>
      mutateCalls d expected ({ · with suppression.strength := strength }) env
  | setLatencyProfile profile expected =>
    Prod.map .snapshot id <$>
      mutateCalls d expected ({ · with output.latencyProfile := profile }) env
  | setFailMode mode expected =>
    Prod.map .snapshot id <$>
      mutateCalls d expected ({ · with suppression.failMode := mode }) env
  | setStartWithNoiseReduction enabled expected =>
    Prod.map .snapshot id <$> setStartWithNoiseReductionCalls d enabled expected env
  | setLaunchAtLogin enabled expected =>
    Prod.map .snapshot id <$> setLaunchAtLoginCalls d enabled expected env
  | setMeterMonitoring enabled => Prod.map .unit id <$> setMeterMonitoringCalls d enabled
  | retry expected => Prod.map .snapshot id <$> retryCalls d expected env
  | refreshObservation => Prod.map .changed id <$> refreshObservationCalls d env
  | inputs => Prod.map .inputs id <$> inputsCalls d

/-! ## The paths of a change

The two preferences differ from the other changes: they do not reach the engine.  Their candidates
are valid because the configuration was.
-/

/-- The candidate differs in the preferences only, which no check looks at and the engine has no use
    for. -/
def Preference (config candidate : Config) : Prop :=
  ∃ start launch, candidate =
    { config with startWithNoiseReduction := start, launchAtLogin := launch }

/-- What an operation that asks for a change can do: it is refused before its first call, finds the
    change made, or takes one of three paths with a candidate that may be saved. -/
inductive Changing (d : Daemon Unit) (expected : ℕ) (update : Config → Config) (env : ControlEnv) :
    DaemonProg (Except ControlError Snapshot × Daemon Unit) → Prop
  | conflict (hne : expected ≠ d.revision) :
    Changing d expected update env (pure (.error (.conflict expected d.revision), d))
  | readOnly (hrevision : expected = d.revision) :
    Changing d expected update env (pure (.error .readOnly, d))
  | invalid (hrevision : expected = d.revision) (message : String) :
    Changing d expected update env (pure (.error (.invalid message), d))
  | made (hrevision : expected = d.revision) (hsame : update d.config = d.config) :
    Changing d expected update env (pure (.ok (d.snapshot env), d))
  | applied (hrevision : expected = d.revision) (hwritable : d.writable = true)
    (hvalid : (update d.config).validate = .ok ()) :
    Changing d expected update env (applyCandidate d (update d.config) env)
  | saved (hrevision : expected = d.revision) (hwritable : d.writable = true)
    (hpreference : Preference d.config (update d.config)) :
    Changing d expected update env (savePreference d (update d.config) env)
  | managed (hrevision : expected = d.revision) (hwritable : d.writable = true)
    (hpreference : Preference d.config (update d.config)) (enabled : Bool) :
    Changing d expected update env (manageLaunch d enabled (update d.config) env)

section

variable {d : Daemon Unit} {env : ControlEnv} {expected : ℕ} {update : Config → Config}

/-- A valid configuration stays valid under another preference. -/
theorem Preference.valid {config candidate : Config} (h : Preference config candidate)
    (hvalid : config.Valid) : candidate.Valid := by
  obtain ⟨start, launch, rfl⟩ := h
  exact ⟨hvalid.schema, hvalid.selected, hvalid.followDefault, hvalid.strength⟩

theorem mutateCalls_changing :
    Changing d expected update env (mutateCalls d expected update env) := by
  unfold mutateCalls
  split
  · exact .conflict ‹_›
  rename_i hrevision
  split
  · exact .readOnly (not_not.mp hrevision)
  rename_i hwritable
  dsimp only
  split
  · exact .invalid (not_not.mp hrevision) _
  · exact .applied (not_not.mp hrevision) (by simpa using hwritable) ‹_›

/-- **The table of the changes.** Every operation that asks for a change takes one of the paths. -/
theorem Operation.calls_changing {operation : Operation} (d : Daemon Unit) (env : ControlEnv)
    (hchange : operation.change = some (expected, update)) :
    ∃ p, operation.calls d env = Prod.map Reply.snapshot id <$> p ∧
      Changing d expected update env p := by
  cases operation with
  -- A switch that finds processing as it is to be makes no call.
  | start expected' =>
    cases hchange
    refine ⟨_, rfl, ?_⟩
    unfold startCalls
    split
    · exact .conflict ‹_›
    rename_i hrevision
    split
    · rename_i hactive
      exact .made (not_not.mp hrevision)
        (congrArg (fun active => { d.config with active }) hactive.symm)
    · exact mutateCalls_changing
  | stop expected' =>
    cases hchange
    refine ⟨_, rfl, ?_⟩
    unfold stopCalls
    split
    · exact .conflict ‹_›
    rename_i hrevision
    split
    · rename_i hactive
      have hinactive : false = d.config.active := by simpa using hactive
      exact .made (not_not.mp hrevision)
        (congrArg (fun active => { d.config with active }) hinactive)
    · exact mutateCalls_changing
  -- The setters are transactions and nothing else.
  | selectInput _ _ | setSuppressionEnabled _ _ | setStrength _ _ | setLatencyProfile _ _
  | setFailMode _ _ =>
    cases hchange
    exact ⟨_, rfl, mutateCalls_changing⟩
  -- The preferences look at the revision and at the store first, and only then whether they differ.
  | setStartWithNoiseReduction enabled expected' =>
    cases hchange
    refine ⟨_, rfl, ?_⟩
    unfold setStartWithNoiseReductionCalls
    split
    · exact .conflict ‹_›
    rename_i hrevision
    split
    · exact .readOnly (not_not.mp hrevision)
    rename_i hwritable
    split
    · rename_i hsame
      exact .made (not_not.mp hrevision)
        (congrArg (fun start => { d.config with startWithNoiseReduction := start }) hsame.symm)
    · exact .saved (not_not.mp hrevision) (by simpa using hwritable)
        ⟨_, d.config.launchAtLogin, rfl⟩
  | setLaunchAtLogin enabled expected' =>
    cases hchange
    refine ⟨_, rfl, ?_⟩
    unfold setLaunchAtLoginCalls
    split
    · exact .conflict ‹_›
    rename_i hrevision
    split
    · exact .readOnly (not_not.mp hrevision)
    rename_i hwritable
    split
    · rename_i hsame
      exact .made (not_not.mp hrevision)
        (congrArg (fun launch => { d.config with launchAtLogin := launch }) hsame.symm)
    · exact .managed (not_not.mp hrevision) (by simpa using hwritable)
        ⟨d.config.startWithNoiseReduction, _, rfl⟩ enabled
  | setMeterMonitoring _ | retry _ | refreshObservation | inputs => cases hchange

end

/-! ## Answered by an engine

One lemma for each operation, each by following the branches of both sides together.
-/

variable {ε : Type} (engine : AudioEngine ε)

/-- How an engine and an environment answer a call; the state tells whether the launch manager
    was called before. -/
def answer (env : ControlEnv) : (call : DaemonCall) → ε × Bool → call.Answer × (ε × Bool)
  | .apply config, (e, called) => ((engine.apply config e).1, (engine.apply config e).2, called)
  | .retry config, (e, called) => ((engine.retry config e).1, (engine.retry config e).2, called)
  | .observe previous, (e, called) =>
    ((engine.observe previous e).1, (engine.observe previous e).2, called)
  | .setMeterMonitoring enabled, (e, called) =>
    ((engine.setMeterMonitoring enabled e).1, (engine.setMeterMonitoring enabled e).2, called)
  | .inputs, (e, called) => ((engine.inputs e).1, (engine.inputs e).2, called)
  | .save _, (e, called) => (env.save, e, called)
  | .setEnabled _, (e, called) =>
    -- the second call is the rollback of the first
    (if called then env.rollbackEnabled else env.setEnabled, e, true)

/-- `Daemon::new`. -/
theorem newCalls_run (e : ε) (loaded : LoadOutcome) (env : ControlEnv) :
    (newCalls loaded env).run (answer engine env) (e, false) =
      some ((new engine e loaded env).detached, (new engine e loaded env).engine, false) := by
  rfl

/-- A transaction. -/
theorem mutateCalls_run (d : Daemon ε) (expected : ℕ) (update : Config → Config)
    (env : ControlEnv) :
    (mutateCalls d.detached expected update env).run (answer engine env) (d.engine, false) =
      some (((mutate engine d expected update env).1,
        (mutate engine d expected update env).2.detached),
        (mutate engine d expected update env).2.engine, false) := by
  dsimp only [mutateCalls, mutate, detached]
  -- The guards in the order of the source, each of them without a call.
  by_cases hrevision : expected ≠ d.revision
  · rw [if_pos hrevision, if_pos hrevision]
    rfl
  rw [if_neg hrevision, if_neg hrevision]
  by_cases hwritable : (!d.writable) = true
  · rw [if_pos hwritable, if_pos hwritable]
    rfl
  rw [if_neg hwritable, if_neg hwritable]
  cases hvalid : (update d.config).validate with
  | error error => rfl
  | ok _ =>
    -- From here on each call is answered as the environment has it.
    simp only [applyCandidate, applied, saved, Prog.run_call_bind, answer]
    rcases engine.apply (update d.config) d.engine with ⟨error | observation, e⟩
    · rfl
    · simp only [Prog.run_call_bind, answer]
      cases hsave : env.save with
      | ok _ => rfl
      | error persistence =>
        simp only [Prog.run_call_bind, answer]
        rcases engine.apply d.config e with ⟨rollback | restored, e'⟩
        · rfl
        · rfl

/-- `start`. -/
theorem startCalls_run (d : Daemon ε) (expected : ℕ) (env : ControlEnv) :
    (startCalls d.detached expected env).run (answer engine env) (d.engine, false) =
      some (((start engine d expected env).1, (start engine d expected env).2.detached),
        (start engine d expected env).2.engine, false) := by
  unfold startCalls start
  by_cases hrevision : expected ≠ d.revision
  · rw [if_pos hrevision, if_pos (show expected ≠ d.detached.revision from hrevision)]
    rfl
  rw [if_neg hrevision, if_neg (show ¬expected ≠ d.detached.revision from hrevision)]
  by_cases hactive : d.config.active = true
  · rw [if_pos hactive, if_pos (show d.detached.config.active = true from hactive)]
    rfl
  · rw [if_neg hactive, if_neg (show ¬d.detached.config.active = true from hactive)]
    exact mutateCalls_run engine d expected _ env

/-- `stop`. -/
theorem stopCalls_run (d : Daemon ε) (expected : ℕ) (env : ControlEnv) :
    (stopCalls d.detached expected env).run (answer engine env) (d.engine, false) =
      some (((stop engine d expected env).1, (stop engine d expected env).2.detached),
        (stop engine d expected env).2.engine, false) := by
  unfold stopCalls stop
  by_cases hrevision : expected ≠ d.revision
  · rw [if_pos hrevision, if_pos (show expected ≠ d.detached.revision from hrevision)]
    rfl
  rw [if_neg hrevision, if_neg (show ¬expected ≠ d.detached.revision from hrevision)]
  by_cases hactive : (!d.config.active) = true
  · rw [if_pos hactive, if_pos (show (!d.detached.config.active) = true from hactive)]
    rfl
  · rw [if_neg hactive, if_neg (show ¬(!d.detached.config.active) = true from hactive)]
    exact mutateCalls_run engine d expected _ env

/-- `set_start_with_noise_reduction`. -/
theorem setStartWithNoiseReductionCalls_run (d : Daemon ε) (enabled : Bool) (expected : ℕ)
    (env : ControlEnv) :
    (setStartWithNoiseReductionCalls d.detached enabled expected env).run (answer engine env)
        (d.engine, false) =
      some (((setStartWithNoiseReduction d enabled expected env).1,
        (setStartWithNoiseReduction d enabled expected env).2.detached),
        (setStartWithNoiseReduction d enabled expected env).2.engine, false) := by
  dsimp only [setStartWithNoiseReductionCalls, setStartWithNoiseReduction, detached]
  by_cases hrevision : expected ≠ d.revision
  · rw [if_pos hrevision, if_pos hrevision]
    rfl
  rw [if_neg hrevision, if_neg hrevision]
  by_cases hwritable : (!d.writable) = true
  · rw [if_pos hwritable, if_pos hwritable]
    rfl
  rw [if_neg hwritable, if_neg hwritable]
  by_cases hsame : d.config.startWithNoiseReduction = enabled
  · rw [if_pos hsame, if_pos hsame]
    rfl
  rw [if_neg hsame, if_neg hsame]
  -- Past the guards there is one call, the save.
  simp only [savePreference, saved, Prog.run_call_bind, answer]
  cases env.save with
  | error persistence => rfl
  | ok _ => rfl

/-- `set_launch_at_login`. -/
theorem setLaunchAtLoginCalls_run (d : Daemon ε) (enabled : Bool) (expected : ℕ)
    (env : ControlEnv) :
    ∃ called, (setLaunchAtLoginCalls d.detached enabled expected env).run (answer engine env)
        (d.engine, false) =
      some (((setLaunchAtLogin d enabled expected env).1,
        (setLaunchAtLogin d enabled expected env).2.detached),
        (setLaunchAtLogin d enabled expected env).2.engine, called) := by
  dsimp only [setLaunchAtLoginCalls, setLaunchAtLogin, detached]
  by_cases hrevision : expected ≠ d.revision
  · rw [if_pos hrevision, if_pos hrevision]
    exact ⟨false, rfl⟩
  rw [if_neg hrevision, if_neg hrevision]
  by_cases hwritable : (!d.writable) = true
  · rw [if_pos hwritable, if_pos hwritable]
    exact ⟨false, rfl⟩
  rw [if_neg hwritable, if_neg hwritable]
  by_cases hsame : d.config.launchAtLogin = enabled
  · rw [if_pos hsame, if_pos hsame]
    exact ⟨false, rfl⟩
  rw [if_neg hsame, if_neg hsame]
  -- Past the guards the manager is called, and then the save.
  simp only [manageLaunch, managed, saved, Prog.run_call_bind, answer, Bool.false_eq_true,
    if_false]
  cases hmanager : env.setEnabled with
  | error manager => exact ⟨true, rfl⟩
  | ok _ =>
    simp only [Prog.run_call_bind, answer]
    cases hsave : env.save with
    | ok _ => exact ⟨true, rfl⟩
    | error error => exact ⟨true, rfl⟩

/-- `retry`. -/
theorem retryCalls_run (d : Daemon ε) (expected : ℕ) (env : ControlEnv) :
    (retryCalls d.detached expected env).run (answer engine env) (d.engine, false) =
      some (((retry engine d expected env).1, (retry engine d expected env).2.detached),
        (retry engine d expected env).2.engine, false) := by
  dsimp only [retryCalls, retry, detached]
  by_cases hrevision : expected ≠ d.revision
  · rw [if_pos hrevision, if_pos hrevision]
    rfl
  rw [if_neg hrevision, if_neg hrevision]
  simp only [retried, Prog.run_call_bind, answer]
  rcases engine.retry d.config d.engine with ⟨error | observation, e⟩
  · rfl
  · rfl

/-- Announcing does not look at the engine. -/
theorem announced_detached (previous : EngineObservation) (next : Daemon ε) :
    announced previous next.detached =
      ((announced previous next).1, (announced previous next).2.detached) := by
  unfold announced
  show (publiclyChanged previous next.observation, if publiclyChanged previous next.observation then
    _ else _) = _
  cases publiclyChanged previous next.observation with
  | false => rfl
  | true => rfl

/-- Announcing leaves the engine as it is. -/
theorem announced_engine (previous : EngineObservation) (next : Daemon ε) :
    (announced previous next).2.engine = next.engine := by
  unfold announced
  cases publiclyChanged previous next.observation with
  | false => rfl
  | true => rfl

/-- `refresh_observation`. -/
theorem refreshObservationCalls_run (d : Daemon ε) (env : ControlEnv) :
    (refreshObservationCalls d.detached env).run (answer engine env) (d.engine, false) =
      some (((refreshObservation engine d env).1, (refreshObservation engine d env).2.detached),
        (refreshObservation engine d env).2.engine, false) := by
  rw [refreshObservation_eq]
  show some (announced d.observation
    (adopted d.detached (engine.observe d.observation d.engine).1 env),
    (engine.observe d.observation d.engine).2, false) = _
  generalize (engine.observe d.observation d.engine).2 = e
  have hnext : adopted d.detached (engine.observe d.observation d.engine).1 env =
      (adopted { d with engine := e } (engine.observe d.observation d.engine).1 env).detached := by
    cases (engine.observe d.observation d.engine).1 with
    | error error => rfl
    | ok observation => rfl
  have hengine : (adopted { d with engine := e } (engine.observe d.observation d.engine).1
      env).engine = e := by
    cases (engine.observe d.observation d.engine).1 with
    | error error => rfl
    | ok observation => rfl
  rw [hnext, announced_detached, announced_engine, hengine]

/-- `inputs`. -/
theorem inputsCalls_run (d : Daemon ε) (env : ControlEnv) :
    (inputsCalls d.detached).run (answer engine env) (d.engine, false) =
      some (((inputs engine d).1, (inputs engine d).2.detached), (inputs engine d).2.engine,
        false) := by
  dsimp only [inputsCalls, inputs, detached]
  simp only [listed, Prog.run_call_bind, answer]
  rcases engine.inputs d.engine with ⟨error | next, e⟩
  · rfl
  · rfl

/-- `set_meter_monitoring`. -/
theorem setMeterMonitoringCalls_run (d : Daemon ε) (enabled : Bool) (env : ControlEnv) :
    (setMeterMonitoringCalls d.detached enabled).run (answer engine env) (d.engine, false) =
      some (((setMeterMonitoring engine d enabled).1,
        (setMeterMonitoring engine d enabled).2.detached),
        (setMeterMonitoring engine d enabled).2.engine, false) := by
  dsimp only [setMeterMonitoringCalls, setMeterMonitoring, detached]
  simp only [metered, Prog.run_call_bind, answer]
  rcases engine.setMeterMonitoring enabled d.engine with ⟨error | _, e⟩
  · rfl
  · rfl

/-- **Answered by an engine and an environment, an operation is the daemon's.** -/
theorem Operation.calls_run (d : Daemon ε) (operation : Operation) (env : ControlEnv) :
    ∃ reply called, (operation.calls d.detached env).run (answer engine env) (d.engine, false) =
      some ((reply, (perform engine d operation env).detached),
        (perform engine d operation env).engine, called) := by
  -- Each operation has its own lemma; the setters share that of the transaction.
  cases operation with
  | start expected => exact ⟨_, _, Prog.run_map_of _ _ (startCalls_run engine d expected env)⟩
  | stop expected => exact ⟨_, _, Prog.run_map_of _ _ (stopCalls_run engine d expected env)⟩
  | selectInput stableId expected =>
    exact ⟨_, _, Prog.run_map_of _ _ (mutateCalls_run engine d expected _ env)⟩
  | setSuppressionEnabled enabled expected =>
    exact ⟨_, _, Prog.run_map_of _ _ (mutateCalls_run engine d expected _ env)⟩
  | setStrength strength expected =>
    exact ⟨_, _, Prog.run_map_of _ _ (mutateCalls_run engine d expected _ env)⟩
  | setLatencyProfile profile expected =>
    exact ⟨_, _, Prog.run_map_of _ _ (mutateCalls_run engine d expected _ env)⟩
  | setFailMode mode expected =>
    exact ⟨_, _, Prog.run_map_of _ _ (mutateCalls_run engine d expected _ env)⟩
  | setStartWithNoiseReduction enabled expected =>
    exact ⟨_, _, Prog.run_map_of _ _
      (setStartWithNoiseReductionCalls_run engine d enabled expected env)⟩
  | setLaunchAtLogin enabled expected =>
    obtain ⟨called, hrun⟩ := setLaunchAtLoginCalls_run engine d enabled expected env
    exact ⟨_, called, Prog.run_map_of _ _ hrun⟩
  | setMeterMonitoring enabled =>
    exact ⟨_, _, Prog.run_map_of _ _ (setMeterMonitoringCalls_run engine d enabled env)⟩
  | retry expected => exact ⟨_, _, Prog.run_map_of _ _ (retryCalls_run engine d expected env)⟩
  | refreshObservation =>
    exact ⟨_, _, Prog.run_map_of _ _ (refreshObservationCalls_run engine d env)⟩
  | inputs => exact ⟨_, _, Prog.run_map_of _ _ (inputsCalls_run engine d env)⟩

end Daemon

end Noire
