import Noire.Control.Agreement
import Noire.Control.Calls

namespace Noire

/-!
# The revision versions the public state

A client that fetches a snapshot only when the revision has risen must not miss a change.

* `Snapshot.versioned` — a snapshot without what the revision does not count: the metrics, the
  clocks and the device revision;
* `Silent` — an operation that changes the rest and does not raise the revision;
* `perform_versioned` — any other operation raises the revision, or leaves the view as it is;
* `silent_iff` — one that leaves the revision leaves the view exactly if it is not silent;
* `snapshot_versions` — in every run without a silent operation, two snapshots of one revision
  agree;
* `snapshot_unversioned` — a run with one.

A view is what a snapshot shows less what is excepted.  Each operation is asked two questions:
does it raise the revision, and if not, does it leave the view.  Where the answer is no to both,
the operation is silent, and `Silent` describes these cases by the state before and the answers of
the engine, case by case.  `Versioned` has both directions for one step, so that the condition is
exact; the run lemma uses one of them.
-/

universe u

/-! ## What the revision counts

The views are compared field by field, since the texts of the states differ where the states do.
-/

/-- Error details without their timestamp. -/
def ErrorInfo.untimed (error : ErrorInfo) : ErrorInfo := { error with timestampMillis := 0 }

/-- A snapshot without its metrics, its clocks and the device revision. -/
def Snapshot.versioned (snapshot : Snapshot) : Snapshot :=
  { snapshot with
    metrics := {}
    uptimeMillis := 0
    deviceRevision := 0
    lastError := snapshot.lastError.untimed }

/-- Two observations show the same state, input and version. -/
structure SameShown (observation observation' : EngineObservation) : Prop where
  state : observation'.state = observation.state
  inputDisplayName : observation'.inputDisplayName = observation.inputDisplayName
  pipewireVersion : observation'.pipewireVersion = observation.pipewireVersion

/-- Two last errors are the same but for their timestamp. -/
def SameError (error error' : Option ErrorInfo) : Prop :=
  error'.map ErrorInfo.untimed = error.map ErrorInfo.untimed

instance (observation observation' : EngineObservation) :
    Decidable (SameShown observation observation') :=
  decidable_of_iff (observation'.state = observation.state ∧
      observation'.inputDisplayName = observation.inputDisplayName ∧
      observation'.pipewireVersion = observation.pipewireVersion)
    ⟨fun ⟨h₁, h₂, h₃⟩ => ⟨h₁, h₂, h₃⟩, fun ⟨h₁, h₂, h₃⟩ => ⟨h₁, h₂, h₃⟩⟩

instance (error error' : Option ErrorInfo) : Decidable (SameError error error') :=
  inferInstanceAs (Decidable (_ = _))

theorem SameShown.refl (observation : EngineObservation) : SameShown observation observation :=
  ⟨rfl, rfl, rfl⟩

theorem SameError.refl (error : Option ErrorInfo) : SameError error error := rfl

namespace Daemon

variable {ε : Type u} {engine : AudioEngine ε} {d d' : Daemon ε}

/-- Two daemons have the same configuration and show the same. -/
structure SameView (d d' : Daemon ε) : Prop where
  config : d'.config = d.config
  shown : SameShown d.observation d'.observation
  error : SameError d.lastError d'.lastError

theorem SameView.refl (d : Daemon ε) : SameView d d := ⟨rfl, .refl _, .refl _⟩

theorem SameView.trans {d'' : Daemon ε} (h : SameView d d') (h' : SameView d' d'') :
    SameView d d'' where
  config := h'.config.trans h.config
  shown :=
    { state := h'.shown.state.trans h.shown.state
      inputDisplayName := h'.shown.inputDisplayName.trans h.shown.inputDisplayName
      pipewireVersion := h'.shown.pipewireVersion.trans h.shown.pipewireVersion }
  error := Eq.trans h'.error h.error

/-- The error a snapshot carries is the last one, or the default. -/
theorem untimed_getD (error : Option ErrorInfo) :
    (error.getD {}).untimed = (error.map ErrorInfo.untimed).getD (ErrorInfo.untimed {}) := by
  cases error with
  | none => rfl
  | some error => rfl

/-- The names of the states differ. -/
theorem stateText_inj {state state' : LifecycleState} (h : stateText state = stateText state') :
    state = state' := by
  cases state <;> cases state' <;> first | rfl | exact absurd h (by decide)

/-- **What a snapshot shows** of two daemons of one revision and one configuration is the same
    exactly if they have the same view. -/
theorem versioned_iff (hrevision : d'.revision = d.revision) (hconfig : d'.config = d.config)
    (now now' : ControlEnv) :
    (d'.snapshot now').versioned = (d.snapshot now).versioned ↔ SameView d d' := by
  constructor
  · intro h
    have herror : d'.lastError.isSome = d.lastError.isSome := congrArg Snapshot.hasError h
    have hdetails : (d'.lastError.getD {}).untimed = (d.lastError.getD {}).untimed :=
      congrArg Snapshot.lastError h
    refine ⟨hconfig, ⟨stateText_inj (congrArg Snapshot.state h),
      congrArg Snapshot.inputDisplayName h, congrArg Snapshot.pipewireVersion h⟩, ?_⟩
    -- An error is shown with its text, and without it nothing is.
    unfold SameError
    cases hlast : d.lastError with
    | none => simpa [hlast] using herror
    | some error =>
      cases hlast' : d'.lastError with
      | none => simp [hlast, hlast'] at herror
      | some error' => simpa [hlast, hlast'] using hdetails
  · intro h
    have hsome : d'.lastError.isSome = d.lastError.isSome := by
      have := congrArg Option.isSome h.error
      simpa using this
    have hdetails : (d'.lastError.getD {}).untimed = (d.lastError.getD {}).untimed := by
      rw [untimed_getD, untimed_getD, h.error]
    simp only [Snapshot.versioned, snapshot, hrevision, hconfig, h.shown.state,
      h.shown.inputDisplayName, h.shown.pipewireVersion, hsome, hdetails]

/-! ## Silent operations

There are three kinds, one for each way in which an operation tells of an error or of a state
without counting it.
-/

/-- A transaction that changes the view and not the revision: its candidate is rejected by the
    engine, whose error is another than the last one; or it is applied and not saved, and the
    previous configuration, applied again, shows another observation. -/
def SilentTransaction (engine : AudioEngine ε) (d : Daemon ε) (expected : ℕ)
    (update : Config → Config) (env : ControlEnv) : Prop :=
  expected = d.revision ∧ d.writable = true ∧ (update d.config).validate = .ok () ∧
    match engine.apply (update d.config) d.engine with
    | (.error error, _) => ¬SameError d.lastError (some (errorInfo error env.unixMillis))
    | (.ok _, e) => env.save.isOk = false ∧
      match engine.apply d.config e with
      | (.ok restored, _) => ¬SameShown d.observation restored
      | (.error _, _) => False

/-- A retry that fails, with another error than the last one or in another state. -/
def SilentRetry (engine : AudioEngine ε) (d : Daemon ε) (expected : ℕ) (env : ControlEnv) :
    Prop :=
  expected = d.revision ∧
    match engine.retry d.config d.engine with
    | (.ok _, _) => False
    | (.error error, _) => ¬(d.observation.state = .degraded ∧
      SameError d.lastError (some (errorInfo error env.unixMillis)))

/-- A refresh that changes the last error and nothing else that is public. -/
def SilentRefresh (engine : AudioEngine ε) (d : Daemon ε) (env : ControlEnv) : Prop :=
  match engine.observe d.observation d.engine with
  | (.ok observation, _) => publiclyChanged d.observation observation = false ∧
    ¬SameError d.lastError (observedError d.lastError observation env.unixMillis)
  | (.error error, _) => d.observation.state = .degraded ∧
    ¬SameError d.lastError (some (errorInfo error env.unixMillis))

/-- An operation that changes the view and not the revision. -/
def Silent (engine : AudioEngine ε) (d : Daemon ε) : Operation × ControlEnv → Prop
  | (.start expected, env) =>
    d.config.active = false ∧ SilentTransaction engine d expected ({ · with active := true }) env
  | (.stop expected, env) =>
    d.config.active = true ∧ SilentTransaction engine d expected ({ · with active := false }) env
  | (.selectInput stableId expected, env) =>
    SilentTransaction engine d expected
      (fun c => { c with input := selectedInput stableId c.input }) env
  | (.setSuppressionEnabled enabled expected, env) =>
    SilentTransaction engine d expected ({ · with suppression.enabled := enabled }) env
  | (.setStrength strength expected, env) =>
    SilentTransaction engine d expected ({ · with suppression.strength := strength }) env
  | (.setLatencyProfile profile expected, env) =>
    SilentTransaction engine d expected ({ · with output.latencyProfile := profile }) env
  | (.setFailMode mode expected, env) =>
    SilentTransaction engine d expected ({ · with suppression.failMode := mode }) env
  | (.retry expected, env) => SilentRetry engine d expected env
  | (.refreshObservation, env) => SilentRefresh engine d env
  | (.setStartWithNoiseReduction _ _, _) | (.setLaunchAtLogin _ _, _)
  | (.setMeterMonitoring _, _) | (.inputs, _) => False

/-- A step raises the revision; or leaves it, and leaves the view exactly if it is not
    silent. -/
def Versioned (silent : Prop) (d d' : Daemon ε) : Prop :=
  d'.revision = nextRevision d.revision ∨
    (d'.revision = d.revision ∧ d'.config = d.config ∧ (SameView d d' ↔ ¬silent))

/-- A step that leaves the view. -/
theorem Versioned.of_same {silent : Prop} (h : SameView d d') (hrevision : d'.revision = d.revision)
    (hsilent : ¬silent) : Versioned silent d d' :=
  .inr ⟨hrevision, h.config, iff_of_true h hsilent⟩

/-- A transaction. -/
theorem mutate_versioned (engine : AudioEngine ε) (d : Daemon ε) (expected : ℕ)
    (update : Config → Config) (env : ControlEnv) :
    Versioned (SilentTransaction engine d expected update env) d
      (mutate engine d expected update env).2 := by
  unfold mutate
  split
  · rename_i hne
    exact .of_same (.refl d) rfl fun h => hne h.1
  rename_i hrevision
  split
  · rename_i hwritable
    exact .of_same (.refl d) rfl fun h => by simp [h.2.1] at hwritable
  rename_i hwritable
  dsimp only
  split
  · rename_i error hinvalid
    exact .of_same (.refl d) rfl fun h => by simp [h.2.2.1] at hinvalid
  rename_i hvalid
  have hrevision' : expected = d.revision := not_not.mp hrevision
  have hwritable' : d.writable = true := by simpa using hwritable
  split
  · -- the engine rejects the candidate: only the last error changes
    rename_i error e happly
    refine .inr ⟨rfl, rfl, ?_⟩
    have hsilent : SilentTransaction engine d expected update env ↔
        ¬SameError d.lastError (some (errorInfo error env.unixMillis)) := by
      simp [SilentTransaction, happly, hrevision', hwritable', hvalid]
    rw [hsilent, not_not]
    exact ⟨fun h => h.error, fun h => ⟨rfl, .refl _, h⟩⟩
  · rename_i observation e happly
    split
    · rename_i persistence hsave
      split
      · -- the previous configuration is applied again: only the observation changes
        rename_i restored e' hrestore
        refine .inr ⟨rfl, rfl, ?_⟩
        have hsilent : SilentTransaction engine d expected update env ↔
            ¬SameShown d.observation restored := by
          simp [SilentTransaction, happly, hrestore, hsave, hrevision', hwritable', hvalid,
            Except.isOk, Except.toBool]
        rw [hsilent, not_not]
        exact ⟨fun h => h.shown, fun h => ⟨rfl, h, .refl _⟩⟩
      · exact .inl rfl
    · exact .inl rfl

/-- A retry. -/
theorem retry_versioned (engine : AudioEngine ε) (d : Daemon ε) (expected : ℕ)
    (env : ControlEnv) :
    Versioned (SilentRetry engine d expected env) d (retry engine d expected env).2 := by
  unfold retry
  split
  · rename_i hne
    exact .of_same (.refl d) rfl fun h => hne h.1
  rename_i hrevision
  have hrevision' : expected = d.revision := not_not.mp hrevision
  split
  · exact .inl rfl
  · rename_i error e hretry
    refine .inr ⟨rfl, rfl, ?_⟩
    -- A retry that fails is silent where the same error was shown before.
    have hsilent : SilentRetry engine d expected env ↔
        ¬(d.observation.state = .degraded ∧
          SameError d.lastError (some (errorInfo error env.unixMillis))) := by
      simp [SilentRetry, hretry, hrevision']
    rw [hsilent, not_not]
    exact ⟨fun h => ⟨h.shown.state.symm, h.error⟩,
      fun ⟨hstate, herror⟩ => ⟨rfl, ⟨hstate.symm, rfl, rfl⟩, herror⟩⟩

/-- A change that a refresh does not count leaves what is shown. -/
theorem sameShown_of_unchanged {previous next : EngineObservation}
    (h : publiclyChanged previous next = false) : SameShown previous next := by
  simp only [publiclyChanged, Bool.or_eq_false_iff, decide_eq_false_iff_not, not_not] at h
  obtain ⟨⟨⟨hstate, hinput⟩, hversion⟩, -⟩ := h
  exact ⟨hstate.symm, hinput.symm, hversion.symm⟩

/-- A refresh. -/
theorem refreshObservation_versioned (engine : AudioEngine ε) (d : Daemon ε) (env : ControlEnv) :
    Versioned (SilentRefresh engine d env) d (refreshObservation engine d env).2 := by
  rw [refreshObservation_eq]
  rcases hobserve : engine.observe d.observation d.engine with ⟨error | observation, e⟩
  · -- an engine that cannot be observed: the last error changes, and the state becomes degraded
    rcases announced_cases d.observation (adopted { d with engine := e } (.error error) env) with
      ⟨hchanged, hcase⟩ | ⟨-, hcase⟩
    · rw [hcase]
      have hshown := sameShown_of_unchanged hchanged
      have hdegraded : d.observation.state = .degraded := hshown.state.symm
      have hsilent : SilentRefresh engine d env ↔
          ¬SameError d.lastError (some (errorInfo error env.unixMillis)) := by
        simp [SilentRefresh, hobserve, hdegraded]
      refine .inr ⟨rfl, rfl, ?_⟩
      rw [hsilent, not_not]
      exact ⟨fun h => h.error, fun h => ⟨rfl, hshown, h⟩⟩
    · rw [hcase]
      exact .inl rfl
  · rcases announced_cases d.observation (adopted { d with engine := e } (.ok observation) env) with
      ⟨hchanged, hcase⟩ | ⟨-, hcase⟩
    · rw [hcase]
      have hunchanged : publiclyChanged d.observation observation = false := hchanged
      have hsilent : SilentRefresh engine d env ↔
          ¬SameError d.lastError (observedError d.lastError observation env.unixMillis) := by
        simp [SilentRefresh, hobserve, hunchanged]
      refine .inr ⟨rfl, rfl, ?_⟩
      rw [hsilent, not_not]
      exact ⟨fun h => h.error, fun h => ⟨rfl, sameShown_of_unchanged hunchanged, h⟩⟩
    · rw [hcase]
      exact .inl rfl

/-- A preference that is saved is counted. -/
theorem Prefers.versioned {candidate : Config} {saves : Prop} {env : ControlEnv}
    {answer : Except ControlError Snapshot × Daemon ε}
    (h : Prefers d candidate saves env answer) : Versioned False d answer.2 := by
  cases h with
  | refused error => exact .of_same (.refl d) rfl id
  | already => exact .of_same (.refl d) rfl id
  | saved _ hsaved => exact .inl (hsaved ▸ rfl)

/-- A switch is a transaction where it has something to do. -/
theorem Activates.versioned {engine : AudioEngine ε} {active : Bool} {expected : ℕ}
    {env : ControlEnv} {answer : Except ControlError Snapshot × Daemon ε}
    (h : Activates engine d active expected env answer) :
    Versioned ((d.config.active = !active) ∧
      SilentTransaction engine d expected ({ · with active }) env) d answer.2 := by
  cases h with
  | conflict hne => exact .of_same (.refl d) rfl fun hsilent => hne hsilent.2.1
  | already hactive =>
    exact .of_same (.refl d) rfl fun hsilent => by simp [hactive] at hsilent
  | transaction hactive =>
    simpa [hactive] using mutate_versioned engine d expected ({ · with active }) env

/-- Meters change nothing that is versioned. -/
theorem setMeterMonitoring_versioned (engine : AudioEngine ε) (d : Daemon ε) (enabled : Bool) :
    Versioned False d (setMeterMonitoring engine d enabled).2 := by
  unfold setMeterMonitoring
  split
  · exact .of_same ⟨rfl, .refl _, .refl _⟩ rfl id
  · exact .of_same ⟨rfl, .refl _, .refl _⟩ rfl id

/-- Listing the inputs changes nothing that is versioned. -/
theorem inputs_versioned (engine : AudioEngine ε) (d : Daemon ε) :
    Versioned False d (inputs engine d).2 := by
  unfold inputs
  split
  · exact .of_same ⟨rfl, .refl _, .refl _⟩ rfl id
  · exact .of_same ⟨rfl, ⟨rfl, rfl, rfl⟩, .refl _⟩ rfl id

/-- **Any operation.** -/
theorem perform_versioned (engine : AudioEngine ε) (d : Daemon ε)
    (step : Operation × ControlEnv) :
    Versioned (Silent engine d step) d (perform engine d step.1 step.2) := by
  obtain ⟨operation, env⟩ := step
  cases operation with
  | start expected => exact (start_activates engine d expected env).versioned
  | stop expected => exact (stop_activates engine d expected env).versioned
  | selectInput _ _ | setSuppressionEnabled _ _ | setStrength _ _ | setLatencyProfile _ _
  | setFailMode _ _ => exact mutate_versioned engine d _ _ env
  | setStartWithNoiseReduction enabled expected =>
    exact (setStartWithNoiseReduction_prefers d expected env enabled).versioned
  | setLaunchAtLogin enabled expected =>
    exact (setLaunchAtLogin_prefers d expected env enabled).versioned
  | setMeterMonitoring enabled => exact setMeterMonitoring_versioned engine d enabled
  | retry expected => exact retry_versioned engine d expected env
  | refreshObservation => exact refreshObservation_versioned engine d env
  | inputs => exact inputs_versioned engine d

/-- **One step** that leaves the revision leaves the snapshot exactly if it is not silent. -/
theorem silent_iff {step : Operation × ControlEnv} (hlt : d.revision < u64Max)
    (hsame : (perform engine d step.1 step.2).revision = d.revision) (now now' : ControlEnv) :
    ((perform engine d step.1 step.2).snapshot now').versioned = (d.snapshot now).versioned ↔
      ¬Silent engine d step := by
  rcases perform_versioned engine d step with hcounted | ⟨-, hconfig, hview⟩
  · have := hcounted
    unfold nextRevision saturatingAdd at this
    omega
  · exact (versioned_iff hsame hconfig now now').trans hview

/-! ## Runs

The version of a snapshot and its view change together, as long as no operation of the run is
silent.
-/

/-- **The revision does not fall** over a run, and where it is the same, and not the last, so
    is the view, if no operation was silent. -/
theorem run_versioned {steps : List (Operation × ControlEnv)} (hmax : d.revision ≤ u64Max)
    (run : Performed engine (fun d step => ¬Silent engine d step) d steps d') :
    d'.revision ≤ u64Max ∧ d.revision ≤ d'.revision ∧
      (d'.revision < u64Max → d'.revision = d.revision → SameView d d') := by
  refine Lib.Run.invariant (fun t => t.revision ≤ u64Max ∧ d.revision ≤ t.revision ∧
    (t.revision < u64Max → t.revision = d.revision → SameView d t)) ?_ ?_ run
  · exact ⟨hmax, Nat.le_refl _, fun _ _ => .refl d⟩
  · intro t step u ⟨htmax, hle, hsame⟩ hloud hstep
    subst hstep
    rcases perform_versioned engine t step with hcounted | ⟨hkept, -, hview⟩
    · -- counted: the revision is another, unless it is the last
      unfold nextRevision saturatingAdd at hcounted
      refine ⟨by omega, by omega, fun hlt heq => ?_⟩
      omega
    · refine ⟨by omega, by omega, fun hlt heq => ?_⟩
      exact (hsame (by omega) (by omega)).trans (hview.mpr hloud)

/-- The revision of a `u64` stays one. -/
theorem run_revision {steps : List (Operation × ControlEnv)} (hmax : d.revision ≤ u64Max)
    (run : Performed engine Lib.Free d steps d') : d'.revision ≤ u64Max := by
  refine Lib.Run.invariant (fun t => t.revision ≤ u64Max) hmax ?_ run
  intro t step u htmax _ hstep
  subst hstep
  rcases perform_versioned engine t step with hcounted | ⟨hkept, -⟩
  · unfold nextRevision saturatingAdd at hcounted
    omega
  · omega

/-- **The revision versions the public state.** In every run of a started daemon without a
    silent operation, two snapshots of one revision agree on everything but the metrics, the
    clocks and the device revision. -/
theorem snapshot_versions {e : ε} {loaded : LoadOutcome} {env : ControlEnv}
    {before steps : List (Operation × ControlEnv)}
    (start : Performed engine Lib.Free (new engine e loaded env) before d)
    (run : Performed engine (fun d step => ¬Silent engine d step) d steps d')
    (hlt : d'.revision < u64Max) (now now' : ControlEnv)
    (hsame : (d.snapshot now).revision = (d'.snapshot now').revision) :
    (d'.snapshot now').versioned = (d.snapshot now).versioned := by
  have hstart : (new engine e loaded env).revision ≤ u64Max := (by decide : 1 ≤ u64Max)
  have hmax : d.revision ≤ u64Max := run_revision hstart start
  obtain ⟨-, -, hview⟩ := run_versioned hmax run
  have h := hview hlt hsame.symm
  exact (versioned_iff hsame.symm h.config now now').mpr h

/-- An engine whose meters have moved whenever it is observed, and which has a microphone. -/
def meteringEngine : AudioEngine (ℕ × Config) :=
  { countingEngine 2 with
    observe := fun _ e => (.ok
      { state := if e.2.active then .running else .stopped
        metrics := { underflows := e.1 } }, e)
    inputs := fun e => (.ok [⟨"mic", "Microphone", true, "available"⟩], e) }

/-- Processing is started, which raises the revision; then the meters move and a device appears,
    which does not. -/
theorem snapshot_versions_refresh :
    ∃ d d' : Daemon (ℕ × Config),
      d = perform meteringEngine (new meteringEngine (0, {}) firstLoad {}) (.start 1) {} ∧
      d' = perform meteringEngine (perform meteringEngine d .refreshObservation {}) .inputs {} ∧
      d.revision = 2 ∧ (d'.snapshot {}).metrics ≠ (d.snapshot {}).metrics ∧
      (d'.snapshot {}).deviceRevision ≠ (d.snapshot {}).deviceRevision ∧
      (d'.snapshot {}).versioned = (d.snapshot {}).versioned := by
  let start := new meteringEngine (0, {}) firstLoad {}
  let d := perform meteringEngine start (.start 1) {}
  have before : Performed meteringEngine Lib.Free start [(.start 1, {})] d :=
    Lib.Run.single trivial rfl
  have run : Performed meteringEngine (fun d step => ¬Silent meteringEngine d step) d
      [(.refreshObservation, {}), (.inputs, {})]
      (perform meteringEngine (perform meteringEngine d .refreshObservation {}) .inputs {}) := by
    refine (Lib.Run.nil.snoc ?_ rfl).snoc id rfl
    rintro ⟨-, hdiffers⟩
    exact hdiffers rfl
  exact ⟨d, _, rfl, rfl, by decide, by decide, by decide,
    snapshot_versions before run (by decide) {} {} (by decide)⟩

/-- **The revision misses a change.** The engine rejects a change of the latency profile.  The
    snapshot before has no error, the one after it has; they are of one revision. -/
theorem snapshot_unversioned :
    ¬∀ (ε : Type) (engine : AudioEngine ε) (e : ε) (loaded : LoadOutcome) (env : ControlEnv)
        (before steps : List (Operation × ControlEnv)) (d d' : Daemon ε) (now now' : ControlEnv),
      Performed engine Lib.Free (new engine e loaded env) before d →
      Performed engine Lib.Free d steps d' → d'.revision < u64Max →
      (d.snapshot now).revision = (d'.snapshot now').revision →
      (d'.snapshot now').versioned = (d.snapshot now).versioned := by
  intro h
  -- Application 0 starts the engine, and 1 fails.
  let engine := countingEngine 1
  let d := new engine (0, {}) firstLoad {}
  have run : Performed engine Lib.Free d [(.setLatencyProfile .balanced 1, {})]
      (perform engine d (.setLatencyProfile .balanced 1) {}) := Lib.Run.single trivial rfl
  have hsame := h _ engine (0, {}) firstLoad {} [] _ d _ {} {} .nil run (by decide) (by decide)
  exact absurd (congrArg Snapshot.hasError hsame) (by decide)

end Daemon

end Noire
