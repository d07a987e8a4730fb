import Noire.Lib.Run
import Noire.Control.Daemon

namespace Noire

/-!
# The engine follows the daemon

What the daemon reports without an error must be what the engine was asked to do.

A transaction whose candidate is applied and not persisted, and whose rollback fails, leaves the
engine with a configuration that the daemon did not adopt; `mutate` then reports it degraded, with
an error.  The report must stand until the engine accepts a configuration again, but
`refresh_observation` clears it as soon as the engine looks healthy.

* `Agrees` — an intent agrees with a configuration on what the engine realizes;
* `Daemon.Marked` — the snapshot is degraded or has an error;
* `Daemon.Truthful` — the engine's intent agrees with the daemon, or the snapshot is marked;
* `Daemon.Clears` — the steps that take the mark away without the engine accepting anything;
* `snapshot_agrees` — in every run in which none of these is made while the engine holds something
  else, a snapshot without a mark agrees with the engine's intent; `clears_disagrees`: otherwise
  the next snapshot does not;
* `snapshot_disagrees` — a run in which a refresh clears the mark of a failed rollback.

`Truthful` is kept operation by operation: the transactions by one lemma, as they are the same one
with different changes, and each other operation by its own.
-/

universe u

/-- An intent agrees with a configuration on what the engine realizes. -/
structure Agrees (intent config : Config) : Prop where
  active : intent.active = config.active
  input : intent.input = config.input
  output : intent.output = config.output
  suppression : intent.suppression = config.suppression

theorem Agrees.refl (config : Config) : Agrees config config := ⟨rfl, rfl, rfl, rfl⟩

theorem Agrees.trans {a b c : Config} (h : Agrees a b) (h' : Agrees b c) : Agrees a c :=
  ⟨h.active.trans h'.active, h.input.trans h'.input, h.output.trans h'.output,
    h.suppression.trans h'.suppression⟩

instance (intent config : Config) : Decidable (Agrees intent config) :=
  decidable_of_iff (intent.active = config.active ∧ intent.input = config.input ∧
      intent.output = config.output ∧ intent.suppression = config.suppression)
    ⟨fun ⟨h₁, h₂, h₃, h₄⟩ => ⟨h₁, h₂, h₃, h₄⟩, fun ⟨h₁, h₂, h₃, h₄⟩ => ⟨h₁, h₂, h₃, h₄⟩⟩

namespace Daemon

variable {ε : Type u} {engine : AudioEngine ε} {intent : ε → Config}

/-! ## The public mark

What a client sees of an error, and when the snapshot shows none.
-/

/-- The snapshot is degraded or has an error. -/
def Marked (d : Daemon ε) : Prop := d.observation.state = .degraded ∨ d.lastError.isSome = true

/-- The engine's intent agrees with the daemon, or the snapshot is marked. -/
def Truthful (intent : ε → Config) (d : Daemon ε) : Prop :=
  Agrees (intent d.engine) d.config ∨ d.Marked

/-- The engine reports no fault, and that it is not degraded. -/
def healthy (observation : EngineObservation) : Bool :=
  observation.fault.isNone && observation.state ≠ .degraded

/-- What leaves no mark although the engine accepts no configuration: a refresh that finds the
    engine healthy, where the last error is none or an audio error; or another preference that is
    saved, where the state is not degraded. -/
def Clears (engine : AudioEngine ε) (d : Daemon ε) : Operation × ControlEnv → Prop
  | (.refreshObservation, _) =>
    d.lastError.all (·.component = "audio") = true ∧
      ∃ observation, (engine.observe d.observation d.engine).1 = .ok observation ∧
        healthy observation = true
  | (.setStartWithNoiseReduction enabled expected, env) =>
    d.observation.state ≠ .degraded ∧ expected = d.revision ∧ d.writable = true ∧
      d.config.startWithNoiseReduction ≠ enabled ∧ env.save = .ok ()
  | (.setLaunchAtLogin enabled expected, env) =>
    d.observation.state ≠ .degraded ∧ expected = d.revision ∧ d.writable = true ∧
      d.config.launchAtLogin ≠ enabled ∧ env.setEnabled = .ok () ∧ env.save = .ok ()
  | _ => False

/-- The mark is cleared only where the engine's intent agrees with the daemon. -/
def ClearsAgreeing (engine : AudioEngine ε) (intent : ε → Config) (d : Daemon ε)
    (step : Operation × ControlEnv) : Prop :=
  Clears engine d step → Agrees (intent d.engine) d.config

/-- A snapshot without a mark is clean: not degraded, and without an error. -/
theorem marked_iff (d : Daemon ε) (now : ControlEnv) :
    d.Marked ↔ (d.snapshot now).state = "degraded" ∨ (d.snapshot now).hasError = true := by
  have hstate : stateText d.observation.state = "degraded" ↔ d.observation.state = .degraded := by
    cases d.observation.state <;> simp [stateText]
  exact or_congr_left hstate.symm

/-- What the engine does without accepting a configuration keeps its intent. -/
theorem Truthful.of_kept {d d' : Daemon ε} (h : Truthful intent d)
    (hintent : intent d'.engine = intent d.engine) (hconfig : d'.config = d.config)
    (hmarked : d.Marked → d'.Marked) : Truthful intent d' := by
  refine h.imp (fun hagrees => ?_) hmarked
  rw [hintent, hconfig]
  exact hagrees

/-! ## Transactions

After a transaction the engine holds what the daemon shows, unless its rollback has failed; then
the snapshot carries the mark.
-/

/-- A transaction leaves the engine agreeing with the daemon, or a mark: also one whose rollback
    fails. -/
theorem mutate_truthful (contract : engine.Contract intent) {d : Daemon ε}
    (h : Truthful intent d) (expected : ℕ) (update : Config → Config) (env : ControlEnv) :
    Truthful intent (mutate engine d expected update env).2 := by
  unfold mutate
  -- Until the engine is asked for the candidate, the daemon and its engine are as before.
  split
  · exact h
  split
  · exact h
  dsimp only
  split
  · exact h
  split
  · -- a candidate that is not applied leaves its error
    exact .inr (.inr rfl)
  · rename_i observation e happly
    split
    · split
      · -- the rollback restores the daemon's configuration
        rename_i restored e' hrestore
        exact .inl (contract.apply_ok _ _ _ _ hrestore ▸ .refl _)
      · -- the engine keeps the candidate, and the daemon says so
        exact .inr (.inl rfl)
    · exact .inl (contract.apply_ok _ _ _ _ happly ▸ .refl _)

/-- An operation that is a transaction makes it, or does nothing. -/
theorem perform_transaction (engine : AudioEngine ε) (d : Daemon ε) {operation : Operation}
    {expected : ℕ} {update : Config → Config} (env : ControlEnv)
    (h : operation.transaction = some (expected, update)) :
    perform engine d operation env = (mutate engine d expected update env).2 ∨
      perform engine d operation env = d := by
  -- A switch is the transaction, or it is over before.
  have hactivates : ∀ {active : Bool} {answer}, Activates engine d active expected env answer →
      answer.2 = (mutate engine d expected ({ · with active }) env).2 ∨ answer.2 = d := by
    intro active answer hanswer
    cases hanswer with
    | conflict _ => exact .inr rfl
    | already _ => exact .inr rfl
    | transaction _ => exact .inl rfl
  cases operation with
  | start expected' => cases h; exact hactivates (start_activates engine d expected env)
  | stop expected' => cases h; exact hactivates (stop_activates engine d expected env)
  | selectInput stableId expected' => cases h; exact .inl rfl
  | setSuppressionEnabled enabled expected' => cases h; exact .inl rfl
  | setStrength strength expected' => cases h; exact .inl rfl
  | setLatencyProfile profile expected' => cases h; exact .inl rfl
  | setFailMode mode expected' => cases h; exact .inl rfl
  | setStartWithNoiseReduction _ _ => cases h
  | setLaunchAtLogin _ _ => cases h
  | setMeterMonitoring _ => cases h
  | retry _ => cases h
  | refreshObservation => cases h
  | inputs => cases h

/-! ## Other operations

They leave the intent of the engine alone, so all that can happen is that the mark is cleared.
-/

/-- A preference that is saved clears the error, whatever it was about; the state stays. -/
theorem Prefers.truthful {d : Daemon ε} {candidate : Config} {saves : Prop} {env : ControlEnv}
    {answer : Except ControlError Snapshot × Daemon ε}
    (hanswer : Prefers d candidate saves env answer)
    (h : Truthful intent d) (hcandidate : Agrees d.config candidate)
    (hagrees : d.observation.state ≠ .degraded → saves → Agrees (intent d.engine) d.config) :
    Truthful intent answer.2 := by
  cases hanswer with
  | refused error => exact h
  | already => exact h
  | saved hsaves hsaved =>
    subst hsaved
    by_cases hdegraded : d.observation.state = .degraded
    · exact .inr (.inl hdegraded)
    · exact .inl ((hagrees hdegraded hsaves).trans hcandidate)

theorem retry_truthful (contract : engine.Contract intent) {d : Daemon ε}
    (h : Truthful intent d) (expected : ℕ) (env : ControlEnv) :
    Truthful intent (retry engine d expected env).2 := by
  unfold retry
  split
  · exact h
  split
  · rename_i observation e hretry
    exact .inl (contract.retry_ok _ _ _ _ hretry ▸ .refl _)
  · exact .inr (.inl rfl)

/-- A refresh changes neither the configuration nor the intent.  Whatever was marked before, it
    leaves a mark unless it finds the engine healthy. -/
theorem refreshObservation_truthful (contract : engine.Contract intent) {d : Daemon ε}
    {env : ControlEnv}
    (hclears : ClearsAgreeing engine intent d (.refreshObservation, env)) :
    Truthful intent (refreshObservation engine d env).2 := by
  have hintent := contract.observe d.observation d.engine
  rcases hobserve : engine.observe d.observation d.engine with ⟨result, e⟩
  rw [hobserve] at hintent
  cases result with
  | error error =>
    simp only [refreshObservation, hobserve]
    split
    · exact .inr (.inl rfl)
    · exact .inr (.inl rfl)
  | ok observation =>
    -- the daemon but for its revision and its devices, of which nothing is said here
    have hnext : Agrees (intent e) d.config ∨ observation.state = .degraded ∨
        (observedError d.lastError observation env.unixMillis).isSome = true := by
      rw [show intent e = intent d.engine from hintent]
      by_cases hdegraded : observation.state = .degraded
      · exact .inr (.inl hdegraded)
      cases hfault : observation.fault with
      | some fault =>
        refine .inr (.inr ?_)
        simp only [observedError, hfault, Option.isSome_some]
      | none =>
        by_cases haudio : d.lastError.all (·.component = "audio") = true
        · refine .inl (hclears ⟨haudio, observation, by rw [hobserve], ?_⟩)
          simp [healthy, hfault, hdegraded]
        · -- an error of another component stays
          refine .inr (.inr ?_)
          cases hlast : d.lastError with
          | none => simp [hlast] at haudio
          | some error =>
            have hother : error.component ≠ "audio" := by simpa [hlast] using haudio
            simp [observedError, hfault, hother]
    simp only [refreshObservation, hobserve]
    split
    · exact hnext
    · exact hnext

theorem inputs_truthful (contract : engine.Contract intent) {d : Daemon ε}
    (h : Truthful intent d) : Truthful intent (inputs engine d).2 := by
  have hintent := contract.inputs d.engine
  unfold inputs
  split
  · rename_i hinputs
    rw [hinputs] at hintent
    exact h.of_kept hintent rfl fun hmarked => hmarked
  · rename_i hinputs
    rw [hinputs] at hintent
    exact h.of_kept hintent rfl fun hmarked => hmarked

theorem setMeterMonitoring_truthful (contract : engine.Contract intent) {d : Daemon ε}
    (h : Truthful intent d) (enabled : Bool) :
    Truthful intent (setMeterMonitoring engine d enabled).2 := by
  have hintent := contract.setMeterMonitoring enabled d.engine
  unfold setMeterMonitoring
  split
  · rename_i hmeter
    rw [hmeter] at hintent
    exact h.of_kept hintent rfl fun hmarked => hmarked
  · rename_i hmeter
    rw [hmeter] at hintent
    exact h.of_kept hintent rfl fun hmarked => hmarked

/-! ## Runs

The invariant goes through every operation that does not clear the mark of a divergence.
-/

/-- **Every operation** that clears no mark of a disagreement keeps the daemon truthful. -/
theorem perform_truthful (contract : engine.Contract intent) {d : Daemon ε}
    {operation : Operation} {env : ControlEnv} (h : Truthful intent d)
    (hclears : ClearsAgreeing engine intent d (operation, env)) :
    Truthful intent (perform engine d operation env) := by
  cases htransaction : operation.transaction with
  | some transaction =>
    -- seven operations are one transaction each, or are refused before it
    obtain ⟨expected, update⟩ := transaction
    rcases perform_transaction engine d env htransaction with heq | heq
    · rw [heq]
      exact mutate_truthful contract h expected update env
    · rwa [heq]
  | none =>
    cases operation with
    | start _ => cases htransaction
    | stop _ => cases htransaction
    | selectInput _ _ => cases htransaction
    | setSuppressionEnabled _ _ => cases htransaction
    | setStrength _ _ => cases htransaction
    | setLatencyProfile _ _ => cases htransaction
    | setFailMode _ _ => cases htransaction
    | setStartWithNoiseReduction enabled expected =>
      exact (setStartWithNoiseReduction_prefers d expected env enabled).truthful h
        ⟨rfl, rfl, rfl, rfl⟩ fun hstate hsaves => hclears ⟨hstate, hsaves⟩
    | setLaunchAtLogin enabled expected =>
      exact (setLaunchAtLogin_prefers d expected env enabled).truthful h
        ⟨rfl, rfl, rfl, rfl⟩ fun hstate hsaves => hclears ⟨hstate, hsaves⟩
    | setMeterMonitoring enabled => exact setMeterMonitoring_truthful contract h enabled
    | retry expected => exact retry_truthful contract h expected env
    | refreshObservation => exact refreshObservation_truthful contract hclears
    | inputs => exact inputs_truthful contract h

/-- Nothing less will do: a mark that is cleared of a disagreement leaves a snapshot that is not
    true. -/
theorem clears_disagrees (contract : engine.Contract intent) {d : Daemon ε}
    {step : Operation × ControlEnv} (hclears : Clears engine d step)
    (hdiffers : ¬Agrees (intent d.engine) d.config) :
    ¬Truthful intent (perform engine d step.1 step.2) := by
  obtain ⟨operation, env⟩ := step
  cases operation with
  | refreshObservation =>
    obtain ⟨haudio, observation, hobserved, hhealthy⟩ := hclears
    have hintent := contract.observe d.observation d.engine
    rcases hobserve : engine.observe d.observation d.engine with ⟨result, e⟩
    rw [hobserve] at hintent hobserved
    obtain rfl : result = .ok observation := hobserved
    simp only [healthy, Bool.and_eq_true, Option.isNone_iff_eq_none, decide_eq_true_eq] at hhealthy
    -- A healthy observation keeps no audio error, and there was no other.
    have hcleared : observedError d.lastError observation env.unixMillis = none := by
      cases hlast : d.lastError with
      | none => simp [observedError, hhealthy.1]
      | some error =>
        rw [hlast] at haudio
        simpa [observedError, hhealthy.1, hhealthy.2] using haudio
    have hnext : ¬(Agrees (intent e) d.config ∨ observation.state = .degraded ∨
        (observedError d.lastError observation env.unixMillis).isSome = true) := by
      rw [hcleared, show intent e = intent d.engine from hintent]
      simp [hdiffers, hhealthy.2]
    -- Whether the refresh is counted or not, the snapshot has no mark.
    simp only [perform, refreshObservation, hobserve]
    split
    · exact hnext
    · exact hnext
  | setStartWithNoiseReduction enabled expected =>
    -- The preference is saved, which clears the error; the engine realizes no preference.
    obtain ⟨hstate, rfl, hwritable, hchanges, hsave⟩ := hclears
    simp only [perform, setStartWithNoiseReduction, hwritable, hchanges, hsave, ne_eq,
      not_true_eq_false, Bool.not_true, Bool.false_eq_true, if_false]
    rintro (hagrees | hdegraded | herror)
    · exact hdiffers ⟨hagrees.active, hagrees.input, hagrees.output, hagrees.suppression⟩
    · exact hstate hdegraded
    · cases herror
  | setLaunchAtLogin enabled expected =>
    obtain ⟨hstate, rfl, hwritable, hchanges, hmanager, hsave⟩ := hclears
    simp only [perform, setLaunchAtLogin, hwritable, hchanges, hmanager, hsave, ne_eq,
      not_true_eq_false, Bool.not_true, Bool.false_eq_true, if_false]
    rintro (hagrees | hdegraded | herror)
    · exact hdiffers ⟨hagrees.active, hagrees.input, hagrees.output, hagrees.suppression⟩
    · exact hstate hdegraded
    · cases herror
  | start _ | stop _ | selectInput _ _ | setSuppressionEnabled _ _ | setStrength _ _
  | setLatencyProfile _ _ | setFailMode _ _ | setMeterMonitoring _ | retry _ | inputs =>
    exact hclears.elim

/-- A run of the daemon whose operations meet `C`. -/
def Performed (engine : AudioEngine ε) (C : Daemon ε → Operation × ControlEnv → Prop)
    (d : Daemon ε) (steps : List (Operation × ControlEnv)) (d' : Daemon ε) : Prop :=
  Lib.Run (fun d step d' => perform engine d step.1 step.2 = d') C d steps d'

/-- The configuration a daemon starts with. -/
def startConfig (loaded : LoadOutcome) : Config :=
  { loaded.config with active := loaded.config.startWithNoiseReduction }

/-- **A clean snapshot is true.** After a start whose configuration was applied, in every run in
    which no mark is cleared while the engine's intent differs from the daemon's configuration, a
    daemon that reports a state other than degraded and no error agrees with the intent of its
    engine. -/
theorem snapshot_agrees (contract : engine.Contract intent) {e : ε} {loaded : LoadOutcome}
    {env : ControlEnv} {steps : List (Operation × ControlEnv)} {d : Daemon ε}
    (hstart : (engine.apply (startConfig loaded) e).1.isOk = true)
    (run : Performed engine (ClearsAgreeing engine intent) (new engine e loaded env) steps d)
    (now : ControlEnv) :
    (d.snapshot now).state ≠ "degraded" → (d.snapshot now).hasError = false →
      Agrees (intent d.engine) d.config := by
  intro hstate herror
  have htruthful : Truthful intent d := by
    refine Lib.Run.invariant (Truthful intent) ?_ (fun d step d' h hclears hstep => ?_) run
    · -- the start: the engine takes over the loaded configuration
      rcases happly : engine.apply (startConfig loaded) e with ⟨result, e'⟩
      rw [happly] at hstart
      cases result with
      | error error => cases hstart
      | ok observation =>
        have hengine : (new engine e loaded env).engine = e' := congrArg Prod.snd happly
        refine .inl ?_
        rw [hengine, contract.apply_ok _ _ _ _ happly]
        exact .refl _
    · rw [← hstep]
      exact perform_truthful contract h hclears
  refine htruthful.resolve_right fun hmarked => ?_
  rcases (marked_iff d now).mp hmarked with hdegraded | hfailed
  · exact hstate hdegraded
  · cases herror.symm.trans hfailed

/-! ## An engine in use

An engine that fails when it is told to, to run the daemon on.
-/

/-- An engine that realizes every configuration but that of its application number `failing`:
    its state counts the applications, and holds the intent. -/
def countingEngine (failing : ℕ) : AudioEngine (ℕ × Config) :=
  let realized (config : Config) : EngineObservation :=
    { state := if config.active then .running else .stopped }
  let apply (config : Config) (e : ℕ × Config) :=
    if e.1 = failing then
      (.error
        { code := "test-engine"
          message := "rollback failed"
          recovery := "retry test"
          retryable := true }, (e.1 + 1, e.2))
    else (.ok (realized config), (e.1 + 1, config))
  { apply
    retry := apply
    observe := fun _ e => (.ok (realized e.2), e)
    setMeterMonitoring := fun _ e => (.ok (), e)
    inputs := fun e => (.ok [], e) }

theorem countingEngine_contract (failing : ℕ) : (countingEngine failing).Contract Prod.snd := by
  -- Whether it fails is counted; what it realizes changes only where it succeeds.
  have happly : ∀ config e r e', (countingEngine failing).apply config e = (r, e') →
      (∀ observation, r = .ok observation → e'.2 = config) ∧
        (∀ error, r = .error error → e'.2 = e.2) := by
    intro config e r e' h
    simp only [countingEngine] at h
    split at h
    · cases h
      exact ⟨fun _ => nofun, fun _ _ => rfl⟩
    · cases h
      exact ⟨fun _ _ => rfl, fun _ => nofun⟩
  refine ⟨fun config e _ e' h => (happly config e _ e' h).1 _ rfl,
    fun config e _ e' h => (happly config e _ e' h).2 _ rfl,
    fun config e _ e' h => (happly config e _ e' h).1 _ rfl,
    fun config e _ e' h => (happly config e _ e' h).2 _ rfl,
    fun _ _ => rfl, fun previous e observation e' h hrunning => ?_, fun _ _ => rfl, fun _ => rfl⟩
  cases h
  by_contra hinactive
  simp [hinactive] at hrunning

/-- What a first start loads. -/
def firstLoad : LoadOutcome :=
  { config := {}, source := .defaults, warning := none, writable := true }

/-- A start is applied, cannot be saved and cannot be rolled back, and is reported degraded; a
    retry makes the engine accept the daemon's configuration, and the next refresh is clean. -/
theorem snapshot_agrees_start :
    ∃ d d' : Daemon (ℕ × Config), (d.snapshot {}).state = "degraded" ∧ ¬Agrees d.engine.2 d.config ∧
      d' = perform (countingEngine 2) (perform (countingEngine 2) d (.retry 2) {})
        .refreshObservation {} ∧
      (d'.snapshot {}).state = "stopped" ∧ Agrees d'.engine.2 d'.config := by
  let engine := countingEngine 2
  let failing : ControlEnv := { save := .error "no space left on device" }
  let d := perform engine (new engine (0, {}) firstLoad {}) (.start 1) failing
  let d' := perform engine (perform engine d (.retry 2) {}) .refreshObservation {}
  have run : Performed engine (ClearsAgreeing engine Prod.snd) (new engine (0, {}) firstLoad {})
      [(.start 1, failing), (.retry 2, {}), (.refreshObservation, {})] d' :=
    ((Lib.Run.nil.snoc (fun hclears => hclears.elim) rfl).snoc (fun hclears => hclears.elim)
      rfl).snoc (fun _ => show Agrees (perform engine d (.retry 2) {}).engine.2
        (perform engine d (.retry 2) {}).config by decide) rfl
  exact ⟨d, d', by decide, by decide, rfl, by decide,
    snapshot_agrees (countingEngine_contract 2) (by decide) run {} (by decide) (by decide)⟩

/-- **A clean snapshot is false.** A start is applied, cannot be saved and cannot be rolled
    back.  The next refresh finds the engine running and clears the error: the daemon reports a
    running engine and no error, and is configured off. -/
theorem snapshot_disagrees :
    ¬∀ (ε : Type) (engine : AudioEngine ε) (intent : ε → Config) (e : ε) (loaded : LoadOutcome)
        (env : ControlEnv) (steps : List (Operation × ControlEnv)) (d : Daemon ε)
        (now : ControlEnv), engine.Contract intent →
      (engine.apply (startConfig loaded) e).1.isOk = true →
      Performed engine Lib.Free (new engine e loaded env) steps d →
      (d.snapshot now).state ≠ "degraded" → (d.snapshot now).hasError = false →
      Agrees (intent d.engine) d.config := by
  -- Application 0 starts the engine, 1 is the candidate's, and 2 the rollback that fails.
  let engine := countingEngine 2
  let steps : List (Operation × ControlEnv) :=
    [(.start 1, { save := .error "no space left on device" }), (.refreshObservation, {})]
  have run := Lib.Run.of_foldl (fun d (step : Operation × ControlEnv) =>
    perform engine d step.1 step.2) (new engine (0, {}) firstLoad {}) steps
  intro h
  have hagrees := h _ engine Prod.snd (0, {}) firstLoad {} steps _ {}
    (countingEngine_contract 2) (by decide) run (by decide) (by decide)
  exact absurd hagrees.active (by decide)

end Daemon

end Noire
