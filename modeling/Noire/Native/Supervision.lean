import Noire.Native.Loop

namespace Noire

/-!
# A lost graph is always being recovered

A graph can be lost in many places.  Each must leave recovery armed and the observation
degraded, or the microphone stays dead while the daemon reports it running.

* `Owner.Supervised` — an intended graph that is absent is being recovered;
* `Abandons` — the one command that breaks it: an `Apply` that fails, over a configuration
  that cannot be restored either;
* `intended_graph_supervised` — it holds in every run without such a command;
* `intended_graph_abandoned` — a run with one, in which it does not.

The invariant is looked at whenever a graph may have been dropped.  A stage of the tick that drops
it reports a fault, which schedules recovery and marks the observation.  A command drops it in an
attempt that fails; what it leaves then depends on whether the previous configuration could be
restored, and one case is not caught.
-/

/-! ## The invariant

It is needed of intended graphs only, and is trivial while the graph is there.  So a step either
leaves what the invariant speaks of as it is (`Owner.Supervised.of_kept`), or leaves a graph
(`supervised_of_graph`), or ends in `Owner.degrade`, which establishes it.
-/

/-- The committed intent wants a graph. -/
def Owner.Intended (o : Owner) : Prop :=
  ∃ config, o.applied = some config ∧ (config.active = true ∨ o.meterMonitoring = true)

/-- The cached observation reports a running graph. -/
def Owner.ReportsRunning (o : Owner) : Prop :=
  ∃ observation, o.observation = some observation ∧ observation.state = .running

/-- Recovery is scheduled, and the observation does not report a running graph. -/
structure Owner.Recovering (o : Owner) : Prop where
  scheduled : o.recovery.phase ≠ .healthy
  reported : ¬o.ReportsRunning

/-- An intended graph that is absent is being recovered; and the fault of a recovery is
    recorded. -/
structure Owner.Supervised (o : Owner) : Prop where
  recovering : o.Intended → o.audio.graph = none → o.Recovering
  named : o.recovery.Named

theorem start_supervised (clock : ℕ) : (Owner.start clock).Supervised where
  recovering := fun ⟨_, h, _⟩ => by cases h
  named := RecoveryController.named_of_healthy rfl

/-- A reported fault leaves the owner recovering. -/
theorem degrade_recovering (o : Owner) (fault : RecoveryFault) (nowMillis : ℕ) :
    (o.degrade fault nowMillis).Recovering where
  scheduled := RecoveryController.fault_phase _ _ _
  reported := by
    rintro ⟨observation, hobs, hrunning⟩
    cases hobs
    cases hrunning

theorem degrade_supervised (o : Owner) (h : o.recovery.Named) (fault : RecoveryFault)
    (nowMillis : ℕ) : (o.degrade fault nowMillis).Supervised where
  recovering := fun _ _ => degrade_recovering o fault nowMillis
  named := h.fault fault nowMillis

/-- Supervision survives what keeps the intent and the recovery, and neither drops the graph
    nor starts to report one running. -/
theorem Owner.Supervised.of_kept {o o' : Owner} (h : o.Supervised)
    (happlied : o'.applied = o.applied) (hmeter : o'.meterMonitoring = o.meterMonitoring)
    (hrecovery : o'.recovery = o.recovery)
    (hgraph : o'.audio.graph = none → o.audio.graph = none)
    (hreported : o'.ReportsRunning → o.ReportsRunning) : o'.Supervised where
  recovering := by
    rintro ⟨config, hconfig, hwanted⟩ hnone
    rw [happlied] at hconfig
    rw [hmeter] at hwanted
    have hold := h.recovering ⟨config, hconfig, hwanted⟩ (hgraph hnone)
    exact ⟨by rw [hrecovery]; exact hold.scheduled, fun hr => hold.reported (hreported hr)⟩
  named := by rw [hrecovery]; exact h.named

/-- Supervision is no demand on an owner with a graph. -/
theorem supervised_of_graph {o : Owner} (hgraph : o.audio.graph.isSome)
    (hnamed : o.recovery.Named) : o.Supervised where
  recovering := fun _ hnone => by rw [hnone] at hgraph; cases hgraph
  named := hnamed

theorem serviceCore_supervised {o : Owner} (h : o.Supervised) (env : TickEnv) :
    (serviceCore o env).Supervised := by
  rcases serviceCore_cases o env with ⟨clock, heq, -⟩ | heq | ⟨audio, nowMillis, heq, -⟩
  · rw [heq]
    exact h.of_kept rfl rfl rfl id id
  · -- a dispatch without a core failure keeps the graph
    rw [heq]
    refine h.of_kept rfl rfl rfl (fun hnone => ?_) id
    rw [← Audio.key_eq_none, Audio.dispatch_key] at hnone
    exact Audio.key_eq_none.mp hnone
  · rw [heq]
    refine degrade_supervised _ ?_ _ _
    exact h.named

theorem handleObserve_supervised {o : Owner} (h : o.Supervised) (env : CommandEnv) :
    (handleObserve o env).2.Supervised := by
  unfold handleObserve
  dsimp only
  split
  · -- only an observation of a present graph is taken afresh
    rename_i hgraph _
    exact supervised_of_graph (by rw [hgraph]; rfl) h.named
  · refine h.of_kept rfl rfl rfl id ?_
    rintro ⟨observation, hobs, hrunning⟩
    cases hobs
    cases hold : o.observation with
    | none => rw [hold] at hrunning; cases hrunning
    | some old => rw [hold] at hrunning; exact ⟨old, hold, hrunning⟩

section
variable [UnicodeCase]

/-! ## The tick

Every stage that drops the graph degrades the owner in the same breath.
-/

theorem serviceGraph_supervised {o : Owner} (h : o.Supervised) (env : TickEnv) (now : ℕ) :
    (serviceGraph o env now).Supervised := by
  obtain ⟨clock, connection, observation, hpublished, hstate⟩ := published_eq o env
  rcases serviceGraph_cases o env now with
    ⟨-, heq⟩ | ⟨fault, nowMillis, heq⟩ | ⟨g, config, g', g'', reset, -, -, -, -, heq⟩
  · -- a publication changes the devices of the observation, not its state
    rw [heq, hpublished]
    refine h.of_kept rfl rfl rfl id ?_
    rintro ⟨obs, hobs, hrunning⟩
    obtain ⟨obs', hobs', hsame⟩ := hstate obs hobs
    exact ⟨obs', hobs', by rw [← hsame]; exact hrunning⟩
  · rw [heq, hpublished]
    refine degrade_supervised _ ?_ _ _
    exact h.named
  · rw [heq, hpublished]
    exact supervised_of_graph rfl h.named

theorem serviceRecovery_supervised {o : Owner} (h : o.Supervised) (env : TickEnv) (now : ℕ) :
    (serviceRecovery o env now).Supervised := by
  rcases serviceRecovery_cases o env now with
    ⟨hunwanted, heq⟩ | heq | ⟨config, attempt, ha, hnone, hpoll, hattempt⟩
  · rw [heq]
    exact ⟨fun ⟨config, hconfig, hwanted⟩ _ => absurd hwanted (hunwanted config hconfig),
      RecoveryController.named_of_healthy rfl⟩
  · rwa [heq]
  · have hstarted := RecoveryController.poll_some _ _ hpoll
    rcases hattempt with ⟨observation, audio, hok, hwanted, heq⟩ | ⟨error, audio, -, heq⟩
    · rw [heq]
      exact supervised_of_graph ((applyNative_ok hok).mpr hwanted)
        (RecoveryController.named_of_healthy (RecoveryController.recovered_phase _))
    · -- a failed attempt goes back to waiting, its observation degraded
      rw [heq]
      obtain ⟨hphase, hkind⟩ := RecoveryController.failed_attempting _
        (elapsedMillis o.recoveryOrigin now) hstarted.1
      refine ⟨fun _ _ => ⟨?_, ?_⟩, fun _ => ?_⟩
      · dsimp only
        rw [hphase]
        exact RecoveryPhase.noConfusion
      · rintro ⟨obs, hobs, hrunning⟩
        cases hobs
        cases hrunning
      · dsimp only
        rw [hkind, hstarted.2]
        rfl

theorem serviceNative_supervised {o : Owner} (h : o.Supervised) (env : TickEnv) :
    (serviceNative o env).Supervised :=
  serviceRecovery_supervised (serviceGraph_supervised (serviceCore_supervised h env) _ _) _ _

/-! ## Commands

An `Apply` ends in one of the five ways of `Applied`.  Where the restore fails nothing is
reported, so the invariant holds only if recovery is on already, and `Abandons` says that it is
not.  The other four leave a graph, degrade the owner, or leave nothing intended.
-/

/-- An `Apply` that fails over an applied configuration that wants a graph, whose restore
    cannot rebuild one, while recovery rests or a graph is reported running. -/
def Abandons (o : Owner) (command : NativeCommand) (env : CommandEnv) : Prop :=
  ∃ config previous error audio, command = .apply config ∧ o.applied = some previous ∧
    applyNative o.audio o.applied o.observation config o.meterMonitoring env.first =
      (.error error, audio) ∧
    (previous.active = true ∨ o.meterMonitoring = true) ∧
    (rebuildGraph audio previous env.restore).1.isOk = false ∧
    (o.recovery.phase = .healthy ∨ o.ReportsRunning)

theorem handleApply_supervised {o : Owner} (h : o.Supervised) (config : Config)
    (env : CommandEnv) (hkept : ¬Abandons o (.apply config) env) :
    (handleApply o config env).2.Supervised := by
  rcases hresult : handleApply o config env with ⟨reply, o'⟩
  cases handleApply_applied hresult with
  | accepted first =>
    have hnamed : (if config.active = true then o.recovery.recovered else o.recovery.stop).Named :=
      RecoveryController.named_of_healthy (by split <;> simp)
    by_cases hwanted : config.active = true ∨ o.meterMonitoring = true
    · exact supervised_of_graph ((applyNative_ok first).mpr hwanted) hnamed
    · exact ⟨fun ⟨_, hconfig, hw⟩ _ => absurd (by cases hconfig; exact hw) hwanted, hnamed⟩
  | restored first intent second =>
    rename_i previous _ _
    have hnamed : o.recovery.recovered.Named :=
      RecoveryController.named_of_healthy (RecoveryController.recovered_phase _)
    by_cases hwanted : previous.active = true ∨ o.meterMonitoring = true
    · exact supervised_of_graph ((applyNative_ok second).mpr hwanted) hnamed
    · refine ⟨fun ⟨_, hconfig, hw⟩ _ => absurd ?_ hwanted, hnamed⟩
      obtain rfl := Option.some.inj (hconfig.symm.trans intent)
      exact hw
  | abandoned first intent second =>
    -- neither attempt succeeded, and nothing but the native resources changed
    obtain ⟨hwanted, ⟨-, -, hrebuild⟩ | ⟨-, hgraph, -⟩ | ⟨-, hgraph⟩⟩ := applyNative_error second
    · -- the restore left no graph: recovery has to be on already, else this is `Abandons`
      refine ⟨fun _ _ => ?_, h.named⟩
      have hresting : ¬(o.recovery.phase = .healthy ∨ o.ReportsRunning) := fun hr =>
        hkept ⟨config, _, _, _, rfl, intent, first, hwanted, hrebuild, hr⟩
      exact ⟨fun hp => hresting (.inl hp), fun hr => hresting (.inr hr)⟩
    · exact supervised_of_graph hgraph h.named
    · exact supervised_of_graph hgraph h.named
  | retained first intent active =>
    refine ⟨fun _ _ => ⟨RecoveryController.fault_phase _ _ _, ?_⟩, h.named.fault _ _⟩
    rintro ⟨observation, hobs, hrunning⟩
    cases hobs
    cases hrunning
  | rejected first intent inactive =>
    exact ⟨fun ⟨_, hconfig, _⟩ => absurd (hconfig.symm.trans intent) (Option.some_ne_none _),
      h.named⟩

theorem handleInputs_supervised {o : Owner} (h : o.Supervised) (env : CommandEnv) :
    (handleInputs o env).2.Supervised := by
  unfold handleInputs
  rcases hregistry : resolvedRegistry o.audio env.first with ⟨result, audio⟩
  have hkey := resolvedRegistry_key hregistry
  have hgraph : audio.graph = none → o.audio.graph = none := by
    rw [← Audio.key_eq_none, hkey, Audio.key_eq_none]
    exact id
  cases result with
  | error error => exact h.of_kept rfl rfl rfl hgraph id
  | ok snapshot =>
    -- the cached devices ride on the old observation, if there was one
    refine h.of_kept rfl rfl rfl hgraph ?_
    rintro ⟨observation, hobs, hrunning⟩
    cases hobs
    cases hold : o.observation with
    | none => rw [hold] at hrunning; cases hrunning
    | some old => rw [hold] at hrunning; exact ⟨old, hold, hrunning⟩

theorem handleSetMeterMonitoring_supervised {o : Owner} (h : o.Supervised) (enabled : Bool)
    (env : CommandEnv) : (handleSetMeterMonitoring o enabled env).2.Supervised := by
  unfold handleSetMeterMonitoring
  split
  · -- nothing is applied, so nothing is intended
    rename_i ha
    exact ⟨fun ⟨_, hconfig, _⟩ => absurd (hconfig.symm.trans ha) (Option.some_ne_none _),
      h.named⟩
  · rename_i config ha
    split
    · rename_i next audio hok
      by_cases hwanted : config.active = true ∨ enabled = true
      · exact supervised_of_graph ((applyNative_ok hok).mpr hwanted) h.named
      · refine ⟨fun ⟨_, hconfig, hw⟩ _ => absurd ?_ hwanted, h.named⟩
        obtain rfl := Option.some.inj (hconfig.symm.trans ha)
        exact hw
    · -- a failed change keeps the graph, if there was one
      rename_i error audio herror
      obtain ⟨-, ⟨hrebuilds, -⟩ | ⟨-, hgraph, -⟩ | ⟨-, hgraph⟩⟩ := applyNative_error herror
      · have hnone : o.audio.graph = none := by simpa [requiresRebuild] using hrebuilds
        exact h.of_kept rfl rfl rfl (fun _ => hnone) id
      · exact supervised_of_graph hgraph h.named
      · exact supervised_of_graph hgraph h.named

theorem handle_supervised {o : Owner} {command : NativeCommand} {env : CommandEnv}
    (h : o.Supervised) (hkept : ¬Abandons o command env) : (handle o command env).2.Supervised := by
  cases command with
  | apply config => exact handleApply_supervised h config env hkept
  | inputs => exact handleInputs_supervised h env
  | observe => exact handleObserve_supervised h env
  | setMeterMonitoring enabled => exact handleSetMeterMonitoring_supervised h enabled env

/-! ## Runs

The rule of the loop (`NativeRun.invariant`) takes a lemma for the commands and one for the tick,
and gives the result for all runs; and then there is one run of each kind.
-/

/-- **A lost graph is being recovered.** In every run without an abandoned configuration, an
    owner that intends a graph and has none is scheduled to recover it, and does not report
    it running. -/
theorem intended_graph_supervised {clock : ℕ} {is : List Iteration} {o : Owner}
    (run : NativeRun (OnCommand fun o c env => ¬Abandons o c env) clock is o)
    {config : Config} (happlied : o.applied = some config)
    (hwanted : config.active = true ∨ o.meterMonitoring = true) (hgraph : o.audio.graph = none) :
    o.recovery.phase ≠ .healthy ∧
      ∀ observation, o.observation = some observation → observation.state ≠ .running := by
  have h : o.Supervised := NativeRun.invariant Owner.Supervised start_supervised
    (fun o elapsed h => h.of_kept rfl rfl rfl id id)
    (fun o command env h hkept => handle_supervised h hkept)
    (fun o env h => serviceNative_supervised h env) run
  obtain ⟨hphase, hreported⟩ := h.recovering ⟨config, happlied, hwanted⟩ hgraph
  exact ⟨hphase, fun observation hobs hrunning => hreported ⟨observation, hobs, hrunning⟩⟩

end

/-- A configuration that cannot be applied at startup: it is kept, and being recovered. -/
theorem intended_graph_supervised_at_startup :
    letI := asciiCase
    ∃ is o, NativeRun (OnCommand fun o c env => ¬Abandons o c env) 0 is o ∧
      o.applied = some { active := true } ∧ o.audio.graph = none ∧
      o.recovery.phase ≠ .healthy ∧
      ∀ observation, o.observation = some observation → observation.state ≠ .running := by
  let _ := asciiCase
  obtain ⟨o, run, hend⟩ := NativeRun.of_iterate
    (C := OnCommand fun o c env => ¬Abandons o c env) 0
    { received := .command (.apply { active := true }) false
      env := { first := { connect := .error "no server" } }
      tick := { attempt := { connect := .error "no server" } } }
    (fun o => o.applied = some { active := true } && o.audio.graph.isNone)
    (by rintro command - ⟨_, _, _, _, -, hprevious, -⟩; cases hprevious) (by decide)
  simp only [Bool.and_eq_true, decide_eq_true_eq, Option.isNone_iff_eq_none] at hend
  exact ⟨_, o, run, hend.1, hend.2,
    intended_graph_supervised run hend.1 (.inl rfl) hend.2⟩

/-- **An abandoned configuration.** A microphone is running; another input is asked for that
    does not exist, and the model does not initialize for the restored one.  Then no graph is
    left, nothing recovers it, and it is reported running. -/
theorem intended_graph_abandoned :
    letI := asciiCase
    ¬∀ (clock : ℕ) (is : List Iteration) (o : Owner) (config : Config),
      NativeRun Lib.Free clock is o → o.applied = some config →
      (config.active = true ∨ o.meterMonitoring = true) → o.audio.graph = none →
      o.recovery.phase ≠ .healthy ∧
        ∀ observation, o.observation = some observation → observation.state ≠ .running := by
  let _ := asciiCase
  let gone : Config := { active := true, input := { mode := .selected, stableId := "gone" } }
  let is : List Iteration :=
    [{ received := .command (.apply { active := true }) false
       env := { first := { refreshed := microphonePresent } } },
     { received := .command (.apply gone) false
       env := { restore := { model := .error "no memory" } } }]
  -- The second command fails on the missing input, and its restore on the model.
  obtain ⟨o, run, hend⟩ := NativeRun.of_compute 0 is
    (fun o => o.applied = some { active := true } && o.audio.graph.isNone &&
      o.recovery.phase = .healthy) (by decide)
  intro h
  simp only [Bool.and_eq_true, decide_eq_true_eq, Option.isNone_iff_eq_none] at hend
  obtain ⟨⟨happlied, hgraph⟩, hphase⟩ := hend
  exact (h 0 is o _ run happlied (.inl rfl) hgraph).1 hphase

end Noire
