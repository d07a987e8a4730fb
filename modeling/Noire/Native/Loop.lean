import Noire.Lib.Run
import Noire.Native.Attempt

namespace Noire

/-!
# What the loop can do

The inversion lemmas of the owner loop: what an `Apply` command comes to, what a tick does
before it rebuilds, and the invariant rule of a whole run.

* `Applied` — the five ways an `Apply` command ends;
* `serviceCore_cases` / `serviceGraph_cases` — a stage keeps the graph, or drops it and
  reports a fault;
* `NativeRun.invariant` — an invariant of commands and ticks holds over every run.
-/

/-! ## Stages

What a stage of the tick does to the graph, with everything else it may change.
-/

/-- The first stage only waits and dispatches, or drops everything and reports a core
    fault. -/
theorem serviceCore_cases (o : Owner) (env : TickEnv) :
    (∃ clock, serviceCore o env = { o with audio.clock := clock } ∧
        o.audio.connection = none) ∨
      serviceCore o env = { o with
        audio := ({ o.audio with clock := o.tickNow env } : Audio).dispatch env.dispatched } ∨
      ∃ audio nowMillis, serviceCore o env =
        ({ o with audio } : Owner).degrade .core nowMillis ∧
        audio.graph = none ∧ audio.connection = none := by
  unfold serviceCore
  simp only
  split
  · -- not connected
    rename_i hnone
    exact .inl ⟨_, rfl, by simpa using hnone⟩
  · split
    · -- a fatal core error
      exact .inr (.inr ⟨_, _, rfl, rfl, rfl⟩)
    · exact .inr (.inl rfl)

/-- Reading a graph's health does not change its target. -/
theorem takeHealthDiagnostic_target (g : LiveGraph) :
    g.takeHealthDiagnostic.2.targetNodeName = g.targetNodeName := by
  unfold LiveGraph.takeHealthDiagnostic
  split
  · rfl
  · split
    · rfl
    · simp only
      split
      · rfl
      · split <;> rfl

/-- A demand poll does not change the target. -/
theorem serviceDemand_target (g : LiveGraph) (now : ℕ) (setActive : Native) :
    (g.serviceDemand now setActive).2.targetNodeName = g.targetNodeName := by
  unfold LiveGraph.serviceDemand
  simp only
  split
  · rfl
  · split
    · rfl
    · split <;> rfl
  · split <;> rfl

/-- A graph that passes its check keeps its target, and the view it was checked against
    resolves to that target. -/
theorem checkGraph_ok {g g' : LiveGraph} {config : Config} {snapshot : Option RegistrySnapshot}
    {now : ℕ} {env : TickEnv} (h : checkGraph g config snapshot now env = .ok g') :
    g'.targetNodeName = g.targetNodeName ∧
      ∀ view ∈ snapshot, resolveInput view config = some g.targetNodeName := by
  have htarget := takeHealthDiagnostic_target g
  unfold checkGraph at h
  simp only at h
  split at h
  · cases h
  · cases h
  · rename_i _ hinput
    split at h
    · cases h
    · rename_i heq
      cases h
      have hserved := serviceDemand_target g.takeHealthDiagnostic.2 now env.setActive
      rw [heq] at hserved
      refine ⟨hserved.trans htarget, fun view hview => ?_⟩
      -- The view was compared with the target, and `inputFault` found nothing to report.
      rw [Option.mem_def.mp hview, htarget] at hinput
      unfold inputFault at hinput
      simp only [Option.bind_some] at hinput
      split at hinput
      · cases hinput
      · rename_i node hnode
        split at hinput
        · cases hinput
        · rename_i hsame
          rw [hnode, not_not.mp hsame]

section
variable [UnicodeCase]

/-! ## Commands

The five ways of `Applied` are the five exits of the `Apply` arm: accepted, and for a failure with
a previous configuration restored or abandoned, without one retained or rejected.
-/

/-- The ways an `Apply` command ends, with its answer and the owner it leaves. -/
inductive Applied (o : Owner) (config : Config) (env : CommandEnv) : Reply → Owner → Prop
  /-- The configuration is applied, and becomes the intent. -/
  | accepted {observation audio}
      (first : applyNative o.audio o.applied o.observation config o.meterMonitoring env.first =
        (.ok observation, audio)) :
      Applied o config env (.observation (.ok observation))
        { o with
          audio
          applied := some config
          observation := some observation
          recovery := if config.active then o.recovery.recovered else o.recovery.stop }
  /-- It fails, and the previous configuration is applied again. -/
  | restored {error audio previous observation audio'}
      (first : applyNative o.audio o.applied o.observation config o.meterMonitoring env.first =
        (.error error, audio))
      (intent : o.applied = some previous)
      (second : applyNative audio none o.observation previous o.meterMonitoring env.restore =
        (.ok observation, audio')) :
      Applied o config env (.observation (.error error))
        { o with
          audio := audio'
          observation := some observation
          recovery := o.recovery.recovered }
  /-- It fails, and so does the attempt to apply the previous one again. -/
  | abandoned {error audio previous error' audio'}
      (first : applyNative o.audio o.applied o.observation config o.meterMonitoring env.first =
        (.error error, audio))
      (intent : o.applied = some previous)
      (second : applyNative audio none o.observation previous o.meterMonitoring env.restore =
        (.error error', audio')) :
      Applied o config env (.observation (.error error)) { o with audio := audio' }
  /-- It fails with nothing applied before, and is kept as the intent to recover. -/
  | retained {error audio}
      (first : applyNative o.audio o.applied o.observation config o.meterMonitoring env.first =
        (.error error, audio))
      (intent : o.applied = none) (active : config.active = true) :
      Applied o config env (.observation (.error error))
        { o with
          audio := { audio with clock := audio.clock + env.faultElapsed }
          applied := some config
          observation := some (degradedObservation o.observation (some error))
          recovery := o.recovery.fault (classifyInitialFault error)
            (elapsedMillis o.recoveryOrigin (audio.clock + env.faultElapsed)) }
  /-- It fails with nothing applied before, and asks for no processing. -/
  | rejected {error audio}
      (first : applyNative o.audio o.applied o.observation config o.meterMonitoring env.first =
        (.error error, audio))
      (intent : o.applied = none) (inactive : config.active = false) :
      Applied o config env (.observation (.error error)) { o with audio }

/-- An `Apply` command ends in one of these ways. -/
theorem handleApply_applied {o o' : Owner} {config : Config} {env : CommandEnv} {reply : Reply}
    (h : handleApply o config env = (reply, o')) : Applied o config env reply o' := by
  unfold handleApply at h
  split at h
  · rename_i first
    cases h
    exact .accepted first
  · rename_i error audio first
    split at h
    · -- the candidate has failed, and the last intent is restored
      rename_i previous intent
      split at h
      · rename_i second
        cases h
        exact .restored first intent second
      · rename_i second
        cases h
        exact .abandoned first intent second
    · -- there is none to restore: the candidate may be retained
      rename_i intent
      split at h
      · rename_i active
        cases h
        exact .retained first intent active
      · rename_i inactive
        cases h
        exact .rejected first intent (by simpa using inactive)

/-! ## The tick

The graph is checked against a view of the registry that is due; recovery is polled where no graph
is there.
-/

/-- A due publication changes the clock, the debounce window and the observed devices. -/
theorem published_eq (o : Owner) (env : TickEnv) :
    ∃ clock connection observation, o.published env =
        { o with audio := ⟨clock, connection, o.audio.graph⟩, observation } ∧
      ∀ obs ∈ observation, ∃ obs' ∈ o.observation, obs.state = obs'.state := by
  unfold Owner.published registrySnapshotIfDue
  split
  · exact ⟨_, _, _, rfl, fun obs h => ⟨obs, h, rfl⟩⟩
  · simp only [Owner.publishDevices]
    split
    · exact ⟨_, _, _, rfl, fun obs h => ⟨obs, h, rfl⟩⟩
    · refine ⟨_, _, _, rfl, fun obs h => ?_⟩
      obtain ⟨obs', h', rfl⟩ := Option.mem_map.mp h
      exact ⟨obs', h', rfl⟩

/-- The second stage publishes a due view, and then leaves an absent graph absent, drops the
    graph and reports a fault, or keeps a graph that passed its check. -/
theorem serviceGraph_cases (o : Owner) (env : TickEnv) (now : ℕ) :
    ((o.audio.graph = none ∨ o.applied = none) ∧ serviceGraph o env now = o.published env) ∨
      (∃ fault nowMillis, serviceGraph o env now =
        ({ o.published env with audio.graph := none } : Owner).degrade fault nowMillis) ∨
      ∃ g config g' g'' reset, o.audio.graph = some g ∧ o.applied = some config ∧
        checkGraph g config (registrySnapshotIfDue o env).1 now env = .ok g' ∧
        g''.targetNodeName = g'.targetNodeName ∧
        serviceGraph o env now =
          { o.published env with audio.graph := some g'', lastLiveFailureReset := reset } := by
  obtain ⟨clock, connection, observation, heq, -⟩ := published_eq o env
  have hgraph : (o.published env).audio.graph = o.audio.graph := by rw [heq]
  have happlied : (o.published env).applied = o.applied := by rw [heq]
  obtain ⟨r, hr⟩ : ∃ r, serviceGraph o env now = r := ⟨_, rfl⟩
  rw [hr]
  unfold serviceGraph at hr
  dsimp only at hr
  split at hr
  · rename_i g config hg ha
    rw [hgraph] at hg
    rw [happlied] at ha
    split at hr
    · -- a fault of the graph takes it down
      exact .inr (.inl ⟨_, _, hr.symm⟩)
    · rename_i g' hcheck
      split at hr
      · -- the latched live failure is reset on the way
        exact .inr (.inr ⟨g, config, g', { g' with capture := g'.capture.advanceInputGeneration },
          some now, hg, ha, hcheck, rfl, hr.symm⟩)
      · exact .inr (.inr ⟨g, config, g', g', (o.published env).lastLiveFailureReset, hg, ha,
          hcheck, rfl, hr.symm⟩)
  · -- There is no graph, or nothing is applied.
    rename_i hno
    rw [hgraph, happlied] at hno
    refine .inl ⟨?_, hr.symm⟩
    cases hg : o.audio.graph with
    | none => exact .inl rfl
    | some g =>
      cases ha : o.applied with
      | none => exact .inr rfl
      | some config => exact absurd ha (hno g config hg)

/-- The third stage stops a recovery nobody wants, does nothing, or makes one attempt. -/
theorem serviceRecovery_cases (o : Owner) (env : TickEnv) (now : ℕ) :
    ((∀ config, o.applied = some config → ¬(config.active = true ∨ o.meterMonitoring = true)) ∧
        serviceRecovery o env now = { o with recovery := o.recovery.stop }) ∨
      serviceRecovery o env now = o ∨
      ∃ config attempt, o.applied = some config ∧ o.audio.graph = none ∧
        (o.recovery.poll (elapsedMillis o.recoveryOrigin now)).1 = some attempt ∧
        ((∃ observation audio,
            applyNative o.audio none o.observation config o.meterMonitoring env.attempt =
              (.ok observation, audio) ∧
            (config.active = true ∨ o.meterMonitoring = true) ∧
            serviceRecovery o env now =
              { o with
                audio
                observation := some observation
                recovery := (o.recovery.poll (elapsedMillis o.recoveryOrigin now)).2.recovered }) ∨
          ∃ error audio,
            applyNative o.audio none o.observation config o.meterMonitoring env.attempt =
              (.error error, audio) ∧
            serviceRecovery o env now =
              { o with
                audio
                observation := markDegraded o.observation attempt.fault
                recovery := (o.recovery.poll (elapsedMillis o.recoveryOrigin now)).2.failed
                  (elapsedMillis o.recoveryOrigin now) }) := by
  obtain ⟨r, hr⟩ : ∃ r, serviceRecovery o env now = r := ⟨_, rfl⟩
  rw [hr]
  unfold serviceRecovery at hr
  split at hr
  · rename_i hfilter
    refine .inl ⟨fun config ha hwanted => ?_, hr.symm⟩
    rcases hwanted with h | h <;> simp [ha, h] at hfilter
  · rename_i config hfilter
    obtain ⟨ha, hwanted⟩ := Option.filter_eq_some_iff.mp hfilter
    split at hr
    · exact .inr (.inl hr.symm)
    · rename_i hgraph
      dsimp only at hr
      split at hr
      · -- no attempt is due
        rename_i recovery hpoll
        have hsame := RecoveryController.poll_none o.recovery _ (congrArg Prod.fst hpoll)
        rw [hpoll] at hsame
        subst hsame
        exact .inr (.inl hr.symm)
      · rename_i attempt recovery hpoll
        have hnamed := (RecoveryController.poll_some o.recovery _ (congrArg Prod.fst hpoll)).2
        refine .inr (.inr ⟨config, attempt, ha, by simpa using hgraph, by rw [hpoll], ?_⟩)
        rw [hpoll] at hnamed ⊢
        dsimp only at hnamed ⊢
        -- A due attempt names the fault its failure reports again.
        split at hr
        · rename_i observation audio hattempt
          exact .inl ⟨observation, audio, hattempt, by simpa using hwanted, hr.symm⟩
        · rename_i error audio hattempt
          rw [hnamed] at hr
          exact .inr ⟨error, audio, hattempt, hr.symm⟩

/-! ## Runs

An iteration is a wait, at most one command, and a tick, so an invariant needs a lemma for each.
-/

/-- The owner when its thread starts. -/
def Owner.start (clock : ℕ) : Owner := { audio := { clock }, recoveryOrigin := clock }

/-- A condition on the commands the owner carries out, at the state each finds. -/
def OnCommand (C : Owner → NativeCommand → CommandEnv → Prop) (o : Owner) (it : Iteration) :
    Prop :=
  ∀ command, it.received = .command command false → C (o.wait it.elapsed) command it.env

/-- A run of the owner loop from its start, whose iterations meet `C`. -/
def NativeRun (C : Owner → Iteration → Prop) (clock : ℕ) (is : List Iteration) (o : Owner) : Prop :=
  Lib.Run (fun o it o' => iterate o it = some o') C (Owner.start clock) is o

/-- The owner an iteration's tick starts at, `none` where the iteration has no tick. -/
def Owner.beforeTick (o : Owner) (it : Iteration) : Option Owner :=
  match it.received with
  | .command command false => some (handle (o.wait it.elapsed) command it.env).2
  | .timeout => some (o.wait it.elapsed)
  | .command _ true | .shutdown | .disconnected => none

/-- A condition on the ticks of the owner, at the state each starts at. -/
def OnTick (C : Owner → TickEnv → Prop) (o : Owner) (it : Iteration) : Prop :=
  ∀ o₁, o.beforeTick it = some o₁ → C o₁ it.tick

/-- An iteration without a tick only waits; any other ends with its tick. -/
theorem iterate_cases {o o' : Owner} {it : Iteration} (h : iterate o it = some o') :
    (o.beforeTick it = none ∧ o' = o.wait it.elapsed) ∨
      ∃ o₁, o.beforeTick it = some o₁ ∧ o' = serviceNative o₁ it.tick ∧
        (o₁ = o.wait it.elapsed ∨ ∃ command, it.received = .command command false ∧
          o₁ = (handle (o.wait it.elapsed) command it.env).2) := by
  unfold iterate at h
  unfold Owner.beforeTick
  -- A cancelled command, a command, a timeout, and the two ends of the loop.
  split at h
  · rename_i hreceived
    cases h
    exact .inl ⟨by rw [hreceived], rfl⟩
  · rename_i command hreceived
    cases h
    exact .inr ⟨_, by rw [hreceived], rfl, .inr ⟨command, hreceived, rfl⟩⟩
  · rename_i hreceived
    cases h
    exact .inr ⟨_, by rw [hreceived], rfl, .inl rfl⟩
  · cases h
  · cases h

/-- What waiting, carrying out a command that meets `C` and a tick keep, an iteration keeps. -/
theorem iterate_keeps (I : Owner → Prop) {C : Owner → NativeCommand → CommandEnv → Prop}
    (hwait : ∀ o elapsed, I o → I (o.wait elapsed))
    (hcommand : ∀ o command env, I o → C o command env → I (handle o command env).2)
    (htick : ∀ o env, I o → I (serviceNative o env)) {o o' : Owner} {it : Iteration}
    (h : I o) (hC : OnCommand C o it) (hstep : iterate o it = some o') : I o' := by
  have hw := hwait o it.elapsed h
  rcases iterate_cases hstep with ⟨-, rfl⟩ | ⟨o₁, -, rfl, rfl | ⟨command, hreceived, rfl⟩⟩
  · exact hw
  · exact htick _ _ hw
  · exact htick _ _ (hcommand _ _ _ hw (hC command hreceived))

/-- **Invariant rule of the loop.** -/
theorem NativeRun.invariant (I : Owner → Prop) {C : Owner → NativeCommand → CommandEnv → Prop}
    (hstart : ∀ clock, I (Owner.start clock))
    (hwait : ∀ o elapsed, I o → I (o.wait elapsed))
    (hcommand : ∀ o command env, I o → C o command env → I (handle o command env).2)
    (htick : ∀ o env, I o → I (serviceNative o env)) {clock : ℕ} {is : List Iteration} {o : Owner}
    (run : NativeRun (OnCommand C) clock is o) : I o :=
  Lib.Run.invariant I (hstart clock)
    (fun _ _ _ h hC hstep => iterate_keeps I hwait hcommand htick h hC hstep) run

/-! ## Computed runs

Runs on concrete inputs are evaluated, and then taken as any other run.
-/

/-- One ordinary microphone. -/
def microphone : NodeDescriptor :=
  { globalId := 7, nodeName := "mic", mediaClass := some "Audio/Source", label := "mic" }

/-- The callbacks that show it, and make it the default. -/
def microphonePresent : Dispatched :=
  [(0, .registry (.upsert microphone)), (0, .registry (.setDefaultNodeName (some "mic")))]

/-- A computed run, and what a test finds at its end. -/
theorem NativeRun.of_compute (clock : ℕ) (is : List Iteration) (p : Owner → Bool)
    (h : (is.foldlM iterate (Owner.start clock)).any p = true) :
    ∃ o, NativeRun Lib.Free clock is o ∧ p o = true := by
  obtain ⟨o, hrun, hp⟩ := (Option.any_eq_true _ _).mp h
  exact ⟨o, Lib.Run.of_foldlM iterate (fun _ _ _ hstep => ⟨trivial, hstep⟩) hrun, hp⟩

/-- A computed run of one iteration that meets a condition, and what a test finds then. -/
theorem NativeRun.of_iterate {C : Owner → Iteration → Prop} (clock : ℕ) (it : Iteration)
    (p : Owner → Bool) (hC : C (Owner.start clock) it)
    (h : (iterate (Owner.start clock) it).any p = true) :
    ∃ o, NativeRun C clock ([] ++ [it]) o ∧ p o = true := by
  obtain ⟨o, hstep, hp⟩ := (Option.any_eq_true _ _).mp h
  exact ⟨o, .snoc .nil hC hstep, hp⟩

end

end Noire
