import Noire.Native.Loop

namespace Noire

/-!
# A graph exists only while it is wanted

A native graph keeps the microphone stream connected.  It may exist only while processing is
intended or somebody meters.

* `Owner.Private` — an existing graph is wanted;
* `LeavesGraph` — the two meter changes that break it: one that fails after its graph was
  built, and one that ends metering with nothing applied;
* `existing_graph_wanted` — it holds in every run without such a change;
* `unwanted_graph_left` — a run with one, in which it does not.

The argument is the reverse of that of `Native/Supervision.lean`: now what has to be excluded is a
graph that stays.  A successful attempt leaves a graph exactly where one is wanted, so only a
failing one can leave one behind, and a command that changes what is wanted without an attempt.
-/

/-! ## The invariant

A step that leaves no graph keeps it, and so does one that leaves a graph which is wanted by then.
-/

/-- A graph exists only if a meter or the applied configuration wants it. -/
def Owner.Private (o : Owner) : Prop :=
  o.audio.graph.isSome → o.meterMonitoring = true ∨ ∃ config, o.applied = some config ∧
    config.active = true

theorem start_private (clock : ℕ) : (Owner.start clock).Private := fun h => by cases h

theorem private_of_absent {o : Owner} (h : o.audio.graph = none) : o.Private := fun hg => by
  rw [h] at hg; cases hg

theorem private_of_wanted {o : Owner} {config : Config} (happlied : o.applied = some config)
    (hwanted : config.active = true ∨ o.meterMonitoring = true) : o.Private := fun _ =>
  hwanted.symm.imp_right fun hactive => ⟨config, happlied, hactive⟩

/-- Privacy survives what keeps the intent and builds no graph. -/
theorem Owner.Private.of_kept {o o' : Owner} (h : o.Private) (happlied : o'.applied = o.applied)
    (hmeter : o'.meterMonitoring = o.meterMonitoring)
    (hgraph : o'.audio.graph.isSome → o.audio.graph.isSome) : o'.Private := by
  intro hsome
  rw [happlied, hmeter]
  exact h (hgraph hsome)

/-- Where nothing wants a graph, there is none. -/
theorem Owner.Private.absent {o : Owner} (h : o.Private) {config : Config}
    (happlied : o.applied = some config)
    (hunwanted : ¬(config.active = true ∨ o.meterMonitoring = true)) : o.audio.graph = none := by
  by_contra hgraph
  -- A graph would be wanted by a meter or by the applied configuration, and neither is so.
  rcases h (Option.isSome_iff_ne_none.mpr hgraph) with hmeter | ⟨c, hc, hactive⟩
  · exact hunwanted (.inr hmeter)
  · obtain rfl := Option.some.inj (hc.symm.trans happlied)
    exact hunwanted (.inl hactive)

/-! ## The tick

A tick changes no intent.  Only its last stage builds a graph, and it is asked to by the applied
configuration.
-/

theorem serviceCore_private {o : Owner} (h : o.Private) (env : TickEnv) :
    (serviceCore o env).Private := by
  rcases serviceCore_cases o env with ⟨clock, heq, -⟩ | heq | ⟨audio, nowMillis, heq, hnone, -⟩
  · rw [heq]
    exact h.of_kept rfl rfl id
  · rw [heq]
    refine h.of_kept rfl rfl fun hsome => ?_
    rw [← Audio.key_isSome, Audio.dispatch_key, Audio.key_isSome] at hsome
    exact hsome
  · rw [heq]
    exact private_of_absent hnone

section
variable [UnicodeCase]

theorem serviceGraph_private {o : Owner} (h : o.Private) (env : TickEnv) (now : ℕ) :
    (serviceGraph o env now).Private := by
  obtain ⟨clock, connection, observation, hpublished, -⟩ := published_eq o env
  rcases serviceGraph_cases o env now with
    ⟨-, heq⟩ | ⟨fault, nowMillis, heq⟩ | ⟨g, config, g', g'', reset, hg, -, -, -, heq⟩
  · rw [heq, hpublished]
    exact h.of_kept rfl rfl id
  · rw [heq, hpublished]
    exact private_of_absent rfl
  · rw [heq, hpublished]
    exact h.of_kept rfl rfl fun _ => by rw [hg]; rfl

theorem serviceRecovery_private {o : Owner} (h : o.Private) (env : TickEnv) (now : ℕ) :
    (serviceRecovery o env now).Private := by
  rcases serviceRecovery_cases o env now with
    ⟨-, heq⟩ | heq | ⟨config, attempt, ha, -, -, hattempt⟩
  · rw [heq]
    exact h.of_kept rfl rfl id
  · rwa [heq]
  · rcases hattempt with ⟨observation, audio, -, hwanted, heq⟩ | ⟨error, audio, herror, heq⟩
    · rw [heq]
      exact private_of_wanted ha hwanted
    · rw [heq]
      exact private_of_wanted ha (applyNative_error herror).1

theorem serviceNative_private {o : Owner} (h : o.Private) (env : TickEnv) :
    (serviceNative o env).Private :=
  serviceRecovery_private (serviceGraph_private (serviceCore_private h env) _ _) _ _

/-! ## Commands

An attempt that succeeds leaves a graph only where it was asked for one.  One that fails after the
graph was built leaves it, and whether it was wanted before is the question of `LeavesGraph`.
-/

/-- A meter change that leaves a graph nobody wants: metering starts over an inactive
    configuration, a graph is built for it and then refuses to meter; or metering ends with
    nothing applied and a graph present. -/
def LeavesGraph (o : Owner) (command : NativeCommand) (env : CommandEnv) : Prop :=
  (command = .setMeterMonitoring true ∧ o.meterMonitoring = false ∧
    ∃ config error, o.applied = some config ∧ config.active = false ∧
      (rebuildGraph o.audio config env.first).1.isOk = true ∧
      env.first.setActive = .error error) ∨
  (command = .setMeterMonitoring false ∧ o.applied = none ∧ o.audio.graph.isSome)

theorem handleApply_private (o : Owner) (config : Config) (env : CommandEnv) :
    (handleApply o config env).2.Private := by
  rcases hresult : handleApply o config env with ⟨reply, o'⟩
  cases handleApply_applied hresult with
  | accepted first =>
    exact fun hsome => private_of_wanted rfl ((applyNative_ok first).mp hsome) hsome
  | restored first intent second =>
    exact fun hsome => private_of_wanted intent ((applyNative_ok second).mp hsome) hsome
  | abandoned first intent second => exact private_of_wanted intent (applyNative_error second).1
  | retained first intent active => exact private_of_wanted rfl (.inl active)
  | rejected first intent inactive =>
    -- an inactive configuration can only have failed to meter
    intro _
    exact .inl ((applyNative_error first).1.resolve_left (by simp [inactive]))

theorem handleSetMeterMonitoring_private {o : Owner} (h : o.Private) (enabled : Bool)
    (env : CommandEnv) (hkept : ¬LeavesGraph o (.setMeterMonitoring enabled) env) :
    (handleSetMeterMonitoring o enabled env).2.Private := by
  unfold handleSetMeterMonitoring
  split
  · rename_i ha
    cases enabled with
    | true => exact fun _ => .inl rfl
    | false =>
      -- with nothing applied the graph is not looked at, so there must have been none
      refine private_of_absent ?_
      by_contra hgraph
      exact hkept (.inr ⟨rfl, ha, Option.isSome_iff_ne_none.mpr hgraph⟩)
  · rename_i config ha
    split
    · rename_i next audio hok
      exact fun hsome => private_of_wanted ha ((applyNative_ok hok).mp hsome) hsome
    · rename_i error audio herror
      by_cases hwanted : config.active = true ∨ o.meterMonitoring = true
      · exact private_of_wanted ha hwanted
      · -- nothing wanted a graph before, so the failed attempt built one or left none
        have hnone := h.absent ha hwanted
        obtain ⟨hmeter, hcases⟩ := applyNative_error herror
        simp only [not_or, Bool.not_eq_true] at hwanted
        obtain rfl : enabled = true := hmeter.resolve_left (by simp [hwanted.1])
        rcases hcases with ⟨-, habsent, -⟩ | ⟨-, -, hbuilt, -, e, hactive⟩ | ⟨hkeep, -⟩
        · exact private_of_absent habsent
        · exact absurd (.inl ⟨rfl, hwanted.2, config, e, ha, hwanted.1, hbuilt, hactive⟩) hkept
        · obtain ⟨g, hg⟩ := graph_of_kept hkeep
          cases hnone.symm.trans hg

theorem handle_private {o : Owner} {command : NativeCommand} {env : CommandEnv} (h : o.Private)
    (hkept : ¬LeavesGraph o command env) : (handle o command env).2.Private := by
  cases command with
  | apply config => exact handleApply_private o config env
  | inputs =>
    -- listing the inputs may connect and publish, but builds no graph
    have hgraph : (handleInputs o env).2.audio.key = o.audio.key := by
      unfold handleInputs
      rcases hregistry : resolvedRegistry o.audio env.first with ⟨result, audio⟩
      cases result <;> exact resolvedRegistry_key hregistry
    refine h.of_kept ?_ ?_ fun hsome => ?_
    · simp only [handle, handleInputs]; split <;> rfl
    · simp only [handle, handleInputs]; split <;> rfl
    · rwa [← Audio.key_isSome, ← hgraph, Audio.key_isSome]
  | observe => exact h.of_kept rfl rfl id
  | setMeterMonitoring enabled => exact handleSetMeterMonitoring_private h enabled env hkept

/-! ## Runs

As for supervision: one lemma for commands, one for ticks, and the rule of the loop.
-/

/-- **Privacy of the owner loop.** In every run without a meter change that leaves a graph
    nobody wants, a native graph exists only if metering is on or the applied configuration
    is active. -/
theorem existing_graph_wanted {clock : ℕ} {is : List Iteration} {o : Owner}
    (run : NativeRun (OnCommand fun o c env => ¬LeavesGraph o c env) clock is o)
    (hgraph : o.audio.graph.isSome) :
    o.meterMonitoring = true ∨ ∃ config, o.applied = some config ∧ config.active = true :=
  NativeRun.invariant Owner.Private start_private
    (fun _ _ h => h.of_kept rfl rfl id)
    (fun _ _ _ h hkept => handle_private h hkept)
    (fun _ env h => serviceNative_private h env) run hgraph

end

/-- An active configuration is applied, and its graph exists. -/
theorem existing_graph_wanted_active :
    letI := asciiCase
    ∃ is o, NativeRun (OnCommand fun o c env => ¬LeavesGraph o c env) 0 is o ∧
      o.audio.graph.isSome ∧
      (o.meterMonitoring = true ∨ ∃ config, o.applied = some config ∧ config.active = true) := by
  let _ := asciiCase
  obtain ⟨o, run, hend⟩ := NativeRun.of_iterate
    (C := OnCommand fun o c env => ¬LeavesGraph o c env) 0
    { received := .command (.apply { active := true }) false
      env := { first := { refreshed := microphonePresent } } }
    (fun o => o.audio.graph.isSome)
    (by
      rintro command hreceived (⟨rfl, -⟩ | ⟨rfl, -⟩)
      · cases hreceived
      · cases hreceived) (by decide)
  exact ⟨_, o, run, hend, existing_graph_wanted run hend⟩

/-- **A graph is left behind.** Processing is off; metering is asked for, a graph is built for
    it and its stream refuses to start.  The command fails, and the graph stays. -/
theorem unwanted_graph_left :
    letI := asciiCase
    ¬∀ (clock : ℕ) (is : List Iteration) (o : Owner), NativeRun Lib.Free clock is o →
      o.audio.graph.isSome →
      o.meterMonitoring = true ∨ ∃ config, o.applied = some config ∧ config.active = true := by
  let _ := asciiCase
  -- The meters want a graph, it is connected, and switching it on fails.
  let is : List Iteration :=
    [{ received := .command (.apply {}) false },
     { received := .command (.setMeterMonitoring true) false
       env := { first := { refreshed := microphonePresent, setActive := .error "busy" } } }]
  obtain ⟨o, run, hend⟩ := NativeRun.of_compute 0 is
    (fun o => o.audio.graph.isSome && !o.meterMonitoring && o.applied.all (!·.active))
    (by decide)
  intro h
  simp only [Bool.and_eq_true, Bool.not_eq_true'] at hend
  obtain ⟨⟨hgraph, hmeter⟩, hinactive⟩ := hend
  rcases h 0 is o run hgraph with hm | ⟨config, happlied, hactive⟩
  · simp [hmeter] at hm
  · simp [happlied, hactive] at hinactive

end Noire
