import Noire.Native.Owner

namespace Noire

/-!
# What one attempt leaves

Every native operation of the owner thread goes through `applyNative`.  This module says once
what an attempt can leave behind; the invariants of the loop are derived from it.

* `Audio.dispatch_key` — callbacks change neither the target nor the meter memo of a graph;
* `rebuildGraph_error` / `rebuildGraph_ok` — a rebuild that fails leaves no graph, one that
  succeeds a fresh graph;
* `applyNative_ok` / `applyNative_error` — when an attempt leaves a graph.

The proof follows the source: a connection is ensured, a view is published, an input is resolved,
a node is looked up and connected, and the graph is controlled.  Each of these steps either fails
and leaves what it had, or goes on; what is carried is the target of the graph and its meter memo,
which callbacks between the steps do not touch.
-/

/-! ## Callbacks

`Audio.key` is what an attempt relies on of the graph across callbacks; no event changes it.
-/

namespace Audio

/-- What of a graph no callback changes: its target and its meter memo. -/
def key (a : Audio) : Option (String × Bool) :=
  a.graph.map fun g => (g.targetNodeName, g.meterMonitoring)

theorem deliver_key (a : Audio) (elapsed : ℕ) (event : LoopEvent) :
    (a.deliver elapsed event).key = a.key := by
  cases event with
  | registry event => rfl
  | coreInfo version => rfl
  | coreError failure => rfl
  | captureState change => simp [deliver, key, Option.map_map, Function.comp_def]
  | captureFormat event => simp [deliver, key, Option.map_map, Function.comp_def]
  | sourceState change => simp [deliver, key, Option.map_map, Function.comp_def]
  | sourceFormat event => simp [deliver, key, Option.map_map, Function.comp_def]

/-- Callbacks change neither the target nor the meter memo of the graph. -/
@[simp] theorem dispatch_key (a : Audio) (events : Dispatched) :
    (a.dispatch events).key = a.key := by
  induction events generalizing a with
  | nil => rfl
  | cons e es ih => exact (ih _).trans (deliver_key a e.1 e.2)

theorem key_eq_none {a : Audio} : a.key = none ↔ a.graph = none := by simp [key]

theorem key_eq_some {a : Audio} {k : String × Bool} :
    a.key = some k ↔ ∃ g, a.graph = some g ∧ g.targetNodeName = k.1 ∧ g.meterMonitoring = k.2 := by
  simp [key, Prod.ext_iff]

theorem key_of_graph {a : Audio} {g : LiveGraph} (h : a.graph = some g) :
    a.key = some (g.targetNodeName, g.meterMonitoring) := by
  rw [key, h]
  rfl

theorem key_isSome {a : Audio} : a.key.isSome = a.graph.isSome := by simp [key]

section
variable [UnicodeCase]

/-- Publishing the registry leaves the graph alone. -/
@[simp] theorem registrySnapshotNow_key (a : Audio) : a.registrySnapshotNow.2.key = a.key := by
  unfold registrySnapshotNow
  split <;> rfl

end

end Audio

theorem ensureConnection_key {a a' : Audio} {env : AttemptEnv} {r : Except EngineError Unit}
    (h : ensureConnection a env = (r, a')) : a'.key = a.key := by
  unfold ensureConnection at h
  split at h
  · cases h; rfl
  · simp only at h
    split at h
    · cases h; rfl
    · cases h; rfl

/-- Metering keeps the target of a graph, and fails exactly where it has to change and the
    request fails. -/
theorem setMeterMonitoring_cases (g : LiveGraph) (meter : Bool) (setActive : Native) :
    (g.setMeterMonitoring meter setActive).2.targetNodeName = g.targetNodeName ∧
      ((g.setMeterMonitoring meter setActive).1.isOk = true ↔
        (g.meterMonitoring = meter ∨ setActive = .ok ())) := by
  unfold LiveGraph.setMeterMonitoring
  split
  · rename_i hmemo
    exact ⟨rfl, iff_of_true rfl (.inl hmemo)⟩
  · rename_i hmemo
    cases setActive with
    | error error => exact ⟨rfl, iff_of_false Bool.false_ne_true (by simp [hmemo])⟩
    | ok _ => exact ⟨rfl, iff_of_true rfl (.inr rfl)⟩

/-- A graph that is kept exists. -/
theorem graph_of_kept {a : Audio} {previous : Option Config} {config : Config}
    (h : requiresRebuild a previous config = false) : ∃ g, a.graph = some g := by
  simp only [requiresRebuild, Bool.or_eq_false_iff] at h
  exact Option.isSome_iff_exists.mp (by simpa using h.1)

section
variable [UnicodeCase]

/-- Connecting, refreshing and publishing the registry leaves the graph alone. -/
theorem resolvedRegistry_key {a a' : Audio} {env : AttemptEnv}
    {r : Except EngineError RegistrySnapshot} (h : resolvedRegistry a env = (r, a')) :
    a'.key = a.key := by
  unfold resolvedRegistry at h
  split at h
  · rename_i hconnect
    cases h
    exact ensureConnection_key hconnect
  · rename_i hconnect
    cases h
    exact (Audio.registrySnapshotNow_key _).trans
      ((Audio.dispatch_key _ env.refreshed).trans (ensureConnection_key hconnect))

/-- A connect that succeeds looked its node up in a second publication, and leaves a fresh
    graph on it. -/
theorem connectWithLatency_ok {a a' : Audio} {env : AttemptEnv} {nodeName : String}
    (h : connectWithLatency a env nodeName = (.ok (), a')) :
    a' = ({ (a.lookUp env nodeName).2 with graph := some (LiveGraph.connected nodeName) } :
      Audio).dispatch env.connected := by
  unfold connectWithLatency at h
  split at h
  · cases h
  · simp only at h
    -- The node is gone, the capture failed, the source failed, or both streams connected.
    split at h
    · cases h
    · cases h
    · cases h
    · cases h; rfl

/-- A connect that fails leaves the graph alone. -/
theorem connectWithLatency_error {a a' : Audio} {env : AttemptEnv} {nodeName : String}
    {e : LiveGraphError} (h : connectWithLatency a env nodeName = (.error e, a')) :
    a'.key = a.key := by
  have hlook : (a.lookUp env nodeName).2.key = a.key := by simp [Audio.lookUp]
  unfold connectWithLatency at h
  split at h
  · cases h; rfl
  · simp only at h
    split at h
    · cases h; exact hlook
    · cases h; simpa using hlook
    · cases h; simpa using hlook
    · cases h

/-! ## Rebuilds

The old graph is dropped first, so a rebuild that fails leaves none.
-/

/-- A rebuild that fails leaves no graph. -/
theorem rebuildGraph_error {a a' : Audio} {config : Config} {env : AttemptEnv} {e : EngineError}
    (h : rebuildGraph a config env = (.error e, a')) : a'.graph = none := by
  rw [← Audio.key_eq_none]
  unfold rebuildGraph at h
  split at h
  · rename_i hregistry
    cases h
    exact resolvedRegistry_key hregistry
  · rename_i a₁ hregistry
    -- The rebuild starts without a graph, and only a connect that succeeds makes one.
    have hnone : a₁.key = none := resolvedRegistry_key hregistry
    split at h
    · cases h; exact hnone
    · cases h; exact hnone
    · split at h
      · rename_i hconnect
        cases h
        exact (connectWithLatency_error hconnect).trans hnone
      · cases h

/-- A rebuild that succeeds resolved the configured input in the registry view it published,
    and leaves a fresh graph on that input. -/
theorem rebuildGraph_ok {a a' : Audio} {config : Config} {env : AttemptEnv} {label : String}
    (h : rebuildGraph a config env = (.ok label, a')) :
    ∃ snapshot a₁ selected,
      resolvedRegistry { a with graph := none } env = (.ok snapshot, a₁) ∧
      snapshot.resolve config.policy = .ok selected ∧
      a' = ({ (a₁.lookUp env selected.nodeName).2 with
        graph := some (LiveGraph.connected selected.nodeName) } : Audio).dispatch
          env.connected := by
  unfold rebuildGraph at h
  split at h
  · cases h
  · rename_i snapshot a₁ hregistry
    split at h
    · cases h
    · cases h
    · -- an input is selected, and what is left to fail is the connection
      rename_i selected hresolve _
      split at h
      · cases h
      · rename_i hconnect
        cases h
        exact ⟨snapshot, a₁, selected, hregistry, hresolve, connectWithLatency_ok hconnect⟩

/-- The graph a rebuild leaves has no meter. -/
theorem rebuildGraph_fresh {a a' : Audio} {config : Config} {env : AttemptEnv} {label : String}
    (h : rebuildGraph a config env = (.ok label, a')) :
    ∃ g, a'.graph = some g ∧ g.meterMonitoring = false := by
  obtain ⟨_, _, selected, -, -, rfl⟩ := rebuildGraph_ok h
  have hkey : ∀ a : Audio, ({ a with graph := some (LiveGraph.connected selected.nodeName) } :
      Audio).key = some (selected.nodeName, false) := fun _ => rfl
  obtain ⟨g, hg, -, hmeter⟩ := Audio.key_eq_some.mp
    ((Audio.dispatch_key _ env.connected).trans (hkey _))
  exact ⟨g, hg, hmeter⟩

/-! ## Attempts

Whether a graph is wanted decides everything: if not, none is left; if so, there are three ways.
-/

/-- What the end of an attempt leaves of a graph `g`: the graph with the same target, and a
    fresh publication after a rebuild, unless metering failed. -/
theorem controlGraph_some {a a' : Audio} {g : LiveGraph} (hg : a.graph = some g)
    {previousObservation : Option EngineObservation} {config : Config} {meter rebuilt : Bool}
    {label : String} {env : AttemptEnv} {r : Except EngineError EngineObservation}
    (h : controlGraph a previousObservation config meter rebuilt label env = (r, a')) :
    ∃ g', g'.targetNodeName = g.targetNodeName ∧
      ((r.isOk ∧ (g.meterMonitoring = meter ∨ env.setActive = .ok ()) ∧
          a' = if rebuilt then ({ a with graph := some g' } : Audio).registrySnapshotNow.2
            else { a with graph := some g' }) ∨
        (∃ e, r = .error e) ∧ a' = { a with graph := some g' } ∧
          g.meterMonitoring ≠ meter ∧ ∃ e, env.setActive = .error e) := by
  -- Whether metering failed decides which of the two forms the end takes.
  have hmeter := setMeterMonitoring_cases (applyControls g config) meter env.setActive
  unfold controlGraph at h
  rw [hg] at h
  simp only at h
  split at h
  · rename_i e g' heq
    cases h
    rw [heq] at hmeter
    refine ⟨g', hmeter.1, .inr ⟨⟨_, rfl⟩, rfl, ?_⟩⟩
    have hfail := mt hmeter.2.mpr Bool.false_ne_true
    refine ⟨fun hmemo => hfail (.inl hmemo), ?_⟩
    cases hactive : env.setActive with
    | error error => exact ⟨error, rfl⟩
    | ok _ => exact absurd (.inr hactive) hfail
  · rename_i g' heq
    rw [heq] at hmeter
    cases rebuilt with
    | true => cases h; exact ⟨g', hmeter.1, .inl ⟨rfl, hmeter.2.mp rfl, rfl⟩⟩
    | false => cases h; exact ⟨g', hmeter.1, .inl ⟨rfl, hmeter.2.mp rfl, rfl⟩⟩

/-- A configuration that wants no graph always gets none. -/
theorem applyNative_stopped {a a' : Audio} {previous : Option Config}
    {previousObservation : Option EngineObservation} {config : Config} {meter : Bool}
    {env : AttemptEnv} {r : Except EngineError EngineObservation}
    (hactive : config.active = false) (hmeter : meter = false)
    (h : applyNative a previous previousObservation config meter env = (r, a')) :
    r.isOk ∧ a'.graph = none := by
  simp only [applyNative, hactive, hmeter, Bool.not_false, Bool.and_self, if_true] at h
  cases h
  refine ⟨rfl, Audio.key_eq_none.mp ?_⟩
  unfold stoppedObservation
  simp only
  split
  · rfl
  · unfold freshLabel
    split
    · rename_i hregistry
      exact resolvedRegistry_key hregistry
    · rename_i hregistry
      exact resolvedRegistry_key hregistry

/-- The three ways of an attempt at a configuration that wants a graph: a rebuild that fails,
    a rebuilt graph, or the present graph kept. -/
theorem applyNative_wanted {a a' : Audio} {previous : Option Config}
    {previousObservation : Option EngineObservation} {config : Config} {meter : Bool}
    {env : AttemptEnv} {r : Except EngineError EngineObservation}
    (hwanted : config.active = true ∨ meter = true)
    (h : applyNative a previous previousObservation config meter env = (r, a')) :
    (requiresRebuild a previous config = true ∧
        ∃ e, r = .error e ∧ rebuildGraph a config env = (.error e, a')) ∨
      (requiresRebuild a previous config = true ∧
        ∃ label a₁, rebuildGraph a config env = (.ok label, a₁) ∧
          controlGraph a₁ previousObservation config meter true label env = (r, a')) ∨
      (requiresRebuild a previous config = false ∧
        controlGraph a previousObservation config meter false
          (keptLabel previousObservation config) env = (r, a')) := by
  have hgraph : ¬(!config.active && !meter) = true := by
    rcases hwanted with hactive | hmeter
    · simp [hactive]
    · simp [hmeter]
  unfold applyNative at h
  rw [if_neg hgraph] at h
  split at h
  · rename_i hrebuild
    split at h
    · rename_i e a₁ heq
      cases h
      exact .inl ⟨hrebuild, e, rfl, heq⟩
    · rename_i label a₁ heq
      exact .inr (.inl ⟨hrebuild, label, a₁, heq, h⟩)
  · rename_i hrebuild
    exact .inr (.inr ⟨by simpa using hrebuild, h⟩)

/-- **A successful attempt** leaves a graph exactly where one is wanted. -/
theorem applyNative_ok {a a' : Audio} {previous : Option Config}
    {previousObservation : Option EngineObservation} {config : Config} {meter : Bool}
    {env : AttemptEnv} {observation : EngineObservation}
    (h : applyNative a previous previousObservation config meter env = (.ok observation, a')) :
    a'.graph.isSome ↔ config.active = true ∨ meter = true := by
  -- A rebuilt and a kept graph both end in `controlGraph`, which keeps the graph present.
  have hcontrol : ∀ {a₁ : Audio} {rebuilt label} (g : LiveGraph), a₁.graph = some g →
      controlGraph a₁ previousObservation config meter rebuilt label env =
        (.ok observation, a') → a'.graph.isSome := by
    intro a₁ rebuilt label g hg hctl
    obtain ⟨g', -, ⟨-, -, rfl⟩ | ⟨⟨e, he⟩, -⟩⟩ := controlGraph_some hg hctl
    · cases rebuilt with
      | true => rw [← Audio.key_isSome, if_pos rfl, Audio.registrySnapshotNow_key]; rfl
      | false => rfl
    · cases he
  by_cases hwanted : config.active = true ∨ meter = true
  · simp only [hwanted, iff_true]
    rcases applyNative_wanted hwanted h with
      ⟨-, e, he, -⟩ | ⟨-, label, a₁, hrebuild, hctl⟩ | ⟨hkept, hctl⟩
    · cases he
    · obtain ⟨g, hg, -⟩ := rebuildGraph_fresh hrebuild
      exact hcontrol g hg hctl
    · obtain ⟨g, hg⟩ := graph_of_kept hkept
      exact hcontrol g hg hctl
  · simp only [not_or, Bool.not_eq_true] at hwanted
    simp [applyNative_stopped hwanted.1 hwanted.2 h, hwanted]

/-- **A failed attempt** wanted a graph.  It leaves none only where its rebuild failed; and
    where its rebuild succeeded, a request to start metering failed. -/
theorem applyNative_error {a a' : Audio} {previous : Option Config}
    {previousObservation : Option EngineObservation} {config : Config} {meter : Bool}
    {env : AttemptEnv} {e : EngineError}
    (h : applyNative a previous previousObservation config meter env = (.error e, a')) :
    (config.active = true ∨ meter = true) ∧
      ((requiresRebuild a previous config = true ∧ a'.graph = none ∧
          (rebuildGraph a config env).1.isOk = false) ∨
        (requiresRebuild a previous config = true ∧ a'.graph.isSome ∧
          (rebuildGraph a config env).1.isOk = true ∧ meter = true ∧
          ∃ e, env.setActive = .error e) ∨
        (requiresRebuild a previous config = false ∧ a'.graph.isSome)) := by
  have hwanted : config.active = true ∨ meter = true := by
    by_contra hno
    simp only [not_or, Bool.not_eq_true] at hno
    cases (applyNative_stopped hno.1 hno.2 h).1
  refine ⟨hwanted, ?_⟩
  rcases applyNative_wanted hwanted h with
    ⟨hrebuilds, e', -, hrebuild⟩ | ⟨hrebuilds, label, a₁, hrebuild, hctl⟩ | ⟨hkept, hctl⟩
  · exact .inl ⟨hrebuilds, rebuildGraph_error hrebuild, by rw [hrebuild]; rfl⟩
  · obtain ⟨g, hg, hfresh⟩ := rebuildGraph_fresh hrebuild
    obtain ⟨g', -, ⟨hok, -⟩ | ⟨-, rfl, hmeter, hactive⟩⟩ := controlGraph_some hg hctl
    · cases hok
    · -- A fresh graph has no meter, so the request that failed was to start one.
      rw [hfresh] at hmeter
      exact .inr (.inl ⟨hrebuilds, rfl, by rw [hrebuild]; rfl, by simpa using hmeter.symm,
        hactive⟩)
  · obtain ⟨g, hg⟩ := graph_of_kept hkept
    obtain ⟨g', -, ⟨hok, -⟩ | ⟨-, rfl, -⟩⟩ := controlGraph_some hg hctl
    · cases hok
    · exact .inr (.inr ⟨hkept, rfl⟩)

end

end Noire
