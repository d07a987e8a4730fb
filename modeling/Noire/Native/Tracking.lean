import Noire.Native.Loop

namespace Noire

/-!
# The graph follows the registry

The registry's dirty flag has two consumers: a tick publishes a due view and compares the
graph's target with it, while `registry_snapshot_now` publishes at once and compares nothing.
A change is lost when the second clears the flag of a change the graph does not follow.

* `Audio.Tracks` — the graph targets what the configuration resolves to, or the registry is
  dirty;
* `Audio.Stamped` — a dirty registry became dirty no later than its last callback;
* `HidesNoChange` — publications that clear no change the graph does not follow;
* `graph_follows_registry` — in every run of such publications, a tick 50 ms after the last
  callback leaves a graph on the resolved input;
* `registry_change_lost` — a run in which listing the inputs loses a change of the default.

The invariant is `Owner.Follows`: the graph tracks the applied configuration, and the registry's
stamps are sound.  Each stage of the loop has one lemma that keeps it:

* a callback either leaves the registry or leaves it dirty, so it keeps `Audio.Tracks`, and it
  stamps what it makes dirty;
* a publication clears the flag.  In the tick the same view is compared with the target at once,
  so a graph that survives the check follows it; inside a connect nothing is compared, and that
  is where `AttemptKeepsInput` is needed;
* the listing of the inputs publishes and compares nothing: `KeepsChange` asks there that the
  graph's target is what was published.

A tick then finds a graph that tracks the registry.  The stamps say that a dirty registry had a
recent callback, so a debounce window after the last one the registry is clean
(`Audio.Quiet.clean`), and what remains of `Audio.Tracks` is that the target is resolved.
-/

/-! ## Stamps

The dirty flag carries the time it was set at, but not the time of the last callback, and the
debounce window runs from the first.  `Stamped` ties the two together.  The bound `since` is what
a publication gives: afterwards the registry can only have become dirty later.
-/

/-- The dirty flag was set no later than the last registry callback, and, if it is set, that
    callback came at `since` or later. -/
structure PipewireConnection.Stamped (c : PipewireConnection) (since clock : ℕ) : Prop where
  dirty : ∀ millis, c.registryMonitor.dirtySinceMillis = some millis →
    ∃ last, c.lastEvent = some last ∧ since ≤ last ∧ millis ≤ elapsedMillis c.clockOrigin last
  past : ∀ last, c.lastEvent = some last → last ≤ clock

/-- A later clock keeps the stamps of a connection. -/
theorem PipewireConnection.Stamped.later {c : PipewireConnection} {since clock clock' : ℕ}
    (h : c.Stamped since clock) (hclock : clock ≤ clock') : c.Stamped since clock' :=
  ⟨h.dirty, fun last hlast => (h.past last hlast).trans hclock⟩

/-- A registry callback stamps the connection. -/
theorem PipewireConnection.Stamped.registryEvent {c : PipewireConnection} {since clock now : ℕ}
    (h : c.Stamped since clock) (hsince : since ≤ clock) (hnow : clock ≤ now)
    (event : RegistryEvent) : (c.registryEvent event now).Stamped since now where
  dirty := by
    intro millis hmillis
    refine ⟨now, rfl, hsince.trans hnow, ?_⟩
    -- A window that was open already opened at an earlier reading.
    have hby : c.registryMonitor.DirtyBy (elapsedMillis c.clockOrigin now) := by
      intro dirty hdirty
      obtain ⟨last, hlast, -, hle⟩ := h.dirty dirty hdirty
      exact hle.trans (elapsedMillis_mono _ ((h.past last hlast).trans hnow))
    exact c.registryMonitor.apply_dirtyBy event hby (le_refl _) millis hmillis
  past := by
    intro last hlast
    cases hlast
    exact le_refl _

/-- The stamps of the present connection. -/
structure Audio.Stamped (a : Audio) (since : ℕ) : Prop where
  since_le : since ≤ a.clock
  stamped : ∀ c, a.connection = some c → c.Stamped since a.clock

/-- What one callback does to the connection: a registry callback reaches the registry, and
    any other leaves the registry and its stamps. -/
theorem deliver_connection {a : Audio} {elapsed : ℕ} {event : LoopEvent} {c' : PipewireConnection}
    (h : (a.deliver elapsed event).connection = some c') :
    ∃ c, a.connection = some c ∧
      ((c'.registryMonitor = c.registryMonitor ∧ c'.lastEvent = c.lastEvent ∧
          c'.clockOrigin = c.clockOrigin) ∨
        ∃ event, c' = c.registryEvent event (a.clock + elapsed)) := by
  cases event with
  | registry event =>
    obtain ⟨c, hc, rfl⟩ := Option.map_eq_some_iff.mp h
    exact ⟨c, hc, .inr ⟨event, rfl⟩⟩
  | coreInfo version =>
    obtain ⟨c, hc, rfl⟩ := Option.map_eq_some_iff.mp h
    exact ⟨c, hc, .inl ⟨rfl, rfl, rfl⟩⟩
  | coreError failure =>
    obtain ⟨c, hc, rfl⟩ := Option.map_eq_some_iff.mp h
    exact ⟨c, hc, .inl ⟨rfl, rfl, rfl⟩⟩
  | captureState change => exact ⟨c', h, .inl ⟨rfl, rfl, rfl⟩⟩
  | captureFormat event => exact ⟨c', h, .inl ⟨rfl, rfl, rfl⟩⟩
  | sourceState change => exact ⟨c', h, .inl ⟨rfl, rfl, rfl⟩⟩
  | sourceFormat event => exact ⟨c', h, .inl ⟨rfl, rfl, rfl⟩⟩

theorem deliver_clock (a : Audio) (elapsed : ℕ) (event : LoopEvent) :
    (a.deliver elapsed event).clock = a.clock + elapsed := by
  cases event <;> rfl

theorem Audio.Stamped.deliver {a : Audio} {since : ℕ} (h : a.Stamped since) (elapsed : ℕ)
    (event : LoopEvent) : (a.deliver elapsed event).Stamped since where
  since_le := by
    rw [deliver_clock]
    exact h.since_le.trans (Nat.le_add_right _ _)
  stamped := by
    intro c' hc'
    rw [deliver_clock]
    obtain ⟨c, hc, ⟨hmonitor, hlast, horigin⟩ | ⟨event, rfl⟩⟩ := deliver_connection hc'
    · have hstamped := (h.stamped c hc).later (Nat.le_add_right a.clock elapsed)
      constructor
      · rw [hmonitor, hlast, horigin]
        exact hstamped.dirty
      · rw [hlast]
        exact hstamped.past
    · exact (h.stamped c hc).registryEvent h.since_le (Nat.le_add_right _ _) event

theorem Audio.Stamped.dispatch {a : Audio} {since : ℕ} (h : a.Stamped since)
    (events : Dispatched) : (a.dispatch events).Stamped since := by
  induction events generalizing a with
  | nil => exact h
  | cons e es ih => exact ih (h.deliver e.1 e.2)

/-- Stamps look at the clock and the connection only, and survive a later clock. -/
theorem Audio.Stamped.of_eq {a a' : Audio} {since : ℕ} (h : a.Stamped since)
    (hclock : a.clock ≤ a'.clock) (hconnection : a'.connection = a.connection) :
    a'.Stamped since :=
  ⟨h.since_le.trans hclock, fun c hc => (h.stamped c (hconnection ▸ hc)).later hclock⟩

theorem Audio.Stamped.weaken {a : Audio} {since since' : ℕ} (h : a.Stamped since)
    (hle : since' ≤ since) : a.Stamped since' where
  since_le := hle.trans h.since_le
  stamped := fun c hc => ⟨fun millis hmillis =>
    have ⟨last, hlast, hsince, hstamp⟩ := (h.stamped c hc).dirty millis hmillis
    ⟨last, hlast, hle.trans hsince, hstamp⟩, (h.stamped c hc).past⟩

/-- The registry a dispatch leaves does not depend on the graph. -/
theorem dispatch_connection_congr {a b : Audio} (hclock : a.clock = b.clock)
    (hconnection : a.connection = b.connection) (events : Dispatched) :
    (a.dispatch events).connection = (b.dispatch events).connection := by
  induction events generalizing a b with
  | nil => exact hconnection
  | cons e es ih =>
    refine ih ?_ ?_
    · rw [deliver_clock, deliver_clock, hclock]
    · obtain ⟨elapsed, event⟩ := e
      cases event <;> simp only [Audio.deliver, hclock, hconnection]

theorem dispatch_clock_le (a : Audio) (events : Dispatched) :
    a.clock ≤ (a.dispatch events).clock := by
  induction events generalizing a with
  | nil => exact le_refl _
  | cons e es ih =>
    refine le_trans ?_ (ih (a.deliver e.1 e.2))
    rw [deliver_clock]
    exact Nat.le_add_right _ _

theorem dispatch_isSome (a : Audio) (events : Dispatched) :
    (a.dispatch events).connection.isSome = a.connection.isSome := by
  induction events generalizing a with
  | nil => rfl
  | cons e es ih =>
    refine (ih (a.deliver e.1 e.2)).trans ?_
    obtain ⟨elapsed, event⟩ := e
    cases event <;> simp [Audio.deliver]

theorem serviceCore_clock (o : Owner) (env : TickEnv) :
    o.tickNow env ≤ (serviceCore o env).audio.clock := by
  unfold serviceCore
  dsimp only
  split
  · exact le_refl _
  · have hclock := dispatch_clock_le { o.audio with clock := o.tickNow env } env.dispatched
    split
    · exact hclock
    · exact hclock

theorem stamped_of_absent {a : Audio} (h : a.connection = none) : a.Stamped 0 :=
  ⟨Nat.zero_le _, fun c hc => by rw [h] at hc; cases hc⟩

/-- A connection that is ensured keeps the stamps; and it exists. -/
theorem ensureConnection_stamped {a a' : Audio} {env : AttemptEnv} {r : Except EngineError Unit}
    {since : ℕ} (h : a.Stamped since) (heq : ensureConnection a env = (r, a')) :
    a'.Stamped since ∧ a.clock ≤ a'.clock ∧ (r.isOk → a'.connection.isSome) := by
  unfold ensureConnection at heq
  split at heq
  · rename_i hsome
    cases heq
    exact ⟨h, le_refl _, fun _ => hsome⟩
  · dsimp only at heq
    have hlater : a.clock ≤ a.clock + env.connectElapsed := Nat.le_add_right _ _
    split at heq
    · cases heq
      exact ⟨h.of_eq hlater rfl, hlater, fun hok => absurd hok Bool.false_ne_true⟩
    · -- a new connection: no event yet, and a clean registry
      cases heq
      refine ⟨⟨h.since_le.trans hlater, fun c hc => ?_⟩, hlater, fun _ => rfl⟩
      cases hc
      exact ⟨fun _ hmillis => absurd hmillis (Option.some_ne_none _).symm,
        fun _ hlast => absurd hlast (Option.some_ne_none _).symm⟩

/-- A graph that is kept follows the input of the configuration before. -/
theorem input_of_kept {a : Audio} {previous : Option Config} {config : Config}
    (h : requiresRebuild a previous config = false) :
    ∃ p, previous = some p ∧ config.input = p.input := by
  simp only [requiresRebuild, Bool.or_eq_false_iff] at h
  cases previous with
  | none => cases h.2
  | some p =>
    refine ⟨p, rfl, ?_⟩
    by_contra hne
    simp [Ne.symm hne] at h

/-! ## Quiet registries

A registry is quiet at a reading when its last callback is a debounce window old.  With sound
stamps, a quiet registry that was offered for publication is not dirty.
-/

/-- The registry has a change no publication showed yet. -/
def Audio.dirty (a : Audio) : Prop :=
  ∃ c, a.connection = some c ∧ c.registryMonitor.dirtySinceMillis.isSome

/-- The last registry callback came a debounce window before the reading. -/
def Audio.Quiet (a : Audio) (reading : ℕ) : Prop :=
  ∀ c last, a.connection = some c → c.lastEvent = some last →
    elapsedMillis c.clockOrigin last + registryCoalesceMillis ≤
      elapsedMillis c.clockOrigin reading

instance (a : Audio) (reading : ℕ) : Decidable (a.Quiet reading) :=
  decidable_of_iff (a.connection.all fun c => c.lastEvent.all fun last =>
      elapsedMillis c.clockOrigin last + registryCoalesceMillis ≤
        elapsedMillis c.clockOrigin reading) (by
    simp only [Audio.Quiet, Option.all_eq_true, decide_eq_true_eq]
    exact ⟨fun h c last hc hlast => h c hc last hlast, fun h c hc last hlast => h c last hc hlast⟩)

/-- Where the debounce window of a dirty registry has not elapsed, its last callback is
    recent. -/
theorem Audio.Quiet.clean {a : Audio} {reading due : ℕ} (h : a.Quiet reading)
    (hstamped : a.Stamped 0) (hdue : reading ≤ due)
    (hwindow : ∀ c millis, a.connection = some c →
      c.registryMonitor.dirtySinceMillis = some millis →
      elapsedMillis c.clockOrigin due < millis + registryCoalesceMillis) : ¬a.dirty := by
  rintro ⟨c, hc, hdirty⟩
  obtain ⟨millis, hmillis⟩ := Option.isSome_iff_exists.mp hdirty
  obtain ⟨last, hlast, -, hle⟩ := (hstamped.stamped c hc).dirty millis hmillis
  have hquiet := h c last hc hlast
  have hreading := elapsedMillis_mono c.clockOrigin hdue
  have hearly := hwindow c millis hc hmillis
  omega

/-- A registry that became dirty after the reading is not quiet. -/
theorem Audio.Quiet.clean_since {a : Audio} {reading since : ℕ} (h : a.Quiet reading)
    (hstamped : a.Stamped since) (hsince : reading ≤ since) : ¬a.dirty := by
  rintro ⟨c, hc, hdirty⟩
  obtain ⟨millis, hmillis⟩ := Option.isSome_iff_exists.mp hdirty
  obtain ⟨last, hlast, hafter, -⟩ := (hstamped.stamped c hc).dirty millis hmillis
  have hquiet := h c last hc hlast
  have hlater := elapsedMillis_mono c.clockOrigin (hsince.trans hafter)
  simp only [registryCoalesceMillis] at hquiet
  omega

/-! ## The registry the graph follows

What the configuration resolves to in the contents that the registry holds now, published or not;
and that the graph targets it, or the flag is up.
-/

section
variable [UnicodeCase]

/-- What the configured input resolves to in the present registry contents. -/
def Audio.resolved (a : Audio) (config : Config) : Option String :=
  a.connection.bind fun c => resolveInput c.registryMonitor.contents config

/-- The graph targets what the configuration resolves to, or the registry is dirty. -/
def Audio.Tracks (a : Audio) (config : Config) : Prop :=
  ∀ key, a.key = some key → a.connection.isSome ∧ (a.dirty ∨ a.resolved config = some key.1)

/-- No graph follows anything. -/
theorem tracks_of_absent {a : Audio} {config : Config} (h : a.graph = none) :
    a.Tracks config := by
  intro key hkey
  rw [Audio.key_eq_none.mpr h] at hkey
  cases hkey

/-- A graph follows the registry where its target does. -/
theorem tracks_of_target {a : Audio} {config : Config} {g : LiveGraph} (hg : a.graph = some g)
    (hsome : a.connection.isSome)
    (htarget : a.dirty ∨ a.resolved config = some g.targetNodeName) : a.Tracks config := by
  intro key hkey
  obtain ⟨g', hg', hname, -⟩ := Audio.key_eq_some.mp hkey
  obtain rfl : g = g' := Option.some.inj (hg.symm.trans hg')
  exact ⟨hsome, hname ▸ htarget⟩

/-- Tracking looks at the graph's target, the connection and the input policy only. -/
theorem Audio.Tracks.of_eq {a a' : Audio} {config config' : Config} (h : a.Tracks config)
    (htarget : a'.key.map Prod.fst = a.key.map Prod.fst)
    (hconnection : a'.connection = a.connection)
    (hinput : config'.input = config.input) : a'.Tracks config' := by
  intro key hkey
  have hfst : a.key.map Prod.fst = some key.1 := by rw [← htarget, hkey]; rfl
  obtain ⟨key₀, hkey₀, hsame⟩ := Option.map_eq_some_iff.mp hfst
  have hpolicy : config'.policy = config.policy := by simp only [Config.policy, hinput]
  have hold := h key₀ hkey₀
  rw [hsame] at hold
  simp only [Audio.dirty, Audio.resolved, resolveInput, hconnection, hpolicy] at hold ⊢
  exact hold

/-- A callback keeps the graph tracked: it leaves the registry, or leaves it dirty. -/
theorem Audio.Tracks.deliver {a : Audio} {config : Config} (h : a.Tracks config) (elapsed : ℕ)
    (event : LoopEvent) : (a.deliver elapsed event).Tracks config := by
  intro key hkey
  rw [Audio.deliver_key] at hkey
  obtain ⟨hsome, htracks⟩ := h key hkey
  obtain ⟨c, hc⟩ := Option.isSome_iff_exists.mp hsome
  have hsome' : (a.deliver elapsed event).connection.isSome := by
    cases event <;> simp [Audio.deliver, hc]
  obtain ⟨c', hc'⟩ := Option.isSome_iff_exists.mp hsome'
  refine ⟨hsome', ?_⟩
  obtain ⟨c₀, hc₀, hcases⟩ := deliver_connection hc'
  obtain rfl : c₀ = c := Option.some.inj (hc₀.symm.trans hc)
  simp only [Audio.dirty, Audio.resolved, hc, hc', Option.some.injEq, exists_eq_left',
    Option.bind_some] at htracks ⊢
  rcases hcases with ⟨hmonitor, -, -⟩ | ⟨event, rfl⟩
  · rwa [hmonitor]
  · -- a registry event changes nothing or opens the window
    have happly := RegistryMonitor.apply_cases c₀.registryMonitor event
      (elapsedMillis c₀.clockOrigin (a.clock + elapsed))
    simp only [PipewireConnection.registryEvent]
    rcases happly with heq | hdirty
    · rwa [heq]
    · exact .inl (by rw [hdirty]; rfl)

theorem Audio.Tracks.dispatch {a : Audio} {config : Config} (h : a.Tracks config)
    (events : Dispatched) : (a.dispatch events).Tracks config := by
  induction events generalizing a with
  | nil => exact h
  | cons e es ih => exact ih (h.deliver e.1 e.2)

/-! ## Publications

`registry_snapshot_now` clears the flag and keeps the contents, so that what is resolved is what
was published.
-/

@[simp] theorem registrySnapshotNow_clock (a : Audio) :
    a.registrySnapshotNow.2.clock = a.clock := by
  unfold Audio.registrySnapshotNow
  split <;> rfl

/-- A publication does not change what the contents resolve to. -/
@[simp] theorem registrySnapshotNow_resolved (a : Audio) (config : Config) :
    a.registrySnapshotNow.2.resolved config = a.resolved config := by
  unfold Audio.registrySnapshotNow
  split
  · rfl
  · rename_i c hc
    simp only [Audio.resolved, hc, Option.bind_some]
    exact c.registryMonitor.publishNow_resolved config.policy

/-- A publication shows what the contents resolve to. -/
theorem registrySnapshotNow_shown {a : Audio} (h : a.connection.isSome) (config : Config) :
    a.resolved config = resolveInput a.registrySnapshotNow.1 config := by
  obtain ⟨c, hc⟩ := Option.isSome_iff_exists.mp h
  simp only [Audio.registrySnapshotNow, Audio.resolved, hc, Option.bind_some,
    RegistryMonitor.publishNow]

theorem registrySnapshotNow_isSome (a : Audio) :
    a.registrySnapshotNow.2.connection.isSome = a.connection.isSome := by
  unfold Audio.registrySnapshotNow
  split
  · rfl
  · rename_i c hc
    simp [hc]

/-- After a publication, the registry can only have become dirty since. -/
theorem Audio.Stamped.published {a : Audio} {since : ℕ} (h : a.Stamped since) :
    a.registrySnapshotNow.2.Stamped a.clock where
  since_le := by rw [registrySnapshotNow_clock]
  stamped := by
    intro c' hc'
    rw [registrySnapshotNow_clock]
    unfold Audio.registrySnapshotNow at hc'
    split at hc'
    · rename_i hnone
      cases hnone.symm.trans hc'
    · rename_i c hc
      cases hc'
      exact ⟨fun _ hmillis => absurd hmillis (Option.some_ne_none _).symm, (h.stamped c hc).past⟩

/-! ## Rebuilds

A rebuild publishes twice: once to resolve the input, once to look its node up.  Callbacks are
dispatched before, between and after, so the target is that of the first publication while the
registry is the one that the last callbacks left.
-/

/-- The registry view a rebuild resolves in: it is what the contents resolve to, and the
    registry is clean then. -/
theorem resolvedRegistry_stamped {a a' : Audio} {env : AttemptEnv}
    {r : Except EngineError RegistrySnapshot} {since : ℕ} (h : a.Stamped since)
    (heq : resolvedRegistry a env = (r, a')) :
    a'.Stamped since ∧ ∀ snapshot, r = .ok snapshot →
      a'.Stamped a.clock ∧ a'.connection.isSome ∧
      ∀ config, a'.resolved config = resolveInput snapshot config := by
  unfold resolvedRegistry at heq
  split at heq
  · rename_i hensure
    cases heq
    refine ⟨(ensureConnection_stamped h hensure).1, fun snapshot hok => ?_⟩
    cases hok
  · rename_i a₁ hensure
    obtain ⟨hstamped, hclock, hsome⟩ := ensureConnection_stamped h hensure
    have hrefreshed := hstamped.dispatch env.refreshed
    have hlater := hclock.trans (dispatch_clock_le a₁ env.refreshed)
    cases heq
    -- The publication closes the window, so whatever opens it comes later.
    refine ⟨hrefreshed.published.weaken hrefreshed.since_le, fun snapshot hok => ?_⟩
    cases hok
    have hconnection : (a₁.dispatch env.refreshed).connection.isSome := by
      rw [dispatch_isSome]
      exact hsome rfl
    refine ⟨hrefreshed.published.weaken hlater,
      (registrySnapshotNow_isSome _).trans hconnection, fun config => ?_⟩
    exact (registrySnapshotNow_resolved _ config).trans
      (registrySnapshotNow_shown hconnection config)

/-- The audio after the callbacks inside a connect: some before its second publication, some
    after. -/
def Audio.connecting (a : Audio) (env : AttemptEnv) : Audio :=
  (a.dispatch env.connecting).registrySnapshotNow.2.dispatch env.connected

/-- What a rebuild leaves: a graph on the input it resolved, and the registry as the callbacks
    inside its connect left it. -/
theorem rebuildGraph_stamped {a a' : Audio} {config : Config} {env : AttemptEnv} {label : String}
    {since : ℕ} (hstamped : a.Stamped since) (h : rebuildGraph a config env = (.ok label, a')) :
    ∃ snapshot a₁ target,
      resolvedRegistry { a with graph := none } env = (.ok snapshot, a₁) ∧
      a₁.resolved config = some target ∧ a'.key = some (target, false) ∧
      a'.connection = (a₁.connecting env).connection ∧ a'.connection.isSome ∧
      a'.Stamped a.clock := by
  obtain ⟨snapshot, a₁, selected, hregistry, hresolve, rfl⟩ := rebuildGraph_ok h
  have hdropped : ({ a with graph := none } : Audio).Stamped since :=
    hstamped.of_eq (le_refl _) rfl
  obtain ⟨-, hclean⟩ := resolvedRegistry_stamped hdropped hregistry
  obtain ⟨hstamped₁, hsome, hresolved⟩ := hclean snapshot rfl
  have hlooked := (hstamped₁.dispatch env.connecting).published.weaken
    (hstamped₁.dispatch env.connecting).since_le
  -- The lookup is a second publication: it hides what came since the first.
  have hlook : (a₁.lookUp env selected.nodeName).2 =
      (a₁.dispatch env.connecting).registrySnapshotNow.2 := rfl
  rw [hlook]
  have hconnected : ({ (a₁.dispatch env.connecting).registrySnapshotNow.2 with
      graph := some (LiveGraph.connected selected.nodeName) } : Audio).Stamped a.clock :=
    hlooked.of_eq (le_refl _) rfl
  -- The target is the first view's; the registry and the stamps are those after the connect.
  refine ⟨snapshot, a₁, selected.nodeName, hregistry, ?_, ?_, ?_, ?_, hconnected.dispatch _⟩
  · rw [hresolved]
    simp [resolveInput, hresolve, Except.toOption]
  · rw [Audio.dispatch_key]
    rfl
  · exact dispatch_connection_congr (by rfl) (by rfl) env.connected
  · rw [dispatch_isSome]
    exact (registrySnapshotNow_isSome _).trans ((dispatch_isSome _ _).trans hsome)

/-- A failed connect keeps the stamps. -/
theorem connectWithLatency_stamped {a a' : Audio} {env : AttemptEnv} {nodeName : String}
    {e : LiveGraphError} {since : ℕ} (hstamped : a.Stamped since)
    (h : connectWithLatency a env nodeName = (.error e, a')) : a'.Stamped since := by
  have hlook : (a.lookUp env nodeName).2.Stamped since :=
    (hstamped.dispatch env.connecting).published.weaken (hstamped.dispatch env.connecting).since_le
  unfold connectWithLatency at h
  split at h
  · cases h
    exact hstamped
  · dsimp only at h
    split at h
    · cases h
      exact hlook
    · cases h
      exact hlook.dispatch env.connected
    · cases h
      exact hlook.dispatch env.connected
    · cases h

/-- A rebuild keeps the stamps, however it ends. -/
theorem rebuildGraph_keeps_stamped {a a' : Audio} {config : Config} {env : AttemptEnv}
    {r : Except EngineError String} {since : ℕ} (hstamped : a.Stamped since)
    (h : rebuildGraph a config env = (r, a')) : a'.Stamped since := by
  cases r with
  | ok label =>
    obtain ⟨-, -, -, -, -, -, -, -, hstamped'⟩ := rebuildGraph_stamped hstamped h
    exact hstamped'.weaken hstamped.since_le
  | error e =>
    -- A failure leaves no graph; the registry is stamped as far as it was read.
    have hdropped : ({ a with graph := none } : Audio).Stamped since :=
      hstamped.of_eq (le_refl _) rfl
    unfold rebuildGraph at h
    split at h
    · rename_i hregistry
      cases h
      exact (resolvedRegistry_stamped hdropped hregistry).1
    · rename_i a₁ hregistry
      have hregistered := (resolvedRegistry_stamped hdropped hregistry).1
      split at h
      · cases h
        exact hregistered
      · cases h
        exact hregistered
      · split at h
        · rename_i hconnect
          cases h
          exact connectWithLatency_stamped hregistered hconnect
        · cases h

/-! ## Attempts

An attempt that rebuilds targets what was resolved before it connects.  A change that arrives
meanwhile is compared with nothing: `AttemptKeepsInput` asks that none did, or that the attempt
fails with the registry still dirty.
-/

/-- The end of an attempt keeps the stamps. -/
theorem controlGraph_stamped {a a' : Audio} {previousObservation : Option EngineObservation}
    {config : Config} {meter rebuilt : Bool} {label : String} {env : AttemptEnv}
    {r : Except EngineError EngineObservation} {since : ℕ} (hstamped : a.Stamped since)
    (h : controlGraph a previousObservation config meter rebuilt label env = (r, a')) :
    a'.Stamped since := by
  cases hg : a.graph with
  | none =>
    simp only [controlGraph, hg] at h
    cases h
    exact hstamped
  | some g =>
    have hkept : ∀ g', ({ a with graph := some g' } : Audio).Stamped since := fun _ =>
      hstamped.of_eq (le_refl _) rfl
    obtain ⟨g', -, ⟨-, -, rfl⟩ | ⟨-, rfl, -⟩⟩ := controlGraph_some hg h
    · cases rebuilt with
      | true => exact (hkept g').published.weaken hstamped.since_le
      | false => exact hkept g'
    · exact hkept g'

/-- An attempt keeps the stamps, however it ends. -/
theorem applyNative_stamped {a a' : Audio} {previous : Option Config}
    {previousObservation : Option EngineObservation} {config : Config} {meter : Bool}
    {env : AttemptEnv} {r : Except EngineError EngineObservation} {since : ℕ}
    (hstamped : a.Stamped since)
    (h : applyNative a previous previousObservation config meter env = (r, a')) :
    a'.Stamped since := by
  by_cases hwanted : config.active = true ∨ meter = true
  · rcases applyNative_wanted hwanted h with
      ⟨-, e, -, hrebuild⟩ | ⟨-, label, a₁, hrebuild, hctl⟩ | ⟨-, hctl⟩
    · exact rebuildGraph_keeps_stamped hstamped hrebuild
    · exact controlGraph_stamped (rebuildGraph_keeps_stamped hstamped hrebuild) hctl
    · exact controlGraph_stamped hstamped hctl
  · simp only [not_or, Bool.not_eq_true] at hwanted
    -- Nothing is wanted: the graph is dropped, and only the label is looked up.
    have hdropped : ({ a with graph := none } : Audio).Stamped since :=
      hstamped.of_eq (le_refl _) rfl
    simp only [applyNative, hwanted, Bool.not_false, Bool.and_self, if_true] at h
    cases h
    unfold stoppedObservation
    dsimp only
    split
    · exact hdropped
    · unfold freshLabel
      split
      · rename_i hregistry
        exact (resolvedRegistry_stamped hdropped hregistry).1
      · rename_i hregistry
        exact (resolvedRegistry_stamped hdropped hregistry).1

/-- The callbacks inside the connect of an attempt do not change what the configured input
    resolves to, or metering fails before the last publication and leaves the change in the
    registry. -/
def AttemptKeepsInput (a : Audio) (previous : Option Config) (config : Config) (meter : Bool)
    (env : AttemptEnv) : Prop :=
  let before := (resolvedRegistry { a with graph := none } env).2
  let after := before.connecting env
  config.active = true ∨ meter = true → requiresRebuild a previous config = true →
    (rebuildGraph a config env).1.isOk = true →
      after.resolved config = before.resolved config ∨
        (meter = true ∧ after.dirty ∧ ∃ e, env.setActive = .error e)

/-- **An attempt** leaves a graph that follows the registry, if no publication inside its
    connect hides a change. -/
theorem applyNative_tracks {a a' : Audio} {previous : Option Config}
    {previousObservation : Option EngineObservation} {config : Config} {meter : Bool}
    {env : AttemptEnv} {r : Except EngineError EngineObservation} {since : ℕ}
    (hstamped : a.Stamped since) (htracks : ∀ p, previous = some p → a.Tracks p)
    (hkeeps : AttemptKeepsInput a previous config meter env)
    (h : applyNative a previous previousObservation config meter env = (r, a')) :
    a'.Tracks config := by
  by_cases hwanted : config.active = true ∨ meter = true
  · rcases applyNative_wanted hwanted h with
      ⟨-, e, -, hrebuild⟩ | ⟨hrebuilds, label, a₁, hrebuild, hctl⟩ | ⟨hkept, hctl⟩
    · exact tracks_of_absent (rebuildGraph_error hrebuild)
    · -- A rebuilt graph targets what the first publication resolved, and the callbacks inside
      -- its connect kept that, or metering failed and left the registry dirty.
      obtain ⟨snapshot, a₀, target, hregistry, htarget, hkey, hconnection, hsome, -⟩ :=
        rebuildGraph_stamped hstamped hrebuild
      have hinput := hkeeps hwanted hrebuilds (by rw [hrebuild]; rfl)
      simp only [hregistry] at hinput
      obtain ⟨g, hg, hgtarget, hfresh⟩ := Audio.key_eq_some.mp hkey
      have hresolved : a₁.resolved config = (a₀.connecting env).resolved config := by
        simp only [Audio.resolved, hconnection]
      have hdirty : (a₀.connecting env).dirty → a₁.dirty := by
        simp only [Audio.dirty, hconnection, imp_self]
      obtain ⟨g', hg', ⟨-, hmeter, rfl⟩ | ⟨-, rfl, -⟩⟩ := controlGraph_some hg hctl
      · -- the last publication shows what the graph targets
        have hsame : a₁.resolved config = some g'.targetNodeName := by
          rcases hinput with hsame | ⟨hmeters, -, e, hfails⟩
          · rw [hresolved, hsame, htarget, hg', hgtarget]
          · rw [hmeters, hfails, hfresh] at hmeter
            rcases hmeter with hmeter | hmeter <;> cases hmeter
        obtain ⟨g'', hg'', htarget'', -⟩ := Audio.key_eq_some.mp
          ((Audio.registrySnapshotNow_key { a₁ with graph := some g' }).trans rfl)
        refine tracks_of_target hg'' ((registrySnapshotNow_isSome _).trans hsome) (.inr ?_)
        rw [htarget'', ← hsame]
        exact registrySnapshotNow_resolved _ config
      · -- without the last publication the registry is as the connect left it
        refine tracks_of_target (g := g') rfl hsome ?_
        rcases hinput with hsame | ⟨-, hdirty', -⟩
        · refine .inr ?_
          rw [hg', hgtarget, ← htarget, ← hsame, ← hresolved]
          rfl
        · exact .inl (hdirty hdirty')
    · -- a kept graph follows the input it followed before
      obtain ⟨g, hg⟩ := graph_of_kept hkept
      obtain ⟨p, hp, hinput⟩ := input_of_kept hkept
      have hkeptTarget : ∀ {b : Audio}, b.key.map Prod.fst = a.key.map Prod.fst →
          b.connection = a.connection → b.Tracks config := fun hkey hconnection =>
        (htracks p hp).of_eq hkey hconnection hinput
      obtain ⟨g', hg', ⟨-, -, rfl⟩ | ⟨-, rfl, -⟩⟩ := controlGraph_some hg hctl
      · exact hkeptTarget (by simp [Audio.key, hg, hg']) rfl
      · exact hkeptTarget (by simp [Audio.key, hg, hg']) rfl
  · simp only [not_or, Bool.not_eq_true] at hwanted
    exact tracks_of_absent (applyNative_stopped hwanted.1 hwanted.2 h).2

/-! ## The tick

The stages are taken in the order of the tick.  The core stage can only drop the graph; the graph
stage publishes and checks; the recovery stage attempts, but only where no graph is left, so its
attempt starts from a publication of its own.
-/

/-- The stamps of the owner's connection, and a graph that follows the registry. -/
structure Owner.Follows (o : Owner) : Prop where
  stamped : o.audio.Stamped 0
  tracks : ∀ config, o.applied = some config → o.audio.Tracks config

/-- What follows the registry still follows it under the same intent, where the audio does. -/
theorem Owner.Follows.of_audio {o o' : Owner} (h : o.Follows) (happlied : o'.applied = o.applied)
    (hstamped : o'.audio.Stamped 0)
    (htracks : ∀ config, o.audio.Tracks config → o'.audio.Tracks config) : o'.Follows :=
  ⟨hstamped, fun config hconfig => htracks config (h.tracks config (happlied ▸ hconfig))⟩

theorem serviceCore_follows {o : Owner} (h : o.Follows) (env : TickEnv) :
    (serviceCore o env).Follows := by
  rcases serviceCore_cases o env with
    ⟨clock, heq, hnone⟩ | heq | ⟨audio, nowMillis, heq, hgraph, hnone⟩
  · rw [heq]
    exact h.of_audio rfl (stamped_of_absent hnone) fun config htracks => htracks.of_eq rfl rfl rfl
  · have hwaited : ({ o.audio with clock := o.tickNow env } : Audio).Stamped 0 :=
      h.stamped.of_eq (Nat.le_add_right _ _) rfl
    rw [heq]
    refine h.of_audio rfl (hwaited.dispatch env.dispatched) fun config htracks => ?_
    have htracks' : ({ o.audio with clock := o.tickNow env } : Audio).Tracks config :=
      htracks.of_eq rfl rfl rfl
    exact htracks'.dispatch env.dispatched
  · rw [heq]
    exact ⟨stamped_of_absent hnone, fun config _ => tracks_of_absent hgraph⟩

/-- A tick publishes the contents of a registry whose window has elapsed, and leaves any
    other. -/
theorem published_cases (o : Owner) (env : TickEnv) :
    o.audio.clock ≤ (o.published env).audio.clock ∧
      (((registrySnapshotIfDue o env).1 = none ∧
          (o.published env).audio.connection = o.audio.connection ∧
          ∀ c millis, o.audio.connection = some c →
            c.registryMonitor.dirtySinceMillis = some millis →
            elapsedMillis c.clockOrigin (o.dueNow env) < millis + registryCoalesceMillis) ∨
        ∃ c, o.audio.connection = some c ∧
          (registrySnapshotIfDue o env).1 = some c.registryMonitor.contents ∧
          (o.published env).audio.connection =
            some { c with registryMonitor := c.registryMonitor.publishNow.2 }) := by
  have hdevices : ∀ (o : Owner) snapshot, (o.publishDevices snapshot).audio = o.audio := by
    intro o snapshot
    cases snapshot <;> rfl
  simp only [Owner.published, hdevices, registrySnapshotIfDue]
  split
  · rename_i hnone
    exact ⟨le_refl _, .inl ⟨rfl, rfl, fun c _ hc => by cases hnone.symm.trans hc⟩⟩
  · rename_i c hc
    refine ⟨Nat.le_add_right _ _, ?_⟩
    simp only [RegistryMonitor.publishIfDue]
    split
    · -- a clean registry: there is no window to wait for
      rename_i hclean
      refine .inl ⟨rfl, hc.symm, fun c' millis hc' hdirty => ?_⟩
      obtain rfl : c = c' := Option.some.inj (hc.symm.trans hc')
      cases hclean.symm.trans hdirty
    · rename_i dirtySince hdirtySince
      split
      · -- the window is still open
        rename_i hearly
        refine .inl ⟨rfl, hc.symm, fun c' millis hc' hdirty => ?_⟩
        obtain rfl : c = c' := Option.some.inj (hc.symm.trans hc')
        obtain rfl : dirtySince = millis := Option.some.inj (hdirtySince.symm.trans hdirty)
        omega
      · exact .inr ⟨c, hc, rfl, rfl⟩

theorem published_stamped {o : Owner} (h : o.audio.Stamped 0) (env : TickEnv) :
    (o.published env).audio.Stamped 0 := by
  obtain ⟨hclock, ⟨-, heq, -⟩ | ⟨c, hc, -, heq⟩⟩ := published_cases o env
  · exact h.of_eq hclock heq
  · refine ⟨Nat.zero_le _, fun c' hc' => ?_⟩
    obtain rfl := Option.some.inj (heq.symm.trans hc')
    exact ⟨fun _ hmillis => absurd hmillis (Option.some_ne_none _).symm,
      ((h.stamped c hc).later hclock).past⟩

/-- A graph that passed the check against a published view, or that no view was published
    for, still follows the registry; in a quiet registry it targets the resolved input. -/
theorem published_target {o : Owner} (h : o.Follows) (env : TickEnv) {g : LiveGraph}
    {config : Config} (hg : o.audio.graph = some g) (happlied : o.applied = some config)
    (hview : ∀ view ∈ (registrySnapshotIfDue o env).1,
      resolveInput view config = some g.targetNodeName) :
    (o.published env).audio.connection.isSome ∧
      ((o.published env).audio.dirty ∨
        (o.published env).audio.resolved config = some g.targetNodeName) ∧
      ((o.published env).audio.Quiet o.audio.clock →
        (o.published env).audio.resolved config = some g.targetNodeName) := by
  obtain ⟨hsome, htracks⟩ := h.tracks config happlied _ (Audio.key_of_graph hg)
  obtain ⟨-, ⟨-, heq, hwindow⟩ | ⟨c, hc, hshown, heq⟩⟩ := published_cases o env
  · -- nothing was published: in a quiet registry the window has elapsed, so it was clean
    simp only [Audio.dirty, Audio.resolved, Audio.Quiet, heq]
    refine ⟨hsome, htracks, fun hquiet => ?_⟩
    have hquiet' : o.audio.Quiet o.audio.clock := hquiet
    exact htracks.resolve_left (hquiet'.clean h.stamped (Nat.le_add_right _ _) hwindow)
  · -- the published view is the contents, and the graph was compared with it
    have hresolved : (o.published env).audio.resolved config = some g.targetNodeName := by
      have hcontents := hview c.registryMonitor.contents hshown
      simp only [Audio.resolved, heq, Option.bind_some]
      exact (c.registryMonitor.publishNow_resolved config.policy).trans hcontents
    exact ⟨by rw [heq]; rfl, .inr hresolved, fun _ => hresolved⟩

/-- The second stage keeps a graph that follows the registry; after it, in a quiet registry,
    the graph targets the resolved input. -/
theorem serviceGraph_follows {o : Owner} (h : o.Follows) (env : TickEnv) (now : ℕ) :
    (serviceGraph o env now).Follows ∧
      o.audio.clock ≤ (serviceGraph o env now).audio.clock ∧
      ∀ g config, (serviceGraph o env now).audio.graph = some g →
        (serviceGraph o env now).applied = some config →
        (serviceGraph o env now).audio.Quiet o.audio.clock →
        (serviceGraph o env now).audio.resolved config = some g.targetNodeName := by
  have hstamped := published_stamped h.stamped env
  have hclock := (published_cases o env).1
  obtain ⟨clock, connection, observation, hpublished, -⟩ := published_eq o env
  have hgraph : (o.published env).audio.graph = o.audio.graph := by rw [hpublished]
  have happlied : (o.published env).applied = o.applied := by rw [hpublished]
  rcases serviceGraph_cases o env now with
    ⟨hno, heq⟩ | ⟨fault, nowMillis, heq⟩ | ⟨g, config, g', g'', reset, hg, ha, hcheck, hg'', heq⟩
  · -- no graph, or nothing applied: there is nothing to follow
    rw [heq]
    refine ⟨⟨hstamped, fun config hconfig => ?_⟩, hclock, fun g config hg' hconfig => ?_⟩
    · rw [happlied] at hconfig
      exact tracks_of_absent (hgraph.trans (hno.resolve_right (by simp [hconfig])))
    · rw [hgraph] at hg'
      rw [happlied] at hconfig
      rcases hno with hnone | hnone
      · cases hnone.symm.trans hg'
      · cases hnone.symm.trans hconfig
  · rw [heq]
    refine ⟨⟨hstamped.of_eq (le_refl _) rfl, fun config _ => tracks_of_absent rfl⟩, hclock, ?_⟩
    intro g config hg'
    cases hg'
  · -- the graph passed its check, so the view that was published resolves to its target
    obtain ⟨htarget, hview⟩ := checkGraph_ok hcheck
    obtain ⟨hsome, htracks, hsettled⟩ := published_target h env hg ha hview
    rw [← htarget, ← hg''] at htracks hsettled
    rw [heq]
    refine ⟨⟨hstamped.of_eq (le_refl _) rfl, fun config' hconfig => ?_⟩, hclock, ?_⟩
    · rw [happlied] at hconfig
      obtain rfl := Option.some.inj (ha.symm.trans hconfig)
      exact tracks_of_target (g := g'') rfl hsome htracks
    · intro g₁ config' hg₁ hconfig hquiet
      rw [happlied] at hconfig
      obtain rfl := Option.some.inj (ha.symm.trans hconfig)
      obtain rfl := Option.some.inj hg₁
      exact hsettled hquiet

/-- The rebuild of a due recovery attempt keeps the input it resolves. -/
def RecoveryKeepsInput (o : Owner) (env : TickEnv) (now : ℕ) : Prop :=
  ∀ config, o.applied = some config → o.audio.graph = none →
    (o.recovery.poll (elapsedMillis o.recoveryOrigin now)).1.isSome →
    AttemptKeepsInput o.audio none config o.meterMonitoring env.attempt

/-- An attempt at an absent graph leaves a registry that can only have become dirty during the
    attempt. -/
theorem applyNative_absent_stamped {a a' : Audio}
    {previousObservation : Option EngineObservation} {config : Config} {meter : Bool}
    {env : AttemptEnv} {r : Except EngineError EngineObservation} {since : ℕ} {g : LiveGraph}
    (hstamped : a.Stamped since) (hgraph : a'.graph = some g)
    (h : applyNative a none previousObservation config meter env = (r, a')) :
    a'.Stamped a.clock := by
  by_cases hwanted : config.active = true ∨ meter = true
  · rcases applyNative_wanted hwanted h with
      ⟨-, e, -, hrebuild⟩ | ⟨-, label, a₁, hrebuild, hctl⟩ | ⟨hkept, -⟩
    · cases (rebuildGraph_error hrebuild).symm.trans hgraph
    · obtain ⟨-, -, -, -, -, -, -, -, hrebuilt⟩ := rebuildGraph_stamped hstamped hrebuild
      exact controlGraph_stamped hrebuilt hctl
    · -- with no previous configuration every attempt rebuilds
      obtain ⟨p, hp, -⟩ := input_of_kept hkept
      cases hp
  · simp only [not_or, Bool.not_eq_true] at hwanted
    cases (applyNative_stopped hwanted.1 hwanted.2 h).2.symm.trans hgraph

/-- The third stage keeps a graph that follows the registry, and so does what it attempts. -/
theorem serviceRecovery_follows {o : Owner} {env : TickEnv} {now reading : ℕ} (h : o.Follows)
    (hkeeps : RecoveryKeepsInput o env now) (hreading : reading ≤ o.audio.clock)
    (hsettled : ∀ g config, o.audio.graph = some g → o.applied = some config →
      o.audio.Quiet reading → o.audio.resolved config = some g.targetNodeName) :
    (serviceRecovery o env now).Follows ∧
      ∀ g config, (serviceRecovery o env now).audio.graph = some g →
        (serviceRecovery o env now).applied = some config →
        (serviceRecovery o env now).audio.Quiet reading →
        (serviceRecovery o env now).audio.resolved config = some g.targetNodeName := by
  rcases serviceRecovery_cases o env now with
    ⟨-, heq⟩ | heq | ⟨config, attempt, ha, hgraph, hpoll, hattempt⟩
  · rw [heq]
    exact ⟨h.of_audio rfl h.stamped fun _ => id, hsettled⟩
  · rw [heq]
    exact ⟨h, hsettled⟩
  · have hkeeps' := hkeeps config ha hgraph (by rw [hpoll]; rfl)
    -- whether the attempt succeeds or not, the audio is what it left
    have hleft : ∀ {r audio}, applyNative o.audio none o.observation config o.meterMonitoring
        env.attempt = (r, audio) → audio.Stamped 0 ∧ audio.Tracks config ∧
        ∀ g, audio.graph = some g → audio.Quiet reading →
          audio.resolved config = some g.targetNodeName := by
      intro r audio hr
      have htracks := applyNative_tracks h.stamped (fun _ hp => by cases hp) hkeeps' hr
      refine ⟨applyNative_stamped h.stamped hr, htracks, fun g hg hquiet => ?_⟩
      -- The rebuild published at the start of the attempt, which is after the reading.
      have hclean := hquiet.clean_since (applyNative_absent_stamped h.stamped hg hr) hreading
      exact (htracks _ (Audio.key_of_graph hg)).2.resolve_left hclean
    have happly : ∀ {r audio} {o' : Owner}, applyNative o.audio none o.observation config
        o.meterMonitoring env.attempt = (r, audio) → o'.audio = audio → o'.applied = o.applied →
        o'.Follows ∧ ∀ g config, o'.audio.graph = some g → o'.applied = some config →
          o'.audio.Quiet reading → o'.audio.resolved config = some g.targetNodeName := by
      rintro r audio o' hr rfl happlied
      obtain ⟨hstamped, htracks, hsettles⟩ := hleft hr
      rw [happlied, ha]
      refine ⟨⟨hstamped, ?_⟩, ?_⟩
      · rw [happlied, ha]
        rintro _ ⟨⟩
        exact htracks
      · rintro g _ hg ⟨⟩
        exact hsettles g hg
    rcases hattempt with ⟨observation, audio, hok, -, heq⟩ | ⟨error, audio, herror, heq⟩
    · rw [heq]
      exact happly hok rfl rfl
    · rw [heq]
      exact happly herror rfl rfl

/-- The recovery attempt of a tick keeps the input it resolves. -/
def TickKeepsChange (o : Owner) (env : TickEnv) : Prop :=
  RecoveryKeepsInput (serviceGraph (serviceCore o env) env (o.tickNow env)) env (o.tickNow env)

/-- **A tick** keeps a graph that follows the registry, and a debounce window after the last
    registry callback leaves it on the resolved input. -/
theorem serviceNative_follows {o : Owner} {env : TickEnv} (h : o.Follows)
    (hkeeps : TickKeepsChange o env) :
    (serviceNative o env).Follows ∧
      ∀ g config, (serviceNative o env).audio.graph = some g →
        (serviceNative o env).applied = some config →
        (serviceNative o env).audio.Quiet (o.tickNow env) →
        (serviceNative o env).audio.resolved config = some g.targetNodeName := by
  have hcore := serviceCore_follows h env
  have hclock := serviceCore_clock o env
  obtain ⟨hgraph, hlater, hsettled⟩ := serviceGraph_follows hcore env (o.tickNow env)
  -- The second stage compares its readings with a clock at or after the tick's own.
  refine serviceRecovery_follows hgraph hkeeps (hclock.trans hlater)
    fun g config hg hconfig hquiet => hsettled g config hg hconfig fun c last hc hlast => ?_
  exact (hquiet c last hc hlast).trans (elapsedMillis_mono _ hclock)

/-! ## Commands

A command has no tick's check after its publications.  `KeepsChange` says for each command which
publications it makes unchecked, and what they must not hide.
-/

/-- A command publishes no registry change that the graph it leaves does not follow. -/
def KeepsChange (o : Owner) : NativeCommand → CommandEnv → Prop
  | .apply config, env =>
    match applyNative o.audio o.applied o.observation config o.meterMonitoring env.first,
      o.applied with
    | (.error _, audio), some previous =>
      AttemptKeepsInput audio none previous o.meterMonitoring env.restore
    | _, _ => AttemptKeepsInput o.audio o.applied config o.meterMonitoring env.first
  | .setMeterMonitoring enabled, env =>
    ∀ config, o.applied = some config →
      AttemptKeepsInput o.audio (some config) config enabled env.first
  | .inputs, env =>
    ∀ g config, o.audio.graph = some g → o.applied = some config →
      (resolvedRegistry o.audio env.first).2.resolved config = some g.targetNodeName
  | .observe, _ => True

theorem handleApply_follows {o : Owner} (h : o.Follows) (config : Config) (env : CommandEnv)
    (hkeeps : KeepsChange o (.apply config) env) : (handleApply o config env).2.Follows := by
  -- What an attempt leaves behind, the first one and the restore.
  have hfirst : ∀ {r audio}, applyNative o.audio o.applied o.observation config
      o.meterMonitoring env.first = (r, audio) → audio.Stamped 0 ∧
      (AttemptKeepsInput o.audio o.applied config o.meterMonitoring env.first →
        audio.Tracks config) := fun hr =>
    ⟨applyNative_stamped h.stamped hr, fun hinput =>
      applyNative_tracks h.stamped h.tracks hinput hr⟩
  have hsecond : ∀ {error audio previous r audio'},
      applyNative o.audio o.applied o.observation config o.meterMonitoring env.first =
        (.error error, audio) → o.applied = some previous →
      applyNative audio none o.observation previous o.meterMonitoring env.restore =
        (r, audio') → audio'.Stamped 0 ∧ audio'.Tracks previous := by
    intro error audio previous r audio' first intent second
    have hstamped := (hfirst first).1
    simp only [KeepsChange, first] at hkeeps
    rw [intent] at hkeeps
    exact ⟨applyNative_stamped hstamped second,
      applyNative_tracks hstamped (fun _ hp => by cases hp) hkeeps second⟩
  -- Whatever was attempted last left the graph; `Applied` names the attempt for each answer.
  rcases hresult : handleApply o config env with ⟨reply, o'⟩
  cases handleApply_applied hresult with
  | accepted first =>
    simp only [KeepsChange, first] at hkeeps
    obtain ⟨hstamped, htracks⟩ := hfirst first
    refine ⟨hstamped, ?_⟩
    rintro _ ⟨⟩
    exact htracks hkeeps
  | restored first intent second =>
    obtain ⟨hstamped, htracks⟩ := hsecond first intent second
    refine ⟨hstamped, fun previous hprevious => ?_⟩
    obtain rfl := Option.some.inj (intent.symm.trans hprevious)
    exact htracks
  | abandoned first intent second =>
    obtain ⟨hstamped, htracks⟩ := hsecond first intent second
    refine ⟨hstamped, fun previous hprevious => ?_⟩
    obtain rfl := Option.some.inj (intent.symm.trans hprevious)
    exact htracks
  -- The old graph was never taken down, and follows as it did.
  | retained first intent active =>
    simp only [KeepsChange, first] at hkeeps
    rw [intent] at hkeeps
    obtain ⟨hstamped, htracks⟩ := hfirst first
    rw [intent] at htracks
    refine ⟨hstamped.of_eq (Nat.le_add_right _ _) rfl, ?_⟩
    rintro _ ⟨⟩
    exact (htracks hkeeps).of_eq rfl rfl rfl
  -- Nothing is applied, so there is nothing to follow.
  | rejected first intent inactive =>
    refine ⟨(hfirst first).1, fun previous hprevious => ?_⟩
    cases intent.symm.trans hprevious

theorem handleInputs_follows {o : Owner} (h : o.Follows) (env : CommandEnv)
    (hkeeps : KeepsChange o .inputs env) : (handleInputs o env).2.Follows := by
  rcases hregistry : resolvedRegistry o.audio env.first with ⟨r, audio⟩
  have hstamped : audio.Stamped 0 := (resolvedRegistry_stamped h.stamped hregistry).1
  have htracks : ∀ config, o.applied = some config → audio.Tracks config := by
    intro config hconfig
    have hkey := resolvedRegistry_key hregistry
    cases hg : audio.graph with
    | none => exact tracks_of_absent hg
    | some g =>
      obtain ⟨g', hg', htarget, -⟩ := Audio.key_eq_some.mp
        (hkey.symm.trans (Audio.key_of_graph hg))
      -- The command publishes at once; what it hides is exactly what `hkeeps` excludes.
      have hresolved := hkeeps g' config hg' hconfig
      simp only [hregistry, htarget] at hresolved
      obtain ⟨c, hc, -⟩ := Option.bind_eq_some_iff.mp hresolved
      exact tracks_of_target hg (by rw [hc]; rfl) (.inr hresolved)
  unfold handleInputs
  rw [hregistry]
  cases r with
  | error error => exact ⟨hstamped, htracks⟩
  | ok snapshot => exact ⟨hstamped, htracks⟩

theorem handleSetMeterMonitoring_follows {o : Owner} (h : o.Follows) (enabled : Bool)
    (env : CommandEnv) (hkeeps : KeepsChange o (.setMeterMonitoring enabled) env) :
    (handleSetMeterMonitoring o enabled env).2.Follows := by
  unfold handleSetMeterMonitoring
  split
  · exact ⟨h.stamped, h.tracks⟩
  · rename_i config happlied
    rcases hattempt : applyNative o.audio (some config) o.observation config enabled env.first
      with ⟨r, audio⟩
    have hstamped := applyNative_stamped h.stamped hattempt
    have htracks := applyNative_tracks h.stamped (fun p hp => h.tracks p (happlied.trans hp))
      (hkeeps config happlied) hattempt
    have hkept : ∀ config', o.applied = some config' → audio.Tracks config' := by
      intro config' hconfig'
      obtain rfl := Option.some.inj (happlied.symm.trans hconfig')
      exact htracks
    cases r with
    | ok next => exact ⟨hstamped, hkept⟩
    | error error => exact ⟨hstamped, hkept⟩

/-- **A command** that hides no change keeps a graph that follows the registry. -/
theorem handle_follows {o : Owner} {command : NativeCommand} {env : CommandEnv} (h : o.Follows)
    (hkeeps : KeepsChange o command env) : (handle o command env).2.Follows := by
  cases command with
  | apply config => exact handleApply_follows h config env hkeeps
  | inputs => exact handleInputs_follows h env hkeeps
  | observe => exact ⟨h.stamped, h.tracks⟩
  | setMeterMonitoring enabled => exact handleSetMeterMonitoring_follows h enabled env hkeeps

/-! ## Runs

A tick at the end of an iteration without such a publication finds what the earlier ones have
left, which is `Owner.Follows`.
-/

/-- The commands and the tick of an iteration hide no registry change. -/
def HidesNoChange (o : Owner) (it : Iteration) : Prop :=
  OnCommand KeepsChange o it ∧ OnTick TickKeepsChange o it

theorem wait_follows {o : Owner} (h : o.Follows) (elapsed : ℕ) : (o.wait elapsed).Follows :=
  h.of_audio rfl (h.stamped.of_eq (Nat.le_add_right _ _) rfl) fun _ htracks =>
    htracks.of_eq rfl rfl rfl

/-- A tick of an iteration that hides no change starts at a graph that follows the registry. -/
theorem beforeTick_follows {o o₁ : Owner} {it : Iteration} (h : o.Follows)
    (hhides : HidesNoChange o it) (hbefore : o.beforeTick it = some o₁) : o₁.Follows := by
  have hwaited := wait_follows h it.elapsed
  unfold Owner.beforeTick at hbefore
  split at hbefore
  · rename_i command hreceived
    cases hbefore
    exact handle_follows hwaited (hhides.1 command hreceived)
  · cases hbefore
    exact hwaited
  · cases hbefore
  · cases hbefore
  · cases hbefore

/-- A graph follows the registry over every run that hides no change. -/
theorem run_follows {clock : ℕ} {is : List Iteration} {o : Owner}
    (run : NativeRun HidesNoChange clock is o) : o.Follows := by
  refine Lib.Run.invariant Owner.Follows ?_ (fun o it o' h hhides hstep => ?_) run
  · exact ⟨stamped_of_absent rfl, fun _ _ => tracks_of_absent rfl⟩
  · rcases iterate_cases hstep with ⟨-, rfl⟩ | ⟨o₁, hbefore, rfl, -⟩
    · exact wait_follows h it.elapsed
    · exact (serviceNative_follows (beforeTick_follows h hhides hbefore)
        (hhides.2 o₁ hbefore)).1

/-- The first configuration hides no change where its attempt keeps its input, and the tick
    after it finds its graph. -/
theorem hidesNoChange_of_first {o o₁ : Owner} {it : Iteration} {config : Config}
    (hreceived : it.received = .command (.apply config) false)
    (hbefore : o.beforeTick it = some o₁) (hnone : o.applied = none)
    (hinput : AttemptKeepsInput (o.wait it.elapsed).audio none config o.meterMonitoring
      it.env.first)
    (hpresent : (serviceGraph (serviceCore o₁ it.tick) it.tick
      (o₁.tickNow it.tick)).audio.graph.isSome) : HidesNoChange o it := by
  refine ⟨fun command hcommand => ?_, fun o' ho' => ?_⟩
  · rw [hreceived] at hcommand
    obtain rfl : NativeCommand.apply config = command := by injection hcommand
    have hfirst : (o.wait it.elapsed).applied = none := hnone
    simp only [KeepsChange]
    split
    · rename_i hprevious
      cases hfirst.symm.trans hprevious
    · rwa [hfirst]
  · obtain rfl : o₁ = o' := Option.some.inj (hbefore.symm.trans ho')
    intro config' _ habsent
    rw [habsent] at hpresent
    cases hpresent

/-- **No registry change is lost.** In every run that hides no registry change, a tick that runs
    a debounce window after the last registry callback leaves a graph, if any, on the node the
    applied configuration resolves to in the registry. -/
theorem graph_follows_registry {clock : ℕ} {is : List Iteration} {o o₁ : Owner} {it : Iteration}
    {g : LiveGraph} {config : Config} (run : NativeRun HidesNoChange clock is o)
    (hhides : HidesNoChange o it) (hbefore : o.beforeTick it = some o₁)
    (hquiet : (serviceNative o₁ it.tick).audio.Quiet (o₁.tickNow it.tick))
    (hgraph : (serviceNative o₁ it.tick).audio.graph = some g)
    (happlied : (serviceNative o₁ it.tick).applied = some config) :
    ∃ c, (serviceNative o₁ it.tick).audio.connection = some c ∧
      resolveInput c.registryMonitor.contents config = some g.targetNodeName := by
  have hfollows := beforeTick_follows (run_follows run) hhides hbefore
  have hsettled := (serviceNative_follows hfollows (hhides.2 o₁ hbefore)).2 g config hgraph
    happlied hquiet
  exact Option.bind_eq_some_iff.mp hsettled

end

/-- A configuration is applied to the default microphone, and the tick of its iteration runs
    60 ms after the registry's callbacks. -/
theorem graph_follows_registry_applied :
    letI := asciiCase
    ∃ it o₁ g config c, (Owner.start 0).beforeTick it = some o₁ ∧
      (serviceNative o₁ it.tick).audio.graph = some g ∧
      (serviceNative o₁ it.tick).applied = some config ∧
      (serviceNative o₁ it.tick).audio.connection = some c ∧
      resolveInput c.registryMonitor.contents config = some g.targetNodeName := by
  let it : Iteration :=
    { received := .command (.apply { active := true }) false
      env := { first := { refreshed := microphonePresent } }
      tick := { elapsed := fromMillis 60 } }
  let o₁ := (@handle asciiCase ((Owner.start 0).wait 0) (.apply { active := true }) it.env).2
  have hbefore : @Owner.beforeTick asciiCase (Owner.start 0) it = some o₁ := rfl
  have hhides : @HidesNoChange asciiCase (Owner.start 0) it :=
    @hidesNoChange_of_first asciiCase _ _ _ _ rfl hbefore rfl (fun _ _ _ => .inl (by decide))
      (by decide)
  have hgraph : (@serviceNative asciiCase o₁ it.tick).audio.graph.isSome = true := by decide
  obtain ⟨g, hg⟩ := Option.isSome_iff_exists.mp hgraph
  have happlied : (@serviceNative asciiCase o₁ it.tick).applied = some { active := true } := by
    decide
  obtain ⟨c, hc, hresolved⟩ := @graph_follows_registry asciiCase _ _ _ _ _ _ _ .nil hhides hbefore
    (by decide) hg happlied
  exact ⟨it, o₁, g, _, c, hbefore, hg, happlied, hc, hresolved⟩

/-- A second microphone. -/
def headset : NodeDescriptor :=
  { globalId := 8, nodeName := "headset", mediaClass := some "Audio/Source", label := "headset" }

/-- **A change is lost.** The default becomes the second microphone while the inputs are
    listed.  The listing publishes the change, so a tick a second later does not; its graph
    stays on the first microphone. -/
theorem registry_change_lost :
    letI := asciiCase
    ¬∀ (clock : ℕ) (is : List Iteration) (o o₁ : Owner) (it : Iteration) (g : LiveGraph)
        (config : Config), NativeRun Lib.Free clock is o → o.beforeTick it = some o₁ →
      (serviceNative o₁ it.tick).audio.Quiet (o₁.tickNow it.tick) →
      (serviceNative o₁ it.tick).audio.graph = some g →
      (serviceNative o₁ it.tick).applied = some config →
      ∃ c, (serviceNative o₁ it.tick).audio.connection = some c ∧
        resolveInput c.registryMonitor.contents config = some g.targetNodeName := by
  let _ := asciiCase
  let is : List Iteration :=
    [{ received := .command (.apply { active := true }) false
       env := { first := { refreshed := microphonePresent } } },
     { received := .command .inputs false
       env := { first := { refreshed := [(0, .registry (.upsert headset)),
         (0, .registry (.setDefaultNodeName (some "headset")))] } } }]
  let it : Iteration := { tick := { elapsed := fromMillis 1000 } }
  -- The tick comes a second later, and its registry is clean: it has nothing to publish.
  obtain ⟨o, run, hend⟩ := NativeRun.of_compute 0 is
    (fun o => (serviceNative (o.wait 0) it.tick).audio.Quiet ((o.wait 0).tickNow it.tick) &&
      ((serviceNative (o.wait 0) it.tick).applied.any fun config =>
        (serviceNative (o.wait 0) it.tick).audio.graph.any fun g =>
        (serviceNative (o.wait 0) it.tick).audio.connection.all fun c =>
          resolveInput c.registryMonitor.contents config ≠ some g.targetNodeName))
    (by decide)
  intro h
  simp only [Bool.and_eq_true, decide_eq_true_eq, Option.any_eq_true, Option.all_eq_true] at hend
  obtain ⟨hquiet, config, happlied, g, hg, hother⟩ := hend
  obtain ⟨c, hc, hresolved⟩ := h 0 is o (o.wait 0) it g config run rfl hquiet hg happlied
  exact hother c hc hresolved

end Noire
