import Noire.Native.Loop
import Noire.Registry.Selection

namespace Noire

/-!
# Noire does not listen to itself

The graph captures one node by name.  A virtual source, a monitor of an output or Noire's own
microphone in that place would feed what was played or processed back into the path.

* `Audio.Physical` — what the registry holds was shown by its callbacks, and the graph's target is
  an eligible node among these;
* `applyNative_physical` — an attempt keeps it, whatever the configuration names;
* `target_physical` — so in every run of the owner loop, every graph that an attempt connects
  targets a physical microphone that the registry has shown.

A graph gets its target in one place, a connect, and the node it connects to was resolved in a
view of the registry.  So the invariant has two halves: what the registry holds meets a predicate
`P`, and the target is the name of an eligible node that meets it.  Callbacks add what they show,
a publication leaves out and never adds, and the policy only chooses among the candidates.  The
predicate is left open until the end, where it becomes that a callback of the run has shown the
node.

An iteration may connect several graphs one after the other.  `Owner.attempted` lists the audio
after each of its attempts, so the result speaks of the graphs that are replaced, too.
-/

/-! ## What the callbacks show

Nodes enter the registry by these events and by no other way.
-/

/-- The nodes that some callbacks add to the registry. -/
def upserts (events : Dispatched) : List NodeDescriptor :=
  events.filterMap fun e => match e.2 with
    | .registry (.upsert node) => some node
    | _ => none

/-- Those of the callbacks of an attempt. -/
def AttemptEnv.shown (env : AttemptEnv) : List NodeDescriptor :=
  upserts env.refreshed ++ upserts env.connecting ++ upserts env.connected

/-- Those of the callbacks of a command. -/
def CommandEnv.shown (env : CommandEnv) : List NodeDescriptor :=
  env.first.shown ++ env.restore.shown

/-- Those of the callbacks of a tick. -/
def TickEnv.shown (env : TickEnv) : List NodeDescriptor :=
  upserts env.dispatched ++ env.attempt.shown

/-- Those of the callbacks of an iteration. -/
def Iteration.shown (it : Iteration) : List NodeDescriptor := it.env.shown ++ it.tick.shown

/-! ## The invariant

The predicate says of a node that it was shown, and is handed from the registry to the target.
-/

/-- The registry holds nodes that meet `P`, and the graph's target is an eligible one of them. -/
structure Audio.Physical (P : NodeDescriptor → Prop) (a : Audio) : Prop where
  seen : ∀ c, a.connection = some c →
    ∀ (id : ℕ) (node : NodeDescriptor), c.registryMonitor.nodes[id]? = some node → P node
  target : ∀ key, a.key = some key →
    ∃ node, P node ∧ node.isCandidate = true ∧ node.nodeName = key.1

/-- What a callback leaves in the registry was there, or is what it adds. -/
theorem RegistryMonitor.apply_nodes {m : RegistryMonitor} {event : RegistryEvent} {millis id : ℕ}
    {node : NodeDescriptor} (h : (m.apply event millis).nodes[id]? = some node) :
    m.nodes[id]? = some node ∨ event = .upsert node := by
  cases event with
  | upsert added =>
    simp only [apply, upsert] at h
    split at h
    · simp only [markDirty, Std.TreeMap.getElem?_insert] at h
      split at h
      · cases h
        exact .inr rfl
      · exact .inl h
    · exact .inl h
  -- What is removed brings no node, and the name of the default is no node.
  | remove removed =>
    simp only [apply, remove] at h
    split at h
    · simp only [markDirty, Std.TreeMap.getElem?_erase] at h
      split at h
      · cases h
      · exact .inl h
    · exact .inl h
  | setDefaultNodeName name =>
    simp only [apply, setDefaultNodeName] at h
    split at h
    · exact .inl h
    · exact .inl h

namespace Audio.Physical

variable {P : NodeDescriptor → Prop} {a a' : Audio}

/-- The target and what the registry holds are all that is looked at. -/
theorem congr (h : a.Physical P) (hkey : a'.key = a.key)
    (hnodes : ∀ c', a'.connection = some c' →
      c'.registryMonitor.nodes = ∅ ∨
        ∃ c, a.connection = some c ∧ c'.registryMonitor.nodes = c.registryMonitor.nodes) :
    a'.Physical P where
  seen c' hc' id node hnode := by
    obtain hempty | ⟨c, hc, hsame⟩ := hnodes c' hc'
    · rw [hempty] at hnode
      simp at hnode
    · exact h.seen c hc id node (hsame ▸ hnode)
  target key hkey' := h.target key (hkey ▸ hkey')

/-- A graph on a node that is eligible and met `P` takes the place of another. -/
theorem connected (h : a.Physical P) {node : NodeDescriptor} (hP : P node)
    (hcandidate : node.isCandidate = true) :
    ({ a with graph := some (LiveGraph.connected node.nodeName) } : Audio).Physical P where
  seen := h.seen
  target key hkey := by
    cases hkey
    exact ⟨node, hP, hcandidate, rfl⟩

/-- Without a graph there is no target. -/
theorem dropped (h : a.Physical P) (hnone : a'.graph = none)
    (hconnection : a'.connection = a.connection ∨ a'.connection = none) : a'.Physical P where
  seen c hc := by
    obtain hsame | habsent := hconnection
    · exact h.seen c (hsame ▸ hc)
    · cases habsent.symm.trans hc
  target key hkey := by
    rw [Audio.key_eq_none.mpr hnone] at hkey
    cases hkey

theorem deliver (h : a.Physical P) (elapsed : ℕ) (event : LoopEvent)
    (hP : ∀ node ∈ upserts [(elapsed, event)], P node) : (a.deliver elapsed event).Physical P := by
  have hkey := a.deliver_key elapsed event
  cases event with
  -- Only an event of the registry can show a node.
  | registry event =>
    refine ⟨fun c' hc' id node hnode => ?_, fun key hkey' => h.target key (hkey ▸ hkey')⟩
    obtain ⟨c, hc, rfl⟩ := Option.map_eq_some_iff.mp hc'
    obtain hold | rfl := RegistryMonitor.apply_nodes hnode
    · exact h.seen c hc id node hold
    · exact hP node List.mem_cons_self
  | coreInfo version =>
    refine h.congr hkey fun c' hc' => .inr ?_
    obtain ⟨c, hc, rfl⟩ := Option.map_eq_some_iff.mp hc'
    exact ⟨c, hc, rfl⟩
  | coreError failure =>
    refine h.congr hkey fun c' hc' => .inr ?_
    obtain ⟨c, hc, rfl⟩ := Option.map_eq_some_iff.mp hc'
    exact ⟨c, hc, rfl⟩
  | captureState change => exact h.congr hkey fun c' hc' => .inr ⟨c', hc', rfl⟩
  | captureFormat event => exact h.congr hkey fun c' hc' => .inr ⟨c', hc', rfl⟩
  | sourceState change => exact h.congr hkey fun c' hc' => .inr ⟨c', hc', rfl⟩
  | sourceFormat event => exact h.congr hkey fun c' hc' => .inr ⟨c', hc', rfl⟩

/-- **Callbacks** add what they show. -/
theorem dispatch (h : a.Physical P) (events : Dispatched) (hP : ∀ node ∈ upserts events, P node) :
    (a.dispatch events).Physical P := by
  induction events generalizing a with
  | nil => exact h
  | cons e events ih =>
    have hsplit : upserts (e :: events) = upserts [e] ++ upserts events := by
      rw [← List.singleton_append]
      exact List.filterMap_append
    rw [hsplit] at hP
    exact ih (h.deliver e.1 e.2 fun node hnode => hP node (List.mem_append_left _ hnode))
      fun node hnode => hP node (List.mem_append_right _ hnode)

/-- A graph that keeps its target is the same. -/
theorem retargeted (h : a.Physical P) {g g' : LiveGraph} (hg : a.graph = some g)
    (hsame : g'.targetNodeName = g.targetNodeName) :
    ({ a with graph := some g' } : Audio).Physical P where
  seen := h.seen
  target key hkey := by
    cases hkey
    show ∃ node, P node ∧ node.isCandidate = true ∧ node.nodeName = g'.targetNodeName
    rw [hsame]
    exact h.target _ (Audio.key_of_graph hg)

/-- A new connection has seen nothing. -/
theorem ensured (h : a.Physical P) {env : AttemptEnv} {r : Except EngineError Unit}
    (heq : ensureConnection a env = (r, a')) : a'.Physical P := by
  refine h.congr (ensureConnection_key heq) fun c' hc' => ?_
  unfold ensureConnection at heq
  split at heq
  · cases heq
    exact .inr ⟨c', hc', rfl⟩
  · dsimp only at heq
    split at heq
    · cases heq
      exact .inr ⟨c', hc', rfl⟩
    · cases heq
      cases hc'
      exact .inl rfl

/-- So is a graph at another reading of the clock. -/
theorem clocked (h : a.Physical P) (clock : ℕ) : ({ a with clock } : Audio).Physical P :=
  ⟨h.seen, h.target⟩

end Audio.Physical

theorem serviceCore_physical {P : NodeDescriptor → Prop} {o : Owner} (h : o.audio.Physical P)
    {env : TickEnv} (hP : ∀ node ∈ env.shown, P node) : (serviceCore o env).audio.Physical P := by
  obtain ⟨clock, heq, -⟩ | heq | ⟨audio, nowMillis, heq, hnone, habsent⟩ := serviceCore_cases o env
  · rw [heq]
    exact h.clocked clock
  · rw [heq]
    exact (h.clocked _).dispatch _ fun node hnode => hP node (List.mem_append_left _ hnode)
  · rw [heq]
    exact h.dropped hnone (.inr habsent)

/-- The name of a node which a callback of these iterations has shown, and which is an eligible
    physical microphone: no virtual node, no monitor, not Noire's own source. -/
structure ShownPhysical (is : List Iteration) (nodeName : String) : Prop where
  shown : ∃ it ∈ is, ∃ node ∈ it.shown, node.isCandidate = true ∧ node.nodeName = nodeName
  own : nodeName ≠ reservedNodeName
  monitor : isMonitorName nodeName = false

/-- What targets an eligible node that these iterations have shown. -/
theorem Audio.Physical.shown {is : List Iteration} {a : Audio}
    (h : a.Physical fun node => ∃ it ∈ is, node ∈ it.shown) {g : LiveGraph}
    (hgraph : a.graph = some g) : ShownPhysical is g.targetNodeName := by
  obtain ⟨node, ⟨it, hit, hnode⟩, hcandidate, hname⟩ := h.target _ (Audio.key_of_graph hgraph)
  have hname : node.nodeName = g.targetNodeName := hname
  have heligible := hcandidate
  unfold NodeDescriptor.isCandidate at heligible
  simp only [Bool.and_eq_true, decide_eq_true_eq, Bool.not_eq_true'] at heligible
  rw [hname] at heligible
  exact ⟨⟨it, hit, node, hnode, hcandidate, hname⟩, heligible.1.1.1.2, heligible.1.1.2⟩

/-! ## What the registry resolves to

A view lists eligible nodes of the registry, and the policy picks one of the list.
-/

/-- A node is resolved to one of the candidates. -/
theorem RegistrySnapshot.resolve_mem {snapshot : RegistrySnapshot} {policy : SelectionPolicy}
    {selected : NodeDescriptor} (h : snapshot.resolve policy = .ok selected) :
    selected ∈ snapshot.candidates := by
  have hdefault : snapshot.resolveDefault = .ok selected → selected ∈ snapshot.candidates := by
    intro h
    unfold resolveDefault at h
    split at h
    · rename_i hfind
      cases h
      exact List.mem_of_find?_eq_some hfind
    · cases h
  -- The selected candidate, or the default where that is permitted.
  unfold resolve at h
  split at h
  · split at h
    · rename_i hfind
      cases h
      exact List.mem_of_find?_eq_some hfind
    · split at h
      · cases h
      · exact hdefault h
  · split at h
    · cases h
    · exact hdefault h

section
variable [UnicodeCase] {P : NodeDescriptor → Prop} {a a' : Audio} {env : AttemptEnv}

/-- A candidate of a published view is a node that the registry holds, up to its label. -/
theorem RegistryMonitor.contents_candidate {m : RegistryMonitor} {candidate : NodeDescriptor}
    (h : candidate ∈ m.contents.candidates) : ∃ (id : ℕ) (node : NodeDescriptor),
      m.nodes[id]? = some node ∧ node.isCandidate = true ∧ node.nodeName = candidate.nodeName := by
  unfold contents at h
  rw [candidates_eq] at h
  obtain ⟨kept, hkept, rfl⟩ := List.mem_map.mp h
  obtain ⟨hmarked, hcandidate, -⟩ := keptOf_mem (mem_sortedKept.mp hkept)
  obtain ⟨node, hnode, rfl⟩ := List.mem_map.mp hmarked
  rw [values_eq_map_toList] at hnode
  obtain ⟨entry, hentry, rfl⟩ := List.mem_map.mp hnode
  exact ⟨entry.1, entry.2, Std.TreeMap.mem_toList_iff_getElem?_eq_some.mp hentry, hcandidate, rfl⟩

namespace Audio.Physical

/-- Publishing changes nothing, and shows what was seen. -/
theorem published (h : a.Physical P) : a.registrySnapshotNow.2.Physical P ∧
    ∀ candidate ∈ a.registrySnapshotNow.1.candidates,
      ∃ node, P node ∧ node.isCandidate = true ∧ node.nodeName = candidate.nodeName := by
  have hkey := a.registrySnapshotNow_key
  unfold registrySnapshotNow at hkey ⊢
  split
  · exact ⟨h, fun _ hmem => absurd hmem List.not_mem_nil⟩
  · rename_i c hc
    rw [hc] at hkey
    refine ⟨h.congr hkey fun c' hc' => .inr ?_, fun candidate hcandidate => ?_⟩
    · cases hc'
      exact ⟨c, hc, rfl⟩
    · obtain ⟨id, node, hnode, heligible, hname⟩ := RegistryMonitor.contents_candidate hcandidate
      exact ⟨node, h.seen c hc id node hnode, heligible, hname⟩

/-- A view that an input is resolved in shows what was seen. -/
theorem resolved (h : a.Physical P) (hP : ∀ node ∈ env.shown, P node)
    {r : Except EngineError RegistrySnapshot} (heq : resolvedRegistry a env = (r, a')) :
    a'.Physical P ∧ ∀ snapshot, r = .ok snapshot → ∀ candidate ∈ snapshot.candidates,
      ∃ node, P node ∧ node.isCandidate = true ∧ node.nodeName = candidate.nodeName := by
  unfold resolvedRegistry at heq
  split at heq
  · rename_i hconnect
    cases heq
    exact ⟨h.ensured hconnect, by rintro _ ⟨⟩⟩
  · rename_i hconnect
    have hrefreshed := (h.ensured hconnect).dispatch env.refreshed fun node hnode =>
      hP node (List.mem_append_left _ (List.mem_append_left _ hnode))
    obtain ⟨hpublished, hcandidates⟩ := hrefreshed.published
    cases heq
    refine ⟨hpublished, ?_⟩
    rintro _ ⟨⟩
    exact hcandidates

/-- A graph is connected to an eligible node that was seen. -/
theorem connecting (h : a.Physical P) (hP : ∀ node ∈ env.shown, P node) {nodeName : String}
    (hnode : ∃ node, P node ∧ node.isCandidate = true ∧ node.nodeName = nodeName)
    {r : Except LiveGraphError Unit} (heq : connectWithLatency a env nodeName = (r, a')) :
    a'.Physical P := by
  have hlooked : (a.lookUp env nodeName).2.Physical P :=
    (h.dispatch env.connecting fun node hnode =>
      hP node (List.mem_append_left _ (List.mem_append_right _ hnode))).published.1
  have hconnected : ∀ node ∈ upserts env.connected, P node := fun node hnode =>
    hP node (List.mem_append_right _ hnode)
  obtain ⟨node, hmet, hcandidate, rfl⟩ := hnode
  unfold connectWithLatency at heq
  split at heq
  · cases heq
    exact h
  · dsimp only at heq
    -- The node is gone, the capture failed, the source failed, or both streams connected.
    split at heq
    · cases heq
      exact hlooked
    · cases heq
      exact hlooked.dispatch _ hconnected
    · cases heq
      exact hlooked.dispatch _ hconnected
    · cases heq
      exact (hlooked.connected hmet hcandidate).dispatch _ hconnected

/-- A rebuild targets an eligible node that was seen, or nothing. -/
theorem rebuilt (h : a.Physical P) (hP : ∀ node ∈ env.shown, P node) {config : Config}
    {r : Except EngineError String} (heq : rebuildGraph a config env = (r, a')) :
    a'.Physical P := by
  have hnone : ({ a with graph := none } : Audio).Physical P := h.dropped rfl (.inl rfl)
  unfold rebuildGraph at heq
  split at heq
  · rename_i hregistry
    cases heq
    exact (hnone.resolved hP hregistry).1
  · rename_i snapshot a₁ hregistry
    obtain ⟨hresolved, hcandidates⟩ := hnone.resolved hP hregistry
    split at heq
    · cases heq
      exact hresolved
    · cases heq
      exact hresolved
    · rename_i selected hresolve _
      -- What is connected is a candidate, and so a node that was shown.
      have hselected := hcandidates snapshot rfl selected (RegistrySnapshot.resolve_mem hresolve)
      split at heq
      · rename_i hconnect
        cases heq
        exact hresolved.connecting hP hselected hconnect
      · rename_i hconnect
        cases heq
        exact hresolved.connecting hP hselected hconnect

/-- The end of an attempt keeps the target. -/
theorem controlled (h : a.Physical P) {previousObservation : Option EngineObservation}
    {config : Config} {meter rebuilt : Bool} {label : String}
    {r : Except EngineError EngineObservation}
    (heq : controlGraph a previousObservation config meter rebuilt label env = (r, a')) :
    a'.Physical P := by
  cases hg : a.graph with
  | none =>
    unfold controlGraph at heq
    rw [hg] at heq
    cases heq
    exact h
  | some g =>
    obtain ⟨g', hsame, ⟨-, -, rfl⟩ | ⟨-, rfl, -⟩⟩ := controlGraph_some hg heq
    · split
      · exact (h.retargeted hg hsame).published.1
      · exact h.retargeted hg hsame
    · exact h.retargeted hg hsame

end Audio.Physical

/-- **An attempt** targets an eligible node that was seen, whatever its configuration names. -/
theorem applyNative_physical (h : a.Physical P) (hP : ∀ node ∈ env.shown, P node)
    {previous : Option Config} {previousObservation : Option EngineObservation} {config : Config}
    {meter : Bool} {r : Except EngineError EngineObservation}
    (heq : applyNative a previous previousObservation config meter env = (r, a')) :
    a'.Physical P := by
  by_cases hwanted : config.active = true ∨ meter = true
  · obtain ⟨-, e, -, hrebuild⟩ | ⟨-, label, a₁, hrebuild, hcontrol⟩ | ⟨-, hcontrol⟩ :=
      applyNative_wanted hwanted heq
    · exact h.rebuilt hP hrebuild
    · exact (h.rebuilt hP hrebuild).controlled hcontrol
    · exact h.controlled hcontrol
  · simp only [not_or, Bool.not_eq_true] at hwanted
    -- Nothing is wanted: the graph is dropped, and only the label is looked up.
    have hnone : ({ a with graph := none } : Audio).Physical P := h.dropped rfl (.inl rfl)
    simp only [applyNative, hwanted.1, hwanted.2, Bool.not_false, Bool.and_self, if_true] at heq
    cases heq
    unfold stoppedObservation
    dsimp only
    split
    · exact hnone
    · unfold freshLabel
      split
      · rename_i hregistry
        exact (hnone.resolved hP hregistry).1
      · rename_i hregistry
        exact (hnone.resolved hP hregistry).1

/-! ## The loop

Commands and ticks keep the invariant, with what their own callbacks show.
-/

variable {o : Owner}

/-- A command attempts with what its callbacks show. -/
theorem handle_physical (h : o.audio.Physical P) (command : NativeCommand) {env : CommandEnv}
    (hP : ∀ node ∈ env.shown, P node) : (handle o command env).2.audio.Physical P := by
  have hfirst : ∀ node ∈ env.first.shown, P node := fun node hnode =>
    hP node (List.mem_append_left _ hnode)
  have hrestore : ∀ node ∈ env.restore.shown, P node := fun node hnode =>
    hP node (List.mem_append_right _ hnode)
  cases command with
  | apply config =>
    rcases hresult : handleApply o config env with ⟨reply, o'⟩
    show (handleApply o config env).2.audio.Physical P
    rw [hresult]
    cases handleApply_applied hresult with
    -- A graph that is left is of the first attempt, or of the restore.
    | accepted first => exact applyNative_physical h hfirst first
    | restored first intent second =>
      exact applyNative_physical (applyNative_physical h hfirst first) hrestore second
    | abandoned first intent second =>
      exact applyNative_physical (applyNative_physical h hfirst first) hrestore second
    | retained first intent active => exact (applyNative_physical h hfirst first).clocked _
    | rejected first intent inactive => exact applyNative_physical h hfirst first
  | inputs =>
    simp only [handle, handleInputs]
    split
    · -- no graph is connected for a list of the inputs
      rename_i hregistry
      exact (h.resolved hfirst hregistry).1
    · rename_i hregistry
      exact (h.resolved hfirst hregistry).1
  -- The graph stays, or the whole chain is connected anew.
  | observe => exact h
  | setMeterMonitoring enabled =>
    simp only [handle, handleSetMeterMonitoring]
    split
    · exact h
    · split
      · rename_i happly
        exact applyNative_physical h hfirst happly
      · rename_i happly
        exact applyNative_physical h hfirst happly

/-- A due publication changes nothing. -/
theorem published_physical (h : o.audio.Physical P) (env : TickEnv) :
    (o.published env).audio.Physical P := by
  have hsame : (o.published env).audio = (registrySnapshotIfDue o env).2.audio := by
    unfold Owner.published Owner.publishDevices
    split <;> rfl
  rw [hsame]
  unfold registrySnapshotIfDue
  split
  · exact h
  · rename_i c hc
    refine h.congr rfl fun c' hc' => .inr ⟨c, hc, ?_⟩
    cases hc'
    show (c.registryMonitor.publishIfDue _).2.nodes = _
    unfold RegistryMonitor.publishIfDue
    split
    · rfl
    · split <;> rfl

theorem serviceGraph_physical (h : o.audio.Physical P) (env : TickEnv) (now : ℕ) :
    (serviceGraph o env now).audio.Physical P := by
  have hpublished := published_physical h env
  obtain ⟨-, heq⟩ | ⟨fault, nowMillis, heq⟩ |
    ⟨g, config, g', g'', reset, hg, -, hcheck, hsame, heq⟩ := serviceGraph_cases o env now
  · rw [heq]
    exact hpublished
  · rw [heq]
    exact hpublished.dropped rfl (.inl rfl)
  · -- The graph that passed its check has its target still.
    obtain ⟨clock, connection, observation, hshape, -⟩ := published_eq o env
    have hgraph : (o.published env).audio.graph = some g := by
      rw [hshape]
      exact hg
    rw [heq]
    exact hpublished.retargeted hgraph (hsame.trans (checkGraph_ok hcheck).1)

theorem serviceRecovery_physical (h : o.audio.Physical P) {env : TickEnv}
    (hP : ∀ node ∈ env.shown, P node) (now : ℕ) : (serviceRecovery o env now).audio.Physical P := by
  have hattempt : ∀ node ∈ env.attempt.shown, P node := fun node hnode =>
    hP node (List.mem_append_right _ hnode)
  obtain ⟨-, heq⟩ | heq | ⟨config, attempt, -, -, -, ⟨observation, audio, happly, -, heq⟩ |
    ⟨error, audio, happly, heq⟩⟩ := serviceRecovery_cases o env now
  · rw [heq]
    exact h
  · rw [heq]
    exact h
  · rw [heq]
    exact applyNative_physical h hattempt happly
  · rw [heq]
    exact applyNative_physical h hattempt happly

/-- **A tick** keeps it. -/
theorem serviceNative_physical (h : o.audio.Physical P) {env : TickEnv}
    (hP : ∀ node ∈ env.shown, P node) : (serviceNative o env).audio.Physical P :=
  serviceRecovery_physical (serviceGraph_physical (serviceCore_physical h hP) _ _) hP _

/-- **An iteration** keeps it. -/
theorem iterate_physical {o' : Owner} {it : Iteration} (h : o.audio.Physical P)
    (hP : ∀ node ∈ it.shown, P node) (hstep : iterate o it = some o') : o'.audio.Physical P := by
  have hwait : (o.wait it.elapsed).audio.Physical P := h.clocked _
  have htick : ∀ node ∈ it.tick.shown, P node := fun node hnode =>
    hP node (List.mem_append_right _ hnode)
  obtain ⟨-, rfl⟩ | ⟨o₁, -, rfl, rfl | ⟨command, -, rfl⟩⟩ := iterate_cases hstep
  · exact hwait
  · exact serviceNative_physical hwait htick
  · exact serviceNative_physical (handle_physical hwait command fun node hnode =>
      hP node (List.mem_append_left _ hnode)) htick

/-- The audio that each attempt of a command leaves, in their order: where a configuration cannot be
    applied, the previous one is attempted next. -/
def NativeCommand.attempts (o : Owner) (env : CommandEnv) : NativeCommand → List Audio
  | .apply config =>
    match applyNative o.audio o.applied o.observation config o.meterMonitoring env.first with
    | (.ok _, audio) => [audio]
    | (.error _, audio) => audio :: (o.applied.map fun previous =>
        (applyNative audio none o.observation previous o.meterMonitoring env.restore).2).toList
  | .setMeterMonitoring enabled => (o.applied.map fun config =>
      (applyNative o.audio (some config) o.observation config enabled env.first).2).toList
  | .inputs | .observe => []

/-- The audio after each attempt of an iteration: those of its command, and that of its tick, which
    ends with its attempt. -/
def Owner.attempted (o : Owner) (it : Iteration) : List Audio :=
  (match it.received with
    | .command command false => command.attempts (o.wait it.elapsed) it.env
    | .command _ true | .timeout | .shutdown | .disconnected => []) ++
  ((o.beforeTick it).map fun o₁ => (serviceNative o₁ it.tick).audio).toList

/-- Each attempt of a command targets an eligible node, also one whose graph is replaced by the
    next attempt. -/
theorem attempts_physical (h : o.audio.Physical P) (command : NativeCommand) {env : CommandEnv}
    (hP : ∀ node ∈ env.shown, P node) {a : Audio} (ha : a ∈ command.attempts o env) :
    a.Physical P := by
  have hfirst : ∀ node ∈ env.first.shown, P node := fun node hnode =>
    hP node (List.mem_append_left _ hnode)
  have hrestore : ∀ node ∈ env.restore.shown, P node := fun node hnode =>
    hP node (List.mem_append_right _ hnode)
  cases command with
  | apply config =>
    simp only [NativeCommand.attempts] at ha
    split at ha
    · rename_i first
      obtain rfl := List.mem_singleton.mp ha
      exact applyNative_physical h hfirst first
    · rename_i audio first
      -- A failed attempt is followed by the restore, from where it has left.
      have hattempted := applyNative_physical h hfirst first
      rcases List.mem_cons.mp ha with rfl | hsecond
      · exact hattempted
      · obtain ⟨previous, -, rfl⟩ := Option.map_eq_some_iff.mp (Option.mem_toList.mp hsecond)
        exact applyNative_physical hattempted hrestore (Prod.mk.eta ..).symm
  | setMeterMonitoring enabled =>
    obtain ⟨config, -, rfl⟩ := Option.map_eq_some_iff.mp (Option.mem_toList.mp ha)
    exact applyNative_physical h hfirst (Prod.mk.eta ..).symm
  | inputs => cases ha
  | observe => cases ha

/-- Each attempt of an iteration does. -/
theorem attempted_physical {it : Iteration} (h : o.audio.Physical P)
    (hP : ∀ node ∈ it.shown, P node) {a : Audio} (ha : a ∈ o.attempted it) : a.Physical P := by
  have hwait : (o.wait it.elapsed).audio.Physical P := h.clocked _
  have hcommand : ∀ node ∈ it.env.shown, P node := fun node hnode =>
    hP node (List.mem_append_left _ hnode)
  rcases List.mem_append.mp ha with ha | ha
  · split at ha
    · exact attempts_physical hwait _ hcommand ha
    all_goals cases ha
  · obtain ⟨o₁, hbefore, rfl⟩ := Option.map_eq_some_iff.mp (Option.mem_toList.mp ha)
    refine serviceNative_physical ?_ fun node hnode => hP node (List.mem_append_right _ hnode)
    unfold Owner.beforeTick at hbefore
    split at hbefore
    · cases hbefore
      exact handle_physical hwait _ hcommand
    · cases hbefore
      exact hwait
    all_goals cases hbefore

/-- In a run whose iterations are among these, every node in the registry was shown by one. -/
theorem run_physical {clock : ℕ} {is seen : List Iteration} (run : NativeRun Lib.Free clock is o)
    (hseen : ∀ it ∈ is, it ∈ seen) :
    o.audio.Physical fun node => ∃ it ∈ seen, node ∈ it.shown := by
  have hrun : Lib.Run (fun o it o' => iterate o it = some o')
      (fun _ it' => ∀ node ∈ it'.shown, ∃ it ∈ seen, node ∈ it.shown) _ is o :=
    Lib.Run.of_inputs run fun it hit _ node hnode => ⟨it, hseen it hit, hnode⟩
  exact hrun.invariant (fun o => o.audio.Physical fun node => ∃ it ∈ seen, node ∈ it.shown)
    ⟨nofun, nofun⟩ fun _ _ _ h hshown hstep => iterate_physical h hshown hstep

/-- **Noire never listens to itself.**  In every run of the owner loop, whatever is configured,
    however attempts end and whatever the registry shows: the graph targets the name of a node which
    a callback of this run has shown, and which is an eligible physical microphone; and so does
    every graph that an attempt of the next iteration connects, also one that is replaced or dropped
    before the iteration ends. -/
theorem target_physical {clock : ℕ} {is : List Iteration} (run : NativeRun Lib.Free clock is o) :
    (∀ g, o.audio.graph = some g → ShownPhysical is g.targetNodeName) ∧
      ∀ it, ∀ a ∈ o.attempted it, ∀ g, a.graph = some g →
        ShownPhysical (is ++ [it]) g.targetNodeName := by
  refine ⟨fun g hgraph => (run_physical run fun _ hit => hit).shown hgraph,
    fun it a ha g hgraph => ?_⟩
  have hphysical := run_physical run fun it' hit => List.mem_append_left [it] hit
  exact (attempted_physical hphysical (fun node hnode =>
    ⟨it, List.mem_append_right _ (List.mem_singleton_self it), hnode⟩) ha).shown hgraph

end

/-- A microphone is captured.  The next configuration names an input that is not there: its attempt
    drops the graph, and the previous configuration is attempted again. -/
theorem target_physical_microphone :
    letI := asciiCase
    ∃ is o it a g, NativeRun Lib.Free 0 is o ∧ (o.attempted it).length = 3 ∧ a ∈ o.attempted it ∧
      a.graph = some g ∧ ShownPhysical (is ++ [it]) g.targetNodeName := by
  let _ := asciiCase
  let it : Iteration :=
    { received := .command
        (.apply { active := true, input := { mode := .selected, stableId := "b" } }) false }
  obtain ⟨o, run, hend⟩ := NativeRun.of_compute 0
    [{ received := .command (.apply { active := true }) false
       env := { first := { refreshed := microphonePresent } } }]
    (fun o => (o.attempted it).length = 3 && (o.attempted it).any (·.graph.isSome)) (by decide)
  simp only [Bool.and_eq_true, decide_eq_true_eq, List.any_eq_true] at hend
  obtain ⟨hthree, a, ha, hsome⟩ := hend
  obtain ⟨g, hgraph⟩ := Option.isSome_iff_exists.mp hsome
  exact ⟨_, o, it, a, g, run, hthree, ha, hgraph, (target_physical run).2 it a ha g hgraph⟩

end Noire
