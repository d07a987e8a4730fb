import Noire.Lib.Run
import Noire.Registry.Selection

namespace Noire

/-!
# The registry's debounce

What the monitor publishes and when, over any calls: nodes that come, change and go under
recycled global ids, defaults, polls and immediate publications.

* `RegistryContents` — what a registry holds, as a function of the global id;
* `RegistryContents.Shows` — a snapshot of contents: all nodes in the order of their ids;
* `DebounceRun` — a monitor in use, what it should hold, the first change since the last
  publication, and the publications so far;
* `Tracks.step` — one call keeps the monitor in step with all of these;
* `debounced` — in every run a poll publishes exactly when the first change is old enough.

The monitor keeps a map, a default, a dirty flag with its time and a revision.  `Tracks` says what
each of these is, in terms of the calls so far: the contents that the events make, the time of the
first change that was not published, and the number of the publications.  One call keeps it, by
cases on whether the event changes the contents, which is the same question that the monitor asks.
-/

/-! ## Contents

What a registry holds, as functions of the identifiers: the monitor with its map is one, and each
of its events does to the map what it does to the contents.
-/

/-- What a registry holds: a node for some of the global ids, and the default's name. -/
structure RegistryContents where
  nodes : ℕ → Option NodeDescriptor := fun _ => none
  defaultNodeName : Option String := none

namespace RegistryContents

/-- What an event makes of the contents. -/
def apply (contents : RegistryContents) : RegistryEvent → RegistryContents
  | .upsert node =>
    { contents with nodes := fun id =>
        if id = node.globalId then some node else contents.nodes id }
  | .remove globalId =>
    { contents with nodes := fun id => if id = globalId then none else contents.nodes id }
  | .setDefaultNodeName nodeName => { contents with defaultNodeName := nodeName }

/-- A snapshot of the contents: all nodes in the order of their ids, each marked when it is the
    default, as one view. -/
def Shows [UnicodeCase] (contents : RegistryContents) (snapshot : RegistrySnapshot) : Prop :=
  ∃ entries : List (ℕ × NodeDescriptor),
    entries.Pairwise (fun a b => a.1 < b.1) ∧
    (∀ id node, (id, node) ∈ entries ↔ contents.nodes id = some node) ∧
    snapshot = .new snapshot.revision (entries.map fun entry =>
      { entry.2 with isDefault := contents.defaultNodeName = some entry.2.nodeName })

end RegistryContents

namespace RegistryMonitor

/-- What a monitor holds. -/
def held (monitor : RegistryMonitor) : RegistryContents where
  nodes := fun id => monitor.nodes.get? id
  defaultNodeName := monitor.defaultNodeName

/-- **An event makes of a monitor what it makes of its contents.** -/
theorem apply_held (monitor : RegistryMonitor) (event : RegistryEvent) (nowMillis : ℕ) :
    (monitor.apply event nowMillis).held = monitor.held.apply event := by
  cases event with
  | upsert node =>
    have hinsert : ∀ id, (monitor.nodes.insert node.globalId node).get? id =
        if id = node.globalId then some node else monitor.nodes.get? id := fun id => by
      simp [Std.TreeMap.getElem?_insert, @eq_comm _ id]
    show (monitor.upsert node nowMillis).held = _
    unfold upsert
    split
    · exact congrArg (RegistryContents.mk · monitor.defaultNodeName) (funext hinsert)
    · -- the same node again: the source skips the insertion
      rename_i hsame
      refine congrArg (RegistryContents.mk · monitor.defaultNodeName) (funext fun id => ?_)
      show monitor.nodes.get? id = if id = node.globalId then some node else monitor.nodes.get? id
      by_cases hid : id = node.globalId
      · rw [if_pos hid, hid]
        exact not_not.mp hsame
      · rw [if_neg hid]
  | remove globalId =>
    have herase : ∀ id, (monitor.nodes.erase globalId).get? id =
        if id = globalId then none else monitor.nodes.get? id := fun id => by
      simp [Std.TreeMap.getElem?_erase, @eq_comm _ id]
    show (monitor.remove globalId nowMillis).held = _
    unfold remove
    split
    · exact congrArg (RegistryContents.mk · monitor.defaultNodeName) (funext herase)
    · -- a node that is not there cannot be removed
      rename_i hnone
      refine congrArg (RegistryContents.mk · monitor.defaultNodeName) (funext fun id => ?_)
      show monitor.nodes.get? id = if id = globalId then none else monitor.nodes.get? id
      by_cases hid : id = globalId
      · rw [if_pos hid, hid]
        exact Option.not_isSome_iff_eq_none.mp hnone
      · rw [if_neg hid]
  | setDefaultNodeName nodeName =>
    show (monitor.setDefaultNodeName nodeName nowMillis).held = _
    unfold setDefaultNodeName
    split
    · rfl
    · rename_i hsame
      rw [not_not] at hsame
      exact congrArg (RegistryContents.mk _) hsame

/-- **An event that changes nothing** leaves the monitor as it is. -/
theorem apply_of_same {monitor : RegistryMonitor} {event : RegistryEvent}
    (h : monitor.held.apply event = monitor.held) (nowMillis : ℕ) :
    monitor.apply event nowMillis = monitor := by
  cases event with
  | upsert node =>
    have hnode : monitor.nodes.get? node.globalId = some node := by
      have := congrFun (congrArg RegistryContents.nodes h) node.globalId
      simpa [RegistryContents.apply, held] using this.symm
    exact if_neg (not_not.mpr hnode)
  | remove globalId =>
    have hnode : monitor.nodes.get? globalId = none := by
      have := congrFun (congrArg RegistryContents.nodes h) globalId
      simpa [RegistryContents.apply, held] using this.symm
    exact if_neg (by rw [hnode]; exact Bool.false_ne_true)
  | setDefaultNodeName nodeName =>
    have hname : nodeName = monitor.defaultNodeName :=
      congrArg RegistryContents.defaultNodeName h
    exact if_neg (not_not.mpr hname.symm)

/-- **An event that changes something** leaves the window open, since before or since now. -/
theorem apply_of_changed {monitor : RegistryMonitor} {event : RegistryEvent} {nowMillis : ℕ}
    (h : monitor.held.apply event ≠ monitor.held) :
    (monitor.apply event nowMillis).dirtySinceMillis =
      some (monitor.dirtySinceMillis.getD nowMillis) := by
  refine (monitor.apply_cases event nowMillis).resolve_left fun hsame => h ?_
  rw [← apply_held monitor event nowMillis, hsame]

/-- An event publishes nothing. -/
theorem apply_revision (monitor : RegistryMonitor) (event : RegistryEvent) (nowMillis : ℕ) :
    (monitor.apply event nowMillis).revision = monitor.revision := by
  cases event with
  | upsert node =>
    show (monitor.upsert node nowMillis).revision = _
    unfold upsert
    split <;> rfl
  | remove globalId =>
    show (monitor.remove globalId nowMillis).revision = _
    unfold remove
    split <;> rfl
  | setDefaultNodeName nodeName =>
    show (monitor.setDefaultNodeName nodeName nowMillis).revision = _
    unfold setDefaultNodeName
    split <;> rfl

variable [UnicodeCase]

/-- **A publication shows what is held.** -/
theorem contents_shows (monitor : RegistryMonitor) : monitor.held.Shows monitor.contents := by
  refine ⟨monitor.nodes.toList, ?_, fun id node => ?_, ?_⟩
  · exact monitor.nodes.ordered_keys_toList.imp fun h => Nat.compare_eq_lt.mp h
  · rw [Std.TreeMap.mem_toList_iff_getElem?_eq_some]
    rfl
  · show RegistrySnapshot.new _ (monitor.nodes.values.map _) = _
    rw [values_eq_map_toList, List.map_map]
    rfl

/-- **A poll** publishes exactly when the window has been open long enough. -/
theorem publishIfDue_eq (monitor : RegistryMonitor) (nowMillis : ℕ) :
    (monitor.publishIfDue nowMillis = (some monitor.publishNow.1, monitor.publishNow.2) ∧
      ∃ since ∈ monitor.dirtySinceMillis, since + registryCoalesceMillis ≤ nowMillis) ∨
    (monitor.publishIfDue nowMillis = (none, monitor) ∧
      ¬ ∃ since ∈ monitor.dirtySinceMillis, since + registryCoalesceMillis ≤ nowMillis) := by
  have hcoalesce : registryCoalesceMillis = 50 := rfl
  unfold publishIfDue
  cases hdirty : monitor.dirtySinceMillis with
  | none => exact .inr ⟨rfl, nofun⟩
  | some since =>
    dsimp only
    by_cases hearly : nowMillis - since < registryCoalesceMillis
    · rw [if_pos hearly]
      refine .inr ⟨rfl, ?_⟩
      rintro ⟨since, ⟨⟩, hdue⟩
      omega
    · rw [if_neg hearly]
      exact .inl ⟨rfl, since, rfl, by omega⟩

end RegistryMonitor

/-! ## Runs

Beside the monitor the run keeps its contents, when they last changed, and what was published.
-/

/-- A call of the monitor. -/
inductive RegistryCall
  | change (event : RegistryEvent) (nowMillis : ℕ)
  | publishIfDue (nowMillis : ℕ)
  | publishNow

/-- A monitor in use: what it should hold, the time of the first change since the last
    publication, and each publication with what was held when it was made. -/
structure DebounceRun where
  monitor : RegistryMonitor := {}
  held : RegistryContents := {}
  since : Option ℕ := none
  published : List (RegistrySnapshot × RegistryContents) := []

namespace DebounceRun

/-- The run after a publication. -/
def publish (run : DebounceRun) (snapshot : RegistrySnapshot) (monitor : RegistryMonitor) :
    DebounceRun :=
  { run with monitor, since := none, published := run.published ++ [(snapshot, run.held)] }

variable [UnicodeCase]

open Classical in
/-- What a call does to the monitor, and what it should do to the rest. -/
noncomputable def step (run : DebounceRun) : RegistryCall → DebounceRun
  | .change event nowMillis =>
    { run with
      monitor := run.monitor.apply event nowMillis
      held := run.held.apply event
      since := if run.held.apply event = run.held then run.since
        else some (run.since.getD nowMillis) }
  | .publishIfDue nowMillis =>
    match run.monitor.publishIfDue nowMillis with
    | (some snapshot, monitor) => run.publish snapshot monitor
    | (none, monitor) => { run with monitor }
  | .publishNow => run.publish run.monitor.publishNow.1 run.monitor.publishNow.2

/-- The monitor is in step with the rest of the run. -/
structure Tracks (run : DebounceRun) : Prop where
  held : run.monitor.held = run.held
  since : run.monitor.dirtySinceMillis = run.since
  shown : ∀ publication ∈ run.published, publication.2.Shows publication.1
  past : ∀ publication ∈ run.published, publication.1.revision ≤ run.monitor.revision
  increasing : run.published.Pairwise fun a b => a.1.revision < b.1.revision

/-- A publication. -/
theorem Tracks.publish {run : DebounceRun} (h : run.Tracks)
    (hroom : run.monitor.revision < u64Max) :
    (run.publish run.monitor.publishNow.1 run.monitor.publishNow.2).Tracks := by
  have hrevision : run.monitor.publishNow.1.revision = run.monitor.revision + 1 :=
    saturatingAdd_one hroom
  have hafter : run.monitor.publishNow.2.revision = run.monitor.revision + 1 :=
    saturatingAdd_one hroom
  refine ⟨h.held, rfl, ?_, ?_, ?_⟩
  · intro publication hmem
    rcases List.mem_append.mp hmem with hmem | hmem
    · exact h.shown publication hmem
    · -- what is published now is what the monitor holds
      obtain rfl := List.mem_singleton.mp hmem
      show run.held.Shows _
      rw [← h.held]
      exact run.monitor.contents_shows
  · intro publication hmem
    show publication.1.revision ≤ run.monitor.publishNow.2.revision
    rw [hafter]
    rcases List.mem_append.mp hmem with hmem | hmem
    · exact Nat.le_succ_of_le (h.past publication hmem)
    · obtain rfl := List.mem_singleton.mp hmem
      exact Nat.le_of_eq hrevision
  · -- its revision is above all that was published before
    refine List.pairwise_append.mpr ⟨h.increasing, List.pairwise_singleton _ _, ?_⟩
    intro publication hmem last hlast
    obtain rfl := List.mem_singleton.mp hlast
    rw [hrevision]
    exact Nat.lt_succ_of_le (h.past publication hmem)

/-- **One call** keeps the monitor in step. -/
theorem Tracks.step {run : DebounceRun} (h : run.Tracks) (hroom : run.monitor.revision < u64Max)
    (call : RegistryCall) : (run.step call).Tracks := by
  cases call with
  | change event nowMillis =>
    refine ⟨?_, ?_, h.shown, ?_, h.increasing⟩
    · show (run.monitor.apply event nowMillis).held = run.held.apply event
      rw [run.monitor.apply_held, h.held]
    · -- only an event that changes something starts the interval anew
      unfold DebounceRun.step
      dsimp only
      split
      · rename_i hsame
        rw [RegistryMonitor.apply_of_same (by rw [h.held]; exact hsame), h.since]
      · rename_i hchanged
        rw [RegistryMonitor.apply_of_changed (by rw [h.held]; exact hchanged), h.since]
    · intro publication hmem
      show publication.1.revision ≤ (run.monitor.apply event nowMillis).revision
      rw [run.monitor.apply_revision]
      exact h.past publication hmem
  | publishIfDue nowMillis =>
    unfold DebounceRun.step
    dsimp only
    rcases run.monitor.publishIfDue_eq nowMillis with ⟨hpublish, -⟩ | ⟨hwait, -⟩
    · rw [hpublish]
      exact h.publish hroom
    · rw [hwait]
      exact h
  | publishNow => exact h.publish hroom

/-- What a debounced monitor does. -/
structure Debounced (run : DebounceRun) : Prop where
  /-- A poll publishes when the first change since the last publication is old enough. -/
  due : ∀ nowMillis, (run.monitor.publishIfDue nowMillis).1.isSome = true ↔
    ∃ since ∈ run.since, since + registryCoalesceMillis ≤ nowMillis
  /-- An event that changes nothing leaves the monitor as it is. -/
  idle : ∀ event nowMillis, run.held.apply event = run.held →
    run.monitor.apply event nowMillis = run.monitor
  /-- A publication shows what was held when it was made. -/
  shown : ∀ publication ∈ run.published, publication.2.Shows publication.1
  increasing : run.published.Pairwise fun a b => a.1.revision < b.1.revision

/-- A monitor in step is debounced. -/
theorem Tracks.due {run : DebounceRun} (h : run.Tracks) : run.Debounced := by
  refine ⟨fun nowMillis => ?_, fun event nowMillis hsame => ?_, h.shown, h.increasing⟩
  · rw [← h.since]
    rcases run.monitor.publishIfDue_eq nowMillis with ⟨hpublish, hdue⟩ | ⟨hwait, hdue⟩
    · rw [hpublish]
      exact iff_of_true rfl hdue
    · rw [hwait]
      exact iff_of_false Bool.false_ne_true hdue
  · exact RegistryMonitor.apply_of_same (by rw [h.held]; exact hsame) nowMillis

end DebounceRun

/-- **The debounce.** In every run of a new monitor, while revisions are left, a poll publishes
    exactly when the first change since the last publication is old enough; what changes nothing
    leaves the monitor as it is; and the publications show what was held, at increasing
    revisions. -/
theorem debounced [UnicodeCase] {calls : List RegistryCall} {run : DebounceRun}
    (h : Lib.Run (fun run call run' => run.step call = run')
      (fun run _ => run.monitor.revision < u64Max) {} calls run) :
    run.Debounced := by
  have htracks : run.Tracks := by
    refine h.invariant DebounceRun.Tracks ⟨rfl, rfl, fun _ hmem => absurd hmem List.not_mem_nil,
      fun _ hmem => absurd hmem List.not_mem_nil, .nil⟩ ?_
    rintro run call _ htracks hroom rfl
    exact htracks.step hroom call
  exact htracks.due

/-- A default that is set, and a poll when its change is old enough. -/
theorem debounced_default :
    letI := asciiCase
    ∃ run : DebounceRun, Lib.Run (fun run call run' => run.step call = run')
      (fun run _ => run.monitor.revision < u64Max) {}
      [.change (.setDefaultNodeName (some "alsa_input.second")) 1020, .publishIfDue 1070] run ∧
    run.Debounced := by
  let _ := asciiCase
  have hrun : Lib.Run (fun (run : DebounceRun) call run' => run.step call = run')
      (fun run _ => run.monitor.revision < u64Max) {}
      ([] ++ [.change (.setDefaultNodeName (some "alsa_input.second")) 1020] ++
        [.publishIfDue 1070]) _ :=
    .snoc (.snoc .nil (by decide) rfl) (by decide) rfl
  exact ⟨_, hrun, debounced hrun⟩

end Noire
