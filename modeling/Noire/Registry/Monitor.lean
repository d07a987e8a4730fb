import Noire.Registry.Node
import Mathlib.Data.List.Sort

namespace Noire

/-!
# The device registry

The control thread's mutable registry of node globals, the immutable snapshot it publishes
and the policy that resolves the configured input in a snapshot.

* `RegistrySnapshot.new` — filter, sort and label the eligible inputs of one view;
* `RegistrySnapshot.resolve` — the input a selection policy names in it;
* `RegistryMonitor` — the registry, with the dirty flag two consumers share:
  `publishIfDue` after the debounce window, `publishNow` at once;
* `RegistryMonitor.contents` — the view a publication shows, and that only `upsert`,
  `remove` and `setDefaultNodeName` change it.
-/

/-- Control-thread registry debounce. -/
def registryCoalesceMillis : ℕ := 50

/-! ## Snapshots

`RegistrySnapshot::new` and `deduplicate_labels`: what a client is shown of the registry.
-/

/-- Immutable, stably ordered view of eligible input candidates. -/
structure RegistrySnapshot where
  revision : ℕ
  nodeNames : List String
  candidates : List NodeDescriptor
  deriving DecidableEq

/-- The description without the label it starts with, where that leaves something. -/
def conciseQualifier (label description : String) : String :=
  (((stripPrefixIgnoreCase label description).map trim).filter (· ≠ "")).getD description

/-- What tells a candidate from others of the same label. -/
def descriptiveQualifier (candidate : NodeDescriptor) : String :=
  match candidate.description.filter (!eqIgnoreAsciiCase · candidate.label) with
  | some description => conciseQualifier candidate.label description
  | none => candidate.nodeName

section
variable [UnicodeCase]
open UnicodeCase (toLowercase)

/-- How many candidates share a label, up to case. -/
def labelCount (candidates : List NodeDescriptor) (key : String) : ℕ :=
  candidates.countP fun c => toLowercase c.label = key

/-- How many candidates of one shared label also share a qualifier, up to case. -/
def qualifierCount (candidates : List NodeDescriptor) (key qualifier : String) : ℕ :=
  candidates.countP fun c =>
    labelCount candidates (toLowercase c.label) > 1 ∧ toLowercase c.label = key ∧
      toLowercase (descriptiveQualifier c) = qualifier

/-- `deduplicate_labels`: a label that several candidates share is qualified by what
    describes the candidate, or by its node name where that is shared too. -/
def deduplicateLabels (candidates : List NodeDescriptor) : List NodeDescriptor :=
  candidates.map fun candidate =>
    let key := toLowercase candidate.label
    if labelCount candidates key > 1 then
      let descriptive := descriptiveQualifier candidate
      let qualifier :=
        if qualifierCount candidates key (toLowercase descriptive) = 1 then descriptive
        else candidate.nodeName
      { candidate with label := candidate.label ++ " — " ++ qualifier }
    else candidate

/-- The candidates of a view, by node name: the first of each name, unless a later one is the
    default and the kept one is not. -/
def candidatesByName (nodes : List NodeDescriptor) : Std.TreeMap String NodeDescriptor :=
  (nodes.filter NodeDescriptor.isCandidate).foldl
    (fun byName candidate => byName.alter candidate.nodeName fun
      | some existing => some (if candidate.isDefault && !existing.isDefault then candidate
          else existing)
      | none => some candidate) ∅

/-- The order candidates are shown in: by label up to case, then by node name. -/
def labelOrder (left right : NodeDescriptor) : Prop :=
  toLowercase left.label < toLowercase right.label ∨
    (toLowercase left.label = toLowercase right.label ∧ left.nodeName ≤ right.nodeName)

instance : DecidableRel labelOrder := fun left right =>
  inferInstanceAs (Decidable (toLowercase left.label < toLowercase right.label ∨
    (toLowercase left.label = toLowercase right.label ∧ left.nodeName ≤ right.nodeName)))

/-- `RegistrySnapshot::new`: filter, sort and label one registry view. -/
def RegistrySnapshot.new (revision : ℕ) (nodes : List NodeDescriptor) : RegistrySnapshot where
  revision
  nodeNames := nodes.map (·.nodeName)
  candidates := deduplicateLabels ((candidatesByName nodes).values.insertionSort labelOrder)

end

/-! ## Resolving the configured input

The policy names a device, or asks for the default; a fallback from the one to the other has to be
permitted.
-/

/-- Explicit policy for resolving one immutable registry snapshot. -/
structure SelectionPolicy where
  selector : Option DeviceSelector := none
  followDefault : Bool := false
  fallbackToDefault : Bool := false

/-- Visible reason no capture node could be selected. -/
inductive InputUnavailable
  | selectedInputMissing
  | defaultInputMissing
  | notConfigured
  deriving DecidableEq

/-- The default input of the snapshot, if it has an eligible one. -/
def RegistrySnapshot.resolveDefault (snapshot : RegistrySnapshot) :
    Except InputUnavailable NodeDescriptor :=
  match snapshot.candidates.find? (·.isDefault) with
  | some candidate => .ok candidate
  | none => .error .defaultInputMissing

/-- `RegistrySnapshot::resolve`: apply explicit selector/default policy, without global
    IDs. -/
def RegistrySnapshot.resolve (snapshot : RegistrySnapshot) (policy : SelectionPolicy) :
    Except InputUnavailable NodeDescriptor :=
  match policy.selector with
  | some selector =>
    match snapshot.candidates.find? selector.matches with
    | some candidate => .ok candidate
    | none =>
      -- Falling back to the default is opt-in, and the error names the selected input.
      if !policy.fallbackToDefault then .error .selectedInputMissing
      else snapshot.resolveDefault
  | none =>
    if !policy.followDefault then .error .notConfigured else snapshot.resolveDefault

/-- Resolving looks at the candidates only. -/
theorem RegistrySnapshot.resolve_congr {s t : RegistrySnapshot} (policy : SelectionPolicy)
    (h : s.candidates = t.candidates) : s.resolve policy = t.resolve policy := by
  simp only [RegistrySnapshot.resolve, RegistrySnapshot.resolveDefault, h]

/-! ## The monitor

`RegistryMonitor`: the nodes by their global identifier, and since when they differ from what was
published.
-/

/-- Mutable control-thread registry builder with a fixed 50 ms publish debounce. -/
structure RegistryMonitor where
  nodes : Std.TreeMap ℕ NodeDescriptor := ∅
  defaultNodeName : Option String := none
  dirtySinceMillis : Option ℕ := none
  revision : ℕ := 0

/-- One native registry callback. -/
inductive RegistryEvent
  | upsert (node : NodeDescriptor)
  | remove (globalId : ℕ)
  | setDefaultNodeName (nodeName : Option String)

namespace RegistryMonitor

/-- Start the debounce window, unless it is open. -/
def markDirty (monitor : RegistryMonitor) (nowMillis : ℕ) : RegistryMonitor :=
  { monitor with dirtySinceMillis := some (monitor.dirtySinceMillis.getD nowMillis) }

/-- Add or replace one node, and start the debounce window if it changed. -/
def upsert (monitor : RegistryMonitor) (node : NodeDescriptor) (nowMillis : ℕ) :
    RegistryMonitor :=
  if monitor.nodes.get? node.globalId ≠ some node then
    { monitor with nodes := monitor.nodes.insert node.globalId node }.markDirty nowMillis
  else monitor

/-- Remove a transient global ID, and start the debounce window if it was present. -/
def remove (monitor : RegistryMonitor) (globalId nowMillis : ℕ) : RegistryMonitor :=
  if (monitor.nodes.get? globalId).isSome then
    { monitor with nodes := monitor.nodes.erase globalId }.markDirty nowMillis
  else monitor

/-- Update the session-manager default by stable node name. -/
def setDefaultNodeName (monitor : RegistryMonitor) (nodeName : Option String)
    (nowMillis : ℕ) : RegistryMonitor :=
  if monitor.defaultNodeName ≠ nodeName then
    { monitor with defaultNodeName := nodeName }.markDirty nowMillis
  else monitor

/-- Apply one native callback at `nowMillis`. -/
def apply (monitor : RegistryMonitor) (event : RegistryEvent) (nowMillis : ℕ) :
    RegistryMonitor :=
  match event with
  | .upsert node => monitor.upsert node nowMillis
  | .remove globalId => monitor.remove globalId nowMillis
  | .setDefaultNodeName nodeName => monitor.setDefaultNodeName nodeName nowMillis

/-- The registry's nodes, each marked when it is the default. -/
def markedNodes (monitor : RegistryMonitor) : List NodeDescriptor :=
  monitor.nodes.values.map fun node =>
    { node with isDefault := monitor.defaultNodeName = some node.nodeName }

section
variable [UnicodeCase]

/-- The view of the present registry contents. -/
def contents (monitor : RegistryMonitor) : RegistrySnapshot :=
  .new (saturatingAdd u64Max monitor.revision 1) monitor.markedNodes

/-- `publish_now`: publish immediately, and close the debounce window. -/
def publishNow (monitor : RegistryMonitor) : RegistrySnapshot × RegistryMonitor :=
  (monitor.contents,
    { monitor with
      dirtySinceMillis := none
      revision := saturatingAdd u64Max monitor.revision 1 })

/-- `publish_if_due`: publish once the debounce window has elapsed. -/
def publishIfDue (monitor : RegistryMonitor) (nowMillis : ℕ) :
    Option RegistrySnapshot × RegistryMonitor :=
  match monitor.dirtySinceMillis with
  | none => (none, monitor)
  | some dirtySince =>
    if nowMillis - dirtySince < registryCoalesceMillis then (none, monitor)
    else (some monitor.publishNow.1, monitor.publishNow.2)

/-! ## What the dirty flag records

The flag is set by whatever changes the contents and cleared by a publication, so a clean registry
has shown what it holds.
-/

/-- What the configured policy resolves to in the present registry contents. -/
def resolved (monitor : RegistryMonitor) (policy : SelectionPolicy) : Option String :=
  (monitor.contents.resolve policy).toOption.map (·.nodeName)

/-- The resolved input depends on the nodes and the default name only. -/
theorem resolved_congr {m m' : RegistryMonitor} (policy : SelectionPolicy)
    (hnodes : m.nodes = m'.nodes) (hname : m.defaultNodeName = m'.defaultNodeName) :
    m.resolved policy = m'.resolved policy := by
  have hmarked : m.markedNodes = m'.markedNodes := by
    simp only [markedNodes, hnodes, hname]
  unfold resolved
  rw [RegistrySnapshot.resolve_congr policy (t := m'.contents)]
  simp only [contents, RegistrySnapshot.new, hmarked]

/-- Publishing changes neither the contents nor what they resolve to. -/
@[simp] theorem publishNow_resolved (monitor : RegistryMonitor) (policy : SelectionPolicy) :
    monitor.publishNow.2.resolved policy = monitor.resolved policy :=
  resolved_congr policy rfl rfl

end

/-- The debounce window is open since `dirtySince` or an earlier reading. -/
def DirtyBy (monitor : RegistryMonitor) (millis : ℕ) : Prop :=
  ∀ dirtySince ∈ monitor.dirtySinceMillis, dirtySince ≤ millis

/-- An event either leaves the registry as it is, or leaves the debounce window open: since
    before, or since the event. -/
theorem apply_cases (monitor : RegistryMonitor) (event : RegistryEvent) (nowMillis : ℕ) :
    monitor.apply event nowMillis = monitor ∨
      (monitor.apply event nowMillis).dirtySinceMillis =
        some (monitor.dirtySinceMillis.getD nowMillis) := by
  -- Each event compares with what is held first, and marks the registry only if it differs.
  cases event with
  | upsert node =>
    simp only [apply, upsert]
    split
    · exact .inr rfl
    · exact .inl rfl
  | remove globalId =>
    simp only [apply, remove]
    split
    · exact .inr rfl
    · exact .inl rfl
  | setDefaultNodeName nodeName =>
    simp only [apply, setDefaultNodeName]
    split
    · exact .inr rfl
    · exact .inl rfl

/-- After an event the debounce window is open since that event at the latest. -/
theorem apply_dirtyBy {monitor : RegistryMonitor} (event : RegistryEvent) {last nowMillis : ℕ}
    (h : monitor.DirtyBy last) (hnow : last ≤ nowMillis) :
    (monitor.apply event nowMillis).DirtyBy nowMillis := by
  rcases monitor.apply_cases event nowMillis with he | he
  · rw [he]
    exact fun d hd => (h d hd).trans hnow
  · intro d hd
    rw [he] at hd
    obtain rfl := Option.some.inj hd
    cases hdirty : monitor.dirtySinceMillis with
    | none => exact le_refl _
    | some since => exact (h since hdirty).trans hnow

end RegistryMonitor

end Noire
