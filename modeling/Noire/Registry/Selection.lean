import Noire.Registry.Monitor
import Mathlib.Data.Prod.Lex
import Mathlib.Data.String.Basic

namespace Noire

/-!
# What a snapshot holds, and selects

The candidates of a registry snapshot, from any list of node globals: the eligible nodes, merged by
name, in the order of their labels.

* `keptOf` — the eligible node that a name is merged to;
* `candidatesByName_kept` — the map of a snapshot is this, name by name;
* `SelectionComplete` — a selector finds the node it was made of;
* `selection_complete_iff` — it does exactly if the node that its name is merged to is identified
  by it, and `selection_incomplete`, a list in which it is not;
* `snapshot_stable` — neither the order of the nodes nor their global IDs matter, if no two
  share a name.

The code builds a map in one pass over the nodes.  What the map holds under a name depends on the
nodes of this name only, and is found by the fold over these: the first default, or else the first
(`candidatesByName_kept`).  All later proofs use this description and never the fold.

A selector identifies nodes of one name, so among the candidates it can find one node only, the
one that its name is merged to.  That decides the first result.  For the second, two lists with
distinct names that are permutations of each other keep the same nodes; their order is by label
and name, which are those of the nodes, so sorting makes the lists equal up to the IDs.
-/

/-! ## Merging by name

The code folds over the candidates and keeps one of each name in a map.  `keptOf` says which: of
the eligible nodes of the name the first, unless it is not the default and a later one is.
-/

/-- The nodes of a name that are eligible. -/
def eligibleNamed (nodes : List NodeDescriptor) (name : String) : List NodeDescriptor :=
  (nodes.filter NodeDescriptor.isCandidate).filter (·.nodeName = name)

/-- What they are merged to: the first default among them, or else the first. -/
def keptOf (nodes : List NodeDescriptor) (name : String) : Option NodeDescriptor :=
  ((eligibleNamed nodes name).find? (·.isDefault)).or (eligibleNamed nodes name).head?

/-- One node merged into what is kept of its name. -/
def mergeInto (candidate : NodeDescriptor) : Option NodeDescriptor → NodeDescriptor
  | some existing => if candidate.isDefault && !existing.isDefault then candidate else existing
  | none => candidate

/-- The fold of a snapshot, in terms of one merge. -/
theorem candidatesByName_eq (nodes : List NodeDescriptor) :
    candidatesByName nodes = (nodes.filter NodeDescriptor.isCandidate).foldl
      (fun byName candidate => byName.alter candidate.nodeName
        fun existing => some (mergeInto candidate existing)) ∅ := by
  unfold candidatesByName
  congr 1
  funext byName candidate
  congr 1
  funext existing
  cases existing <;> rfl

/-- What a name is merged to depends on the nodes of this name. -/
theorem foldl_alter_get (nodes : List NodeDescriptor) (name : String)
    (byName : Std.TreeMap String NodeDescriptor) :
    (nodes.foldl (fun byName candidate => byName.alter candidate.nodeName
        fun existing => some (mergeInto candidate existing)) byName)[name]? =
      (nodes.filter (·.nodeName = name)).foldl
        (fun kept candidate => some (mergeInto candidate kept)) byName[name]? := by
  induction nodes generalizing byName with
  | nil => rfl
  | cons candidate rest ih =>
    rw [List.foldl_cons, ih, Std.TreeMap.getElem?_alter]
    by_cases hname : candidate.nodeName = name
    · rw [if_pos (by rw [hname]; exact Std.compare_self),
        List.filter_cons_of_pos (by simpa using hname), List.foldl_cons, hname]
    · rw [if_neg (by simpa using hname), List.filter_cons_of_neg (by simpa using hname)]

/-- The merge keeps the first default, or else the first. -/
theorem foldl_mergeInto_some (kept : NodeDescriptor) (nodes : List NodeDescriptor) :
    nodes.foldl (fun kept candidate => some (mergeInto candidate kept)) (some kept) =
      if kept.isDefault then some kept else some ((nodes.find? (·.isDefault)).getD kept) := by
  induction nodes generalizing kept with
  | nil =>
    cases kept.isDefault <;> rfl
  | cons candidate rest ih =>
    rw [List.foldl_cons, ih]
    unfold mergeInto
    cases hkept : kept.isDefault with
    | true => simp [hkept]
    | false =>
      cases hcandidate : candidate.isDefault with
      | true => simp [hkept, hcandidate]
      | false => simp [hkept, hcandidate]

theorem foldl_mergeInto (nodes : List NodeDescriptor) :
    nodes.foldl (fun kept candidate => some (mergeInto candidate kept)) none =
      (nodes.find? (·.isDefault)).or nodes.head? := by
  cases nodes with
  | nil => rfl
  | cons first rest =>
    rw [List.foldl_cons]
    show rest.foldl _ (some first) = _
    rw [foldl_mergeInto_some]
    cases hfirst : first.isDefault with
    | true => simp [hfirst]
    | false =>
      rw [List.find?_cons_of_neg (by simp [hfirst]), List.head?_cons]
      cases rest.find? (·.isDefault) <;> rfl

/-- **The map of a snapshot** keeps, under each name, what the name is merged to. -/
theorem candidatesByName_kept (nodes : List NodeDescriptor) (name : String) :
    (candidatesByName nodes)[name]? = keptOf nodes name := by
  rw [candidatesByName_eq, foldl_alter_get, Std.TreeMap.getElem?_emptyc, foldl_mergeInto]
  rfl

/-- What is kept of a name is an eligible node of that name. -/
theorem keptOf_mem {nodes : List NodeDescriptor} {name : String} {kept : NodeDescriptor}
    (h : keptOf nodes name = some kept) :
    kept ∈ nodes ∧ kept.isCandidate = true ∧ kept.nodeName = name := by
  have hmem : kept ∈ eligibleNamed nodes name := by
    rcases Option.or_eq_some_iff.mp h with hfind | ⟨-, hhead⟩
    · exact List.mem_of_find?_eq_some hfind
    · exact List.mem_of_head? hhead
  obtain ⟨hfilter, hname⟩ := List.mem_filter.mp hmem
  obtain ⟨hnode, hcandidate⟩ := List.mem_filter.mp hfilter
  exact ⟨hnode, hcandidate, of_decide_eq_true hname⟩

/-- Something is kept of the name of an eligible node. -/
theorem keptOf_isSome {nodes : List NodeDescriptor} {node : NodeDescriptor} (hnode : node ∈ nodes)
    (hcandidate : node.isCandidate = true) : ∃ kept, keptOf nodes node.nodeName = some kept := by
  have hmem : node ∈ eligibleNamed nodes node.nodeName :=
    List.mem_filter.mpr ⟨List.mem_filter.mpr ⟨hnode, hcandidate⟩, decide_eq_true rfl⟩
  unfold keptOf
  cases (eligibleNamed nodes node.nodeName).find? (·.isDefault) with
  | some kept => exact ⟨kept, rfl⟩
  | none =>
    cases heligible : eligibleNamed nodes node.nodeName with
    | nil =>
      rw [heligible] at hmem
      cases hmem
    | cons first rest => exact ⟨first, rfl⟩

/-- If no two nodes share a name, every eligible node is kept. -/
theorem keptOf_of_nodup {nodes : List NodeDescriptor}
    (h : (nodes.map NodeDescriptor.nodeName).Nodup) {node : NodeDescriptor} :
    keptOf nodes node.nodeName = some node ↔ node ∈ nodes ∧ node.isCandidate = true := by
  constructor
  · intro hkept
    obtain ⟨hnode, hcandidate, -⟩ := keptOf_mem hkept
    exact ⟨hnode, hcandidate⟩
  · rintro ⟨hnode, hcandidate⟩
    obtain ⟨kept, hkept⟩ := keptOf_isSome hnode hcandidate
    obtain ⟨hmem, -, hname⟩ := keptOf_mem hkept
    rw [hkept, List.inj_on_of_nodup_map h hmem hnode hname]

/-! ## Policies

A policy looks for its selector first, and for the default where that is permitted.
-/

/-- A selector identifies nodes of its own name. -/
theorem matches_nodeName {selector : DeviceSelector} {node : NodeDescriptor}
    (h : selector.matches node = true) : node.nodeName = selector.nodeName := by
  unfold DeviceSelector.matches at h
  split at h
  · cases h
  · rename_i hname
    exact (not_not.mp hname).symm

/-- A selector finds a node that it identifies, whatever the policy says about the default; and
    what it does not identify is selected as the default only, and only if that is permitted. -/
structure SelectionComplete (snapshot : RegistrySnapshot) (node : NodeDescriptor) : Prop where
  found : ∀ policy : SelectionPolicy, policy.selector = some node.selector →
    ∃ selected, snapshot.resolve policy = .ok selected ∧ node.selector.matches selected = true
  permitted : ∀ (policy : SelectionPolicy) (selector : DeviceSelector) (selected : NodeDescriptor),
    policy.selector = some selector → snapshot.resolve policy = .ok selected →
    selector.matches selected = false → policy.fallbackToDefault = true ∧
      snapshot.resolveDefault = .ok selected ∧ selected.isDefault = true

/-- The default of a snapshot is one. -/
theorem resolveDefault_isDefault {snapshot : RegistrySnapshot} {selected : NodeDescriptor}
    (h : snapshot.resolveDefault = .ok selected) : selected.isDefault = true := by
  unfold RegistrySnapshot.resolveDefault at h
  split at h
  · rename_i hfind
    obtain rfl := Except.ok.inj h
    exact List.find?_some hfind
  · cases h

/-- What is not identified is the default, by permission. -/
theorem resolve_permitted {snapshot : RegistrySnapshot} {policy : SelectionPolicy}
    {selector : DeviceSelector} {selected : NodeDescriptor}
    (hselector : policy.selector = some selector) (h : snapshot.resolve policy = .ok selected)
    (hnot : selector.matches selected = false) : policy.fallbackToDefault = true ∧
      snapshot.resolveDefault = .ok selected ∧ selected.isDefault = true := by
  unfold RegistrySnapshot.resolve at h
  rw [hselector] at h
  dsimp only at h
  split at h
  · rename_i hfind
    obtain rfl := Except.ok.inj h
    rw [List.find?_some hfind] at hnot
    cases hnot
  · split at h
    · cases h
    · rename_i hpermitted
      exact ⟨by simpa using hpermitted, h, resolveDefault_isDefault h⟩

/-- A node without its transient global ID. -/
def NodeDescriptor.lasting (node : NodeDescriptor) : NodeDescriptor := { node with globalId := 0 }

/-- A policy selects the same node of two lists of candidates that are the same but for IDs. -/
theorem resolve_lasting {s t : RegistrySnapshot}
    (h : s.candidates.map NodeDescriptor.lasting = t.candidates.map NodeDescriptor.lasting)
    (policy : SelectionPolicy) :
    (s.resolve policy).map NodeDescriptor.lasting =
      (t.resolve policy).map NodeDescriptor.lasting := by
  -- No search of a policy looks at the IDs.
  have hfind : ∀ p : NodeDescriptor → Bool, p ∘ NodeDescriptor.lasting = p →
      (s.candidates.find? p).map NodeDescriptor.lasting =
        (t.candidates.find? p).map NodeDescriptor.lasting := fun p hp => by
    have hmap : ∀ candidates : List NodeDescriptor,
        (candidates.find? p).map NodeDescriptor.lasting =
          (candidates.map NodeDescriptor.lasting).find? p := fun candidates => by
      rw [List.find?_map, hp]
    rw [hmap, hmap, h]
  have hdefault : s.resolveDefault.map NodeDescriptor.lasting =
      t.resolveDefault.map NodeDescriptor.lasting := by
    have hsame := hfind (·.isDefault) rfl
    unfold RegistrySnapshot.resolveDefault
    cases hs : s.candidates.find? (·.isDefault) with
    | none =>
      rw [hs] at hsame
      rw [Option.map_eq_none_iff.mp hsame.symm]
    | some candidate =>
      rw [hs] at hsame
      obtain ⟨candidate', hcandidate', hlasting⟩ := Option.map_eq_some_iff.mp hsame.symm
      rw [hcandidate']
      exact congrArg Except.ok hlasting.symm
  unfold RegistrySnapshot.resolve
  -- Both lists take the same branch, by what the searches find.
  cases policy.selector with
  | none =>
    dsimp only
    split
    · rfl
    · exact hdefault
  | some selector =>
    have hsame := hfind selector.matches rfl
    dsimp only
    cases hs : s.candidates.find? selector.matches with
    | none =>
      rw [hs] at hsame
      rw [Option.map_eq_none_iff.mp hsame.symm]
      dsimp only
      split
      · rfl
      · exact hdefault
    | some candidate =>
      rw [hs] at hsame
      obtain ⟨candidate', hcandidate', hlasting⟩ := Option.map_eq_some_iff.mp hsame.symm
      rw [hcandidate']
      exact congrArg Except.ok hlasting.symm

/-! ## The candidates

The view lists what the map holds, sorted and with its labels made distinct; node names and
eligibility are as before.
-/

/-- The values of a map are those of its entries. -/
theorem values_eq_map_toList {α β : Type} {cmp : α → α → Ordering} [Std.TransCmp cmp]
    (t : Std.TreeMap α β cmp) : t.values = t.toList.map Prod.snd := by
  have hfold : t.values = t.foldr (fun _ value values => value :: values) [] := rfl
  rw [hfold, Std.TreeMap.foldr_eq_foldr_toList, List.map_eq_foldr]

/-- The entries of the map of a snapshot. -/
theorem mem_toList_kept {nodes : List NodeDescriptor} {entry : String × NodeDescriptor}
    (h : entry ∈ (candidatesByName nodes).toList) :
    keptOf nodes entry.1 = some entry.2 ∧ entry.2.nodeName = entry.1 := by
  have hkept := Std.TreeMap.mem_toList_iff_getElem?_eq_some.mp h
  rw [candidatesByName_kept] at hkept
  exact ⟨hkept, (keptOf_mem hkept).2.2⟩

/-- The values are what each name is merged to. -/
theorem mem_values_kept {nodes : List NodeDescriptor} {node : NodeDescriptor} :
    node ∈ (candidatesByName nodes).values ↔ keptOf nodes node.nodeName = some node := by
  rw [values_eq_map_toList]
  constructor
  · intro h
    obtain ⟨entry, hentry, rfl⟩ := List.mem_map.mp h
    obtain ⟨hkept, hname⟩ := mem_toList_kept hentry
    rw [hname]
    exact hkept
  · intro h
    refine List.mem_map.mpr ⟨(node.nodeName, node), ?_, rfl⟩
    rw [Std.TreeMap.mem_toList_iff_getElem?_eq_some, candidatesByName_kept]
    exact h

/-- No name comes twice. -/
theorem nodup_values_names (nodes : List NodeDescriptor) :
    ((candidatesByName nodes).values.map NodeDescriptor.nodeName).Nodup := by
  have hnames : (candidatesByName nodes).values.map NodeDescriptor.nodeName =
      (candidatesByName nodes).toList.map Prod.fst := by
    rw [values_eq_map_toList, List.map_map]
    exact List.map_congr_left fun entry hentry => (mem_toList_kept hentry).2
  rw [hnames, List.Nodup, List.pairwise_map]
  exact Std.TreeMap.distinct_keys_toList.imp fun hdistinct hsame =>
    hdistinct (by rw [hsame]; exact Std.compare_self)

/-- Then the map of a snapshot holds the eligible nodes, in some order. -/
theorem values_perm_of_nodup {nodes : List NodeDescriptor}
    (h : (nodes.map NodeDescriptor.nodeName).Nodup) :
    (candidatesByName nodes).values.Perm (nodes.filter NodeDescriptor.isCandidate) := by
  refine (List.perm_ext_iff_of_nodup (nodup_values_names nodes).of_map (h.of_map.filter _)).mpr
    fun node => ?_
  rw [mem_values_kept, keptOf_of_nodup h, List.mem_filter]

section
variable [UnicodeCase]
open UnicodeCase (toLowercase)

/-- The label of a candidate among others. -/
def qualifiedLabel (candidates : List NodeDescriptor) (candidate : NodeDescriptor) : String :=
  let key := toLowercase candidate.label
  if labelCount candidates key > 1 then
    let descriptive := descriptiveQualifier candidate
    let qualifier :=
      if qualifierCount candidates key (toLowercase descriptive) = 1 then descriptive
      else candidate.nodeName
    candidate.label ++ " — " ++ qualifier
  else candidate.label

/-- A candidate, as it is shown among others. -/
def relabelled (candidates : List NodeDescriptor) (candidate : NodeDescriptor) : NodeDescriptor :=
  { candidate with label := qualifiedLabel candidates candidate }

theorem deduplicateLabels_eq (candidates : List NodeDescriptor) :
    deduplicateLabels candidates = candidates.map (relabelled candidates) := by
  refine List.map_congr_left fun candidate _ => ?_
  unfold relabelled qualifiedLabel
  dsimp only
  split
  · rfl
  · rfl

/-- The eligible nodes of a snapshot, one for each name, in the order they are shown in. -/
def sortedKept (nodes : List NodeDescriptor) : List NodeDescriptor :=
  (candidatesByName nodes).values.insertionSort labelOrder

theorem candidates_eq (revision : ℕ) (nodes : List NodeDescriptor) :
    (RegistrySnapshot.new revision nodes).candidates =
      (sortedKept nodes).map (relabelled (sortedKept nodes)) := deduplicateLabels_eq _

theorem sortedKept_perm (nodes : List NodeDescriptor) :
    (sortedKept nodes).Perm (candidatesByName nodes).values := List.perm_insertionSort _ _

theorem mem_sortedKept {nodes : List NodeDescriptor} {node : NodeDescriptor} :
    node ∈ sortedKept nodes ↔ keptOf nodes node.nodeName = some node :=
  (sortedKept_perm nodes).mem_iff.trans mem_values_kept

theorem nodup_sortedKept_names (nodes : List NodeDescriptor) :
    ((sortedKept nodes).map NodeDescriptor.nodeName).Nodup :=
  ((sortedKept_perm nodes).map _).nodup_iff.mpr (nodup_values_names nodes)

/-- A label says nothing about what a node is. -/
theorem names_candidates (revision : ℕ) (nodes : List NodeDescriptor) :
    (RegistrySnapshot.new revision nodes).candidates.map NodeDescriptor.nodeName =
      (sortedKept nodes).map NodeDescriptor.nodeName := by
  rw [candidates_eq, List.map_map]
  rfl

/-- A search that does not look at labels finds the relabelled node. -/
theorem find_candidates (revision : ℕ) (nodes : List NodeDescriptor) {p : NodeDescriptor → Bool}
    (h : ∀ node label, p { node with label } = p node) :
    (RegistrySnapshot.new revision nodes).candidates.find? p =
      ((sortedKept nodes).find? p).map (relabelled (sortedKept nodes)) := by
  have hlabel : p ∘ relabelled (sortedKept nodes) = p := funext fun node => h node _
  rw [candidates_eq, List.find?_map, hlabel]

/-! ## Selection

The condition is about the list of nodes that the snapshot is made of, before anything is merged.
-/

/-- Of the candidates, a selector can only find the one of its name. -/
theorem find_matches {nodes : List NodeDescriptor} {node kept : NodeDescriptor}
    (hkept : keptOf nodes node.nodeName = some kept) :
    (sortedKept nodes).find? node.selector.matches =
      if node.selector.matches kept then some kept else none := by
  have hname : kept.nodeName = node.nodeName := (keptOf_mem hkept).2.2
  have hmem : kept ∈ sortedKept nodes := by
    rw [mem_sortedKept, hname]
    exact hkept
  -- The name alone decides which candidate can match, and one is kept of each name.
  have honly : ∀ other ∈ sortedKept nodes, node.selector.matches other = true → other = kept := by
    intro other hother hmatches
    have hother := mem_sortedKept.mp hother
    rw [show other.nodeName = node.nodeName from matches_nodeName hmatches, hkept] at hother
    exact (Option.some.inj hother).symm
  split
  · rename_i hmatches
    obtain ⟨found, hfound⟩ := Option.isSome_iff_exists.mp
      (List.find?_isSome.mpr ⟨kept, hmem, hmatches⟩)
    rw [hfound, honly found (List.mem_of_find?_eq_some hfound) (List.find?_some hfound)]
  · rename_i hnot
    refine List.find?_eq_none.mpr fun other hother hmatches => hnot ?_
    rw [← honly other hother hmatches]
    exact hmatches

/-- **Selection.** For every list of nodes and every eligible node in it, the node's selector finds
    a node that it identifies, under every policy, and no policy selects another one than the
    default by permission, exactly if the selector identifies the node that the name is merged to:
    the first default of the eligible nodes of the name, or else the first of them. -/
theorem selection_complete_iff (revision : ℕ) {nodes : List NodeDescriptor} {node : NodeDescriptor}
    (hnode : node ∈ nodes) (hcandidate : node.isCandidate = true) :
    SelectionComplete (.new revision nodes) node ↔
      ∀ kept ∈ keptOf nodes node.nodeName, node.selector.matches kept = true := by
  obtain ⟨kept, hkept⟩ := keptOf_isSome hnode hcandidate
  have hfind : (RegistrySnapshot.new revision nodes).candidates.find? node.selector.matches =
      (if node.selector.matches kept then some kept else none).map
        (relabelled (sortedKept nodes)) := by
    rw [find_candidates revision nodes fun _ _ => rfl, find_matches hkept]
  constructor
  · -- the policy that selects the node, and permits nothing else
    rintro ⟨hfound, -⟩ other hother
    obtain rfl := Option.some.inj (hkept.symm.trans hother)
    by_contra hnot
    obtain ⟨selected, hresolve, -⟩ := hfound ⟨some node.selector, false, false⟩ rfl
    rw [if_neg hnot] at hfind
    unfold RegistrySnapshot.resolve at hresolve
    dsimp only at hresolve
    rw [hfind] at hresolve
    cases hresolve
  · -- the kept one is found, whatever else the policy permits
    intro hmatches
    have hmatches : node.selector.matches kept = true := hmatches kept hkept
    refine ⟨fun policy hselector => ⟨relabelled (sortedKept nodes) kept, ?_, hmatches⟩,
      fun _ _ _ => resolve_permitted⟩
    rw [if_pos hmatches, Option.map_some] at hfind
    unfold RegistrySnapshot.resolve
    rw [hselector]
    dsimp only
    rw [hfind]

end

/-- A microphone of one name among two, told apart by its device's serial. -/
def twin (globalId : ℕ) (serial : String) : NodeDescriptor where
  globalId
  nodeName := "alsa_input.usb"
  mediaClass := some mediaClassSource
  deviceSerial := some serial
  label := "alsa_input.usb"

/-- The first of two twins is found. -/
theorem selection_complete_iff_first :
    @SelectionComplete (@RegistrySnapshot.new asciiCase 1 [twin 1 "A", twin 2 "B"]) (twin 1 "A") :=
  (@selection_complete_iff asciiCase 1 [twin 1 "A", twin 2 "B"] (twin 1 "A")
    List.mem_cons_self (by decide +kernel)).mpr (by decide +kernel)

/-- **A missing twin.** The second is not, although it is there. -/
theorem selection_incomplete : ¬ ∀ [UnicodeCase] (revision : ℕ) (nodes : List NodeDescriptor)
    (node : NodeDescriptor), node ∈ nodes → node.isCandidate = true →
      SelectionComplete (.new revision nodes) node := by
  intro hall
  obtain ⟨selected, hresolve, -⟩ := (@hall asciiCase 1 [twin 1 "A", twin 2 "B"] (twin 2 "B")
    (List.mem_cons_of_mem _ List.mem_cons_self) (by decide +kernel)).found
      ⟨some (twin 2 "B").selector, false, false⟩ rfl
  have hmissing : (@RegistrySnapshot.new asciiCase 1 [twin 1 "A", twin 2 "B"]).resolve
      ⟨some (twin 2 "B").selector, false, false⟩ = .error .selectedInputMissing := by
    decide +kernel
  rw [hmissing] at hresolve
  cases hresolve

section
variable [UnicodeCase]
open UnicodeCase (toLowercase)

/-! ## Independence

Sorting is by an order that is total on nodes of different names, so a permutation sorts to the
same list.
-/

/-- What candidates are ordered by. -/
def labelKey (node : NodeDescriptor) : String ×ₗ String :=
  toLex (toLowercase node.label, node.nodeName)

theorem labelOrder_iff (left right : NodeDescriptor) :
    labelOrder left right ↔ labelKey left ≤ labelKey right := by
  unfold labelKey labelOrder
  rw [Prod.Lex.toLex_le_toLex]

instance : Std.Total (labelOrder : NodeDescriptor → NodeDescriptor → Prop) where
  total left right := by
    rw [labelOrder_iff, labelOrder_iff]
    exact le_total _ _

instance : IsTrans NodeDescriptor labelOrder where
  trans left middle right h h' := by
    rw [labelOrder_iff] at h h' ⊢
    exact h.trans h'

/-- Nodes of different names have a definite order. -/
theorem labelOrder_antisymm {left right : NodeDescriptor} (h : labelOrder left right)
    (h' : labelOrder right left) : left.nodeName = right.nodeName := by
  rw [labelOrder_iff] at h h'
  exact congrArg (fun key => (ofLex key).2) (le_antisymm h h')

/-- The order of the kept nodes does not depend on the order they came in, or on their IDs. -/
theorem sortedKept_lasting {nodes nodes' : List NodeDescriptor}
    (h : (nodes.map NodeDescriptor.nodeName).Nodup)
    (hperm : (nodes.map NodeDescriptor.lasting).Perm (nodes'.map NodeDescriptor.lasting)) :
    (sortedKept nodes).map NodeDescriptor.lasting =
      (sortedKept nodes').map NodeDescriptor.lasting := by
  have hnames : ∀ nodes : List NodeDescriptor, (nodes.map NodeDescriptor.lasting).map
      NodeDescriptor.nodeName = nodes.map NodeDescriptor.nodeName := fun nodes => by
    rw [List.map_map]
    rfl
  have h' : (nodes'.map NodeDescriptor.nodeName).Nodup := by
    rw [← hnames nodes', ← (hperm.map _).nodup_iff, hnames]
    exact h
  -- With distinct names the map keeps exactly the candidates.
  have hvalues : ∀ {nodes : List NodeDescriptor}, (nodes.map NodeDescriptor.nodeName).Nodup →
      ((candidatesByName nodes).values.map NodeDescriptor.lasting).Perm
        ((nodes.map NodeDescriptor.lasting).filter NodeDescriptor.isCandidate) := by
    intro nodes hnodup
    rw [List.filter_map]
    exact (values_perm_of_nodup hnodup).map _
  have hsame := (hvalues h).trans ((hperm.filter _).trans (hvalues h').symm)
  have hsort : ∀ nodes : List NodeDescriptor, (sortedKept nodes).map NodeDescriptor.lasting =
      ((candidatesByName nodes).values.map NodeDescriptor.lasting).insertionSort labelOrder :=
    fun nodes => List.map_insertionSort _ _ _ _ fun _ _ _ _ => Iff.rfl
  have hdistinct : (((candidatesByName nodes).values.map NodeDescriptor.lasting).map
      NodeDescriptor.nodeName).Nodup := by
    rw [hnames]
    exact nodup_values_names nodes
  rw [hsort, hsort]
  -- Two sorted lists of the same elements are equal: names break the ties of labels.
  refine List.Perm.eq_of_pairwise (fun left right hleft hright hle hge => ?_)
    (List.pairwise_insertionSort _ _) (List.pairwise_insertionSort _ _)
    ((List.perm_insertionSort _ _).trans (hsame.trans (List.perm_insertionSort _ _).symm))
  exact List.inj_on_of_nodup_map hdistinct ((List.mem_insertionSort _).mp hleft)
    (hsame.mem_iff.mpr ((List.mem_insertionSort _).mp hright)) (labelOrder_antisymm hle hge)

/-- A label does not depend on global IDs. -/
theorem relabelled_lasting (candidates : List NodeDescriptor) (candidate : NodeDescriptor) :
    (relabelled candidates candidate).lasting =
      relabelled (candidates.map NodeDescriptor.lasting) candidate.lasting := by
  have hlabels : ∀ key, labelCount (candidates.map NodeDescriptor.lasting) key =
      labelCount candidates key := fun key => List.countP_map ..
  have hqualifiers : ∀ key qualifier,
      qualifierCount (candidates.map NodeDescriptor.lasting) key qualifier =
        qualifierCount candidates key qualifier := fun key qualifier => by
    unfold qualifierCount
    rw [List.countP_map, funext hlabels]
    rfl
  have hlabel : qualifiedLabel (candidates.map NodeDescriptor.lasting) candidate.lasting =
      qualifiedLabel candidates candidate := by
    unfold qualifiedLabel
    simp only [hlabels, hqualifiers]
    rfl
  unfold relabelled
  rw [hlabel]
  rfl

/-- The candidates of two views that differ in order and global IDs only. -/
theorem candidates_lasting (revision revision' : ℕ) {nodes nodes' : List NodeDescriptor}
    (h : (nodes.map NodeDescriptor.nodeName).Nodup)
    (hperm : (nodes.map NodeDescriptor.lasting).Perm (nodes'.map NodeDescriptor.lasting)) :
    (RegistrySnapshot.new revision nodes).candidates.map NodeDescriptor.lasting =
      (RegistrySnapshot.new revision' nodes').candidates.map NodeDescriptor.lasting := by
  have hlasting : ∀ (revision : ℕ) (nodes : List NodeDescriptor),
      (RegistrySnapshot.new revision nodes).candidates.map NodeDescriptor.lasting =
        ((sortedKept nodes).map NodeDescriptor.lasting).map
          (relabelled ((sortedKept nodes).map NodeDescriptor.lasting)) := by
    intro revision nodes
    rw [candidates_eq, List.map_map, List.map_map]
    exact List.map_congr_left fun candidate _ => relabelled_lasting _ candidate
  rw [hlasting, hlasting, sortedKept_lasting h hperm]

/-- **Snapshots.** Of two lists of nodes whose names are distinct, one of which is the other in some
    order and with other global IDs, the candidates are the same but for these, and so is what a
    policy selects; and of any list, the candidates have names of their own, are eligible, and
    have the name of each eligible node once. -/
theorem snapshot_stable :
    (∀ (revision revision' : ℕ) (nodes nodes' : List NodeDescriptor),
      (nodes.map NodeDescriptor.nodeName).Nodup →
      (nodes.map NodeDescriptor.lasting).Perm (nodes'.map NodeDescriptor.lasting) →
      (RegistrySnapshot.new revision nodes).candidates.map NodeDescriptor.lasting =
        (RegistrySnapshot.new revision' nodes').candidates.map NodeDescriptor.lasting ∧
      ∀ policy : SelectionPolicy,
        ((RegistrySnapshot.new revision nodes).resolve policy).map NodeDescriptor.lasting =
          ((RegistrySnapshot.new revision' nodes').resolve policy).map NodeDescriptor.lasting) ∧
    ∀ (revision : ℕ) (nodes : List NodeDescriptor),
      ((RegistrySnapshot.new revision nodes).candidates.map NodeDescriptor.nodeName).Nodup ∧
      (∀ candidate ∈ (RegistrySnapshot.new revision nodes).candidates,
        candidate.isCandidate = true) ∧
      ∀ node ∈ nodes, node.isCandidate = true →
        ((RegistrySnapshot.new revision nodes).candidates.map NodeDescriptor.nodeName).count
          node.nodeName = 1 := by
  refine ⟨fun revision revision' nodes nodes' hnodup hperm => ?_, fun revision nodes => ?_⟩
  · have hcandidates := candidates_lasting revision revision' hnodup hperm
    exact ⟨hcandidates, resolve_lasting hcandidates⟩
  · -- one candidate a name, the one that the map keeps
    have hnames := nodup_sortedKept_names nodes
    rw [names_candidates]
    refine ⟨hnames, fun candidate hcandidate => ?_, fun node hnode hcandidate => ?_⟩
    · rw [candidates_eq] at hcandidate
      obtain ⟨kept, hkept, rfl⟩ := List.mem_map.mp hcandidate
      exact (keptOf_mem (mem_sortedKept.mp hkept)).2.1
    · obtain ⟨kept, hkept⟩ := keptOf_isSome hnode hcandidate
      have hname : kept.nodeName = node.nodeName := (keptOf_mem hkept).2.2
      refine List.count_eq_one_of_mem hnames (List.mem_map.mpr ⟨kept, ?_, hname⟩)
      rw [mem_sortedKept, hname]
      exact hkept

end

/-- A microphone in a jack. -/
def jack (globalId : ℕ) (nodeName : String) : NodeDescriptor where
  globalId
  nodeName
  mediaClass := some mediaClassSource
  label := "Microphone"

/-- Two microphones that come back in the other order, under other IDs. -/
theorem snapshot_stable_replugged :
    (@RegistrySnapshot.new asciiCase 1 [jack 1 "a", jack 2 "b"]).candidates.map
        NodeDescriptor.lasting =
      (@RegistrySnapshot.new asciiCase 2 [jack 3 "b", jack 4 "a"]).candidates.map
        NodeDescriptor.lasting :=
  ((@snapshot_stable asciiCase).1 1 2 [jack 1 "a", jack 2 "b"] [jack 3 "b", jack 4 "a"]
    (by decide) (.swap (jack 4 "b").lasting (jack 3 "a").lasting [])).1

end Noire
