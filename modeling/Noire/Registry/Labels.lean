import Noire.Registry.Selection

namespace Noire

/-!
# The labels of the candidates

How the candidates of a snapshot are told apart by their labels.  A label that several share is
qualified, with counts taken before any label is changed, so that a qualified label can meet
another one.

* `NodeDescriptor.preferred` — the label a node was parsed with;
* `Distinguishable` — the three patterns of nodes whose labels meet, excluded;
* `qualifiedLabel_inj` — then no two labels are the same;
* `Identified` — labels that are distinct, and keep what was preferred;
* `labels_identify_iff` — the labels of a snapshot do, exactly if its nodes are distinguishable;
* `labels_collide` — three microphones, of which two are shown under one label.

Labels are compared up to case when they are counted and exactly when they are shown, and a
qualified label is longer than the one it comes from.  So two labels can only be the same in three
ways: both are qualified and their qualifiers agree, one is qualified and the other is a label as
it was, or both are qualified and one label goes on from the other.  Within one shared label the
qualifiers are distinct by construction; the rest is what `Distinguishable` excludes, and the
converse shows that nothing else is.
-/

/-- The preferred label of a node. -/
def NodeDescriptor.preferred (node : NodeDescriptor) : String :=
  preferredLabel node.description node.nick node.nodeName

/-- A node as its properties give it, the default or not. -/
def NodeDescriptor.Parsed (node : NodeDescriptor) : Prop :=
  ∃ properties parsed, NodeDescriptor.fromProperties node.globalId properties = some parsed ∧
    node = { parsed with isDefault := node.isDefault }

/-- A node is parsed with its preferred label. -/
theorem NodeDescriptor.Parsed.label {node : NodeDescriptor} (h : node.Parsed) :
    node.label = node.preferred := by
  obtain ⟨properties, parsed, hparsed, hnode⟩ := h
  obtain ⟨name, -, rfl⟩ := Option.map_eq_some_iff.mp hparsed
  rw [hnode]
  rfl

/-- Only one candidate meets a condition that at most one does. -/
theorem eq_of_countP_le_one {candidates : List NodeDescriptor} {p : NodeDescriptor → Bool}
    (h : candidates.countP p ≤ 1) {c d : NodeDescriptor} (hc : c ∈ candidates)
    (hd : d ∈ candidates) (hpc : p c = true) (hpd : p d = true) : c = d := by
  have hmem : ∀ e ∈ candidates, p e = true → e ∈ candidates.filter p := fun e he hp =>
    List.mem_filter.mpr ⟨he, hp⟩
  rw [List.countP_eq_length_filter] at h
  match hfilter : candidates.filter p with
  | [] =>
    have hnone := hmem c hc hpc
    rw [hfilter] at hnone
    cases hnone
  | [only] =>
    have honly := hmem c hc hpc
    have honly' := hmem d hd hpd
    rw [hfilter] at honly honly'
    rw [List.mem_singleton.mp honly, List.mem_singleton.mp honly']
  | first :: second :: rest =>
    rw [hfilter] at h
    simp at h

/-- Of two strings that begin one string, one begins the other. -/
theorem append_eq_append_cases {a b s t : String} (h : a ++ s = b ++ t) :
    (∃ rest, b = a ++ rest ∧ s = rest ++ t) ∨ ∃ rest, a = b ++ rest ∧ t = rest ++ s := by
  have hlists : a.toList ++ s.toList = b.toList ++ t.toList := by
    rw [← String.toList_append, ← String.toList_append, h]
  rcases List.append_eq_append_iff.mp hlists with ⟨rest, hb, hs⟩ | ⟨rest, ha, ht⟩
  · exact .inl ⟨String.ofList rest, String.toList_injective (by simp [hb]),
      String.toList_injective (by simp [hs])⟩
  · exact .inr ⟨String.ofList rest, String.toList_injective (by simp [ha]),
      String.toList_injective (by simp [ht])⟩

section
variable [UnicodeCase]
open UnicodeCase (toLowercase)

/-! ## How labels meet

The counts are taken of the candidates before any label is changed, and so is the condition.
-/

/-- Several candidates have the label, up to case. -/
def Shared (candidates : List NodeDescriptor) (candidate : NodeDescriptor) : Prop :=
  labelCount candidates (toLowercase candidate.label) > 1

/-- Among those of its label, the description tells a candidate apart, up to case. -/
def Described (candidates : List NodeDescriptor) (candidate : NodeDescriptor) : Prop :=
  qualifierCount candidates (toLowercase candidate.label)
    (toLowercase (descriptiveQualifier candidate)) = 1

instance (candidates : List NodeDescriptor) : DecidablePred (Shared candidates) := fun _ =>
  inferInstanceAs (Decidable (_ > 1))

instance (candidates : List NodeDescriptor) : DecidablePred (Described candidates) := fun _ =>
  inferInstanceAs (Decidable (_ = 1))

/-- What qualifies the label of a candidate: its description, or else its name. -/
def qualifierOf (candidates : List NodeDescriptor) (candidate : NodeDescriptor) : String :=
  if Described candidates candidate then descriptiveQualifier candidate else candidate.nodeName

/-- The nodes are in none of the three patterns in which two qualified labels are the same.  A label
    that several nodes share, up to case, is followed by the suffix of the node's description, where
    nobody else of that label has it, and by the node's name otherwise.
    * `plain`: the label of a node that shares it with nobody reads like a shared label followed by
      the suffix, or the name, of one of its nodes: a third microphone called
      `USB Microphone — Analog Stereo` beside two called `USB Microphone`;
    * `named`: of two nodes of one label, the description suffix that only the one has is the name
      of the other, whose own suffix is not its alone;
    * `nested`: one shared label goes on where another ends, and what it goes on with, followed by
      its node's suffix or name, is the suffix or name of the other's node. -/
structure Distinguishable (candidates : List NodeDescriptor) : Prop where
  plain : ∀ c ∈ candidates, ∀ d ∈ candidates, Shared candidates c → ¬Shared candidates d →
    d.label ≠ c.label ++ " — " ++
      (if Described candidates c then descriptiveQualifier c else c.nodeName)
  named : ∀ c ∈ candidates, ∀ d ∈ candidates, Shared candidates c → d.label = c.label →
    Described candidates c → ¬Described candidates d → descriptiveQualifier c ≠ d.nodeName
  nested : ∀ c ∈ candidates, ∀ d ∈ candidates, Shared candidates c → Shared candidates d →
    ∀ rest, rest ≠ "" → d.label = c.label ++ rest →
      rest ++ " — " ++ (if Described candidates d then descriptiveQualifier d else d.nodeName) ≠
        " — " ++ (if Described candidates c then descriptiveQualifier c else c.nodeName)

/-- A shared label is qualified. -/
theorem qualifiedLabel_shared {candidates : List NodeDescriptor} {c : NodeDescriptor}
    (h : Shared candidates c) :
    qualifiedLabel candidates c = c.label ++ " — " ++ qualifierOf candidates c := if_pos h

/-- Another one is kept. -/
theorem qualifiedLabel_unshared {candidates : List NodeDescriptor} {c : NodeDescriptor}
    (h : ¬Shared candidates c) : qualifiedLabel candidates c = c.label := if_neg h

/-- A label that is not shared is one candidate's. -/
theorem eq_of_not_shared {candidates : List NodeDescriptor} {c d : NodeDescriptor}
    (hc : c ∈ candidates) (hd : d ∈ candidates) (h : ¬Shared candidates c)
    (hlabel : d.label = c.label) : d = c := by
  refine eq_of_countP_le_one (Nat.not_lt.mp h) hd hc ?_ (decide_eq_true rfl)
  exact decide_eq_true (congrArg toLowercase hlabel)

/-- A description that tells apart is one candidate's. -/
theorem eq_of_described {candidates : List NodeDescriptor} {c d : NodeDescriptor}
    (hc : c ∈ candidates) (hd : d ∈ candidates) (hshared : Shared candidates c)
    (hdescribed : Described candidates c) (hlabel : d.label = c.label)
    (hqualifier : descriptiveQualifier d = descriptiveQualifier c) : d = c := by
  have hmeets : ∀ e : NodeDescriptor, e.label = c.label →
      descriptiveQualifier e = descriptiveQualifier c →
      decide (labelCount candidates (toLowercase e.label) > 1 ∧
        toLowercase e.label = toLowercase c.label ∧
          toLowercase (descriptiveQualifier e) = toLowercase (descriptiveQualifier c)) = true :=
    fun e hlabel hqualifier => by
      rw [hlabel, hqualifier]
      exact decide_eq_true ⟨hshared, rfl, rfl⟩
  have hone : qualifierCount candidates (toLowercase c.label)
    (toLowercase (descriptiveQualifier c)) ≤ 1 := Nat.le_of_eq hdescribed
  exact eq_of_countP_le_one hone hd hc (hmeets d hlabel hqualifier) (hmeets c rfl rfl)

/-- Two candidates of one shared label and one qualifier are the same. -/
theorem eq_of_qualifier_eq {candidates : List NodeDescriptor}
    (hnames : (candidates.map NodeDescriptor.nodeName).Nodup) (h : Distinguishable candidates)
    {c d : NodeDescriptor} (hc : c ∈ candidates) (hd : d ∈ candidates)
    (hshared : Shared candidates c) (hshared' : Shared candidates d) (hlabel : d.label = c.label)
    (hqualifier : qualifierOf candidates c = qualifierOf candidates d) : c = d := by
  unfold qualifierOf at hqualifier
  by_cases hdescribed : Described candidates c
  · by_cases hdescribed' : Described candidates d
    · rw [if_pos hdescribed, if_pos hdescribed'] at hqualifier
      exact (eq_of_described hc hd hshared hdescribed hlabel hqualifier.symm).symm
    · rw [if_pos hdescribed, if_neg hdescribed'] at hqualifier
      exact absurd hqualifier (h.named c hc d hd hshared hlabel hdescribed hdescribed')
  · by_cases hdescribed' : Described candidates d
    · rw [if_neg hdescribed, if_pos hdescribed'] at hqualifier
      exact absurd hqualifier.symm
        (h.named d hd c hc hshared' hlabel.symm hdescribed' hdescribed)
    · rw [if_neg hdescribed, if_neg hdescribed'] at hqualifier
      exact List.inj_on_of_nodup_map hnames hc hd hqualifier

/-- Two candidates with shared labels, of which the second label goes on from the first. -/
theorem eq_of_extends {candidates : List NodeDescriptor}
    (hnames : (candidates.map NodeDescriptor.nodeName).Nodup) (h : Distinguishable candidates)
    {c d : NodeDescriptor} (hc : c ∈ candidates) (hd : d ∈ candidates)
    (hshared : Shared candidates c) (hshared' : Shared candidates d) {rest : String}
    (hlabel : d.label = c.label ++ rest)
    (hrest : " — " ++ qualifierOf candidates c = rest ++ (" — " ++ qualifierOf candidates d)) :
    c = d := by
  by_cases hempty : rest = ""
  · rw [hempty, String.append_empty] at hlabel
    rw [hempty, String.empty_append] at hrest
    exact eq_of_qualifier_eq hnames h hc hd hshared hshared' hlabel
      ((String.append_right_inj _).mp hrest)
  · rw [← String.append_assoc] at hrest
    exact absurd hrest.symm (h.nested c hc d hd hshared hshared' rest hempty hlabel)

/-- **No two labels are the same**, if the candidates are distinguishable. -/
theorem qualifiedLabel_inj {candidates : List NodeDescriptor}
    (hnames : (candidates.map NodeDescriptor.nodeName).Nodup) (h : Distinguishable candidates)
    {c d : NodeDescriptor} (hc : c ∈ candidates) (hd : d ∈ candidates)
    (heq : qualifiedLabel candidates c = qualifiedLabel candidates d) : c = d := by
  by_cases hshared : Shared candidates c
  · by_cases hshared' : Shared candidates d
    · rw [qualifiedLabel_shared hshared, qualifiedLabel_shared hshared', String.append_assoc,
        String.append_assoc] at heq
      rcases append_eq_append_cases heq with ⟨rest, hlabel, hrest⟩ | ⟨rest, hlabel, hrest⟩
      · exact eq_of_extends hnames h hc hd hshared hshared' hlabel hrest
      · exact (eq_of_extends hnames h hd hc hshared' hshared hlabel hrest).symm
    · rw [qualifiedLabel_shared hshared, qualifiedLabel_unshared hshared'] at heq
      exact absurd heq.symm (h.plain c hc d hd hshared hshared')
  · by_cases hshared' : Shared candidates d
    · rw [qualifiedLabel_unshared hshared, qualifiedLabel_shared hshared'] at heq
      exact absurd heq (h.plain d hd c hc hshared' hshared)
    · rw [qualifiedLabel_unshared hshared, qualifiedLabel_unshared hshared'] at heq
      exact (eq_of_not_shared hc hd hshared heq.symm).symm

/-- And they are distinguishable, if no two labels are the same. -/
theorem distinguishable_of_inj {candidates : List NodeDescriptor}
    (h : ∀ c ∈ candidates, ∀ d ∈ candidates,
      qualifiedLabel candidates c = qualifiedLabel candidates d → c = d) :
    Distinguishable candidates where
  -- In each of the patterns the two labels would agree, and so be of one candidate.
  plain c hc d hd hshared hshared' hlabel := by
    have heq : c = d := h c hc d hd (by
      rw [qualifiedLabel_shared hshared, qualifiedLabel_unshared hshared', hlabel]
      rfl)
    exact hshared' (heq ▸ hshared)
  named c hc d hd hshared hlabel hdescribed hdescribed' hname := by
    have hshared' : Shared candidates d := by
      unfold Shared
      rw [hlabel]
      exact hshared
    have heq : c = d := h c hc d hd (by
      rw [qualifiedLabel_shared hshared, qualifiedLabel_shared hshared', hlabel]
      unfold qualifierOf
      rw [if_pos hdescribed, if_neg hdescribed', hname])
    exact hdescribed' (heq ▸ hdescribed)
  nested c hc d hd hshared hshared' rest hrest hlabel hmeets := by
    have hmeets : rest ++ " — " ++ qualifierOf candidates d = " — " ++ qualifierOf candidates c :=
      hmeets
    have heq : c = d := h c hc d hd (by
      rw [qualifiedLabel_shared hshared, qualifiedLabel_shared hshared', hlabel,
        String.append_assoc, String.append_assoc, String.append_assoc, ← hmeets,
        String.append_assoc])
    have hself : c.label ++ rest = c.label := by
      rw [← hlabel, heq]
    exact hrest ((String.append_right_inj _).mp (hself.trans String.append_empty.symm))

/-! ## The labels of a snapshot -/

/-- The labels of candidates identify them.
    * `distinct`: no two are the same;
    * `started`: each starts with the preferred label of its candidate;
    * `unique`: and is that, if it is nobody else's up to case. -/
structure Identified (candidates : List NodeDescriptor) : Prop where
  distinct : (candidates.map NodeDescriptor.label).Nodup
  started : ∀ c ∈ candidates, ∃ rest, c.label = c.preferred ++ rest
  unique : ∀ c ∈ candidates,
    candidates.countP (fun other => toLowercase other.preferred = toLowercase c.preferred) = 1 →
      c.label = c.preferred

/-- **Labels.** Of every list of parsed nodes, the labels of the candidates are distinct, each
    starts with the preferred label, and is that if it is unique, exactly if no two candidates meet
    once the shared labels are qualified. -/
theorem labels_identify_iff (revision : ℕ) {nodes : List NodeDescriptor}
    (h : ∀ node ∈ nodes, node.Parsed) :
    Identified (RegistrySnapshot.new revision nodes).candidates ↔
      Distinguishable (sortedKept nodes) := by
  have hnames := nodup_sortedKept_names nodes
  have hpreferred : ∀ c ∈ sortedKept nodes, c.label = c.preferred := fun c hc =>
    (h c (keptOf_mem (mem_sortedKept.mp hc)).1).label
  have hlabels : (RegistrySnapshot.new revision nodes).candidates.map NodeDescriptor.label =
      (sortedKept nodes).map (qualifiedLabel (sortedKept nodes)) := by
    rw [candidates_eq, List.map_map]
    rfl
  constructor
  · -- distinct labels tell the sources apart
    intro hidentified
    have hdistinct := hidentified.distinct
    rw [hlabels] at hdistinct
    exact distinguishable_of_inj fun c hc d hd heq =>
      List.inj_on_of_nodup_map hdistinct hc hd heq
  · intro hdistinguishable
    refine ⟨?_, fun candidate hcandidate => ?_, fun candidate hcandidate hone => ?_⟩
    · -- the labels differ, since two that agree come from one source
      rw [hlabels]
      exact (List.Nodup.of_map _ hnames).map_on fun c hc d hd heq =>
        qualifiedLabel_inj hnames hdistinguishable hc hd heq
    · rw [candidates_eq] at hcandidate
      obtain ⟨c, hc, rfl⟩ := List.mem_map.mp hcandidate
      show ∃ rest, qualifiedLabel _ c = c.preferred ++ rest
      rw [← hpreferred c hc]
      -- A label is the preferred one, or that one with a qualifier after it.
      by_cases hshared : Shared (sortedKept nodes) c
      · exact ⟨_, (qualifiedLabel_shared hshared).trans String.append_assoc⟩
      · exact ⟨"", (qualifiedLabel_unshared hshared).trans String.append_empty.symm⟩
    · rw [candidates_eq] at hcandidate hone
      obtain ⟨c, hc, rfl⟩ := List.mem_map.mp hcandidate
      -- A preferred label that stands alone is not shared, and so not qualified.
      have hcount : labelCount (sortedKept nodes) (toLowercase c.label) = 1 := by
        rw [List.countP_map] at hone
        rw [← hone, hpreferred c hc]
        refine List.countP_congr fun other hother => ?_
        rw [hpreferred other hother]
        rfl
      have hunshared : ¬Shared (sortedKept nodes) c := fun hshared =>
        Nat.ne_of_gt hshared hcount
      show qualifiedLabel _ c = c.preferred
      rw [qualifiedLabel_unshared hunshared, hpreferred c hc]

end

/-- The properties of a USB microphone. -/
def usbProperties (nodeName description : String) (nick : Option String) : NodeProperties :=
  .ofList ([("node.name", nodeName), ("node.description", description),
    ("media.class", mediaClassSource)] ++ (nick.map ("node.nick", ·)).toList)

/-- The microphone. -/
def usb (nodeName description : String) (nick : Option String) : NodeDescriptor where
  globalId := 1
  nodeName
  description := some description
  nick
  mediaClass := some mediaClassSource
  label := preferredLabel (some description) nick nodeName

/-- Two profiles of a microphone that is shown by its nickname. -/
def profiles : List NodeDescriptor :=
  [usb "a" "USB Microphone Analog Stereo" (some "USB Microphone"),
    usb "b" "USB Microphone Pro Audio" (some "USB Microphone")]

/-- They are parsed, and so is one whose description is how the first is told apart. -/
theorem parsed_profiles :
    ∀ node ∈ profiles ++ [usb "c" "USB Microphone — Analog Stereo" none], node.Parsed := by
  have hparsed : ∀ nodeName description nick,
      NodeDescriptor.fromProperties 1 (usbProperties nodeName description nick) =
        some (usb nodeName description nick) → (usb nodeName description nick).Parsed :=
    fun nodeName description nick h => ⟨_, _, h, rfl⟩
  intro node hnode
  simp only [profiles, List.cons_append, List.nil_append, List.mem_cons, List.not_mem_nil,
    or_false] at hnode
  rcases hnode with rfl | rfl | rfl
  · exact hparsed _ _ _ (by decide +kernel)
  · exact hparsed _ _ _ (by decide +kernel)
  · exact hparsed _ _ _ (by decide +kernel)

/-- The two profiles alone are told apart by their descriptions. -/
theorem labels_identify_iff_profiles :
    @Identified asciiCase (@RegistrySnapshot.new asciiCase 1 profiles).candidates := by
  have hkept : @sortedKept asciiCase profiles = profiles := by decide +kernel
  have hall : ∀ c ∈ profiles, c.label = "USB Microphone" ∧ @Shared asciiCase profiles c ∧
      @Described asciiCase profiles c := by decide +kernel
  refine (@labels_identify_iff asciiCase 1 profiles fun node hnode =>
    parsed_profiles node (List.mem_append_left _ hnode)).mpr ?_
  rw [hkept]
  refine @Distinguishable.mk asciiCase profiles (fun c _ d hd _ hshared => ?_)
    (fun c _ d hd _ _ _ hdescribed => ?_) (fun c hc d hd _ _ rest hrest hlabel => ?_)
  · exact absurd (hall d hd).2.1 hshared
  · exact absurd (hall d hd).2.2 hdescribed
  · rw [(hall c hc).1, (hall d hd).1] at hlabel
    exact absurd ((String.append_right_inj _).mp (String.append_empty.trans hlabel)).symm hrest

/-- **Two microphones, one label.** With the third, the label that tells the first profile apart is
    the third's own. -/
theorem labels_collide : ¬ ∀ [UnicodeCase] (revision : ℕ) (nodes : List NodeDescriptor),
    (∀ node ∈ nodes, node.Parsed) →
      Identified (RegistrySnapshot.new revision nodes).candidates := by
  intro hall
  obtain ⟨hdistinct, -, -⟩ := @hall asciiCase 1 _ parsed_profiles
  exact absurd hdistinct (by decide +kernel)

end Noire
