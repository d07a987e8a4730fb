import Noire.Transport.Discipline

namespace Noire

open Lib (Prog)

/-!
# The source side's discipline

A fill pops its block one sample at a time while the capture side pushes and anyone may
move the generation.  What keeps the published history contiguous is what the source side
knows of the samples it has popped:

* `Abuts` — the newest run is empty, or ends with the last sample popped, or that sample
  is already of a later generation, so that no block of the current one can follow;
* `Collecting` — a block in progress: the samples popped since, all of its generation;
* `SourceIdle` — between calls: once past startup, a block with no samples yet;
* `fill_safe`, `clearSensitive_safe`, `discardPendingSensitive_safe` — every call keeps to
  `CaptureStep` and ends `SourceIdle`.

The claim is about interleavings, so each program is proved safe under interference, by the rules
of `Lib/Discipline.lean`: an assertion must be stable under the steps of the other side, and each
of the own steps must keep the invariant.  The other side pushes at the end of the ring and moves
the generation; it never pops.  So what is known of popped samples stays true, and what is known
of the front of the ring does not.  `Collecting` speaks of popped samples only.
-/

/-- How the newest run stands to the samples consumed `before` a block of `generation`. -/
def Abuts (generation : ℕ) (run : List PublishedBlock) (before : List TaggedSample) : Prop :=
  positions run = [] ∨ ∃ start count last, before.getLast? = some last ∧
    positions run = List.range' start count ∧
    (start + count = before.length ∧ last.generation = generation ∨
      generation < last.generation)

/-- A block in progress: `samples` were popped for it, after the samples `before`. -/
structure Collecting (generation : ℕ) (samples before : List TaggedSample)
    (run : List PublishedBlock) (older : List (List PublishedBlock)) (s : SharedState) :
    Prop where
  ok : TransportOk s
  consumed : s.consumed = before ++ samples
  runs : s.runs = run :: older
  uniform : ∀ x ∈ samples, x.generation = generation
  behind : ∀ r ∈ s.runs, ∀ p ∈ positions r, p < before.length
  abuts : Abuts generation run before

/-- A block of `generation` is in progress, with `samples` popped so far. -/
def InBlock (generation : ℕ) (samples : List TaggedSample) (s : SharedState) : Prop :=
  ∃ before run older, Collecting generation samples before run older s

/-- Between the source side's calls. -/
structure SourceIdle (out : BypassOutput) (s : SharedState) : Prop where
  ok : TransportOk s
  ready : out.startupReady = true → InBlock out.generation [] s

theorem InBlock.ok {generation : ℕ} {samples : List TaggedSample} {s : SharedState}
    (h : InBlock generation samples s) : TransportOk s := by
  obtain ⟨_, _, _, h⟩ := h
  exact h.ok

theorem transportOk_stable (s t : SharedState) (h : TransportOk s) (hstep : SourceStep s t) :
    TransportOk t := hstep.ok h

theorem InBlock.stable {generation : ℕ} {samples : List TaggedSample} (s t : SharedState)
    (h : InBlock generation samples s) (hstep : SourceStep s t) :
    InBlock generation samples t := by
  obtain ⟨before, run, older, h⟩ := h
  exact ⟨before, run, older, {
    h with
    ok := hstep.ok h.ok
    consumed := hstep.consumed.trans h.consumed
    runs := hstep.runs.trans h.runs
    behind := hstep.runs ▸ h.behind }⟩

theorem SourceIdle.stable {out : BypassOutput} (s t : SharedState) (h : SourceIdle out s)
    (hstep : SourceStep s t) : SourceIdle out t :=
  ⟨hstep.ok h.ok, fun hready => (h.ready hready).stable s t hstep⟩

/-- In the startup region only the invariant is known. -/
theorem SourceIdle.of_startup {out : BypassOutput} {s : SharedState}
    (h : out.startupReady = false) (ok : TransportOk s) : SourceIdle out s :=
  ⟨ok, fun hready => absurd (h ▸ hready) Bool.false_ne_true⟩

/-! ## The ring and the history, from the source side

The history of the published blocks is extended when a whole block has been popped, and by its
places, which are consecutive because every pop in between added to the block.
-/

/-- The state after the oldest sample was popped. -/
def SharedState.popped (s : SharedState) (sample : TaggedSample) (rest : List TaggedSample) :
    SharedState :=
  { s with queue := rest, consumed := s.consumed ++ [sample] }

/-- A pop keeps the invariant: it moves a sample from the ring to the samples consumed. -/
theorem TransportOk.pop {s : SharedState} {sample : TaggedSample} {rest : List TaggedSample}
    (ok : TransportOk s) (hqueue : s.queue = sample :: rest) :
    TransportOk (s.popped sample rest) ∧ CaptureStep s (s.popped sample rest) := by
  have hpushed : (s.popped sample rest).pushed = s.pushed := by
    simp [SharedState.popped, SharedState.pushed, hqueue]
  have hlen : (s.popped sample rest).queue.length ≤ s.queue.length := by
    rw [hqueue]
    exact Nat.le_succ _
  have ok' : TransportOk (s.popped sample rest) := {
    bounded := hlen.trans ok.bounded
    sorted := hpushed ▸ ok.sorted
    tagged := fun x hx => ok.tagged x (hpushed ▸ hx)
    fresh := ok.fresh
    -- A block that was cut from what is consumed is still there, as more comes behind it.
    slices := fun run hrun block hblock => by
      refine (ok.slices run hrun block hblock).trans ?_
      show s.consumed.drop _ <+: (s.consumed ++ [sample]).drop _
      rw [List.drop_append]
      exact List.prefix_append _ _
    contiguous := ok.contiguous
    once := ok.once }
  exact ⟨ok', hpushed, hlen, Nat.le_refl _, fun _ => ok'⟩

/-- A sample still queued is not of an earlier generation than one consumed. -/
theorem TransportOk.le_of_queue {s : SharedState} (ok : TransportOk s) {x y : TaggedSample}
    (hx : x ∈ s.consumed) (hy : y ∈ s.queue) : x.generation ≤ y.generation :=
  (List.pairwise_append.mp ok.sorted).2.2 x hx y hy

/-- Popping a sample of the block's generation adds it to the block. -/
theorem InBlock.pop {generation : ℕ} {samples rest : List TaggedSample} {s : SharedState}
    {sample : TaggedSample} (h : InBlock generation samples s)
    (hqueue : s.queue = sample :: rest) (hsample : sample.generation = generation) :
    InBlock generation (samples ++ [sample]) (s.popped sample rest) := by
  obtain ⟨before, run, older, h⟩ := h
  refine ⟨before, run, older, {
    h with
    ok := (h.ok.pop hqueue).1
    consumed := ?_
    uniform := ?_ }⟩
  · show s.consumed ++ [sample] = _
    rw [h.consumed, List.append_assoc]
  · rw [List.forall_mem_append]
    exact ⟨h.uniform, List.forall_mem_singleton.mpr hsample⟩

/-- Popping a sample of another generation before a block starts: it is of a later one,
    unless nothing was published since the startup. -/
theorem InBlock.discard {generation : ℕ} {rest : List TaggedSample} {s : SharedState}
    {sample : TaggedSample} (h : InBlock generation [] s) (hqueue : s.queue = sample :: rest)
    (hsample : sample.generation ≠ generation) :
    InBlock generation [] (s.popped sample rest) := by
  obtain ⟨before, run, older, h⟩ := h
  have hbefore : s.consumed = before := h.consumed.trans (List.append_nil _)
  refine ⟨before ++ [sample], run, older, {
    h with
    ok := (h.ok.pop hqueue).1
    consumed := ?_
    behind := fun r hr p hp => ?_
    abuts := ?_ }⟩
  · show s.consumed ++ [sample] = _
    rw [hbefore, List.append_nil]
  · rw [List.length_append]
    exact Nat.lt_add_right _ (h.behind r hr p hp)
  · -- Tags never decrease, so after this pop the newest run can only be followed by a block
    -- of a later generation than the one being collected.
    rcases h.abuts with hempty | ⟨start, count, last, hlast, hpositions, hend⟩
    · exact .inl hempty
    · have hle : last.generation ≤ sample.generation :=
        h.ok.le_of_queue (hbefore ▸ List.mem_of_getLast? hlast) (hqueue ▸ List.mem_cons_self)
      refine .inr ⟨start, count, sample, List.getLast?_concat, hpositions, .inr ?_⟩
      rcases hend with ⟨-, hgeneration⟩ | hlater <;> omega

/-- A startup opens a run of no blocks. -/
theorem SourceIdle.startup {s : SharedState} (ok : TransportOk s) (generation : ℕ) :
    InBlock generation [] { s with runs := [] :: s.runs } ∧
      CaptureStep s { s with runs := [] :: s.runs } := by
  have ok' : TransportOk { s with runs := [] :: s.runs } := {
    ok with
    fresh := List.forall_mem_cons.mpr ⟨nofun, ok.fresh⟩
    slices := List.forall_mem_cons.mpr ⟨nofun, ok.slices⟩
    contiguous := List.forall_mem_cons.mpr ⟨⟨0, 0, rfl⟩, ok.contiguous⟩
    once := by simpa [positions] using ok.once }
  refine ⟨⟨s.consumed, [], s.runs, ok', (List.append_nil _).symm, rfl, nofun, ?_, .inl rfl⟩,
    rfl, Nat.le_refl _, Nat.le_refl _, fun _ => ok'⟩
  exact fun r hr p hp => ok'.lt_consumed hr hp

/-- The places of a run and one more block. -/
theorem positions_concat (run : List PublishedBlock) (block : PublishedBlock) :
    positions (run ++ [block]) =
      positions run ++ List.range' block.first block.samples.length := by
  simp [positions]

/-- The samples of a block extend the places of the run before it: none was popped in
    between, since a sample of a later generation would precede one of the block. -/
theorem Collecting.extend {generation : ℕ} {samples before : List TaggedSample}
    {run : List PublishedBlock} {older : List (List PublishedBlock)} {s : SharedState}
    (h : Collecting generation samples before run older s) (hne : samples ≠ []) :
    ∃ start count, positions run ++ List.range' before.length samples.length =
      List.range' start count ∧ start + count = (before ++ samples).length := by
  rw [List.length_append]
  rcases h.abuts with hempty | ⟨start, count, last, hlast, hpositions, ⟨hend, -⟩ | hlater⟩
  · exact ⟨before.length, samples.length, by rw [hempty, List.nil_append], rfl⟩
  · refine ⟨start, count + samples.length, ?_, by omega⟩
    rw [hpositions, ← hend, List.range'_append_1]
  · -- The last sample before the block would be of a later generation than the block.
    obtain ⟨x, hx⟩ := List.exists_mem_of_ne_nil samples hne
    have hsorted := h.ok.sorted
    rw [SharedState.pushed, h.consumed, List.append_assoc] at hsorted
    have hle : last.generation ≤ x.generation := (List.pairwise_append.mp hsorted).2.2 last
      (List.mem_of_getLast? hlast) x (List.mem_append_left _ hx)
    rw [h.uniform x hx] at hle
    omega

/-- **One more block.** Publishing the samples of a block in progress extends the newest
    run by the places they were popped from. -/
theorem InBlock.publish {generation : ℕ} {samples : List TaggedSample} {s : SharedState}
    (h : InBlock generation samples s) :
    InBlock generation [] (BypassOp.exec (.publish generation samples) s).2 ∧
      CaptureStep s (BypassOp.exec (.publish generation samples) s).2 := by
  obtain ⟨before, run, older, h⟩ := h
  have hfirst : s.consumed.length - samples.length = before.length := by
    rw [h.consumed, List.length_append, Nat.add_sub_cancel]
  obtain ⟨block, hblock⟩ : ∃ block, block =
      (⟨generation, before.length, samples⟩ : PublishedBlock) := ⟨_, rfl⟩
  have hexec : (BypassOp.exec (.publish generation samples) s).2 =
      { s with runs := (run ++ [block]) :: older } := by
    show s.recordBlock _ = _
    rw [SharedState.recordBlock, h.runs, hfirst, hblock]
  have hpositions : positions (run ++ [block]) =
      positions run ++ List.range' before.length samples.length := by
    rw [positions_concat, hblock]
  have hrun : run ∈ s.runs := h.runs ▸ List.mem_cons_self
  have hforall : ∀ {p : List PublishedBlock → Prop}, (∀ r ∈ s.runs, p r) → p (run ++ [block]) →
      ∀ r ∈ (run ++ [block]) :: older, p r := fun hall hnew =>
    List.forall_mem_cons.mpr ⟨hnew, fun r hr => hall r (h.runs ▸ List.mem_cons_of_mem _ hr)⟩
  -- An empty block adds no places; any other ends with the last sample popped.
  have habuts : Abuts generation (run ++ [block]) (before ++ samples) ∧
      ∃ start count, positions (run ++ [block]) = List.range' start count := by
    rcases List.eq_nil_or_concat samples with hnil | ⟨init, last, hlast⟩
    · rw [hpositions, hnil, List.append_nil, Abuts, hpositions, hnil]
      simpa using ⟨h.abuts, h.ok.contiguous run hrun⟩
    · obtain ⟨start, count, hrange, hend⟩ := h.extend (by simp [hlast])
      rw [Abuts, hpositions, hrange]
      refine ⟨.inr ⟨start, count, last, ?_, rfl, .inl ⟨hend, ?_⟩⟩, start, count, rfl⟩
      · simp [hlast]
      · exact h.uniform last (by simp [hlast])
  have ok' : TransportOk { s with runs := (run ++ [block]) :: older } := {
    h.ok with
    fresh := hforall h.ok.fresh <| List.forall_mem_append.mpr ⟨h.ok.fresh run hrun,
      List.forall_mem_singleton.mpr (hblock ▸ h.uniform)⟩
    slices := hforall h.ok.slices <| List.forall_mem_append.mpr ⟨h.ok.slices run hrun,
      List.forall_mem_singleton.mpr (by simp [hblock, h.consumed])⟩
    contiguous := hforall h.ok.contiguous habuts.2
    once := by
      have honce := h.ok.once
      simp only [h.runs, List.reverse_cons, List.flatMap_append, List.flatMap_cons,
        List.flatMap_nil, List.append_nil] at honce ⊢
      rw [hpositions, ← List.append_assoc, List.pairwise_append]
      refine ⟨honce, List.pairwise_lt_range', fun p hp q hq => ?_⟩
      -- Every place of a run lies before the samples popped for this block.
      have hp : p < before.length := by
        rcases List.mem_append.mp hp with hp | hp
        · obtain ⟨r, hr, hp⟩ := List.mem_flatMap.mp hp
          exact h.behind r (h.runs ▸ List.mem_cons_of_mem _ (List.mem_reverse.mp hr)) p hp
        · exact h.behind run hrun p hp
      have hq := List.mem_range'_1.mp hq
      omega }
  rw [hexec]
  refine ⟨⟨before ++ samples, run ++ [block], older, ok', ?_, rfl, nofun, ?_, habuts.1⟩,
    rfl, Nat.le_refl _, Nat.le_refl _, fun _ => ok'⟩
  · rw [List.append_nil]
    exact h.consumed
  · intro r hr p hp
    rw [← h.consumed]
    exact ok'.lt_consumed hr hp

/-! ## The source side's programs -/

section Programs

variable {s : SharedState}

/-- A pop of the source side: from an empty ring nothing changes, otherwise the oldest
    sample moves to the samples consumed. -/
theorem SourceSafe.pop {β : Type} {P : SharedState → Prop} {Q : β → SharedState → Prop}
    (hok : ∀ s, P s → TransportOk s) (hstable : ∀ s t, P s → SourceStep s t → P t)
    {f : Option TaggedSample → BypassProg β} (hP : P s)
    (hempty : ∀ t, P t → SourceSafe (f none) Q t)
    (hpop : ∀ t sample rest, P t → t.queue = sample :: rest →
      SourceSafe (f (some sample)) Q (t.popped sample rest)) :
    SourceSafe (perform .pop >>= f) Q s := by
  refine Prog.Safe.call hP (hstable s) fun t ht => ?_
  cases hqueue : t.queue with
  | nil =>
    have hexec : BypassOp.exec .pop t = (none, t) := by simp only [BypassOp.exec, hqueue]
    rw [hexec]
    exact ⟨CaptureStep.refl t, hempty t ht⟩
  | cons sample rest =>
    have hexec : BypassOp.exec .pop t = (some sample, t.popped sample rest) := by
      simp only [BypassOp.exec, hqueue, SharedState.popped]
    rw [hexec]
    exact ⟨((hok t ht).pop hqueue).2, hpop t sample rest ht hqueue⟩

/-- The pop loop yields a whole block of its generation, or gives up. -/
theorem popBlock_safe {generation : ℕ} (frames : ℕ) {samples : List TaggedSample}
    (h : InBlock generation samples s) :
    SourceSafe (popBlock generation frames) (fun block t => TransportOk t ∧
      ∀ more, block = some more → InBlock generation (samples ++ more) t) s := by
  induction frames generalizing samples s with
  | zero =>
    refine .pure _ fun t hstep => ⟨hstep.ok h.ok, fun more hmore => ?_⟩
    obtain rfl := Option.some.inj hmore
    rw [List.append_nil]
    exact h.stable s t hstep
  | succ frames ih =>
    refine .pop (fun _ => InBlock.ok) InBlock.stable h (fun t ht => ?_)
      fun t sample rest ht hqueue => ?_
    · exact .pure _ fun u hu => ⟨hu.ok ht.ok, nofun⟩
    · -- A sample of another generation ends the loop without a block.
      dsimp only
      split
      · rename_i hsample
        refine Prog.Safe.bind SourceStep.refl <| (ih (ht.pop hqueue hsample)).mono
          fun block u hu => .pure _ fun v hv => ⟨hv.ok hu.1, fun more hmore => ?_⟩
        cases block with
        | none => cases hmore
        | some tail =>
          obtain rfl := Option.some.inj hmore
          have htail := (hu.2 tail rfl).stable u v hv
          rwa [List.append_assoc, List.singleton_append] at htail
      · exact .pure _ fun u hu => ⟨hu.ok (ht.ok.pop hqueue).1, nofun⟩

/-- Discarding stale samples keeps the source side idle. -/
theorem discardStalePrefix_safe {out : BypassOutput} (fuel : ℕ) (h : SourceIdle out s) :
    SourceSafe (discardStalePrefix out.generation fuel) (fun _ t => SourceIdle out t) s := by
  induction fuel generalizing s with
  | zero => exact trivial
  | succ fuel ih =>
    refine Prog.Safe.call h (SourceIdle.stable s) fun t ht => ⟨CaptureStep.refl t, ?_⟩
    show SourceSafe (match t.queue.head? with | some _ => _ | none => _) _ t
    cases hhead : t.queue.head? with
    | none => exact .pure _ fun u hu => ht.stable t u hu
    | some sample =>
      dsimp only
      split
      · rename_i hstale
        -- The sample seen is the one popped: only this side pops.
        refine .pop (P := fun u => SourceIdle out u ∧ u.queue.head? = some sample)
          (fun _ hu => hu.1.ok) ?_ ⟨ht, hhead⟩ ?_ ?_
        · rintro u v ⟨hu, hfront⟩ hstep
          obtain ⟨more, hmore⟩ := hstep.queue
          refine ⟨hu.stable u v hstep, ?_⟩
          rw [← hmore, List.head?_append, hfront]
          rfl
        · rintro u ⟨hu, -⟩
          exact .quiet SourceIdle.stable hu fun _ v hv => ih hv
        · rintro u front rest ⟨hu, hfront⟩ hqueue
          rw [hqueue] at hfront
          obtain rfl := Option.some.inj hfront
          have hpopped : SourceIdle out (u.popped front rest) :=
            ⟨(hu.ok.pop hqueue).1, fun hready => (hu.ready hready).discard hqueue hstale⟩
          exact .quiet SourceIdle.stable hpopped fun _ v hv => ih hv
      · exact .pure _ fun u hu => ht.stable t u hu

/-- Discarding everything keeps the invariant. -/
theorem discardAll_safe (fuel : ℕ) (ok : TransportOk s) :
    SourceSafe (discardAll fuel) (fun _ t => TransportOk t) s := by
  induction fuel generalizing s with
  | zero => exact trivial
  | succ fuel ih =>
    refine .pop (fun _ h => h) transportOk_stable ok
      (fun t ht => .pure _ (transportOk_stable t · ht)) fun _ sample rest ht hqueue => ?_
    exact .quiet transportOk_stable (ht.pop hqueue).1 fun _ u hu => ih hu

/-- Telemetry after a call keeps what the call established. -/
theorem publishOccupancy_safe {P : SharedState → Prop}
    (hstable : ∀ s t, P s → SourceStep s t → P t) (hP : P s) :
    SourceSafe publishOccupancy (fun _ t => P t) s :=
  .quiet hstable hP fun _ _ ht => .quiet hstable ht fun _ t ht => .pure _ (hstable t · ht)

theorem recordPublishedFrames_safe {P : SharedState → Prop}
    (hstable : ∀ s t, P s → SourceStep s t → P t) (frames : ℕ) (hP : P s) :
    SourceSafe (recordPublishedFrames frames) (fun _ t => P t) s :=
  .quiet hstable hP fun _ _ ht => publishOccupancy_safe hstable ht

namespace BypassOutput

variable {out : BypassOutput}

theorem synchronizeGeneration_safe (h : SourceIdle out s) :
    SourceSafe out.synchronizeGeneration SourceIdle s := by
  refine .quiet SourceIdle.stable h fun requested t ht => ?_
  split
  · -- A new generation drops the source side back to startup, where no run is open.
    exact .pure _ fun u hu => .of_startup rfl (hu.ok ht.ok)
  · exact .pure _ fun u hu => ht.stable t u hu

theorem discardPendingSensitive_safe (fuel : ℕ) (ok : TransportOk s) :
    SourceSafe (out.discardPendingSensitive fuel)
      (fun after t => after.startupReady = false ∧ TransportOk t) s :=
  Prog.Safe.bind SourceStep.refl <| (discardAll_safe fuel ok).mono fun _ _ ht =>
    Prog.Safe.bind SourceStep.refl <| (publishOccupancy_safe transportOk_stable ht).mono
      fun _ _ ht => .pure _ fun _ hu => ⟨rfl, hu.ok ht⟩

theorem clearSensitive_safe (fuel : ℕ) (ok : TransportOk s) :
    SourceSafe (out.clearSensitive fuel) SourceIdle s := by
  refine Prog.Safe.bind SourceStep.refl <| (requestResync_sourceSafe transportOk_stable ok).mono
    fun _ _ ht => Prog.Safe.bind SourceStep.refl <| (discardPendingSensitive_safe fuel ht).mono
      fun _ _ hu => ?_
  exact SourceSafe.quiet transportOk_stable hu.2 fun _ v hv =>
    .pure _ fun w hw => .of_startup hu.1 (hw.ok hv)

theorem fillSilence_safe (frames published : ℕ) (h : SourceIdle out s) :
    SourceSafe (out.fillSilence frames published) (fun filled t => SourceIdle filled.after t) s :=
  Prog.Safe.bind SourceStep.refl <|
    (recordPublishedFrames_safe SourceIdle.stable published h).mono fun _ _ ht =>
      SourceSafe.quiet SourceIdle.stable ht fun _ u hu => .pure _ (SourceIdle.stable u · hu)

/-- A complete block is published; without one the source side is back in startup. -/
theorem fillBranch_safe {block : Option (List TaggedSample)} (ok : TransportOk s)
    (h : ∀ samples, block = some samples → InBlock out.generation samples s) :
    SourceSafe (out.fillBranch block) SourceIdle s := by
  cases block with
  | none =>
    refine .quiet transportOk_stable ok fun _ t ht => Prog.Safe.bind SourceStep.refl <|
      (requestResync_sourceSafe transportOk_stable ht).mono fun _ u hu => ?_
    exact .pure _ fun v hv => .of_startup rfl (hv.ok hu)
  | some samples =>
    refine Prog.Safe.call (h samples rfl) (InBlock.stable s) fun t ht => ?_
    obtain ⟨hblock, hstep⟩ := ht.publish
    exact ⟨hstep, .pure _ fun u hu => ⟨hu.ok hblock.ok, fun _ => hblock.stable _ u hu⟩⟩

variable (sin : F32 → F32)

/-- The ramp touches neither the generation nor the startup flag. -/
theorem SourceIdle.ramp (h : SourceIdle out s) (ramp : FaultRamp) :
    SourceIdle { out with ramp := ramp } s := ⟨h.ok, h.ready⟩

theorem fillRendered_safe (frames : ℕ) (block : Option (List TaggedSample))
    (h : SourceIdle out s) :
    SourceSafe (out.fillRendered sin frames block)
      (fun filled t => SourceIdle filled.after t) s := by
  unfold fillRendered
  dsimp only
  split
  · exact .pure _ fun t ht => (SourceIdle.ramp h _).stable s t ht
  · refine SourceSafe.quiet SourceIdle.stable h fun _ t ht =>
      SourceSafe.quiet SourceIdle.stable ht fun _ t ht => ?_
    refine Prog.Safe.bind SourceStep.refl <|
      (recordPublishedFrames_safe SourceIdle.stable frames ht).mono fun _ t ht => ?_
    exact .pure _ fun u hu => (SourceIdle.ramp ht _).stable t u hu

theorem fillReady_safe (frames : ℕ) (hready : out.startupReady = true) (h : SourceIdle out s) :
    SourceSafe (out.fillReady sin frames) (fun filled t => SourceIdle filled.after t) s := by
  unfold fillReady
  split
  · -- Leading silence pops nothing, so the block to come still starts where it would have.
    exact fillSilence_safe frames frames ⟨h.ok, h.ready⟩
  · refine Prog.Safe.bind SourceStep.refl <| (popBlock_safe frames (h.ready hready)).mono
      fun block t ht => Prog.Safe.bind SourceStep.refl <| ?_
    exact (fillBranch_safe ht.1 ht.2).mono fun after u hu => fillRendered_safe sin frames block hu

theorem fillGated_safe (frames : ℕ) (h : SourceIdle out s) :
    SourceSafe (out.fillGated sin frames) (fun filled t => SourceIdle filled.after t) s := by
  unfold fillGated
  split
  · rename_i hready
    exact fillReady_safe sin frames hready h
  · refine .quiet SourceIdle.stable h fun slots t ht => ?_
    split
    · exact fillSilence_safe _ _ ht
    · refine Prog.Safe.call ht (SourceIdle.stable t) fun u hu => ?_
      obtain ⟨hblock, hstep⟩ := SourceIdle.startup hu.ok out.generation
      exact ⟨hstep, fillReady_safe sin frames rfl ⟨hblock.ok, fun _ => hblock⟩⟩

/-- **Fills.** Whatever runs in between, a fill keeps to the source side's discipline and
    leaves it idle. -/
theorem fill_safe (frames fuel : ℕ) (h : SourceIdle out s) :
    SourceSafe (out.fill sin frames fuel) (fun filled t => SourceIdle filled.after t) s := by
  refine .quiet SourceIdle.stable h fun _ t ht => ?_
  split
  · refine .quiet SourceIdle.stable ht fun _ u hu => ?_
    exact .pure _ fun v hv => (SourceIdle.ramp hu _).stable u v hv
  · refine Prog.Safe.bind SourceStep.refl <| Prog.Safe.mono (fun out u hu => ?_)
      (synchronizeGeneration_safe ht)
    exact Prog.Safe.bind SourceStep.refl <| (discardStalePrefix_safe fuel hu).mono
      fun _ v hv => fillGated_safe sin frames hv

end BypassOutput

end Programs

end Noire
