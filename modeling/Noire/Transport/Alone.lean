import Noire.Transport.Bypass

namespace Noire

open Lib (Prog)

/-!
# The transport's calls, one at a time

What each call of the transport does when no other thread runs in between: the sequential
reading of the same programs.

* `SameChannel` — two states that differ in telemetry only;
* `Clean` — a channel that has had neither an underflow nor an overflow and holds samples
  of the current generation only;
* `writeProcessed_alone` — a write with room queues its block;
* `fill_buffering`, `fill_silent`, `fill_published` — the three ways a fill can go on a
  clean channel.

With no other thread, an operation finds what the one before it left, so a program is run by
rewriting.  Telemetry is touched between any two operations and read by none, so states are
compared up to it.
-/

/-- The states differ in telemetry only; the two fault counters agree. -/
structure SameChannel (s t : SharedState) : Prop where
  queue : t.queue = s.queue
  runs : t.runs = s.runs
  generation : t.generation = s.generation
  enabled : t.publicationEnabled = s.publicationEnabled
  underflows : t.counters .underflows = s.counters .underflows
  overflows : t.counters .overflows = s.counters .overflows

theorem SameChannel.trans {s t u : SharedState} (h : SameChannel s t) (h' : SameChannel t u) :
    SameChannel s u :=
  ⟨h'.queue.trans h.queue, h'.runs.trans h.runs, h'.generation.trans h.generation,
    h'.enabled.trans h.enabled, h'.underflows.trans h.underflows,
    h'.overflows.trans h.overflows⟩

/-- Counting anything but a fault. -/
theorem SameChannel.count (s : SharedState) (counter : BypassCounter) (amount : ℕ)
    (hu : counter ≠ .underflows) (ho : counter ≠ .overflows) :
    SameChannel s (s.count counter amount) :=
  ⟨rfl, rfl, rfl, rfl, Function.update_of_ne hu.symm _ _, Function.update_of_ne ho.symm _ _⟩

/-- The same change of the ring and of the runs keeps two states equal up to telemetry. -/
theorem SameChannel.replace {s t : SharedState} (h : SameChannel s t)
    (queue : List TaggedSample) (runs : List (List PublishedBlock)) :
    SameChannel { s with queue := queue, runs := runs }
      { t with queue := queue, runs := runs } :=
  ⟨rfl, rfl, h.generation, h.enabled, h.underflows, h.overflows⟩

/-- A channel without faults, holding samples of the current generation. -/
structure Clean (s : SharedState) : Prop where
  enabled : s.publicationEnabled = true
  current : ∀ x ∈ s.queue, x.generation = s.generation
  underflows : s.counters .underflows = 0
  overflows : s.counters .overflows = 0

theorem SameChannel.clean {s t : SharedState} (h : SameChannel s t) (clean : Clean s) :
    Clean t where
  enabled := h.enabled.trans clean.enabled
  current := by rw [h.queue, h.generation]; exact clean.current
  underflows := h.underflows.trans clean.underflows
  overflows := h.overflows.trans clean.overflows

/-! ## Writes -/

/-- The push loop queues every sample there is room for. -/
theorem pushAll_alone (generation : ℕ) (samples : List F32) {s : SharedState}
    (hroom : samples.length ≤ bypassRingCapacity - s.queue.length) :
    (pushAll generation samples).run BypassOp.exec s =
      some (true, { s with queue := s.queue ++ samples.map (⟨generation, ·⟩) }) := by
  induction samples generalizing s with
  | nil =>
    rw [List.map_nil, List.append_nil]
    rfl
  | cons sample rest ih =>
    rw [List.length_cons] at hroom
    have hexec : BypassOp.exec (.push ⟨generation, sample⟩) s =
        (true, { s with queue := s.queue ++ [⟨generation, sample⟩] }) := if_pos (by omega)
    rw [pushAll, Prog.run_call_bind, hexec]
    refine (ih (by simp; omega)).trans ?_
    rw [List.append_assoc]
    rfl

/-- A write with room queues its block under the current generation. -/
theorem writeProcessed_alone (samples : List F32) {s : SharedState} (clean : Clean s)
    (hroom : s.queue.length + samples.length ≤ bypassRingCapacity) :
    ∃ t, (writeProcessed samples).run BypassOp.exec s = some (true, t) ∧ SameChannel
      { s with queue := s.queue ++ samples.map (⟨s.generation, ·⟩) } t := by
  obtain ⟨queued, hqueued⟩ : ∃ queued : SharedState, queued =
      { s with queue := s.queue ++ samples.map (⟨s.generation, ·⟩) } := ⟨_, rfl⟩
  have hpush : (pushAll s.generation samples).run BypassOp.exec s = some (true, queued) :=
    hqueued ▸ pushAll_alone s.generation samples (by omega)
  have hrun : (writeProcessed samples).run BypassOp.exec s = some (true,
      { queued.count .producedFrames samples.length with
        currentFrames := bypassRingCapacity - (bypassRingCapacity - queued.queue.length)
        highWaterFrames := max queued.highWaterFrames
          (bypassRingCapacity - (bypassRingCapacity - queued.queue.length)) }) := by
    -- Past the two checks the write is the push loop, and then telemetry only.
    have henabled : (BypassOp.exec .loadPublication s).1 = true := clean.enabled
    rw [writeProcessed, Prog.run_call_bind, if_pos henabled]
    show Prog.run _ (if bypassRingCapacity - s.queue.length < samples.length then _ else _) s = _
    rw [if_neg (by omega)]
    exact Prog.run_bind_of _ hpush
  rw [← hqueued]
  exact ⟨_, hrun, (SameChannel.count queued .producedFrames samples.length nofun nofun).trans
    ⟨rfl, rfl, rfl, rfl, rfl, rfl⟩⟩

/-! ## Fills -/

/-- The pop loop takes a block that is there. -/
theorem popBlock_alone {generation : ℕ} (samples : List TaggedSample) {s : SharedState}
    {rest : List TaggedSample} (hqueue : s.queue = samples ++ rest)
    (hsamples : ∀ x ∈ samples, x.generation = generation) :
    (popBlock generation samples.length).run BypassOp.exec s = some (some samples,
      { s with queue := rest, consumed := s.consumed ++ samples }) := by
  induction samples generalizing s with
  | nil =>
    rw [List.append_nil, ← show s.queue = rest from hqueue]
    rfl
  | cons sample more ih =>
    obtain ⟨hsample, hmore⟩ := List.forall_mem_cons.mp hsamples
    have hexec : BypassOp.exec .pop s = (some sample,
        { s with queue := more ++ rest, consumed := s.consumed ++ [sample] }) := by
      simp only [BypassOp.exec, hqueue, List.cons_append]
    rw [List.length_cons, popBlock, Prog.run_call_bind, hexec]
    dsimp only
    rw [if_pos hsample, Prog.run_bind_of _ (ih rfl hmore), List.append_assoc]
    rfl

namespace BypassOutput

variable (sin : F32 → F32) (out : BypassOutput) {s : SharedState}

/-- What a fill published is counted. -/
theorem recordPublishedFrames_alone (frames : ℕ) (s : SharedState) :
    ∃ t, (recordPublishedFrames frames).run BypassOp.exec s = some ((), t) ∧ SameChannel s t :=
  ⟨{ s.count .outputFrames frames with currentFrames := s.queue.length }, rfl,
    (SameChannel.count s .outputFrames frames nofun nofun).trans ⟨rfl, rfl, rfl, rfl, rfl, rfl⟩⟩

/-- Publishing silence touches telemetry only. -/
theorem fillSilence_alone (frames published : ℕ) (s : SharedState) :
    ∃ t, (out.fillSilence frames published).run BypassOp.exec s = some (⟨.ok {
        frames := toU16 published, startup := true, rampState := out.ramp.state },
      .replicate frames .zero, out⟩, t) ∧ SameChannel s t := by
  obtain ⟨t, hrun, hsame⟩ := recordPublishedFrames_alone published s
  refine ⟨t.count .startupSilenceFrames published, ?_,
    hsame.trans (SameChannel.count t .startupSilenceFrames published nofun nofun)⟩
  rw [fillSilence, Prog.run_bind_of _ hrun]
  rfl

variable {out}

/-- On a clean channel of its own generation a fill goes straight to the startup gate. -/
theorem fill_alone (clean : Clean s) (hgeneration : out.generation = s.generation)
    {frames : ℕ} (hframes : frames ≤ maxCallbackFrames) (fuel : ℕ) :
    (out.fill sin frames (fuel + 1)).run BypassOp.exec s =
      (out.fillGated sin frames).run BypassOp.exec (s.count .outputCallbacks 1) := by
  have hsync : out.synchronizeGeneration.run BypassOp.exec (s.count .outputCallbacks 1) =
      some (out, s.count .outputCallbacks 1) := by
    rw [synchronizeGeneration, Prog.run_call_bind]
    have hsame : ¬s.generation ≠ out.generation := not_not.mpr hgeneration.symm
    exact congrArg (Prog.run BypassOp.exec · _) (if_neg hsame)
  have hdiscard : (discardStalePrefix out.generation (fuel + 1)).run BypassOp.exec
      (s.count .outputCallbacks 1) = some ((), s.count .outputCallbacks 1) := by
    rw [discardStalePrefix, Prog.run_call_bind]
    show Prog.run BypassOp.exec (match s.queue.head? with | some _ => _ | none => _) _ = _
    cases hhead : s.queue.head? with
    | none => rfl
    | some sample =>
      -- The oldest sample is current, so the loop stops at its first turn.
      have hcurrent := clean.current sample (List.mem_of_head? hhead)
      dsimp only
      rw [if_neg (not_not.mpr (hcurrent.trans hgeneration.symm))]
      rfl
  rw [fill, Prog.run_call_bind, if_neg (Nat.not_lt.mpr hframes)]
  refine (Prog.run_bind_of _ hsync).trans ?_
  rw [Prog.run_bind_of _ hdiscard]

/-- A complete block is rendered and counted. -/
theorem fillRendered_alone (out : BypassOutput) (samples : List TaggedSample) (s : SharedState)
    (hframes : samples.length ≤ maxCallbackFrames) :
    ∃ t rampState output ramp, (out.fillRendered sin samples.length (some samples)).run
        BypassOp.exec s = some (⟨.ok {
          frames := samples.length, missingFrames := 0, startup := false,
          rampState := rampState }, output, { out with ramp := ramp }⟩, t) ∧
      SameChannel s t := by
  have hvalues : (samples.map TaggedSample.value).length = samples.length := List.length_map ..
  obtain ⟨report, output, ramp, hprocess, hmissing⟩ :=
    FaultRamp.process_some sin out.ramp (hvalues ▸ hframes)
  rw [hvalues] at hprocess
  obtain ⟨counted, hcounted⟩ : ∃ counted : SharedState, counted =
      (s.count .missingFrames report.missingSamples).count .sanitizedSamples
        (report.sanitized.nonFinite + report.sanitized.subnormal) := ⟨_, rfl⟩
  -- The counters move, and the channel does not.
  obtain ⟨t, hrun, hsame⟩ := recordPublishedFrames_alone samples.length counted
  refine ⟨t, report.state, output, ramp, ?_, ?_⟩
  · rw [fillRendered]
    dsimp only [Option.map_some]
    rw [hprocess]
    rw [hcounted] at hrun
    refine (Prog.run_bind_of _ hrun).trans ?_
    rw [hmissing, toU16_of_le hframes]
    rfl
  · refine SameChannel.trans ?_ hsame
    rw [hcounted]
    exact (SameChannel.count s .missingFrames _ nofun nofun).trans
      (SameChannel.count _ .sanitizedSamples _ nofun nofun)

/-- Below the startup reserve an empty-while-buffering fill publishes nothing. -/
theorem fill_buffering (clean : Clean s) (hgeneration : out.generation = s.generation)
    {frames : ℕ} (hframes : frames ≤ maxCallbackFrames) (fuel : ℕ)
    (hready : out.startupReady = false) (hempty : out.emptyWhileBuffering = true)
    (hbelow : s.queue.length < out.startupRequired frames) :
    ∃ t, (out.fill sin frames (fuel + 1)).run BypassOp.exec s = some (⟨.ok {
        frames := 0, startup := true, rampState := out.ramp.state },
      .replicate frames .zero, out⟩, t) ∧ SameChannel s t := by
  obtain ⟨t, hrun, hsame⟩ :=
    out.fillSilence_alone frames 0 (s.count .outputCallbacks 1)
  refine ⟨t, ?_, (SameChannel.count s .outputCallbacks 1 nofun nofun).trans hsame⟩
  rw [fill_alone sin clean hgeneration hframes, fillGated, if_neg (by rw [hready]; decide),
    Prog.run_call_bind]
  show Prog.run _ (if s.queue.length < _ then _ else _) (s.count .outputCallbacks 1) = _
  rw [if_pos hbelow, if_pos hempty]
  exact hrun

/-- At the startup reserve the first fill opens a run and publishes leading silence. -/
theorem fill_silent (clean : Clean s) (hgeneration : out.generation = s.generation)
    {frames : ℕ} (hframes : frames ≤ maxCallbackFrames) (fuel : ℕ)
    (hready : out.startupReady = false) (hempty : out.emptyWhileBuffering = true)
    (hpending : out.leadingSilencePending = true)
    (habove : out.startupRequired frames ≤ s.queue.length) :
    ∃ t, (out.fill sin frames (fuel + 1)).run BypassOp.exec s = some (⟨.ok {
        frames := frames, startup := true, rampState := out.ramp.beginRecovery.state },
      .replicate frames .zero, { out with
        startupReady := true
        ramp := out.ramp.beginRecovery
        leadingSilencePending := false }⟩, t) ∧
      SameChannel { s with runs := [] :: s.runs } t := by
  obtain ⟨opened, hopened⟩ : ∃ opened : SharedState, opened =
      { s.count .outputCallbacks 1 with runs := [] :: s.runs } := ⟨_, rfl⟩
  obtain ⟨started, hstarted⟩ : ∃ started : BypassOutput, started = { out with
    startupReady := true, ramp := out.ramp.beginRecovery, leadingSilencePending := false } :=
    ⟨_, rfl⟩
  obtain ⟨t, hrun, hsame⟩ := started.fillSilence_alone frames frames opened
  refine ⟨t, ?_, ?_⟩
  · have hskip : (out.emptyWhileBuffering && out.leadingSilencePending) = true := by
      rw [hempty, hpending]
      rfl
    rw [fill_alone sin clean hgeneration hframes, fillGated, if_neg (by rw [hready]; decide),
      Prog.run_call_bind]
    show Prog.run _ (if s.queue.length < _ then _ else _) (s.count .outputCallbacks 1) = _
    -- The reserve is reached: this callback is silent, and the output begins after it.
    rw [if_neg (Nat.not_lt.mpr habove), Prog.run_call_bind, fillReady]
    show Prog.run _ (if (out.emptyWhileBuffering && out.leadingSilencePending) = true
      then _ else _) _ = _
    rw [if_pos hskip, ← hstarted, ← toU16_of_le hframes]
    subst hopened hstarted
    rw [toU16_of_le hframes] at hrun ⊢
    exact hrun
  · rw [hopened] at hsame
    exact ((SameChannel.count s .outputCallbacks 1 nofun nofun).replace s.queue _).trans hsame

/-- Past startup a fill publishes a block of real samples, when the ring holds one. -/
theorem fill_published (clean : Clean s) (hgeneration : out.generation = s.generation)
    {samples rest : List TaggedSample} (hqueue : s.queue = samples ++ rest)
    (hframes : samples.length ≤ maxCallbackFrames) (fuel : ℕ)
    (hready : out.startupReady = true) (hpending : out.leadingSilencePending = false)
    {run : List PublishedBlock} {older : List (List PublishedBlock)}
    (hruns : s.runs = run :: older) :
    ∃ t rampState output ramp block, (out.fill sin samples.length (fuel + 1)).run
        BypassOp.exec s = some (⟨.ok {
          frames := samples.length, missingFrames := 0, startup := false,
          rampState := rampState }, output, { out with ramp := ramp }⟩, t) ∧
      block.samples = samples ∧
      SameChannel { s with queue := rest, runs := (run ++ [block]) :: older } t := by
  obtain ⟨counted, hcounted⟩ : ∃ counted, counted = s.count .outputCallbacks 1 := ⟨_, rfl⟩
  obtain ⟨popped, hpopped⟩ : ∃ popped : SharedState, popped =
      { counted with queue := rest, consumed := counted.consumed ++ samples } := ⟨_, rfl⟩
  obtain ⟨block, hblock⟩ : ∃ block : PublishedBlock, block =
      ⟨out.generation, popped.consumed.length - samples.length, samples⟩ := ⟨_, rfl⟩
  obtain ⟨published, hpublished⟩ : ∃ published : SharedState, published =
      { popped with runs := (run ++ [block]) :: older } := ⟨_, rfl⟩
  -- The block is popped, recorded and rendered, in this order.
  have hpop : (popBlock out.generation samples.length).run BypassOp.exec counted =
      some (some samples, popped) := by
    rw [hpopped]
    refine popBlock_alone samples (by rw [hcounted]; exact hqueue) fun x hx => ?_
    exact (clean.current x (hqueue ▸ List.mem_append_left _ hx)).trans hgeneration.symm
  have hbranch : (out.fillBranch (some samples)).run BypassOp.exec popped =
      some (out, published) := by
    have hrecord : popped.recordBlock block = published := by
      have hpoppedRuns : popped.runs = run :: older := by rw [hpopped, hcounted]; exact hruns
      rw [SharedState.recordBlock, hpoppedRuns, hpublished]
    rw [← hrecord, hblock]
    rfl
  obtain ⟨t, rampState, output, ramp, hrun, hsame⟩ :=
    fillRendered_alone sin out samples published hframes
  refine ⟨t, rampState, output, ramp, block, ?_, by rw [hblock], ?_⟩
  · rw [fill_alone sin clean hgeneration hframes, fillGated, if_pos hready, fillReady,
      if_neg (by rw [hpending, Bool.and_false]; decide), ← hcounted, Prog.run_bind_of _ hpop,
      Prog.run_bind_of _ hbranch, hrun]
  · refine SameChannel.trans ?_ hsame
    rw [hpublished, hpopped, hcounted]
    exact ((SameChannel.count s .outputCallbacks 1 nofun nofun).replace rest _).trans
      ⟨rfl, rfl, rfl, rfl, rfl, rfl⟩

end BypassOutput

end Noire
