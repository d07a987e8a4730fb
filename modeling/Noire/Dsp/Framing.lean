import Noire.Dsp.Sample
import Noire.Lib.Blocks

namespace Noire

/-!
# Framing and the dry delay

The two stages of the live path whose state is cut at boundaries of their own.

* `FrameAssembler.push` — collects callback chunks into exact model frames, calling `emit`
  on each as it completes.  `FrameAssembler.push_eq`: the frames are the blocks of the
  stream, whatever the chunks;
* `DryDelay.process` — a circular buffer.  `DryDelay.process_eq`: it is a queue
  (`DryDelay.queue`) of exactly the delay's length.

Both loops are about where a sequence is cut.  The loop of `push` is the one of `Lib/Blocks.lean`
and is dealt with by its induction rule, which hands over one turn: it completes a block, or it
takes what there is.  The circular buffer is a queue whose head is at the position, and one turn
of its loop moves it by one.
-/

/-! ## The assembler

The loop of `push`, at a frame length that is left open.
-/

/-- `FrameAssemblerError`. -/
inductive FrameAssemblerError
  | quantumTooLarge
  deriving DecidableEq

/-- `FramePushReport`. -/
structure FramePushReport where
  acceptedSamples : ℕ := 0
  emittedFrames : ℕ := 0
  sanitized : SanitizeReport := {}
  deriving DecidableEq

/-- `FrameAssembler`: the pending part of its storage, which never holds a whole frame
    between calls. -/
structure FrameAssembler where
  stored : List F32
  pending_lt : stored.length < modelFrameSamples

namespace FrameAssembler

/-- `FrameAssembler::new`, and its state after `reset`. -/
def new : FrameAssembler := ⟨[], by decide⟩

/-- `FrameAssembler::pending_samples`. -/
def pendingSamples (assembler : FrameAssembler) : ℕ := assembler.stored.length

variable {m : Type → Type} [Monad m] {S : Type}

/-- The loop of `push` over the input that is not yet consumed. -/
def pushLoop (emit : S → List F32 → m S) (assembler : FrameAssembler) (rest : List F32)
    (report : FramePushReport) (state : S) : m (FrameAssembler × FramePushReport × S) :=
  if hrest : rest = [] then pure (assembler, report, state)
  else
    let needed := modelFrameSamples - assembler.pendingSamples
    let copied := min needed rest.length
    let samples := sanitizeAll (rest.take copied) report.sanitized
    let stored := assembler.stored ++ samples.1
    let report := { report with sanitized := samples.2 }
    if hfull : stored.length = modelFrameSamples then do
      let state ← emit state stored
      pushLoop emit new (rest.drop copied)
        { report with emittedFrames := report.emittedFrames + 1 } state
    else
      -- Not full: the input ran out, and what is stored stays below a frame.
      pushLoop emit ⟨stored, by
        have := assembler.pending_lt
        simp only [stored, samples, List.length_append, sanitizeAll_fst, List.length_map,
          List.length_take, copied, needed, pendingSamples] at hfull ⊢
        omega⟩ (rest.drop copied) report state
  termination_by rest.length
  decreasing_by
    all_goals
      have := assembler.pending_lt
      have := List.length_pos_of_ne_nil hrest
      simp only [List.length_drop, pendingSamples]
      omega

/-- `FrameAssembler::push`, calling `emit` on each exact frame. -/
def push (assembler : FrameAssembler) (input : List F32) (emit : S → List F32 → m S)
    (state : S) : m (Except FrameAssemblerError FramePushReport × FrameAssembler × S) :=
  if maxCallbackFrames < input.length then
    pure (.error .quantumTooLarge, assembler, state)
  else do
    let pushed ← pushLoop emit assembler input { acceptedSamples := input.length } state
    return (.ok pushed.2.1, pushed.1, pushed.2.2)

/-- The assembler holding the leftover of a stream. -/
def holding (stream : List F32) : FrameAssembler :=
  ⟨Lib.leftover modelFrameSamples stream,
    (Lib.length_leftover ..).trans_lt (Nat.mod_lt _ (by decide))⟩

/-- The report of a loop that goes on with `report`: it counts every block it completes. -/
def reported (assembler : FrameAssembler) (rest : List F32) (report : FramePushReport) :
    FramePushReport :=
  { report with
    emittedFrames := report.emittedFrames +
      (assembler.pendingSamples + rest.length) / modelFrameSamples
    sanitized := (sanitizeAll rest report.sanitized).2 }

theorem ext {a b : FrameAssembler} (h : a.stored = b.stored) : a = b := by
  cases a
  cases b
  cases h
  rfl

variable [LawfulMonad m]

omit [LawfulMonad m] in
/-- What the samples of one turn and those after it are reported as. -/
theorem sanitizeAll_take_drop (rest : List F32) (copied : ℕ) (report : SanitizeReport) :
    (sanitizeAll rest report).2 =
      (sanitizeAll (rest.drop copied) (sanitizeAll (rest.take copied) report).2).2 := by
  conv => lhs; rw [← List.take_append_drop copied rest, sanitizeAll_append]

/-- The report of a turn that completes a frame. -/
theorem reported_full (assembler : FrameAssembler) (rest : List F32) (copied : ℕ)
    (report : FramePushReport)
    (hfull : (assembler.stored ++ (rest.take copied).map sanitized).length = modelFrameSamples) :
    assembler.reported rest report = new.reported (rest.drop copied)
      { report with
        sanitized := (sanitizeAll (rest.take copied) report.sanitized).2
        emittedFrames := report.emittedFrames + 1 } := by
  have hpending := assembler.pending_lt
  have htotal : assembler.pendingSamples + rest.length =
      (rest.drop copied).length + modelFrameSamples := by
    rw [← hfull, List.length_append, List.length_map, List.length_take, List.length_drop,
      pendingSamples]
    omega
  unfold reported
  rw [sanitizeAll_take_drop rest copied, htotal, Nat.add_div_right _ (by decide)]
  show _ = ({ acceptedSamples := _, emittedFrames := _, sanitized := _ } : FramePushReport)
  congr 1
  show _ + (_ / _ + 1) = _ + 1 + (0 + _) / _
  rw [Nat.zero_add]
  omega

/-- The report of a turn that completes none. -/
theorem reported_short (assembler : FrameAssembler) (rest : List F32) (copied : ℕ)
    (report : FramePushReport)
    (hlt : (assembler.stored ++ (rest.take copied).map sanitized).length < modelFrameSamples) :
    assembler.reported rest report = reported ⟨_, hlt⟩ (rest.drop copied)
      { report with sanitized := (sanitizeAll (rest.take copied) report.sanitized).2 } := by
  have htotal : assembler.pendingSamples + rest.length =
      (assembler.stored ++ (rest.take copied).map sanitized).length +
        (rest.drop copied).length := by
    rw [List.length_append, List.length_map, List.length_take, List.length_drop, pendingSamples]
    omega
  unfold reported
  rw [sanitizeAll_take_drop rest copied, htotal]
  rfl

/-- The loop emits the blocks of what is stored and what is pushed, in order, and keeps
    the leftover. -/
theorem pushLoop_eq (emit : S → List F32 → m S) (assembler : FrameAssembler)
    (rest : List F32) (report : FramePushReport) (state : S) :
    pushLoop emit assembler rest report state = (fun state =>
        (holding (assembler.stored ++ rest.map sanitized), assembler.reported rest report,
          state)) <$>
      (Lib.blocks modelFrameSamples (assembler.stored ++ rest.map sanitized)).foldlM emit
        state := by
  refine Lib.fill_induct (by decide) sanitized (motive := fun stored rest => ∀ hstored report state,
    pushLoop emit ⟨stored, hstored⟩ rest report state = (fun state =>
        (holding (stored ++ rest.map sanitized), reported ⟨stored, hstored⟩ rest report, state)) <$>
      (Lib.blocks modelFrameSamples (stored ++ rest.map sanitized)).foldlM emit state)
    ?done ?full ?short assembler.pending_lt assembler.pending_lt report state
  case done =>
    -- Nothing is left to consume: what is stored is no whole block.
    intro stored hlt hstored report state
    have hreport : reported ⟨stored, hstored⟩ [] report = report := by
      unfold reported
      rw [pendingSamples, List.length_nil, Nat.add_zero, Nat.div_eq_of_lt hlt]
      rfl
    rw [pushLoop, dif_pos rfl, List.map_nil, List.append_nil, Lib.blocks_of_lt hlt,
      List.foldlM_nil, map_pure, hreport]
    congr 2
    exact ext (Lib.leftover_of_lt hlt).symm
  case full =>
    -- The frame completes: it is the first block, and the rest starts afresh.
    intro stored rest copied hlt hrest hcopied hfull hblocks hleft ih hstored report state
    have hholding : holding (stored ++ rest.map sanitized) =
        holding ((rest.drop copied).map sanitized) := ext hleft
    rw [pushLoop, dif_neg hrest]
    simp only [pendingSamples, ← hcopied, sanitizeAll_fst]
    rw [dif_pos hfull, hblocks, List.foldlM_cons, map_bind, hholding,
      reported_full ⟨stored, hstored⟩ rest copied report hfull]
    exact bind_congr fun state => ih new.pending_lt _ state
  case short =>
    -- All that there is was copied, and the block is not complete.
    intro stored rest copied hlt hrest hcopied hshort hsame ih hstored report state
    rw [pushLoop, dif_neg hrest]
    simp only [pendingSamples, ← hcopied, sanitizeAll_fst]
    rw [dif_neg (Nat.ne_of_lt hshort), hsame,
      reported_short ⟨stored, hstored⟩ rest copied report hshort]
    exact ih hshort _ state

/-- A callback chunk within the boundary, with what is reported of it. -/
theorem push_reported (emit : S → List F32 → m S) (stream input : List F32)
    (hinput : input.length ≤ maxCallbackFrames) (state : S) :
    push (holding stream) input emit state = (fun state =>
        (.ok ((holding stream).reported input { acceptedSamples := input.length }),
          holding (stream ++ input.map sanitized), state)) <$>
      (Lib.blocks modelFrameSamples
        ((holding stream).stored ++ input.map sanitized)).foldlM emit state := by
  have hholding : holding ((holding stream).stored ++ input.map sanitized) =
      holding (stream ++ input.map sanitized) :=
    ext (Lib.blocks_append (by decide) stream (input.map sanitized)).2.symm
  rw [push, if_neg (Nat.not_lt.mpr hinput), pushLoop_eq, hholding, bind_pure_comp, ← comp_map]
  rfl

/-- **Framing.** A callback chunk within the boundary is accepted whole; the frames emitted
    are the blocks of the stream, wherever it was cut. -/
theorem push_eq (emit : S → List F32 → m S) (stream input : List F32)
    (hinput : input.length ≤ maxCallbackFrames) :
    ∃ report, ∀ state, push (holding stream) input emit state = (fun state =>
        (.ok report, holding (stream ++ input.map sanitized), state)) <$>
      (Lib.blocks modelFrameSamples
        ((holding stream).stored ++ input.map sanitized)).foldlM emit state :=
  ⟨_, push_reported emit stream input hinput⟩

end FrameAssembler

/-! ## The delay

The loop of `process`, which moves a callback through the stored samples in place.
-/

/-- `DryDelayError`. -/
inductive DryDelayError
  | delayTooLarge
  | shapeMismatch
  | quantumTooLarge
  deriving DecidableEq

/-- `DryDelay`. -/
structure DryDelay where
  storage : List F32
  position : ℕ
  deriving DecidableEq

namespace DryDelay

/-- `DryDelay::new`. -/
def new (delaySamples : ℕ) : Except DryDelayError DryDelay :=
  if maxDryDelaySamples < delaySamples then .error .delayTooLarge
  else .ok ⟨.replicate delaySamples .zero, 0⟩

/-- `DryDelay::delay_samples`. -/
def delaySamples (delay : DryDelay) : ℕ := delay.storage.length

/-- `DryDelay::reset`. -/
def reset (delay : DryDelay) : DryDelay := ⟨.replicate delay.storage.length .zero, 0⟩

/-- The loop of `process` over a nonempty delay line. -/
def processAll (delay : DryDelay) : List F32 → SanitizeReport →
    List F32 × DryDelay × SanitizeReport
  | [], report => ([], delay, report)
  | source :: rest, report =>
    let destination := delay.storage.getD delay.position .zero
    let sample := sanitizeSample source report
    let position := delay.position + 1
    let next : DryDelay := {
      storage := delay.storage.set delay.position sample.1
      position := if position = delay.storage.length then 0 else position }
    let others := next.processAll rest sample.2
    (destination :: others.1, others.2)

/-- `DryDelay::process` into a buffer of `frames` samples; an error leaves both the line
    and the buffer alone. -/
def process (delay : DryDelay) (input : List F32) (frames : ℕ) :
    Except DryDelayError (SanitizeReport × List F32 × DryDelay) :=
  if input.length ≠ frames then .error .shapeMismatch
  else if maxCallbackFrames < input.length then .error .quantumTooLarge
  else if delay.storage.isEmpty then
    let samples := sanitizeAll input {}
    .ok (samples.2, samples.1, delay)
  else
    let processed := delay.processAll input {}
    .ok (processed.2.2, processed.1, processed.2.1)

/-- The samples in flight, oldest first. -/
def queue (delay : DryDelay) : List F32 :=
  delay.storage.drop delay.position ++ delay.storage.take delay.position

/-- The position stays inside a nonempty line. -/
def InBounds (delay : DryDelay) : Prop :=
  delay.storage = [] ∨ delay.position < delay.storage.length

/-- One sample through a nonempty line: the oldest comes out, the new one goes in last. -/
theorem queue_set (delay : DryDelay) (hin : delay.position < delay.storage.length)
    (sample : F32) :
    delay.queue = delay.storage.getD delay.position .zero :: delay.queue.tail ∧
      (⟨delay.storage.set delay.position sample,
        if delay.position + 1 = delay.storage.length then 0 else delay.position + 1⟩ :
        DryDelay).queue = delay.queue.tail ++ [sample] := by
  obtain ⟨storage, position⟩ := delay
  -- The position splits the line into what was written in this round and in the last one.
  obtain ⟨newer, oldest, older, rfl, rfl⟩ : ∃ newer oldest older,
      storage = newer ++ oldest :: older ∧ newer.length = position :=
    ⟨storage.take position, storage[position], storage.drop (position + 1),
      by rw [List.getElem_cons_drop, List.take_append_drop],
      List.length_take_of_le (Nat.le_of_lt hin)⟩
  have hqueue : queue ⟨newer ++ oldest :: older, newer.length⟩ = oldest :: older ++ newer := by
    rw [queue, List.drop_left, List.take_left]
  rw [hqueue]
  refine ⟨by simp, ?_⟩
  rw [List.set_append_right _ _ (Nat.le_refl _), Nat.sub_self, List.set_cons_zero]
  cases older with
  | nil =>
    -- The last place of the line: the position wraps around.
    simp [queue]
  | cons next older =>
    have hnext : ¬newer.length + 1 = (newer ++ oldest :: next :: older).length := by
      simp
    have hlen : newer.length + 1 = (newer ++ [sample]).length := by simp
    rw [if_neg hnext, queue]
    show List.drop _ (newer ++ sample :: next :: older) ++ List.take _ _ = _
    rw [List.append_cons newer sample, hlen, List.drop_left, List.take_left]
    simp

/-- Samples through a nonempty line: those in flight come out first. -/
theorem processAll_eq (delay : DryDelay) (hin : delay.position < delay.storage.length)
    (input : List F32) (report : SanitizeReport) :
    (delay.processAll input report).1 =
        (delay.queue ++ input.map sanitized).take input.length ∧
      (delay.processAll input report).2.1.queue =
        (delay.queue ++ input.map sanitized).drop input.length ∧
      (delay.processAll input report).2.1.position <
        (delay.processAll input report).2.1.storage.length := by
  induction input generalizing delay report with
  | nil => exact ⟨rfl, by simp [processAll], hin⟩
  | cons source rest ih =>
    obtain ⟨hqueue, hnext⟩ := delay.queue_set hin (sanitizeSample source report).1
    obtain ⟨hout, hrest, hin'⟩ := ih
      ⟨delay.storage.set delay.position (sanitizeSample source report).1,
        if delay.position + 1 = delay.storage.length then 0 else delay.position + 1⟩
      (by rw [List.length_set]; dsimp only; split <;> omega)
      (sanitizeSample source report).2
    rw [hnext, List.append_assoc, List.singleton_append] at hout hrest
    rw [hqueue, List.map_cons, ← sanitizeSample_fst source report, List.cons_append,
      List.length_cons, List.take_succ_cons, List.drop_succ_cons]
    exact ⟨congrArg (_ :: ·) hout, hrest, hin'⟩

/-- **The delay is a queue.** What comes out is what was in flight, then the sanitized
    input; what stays in flight is the rest. -/
theorem process_eq (delay : DryDelay) (hin : delay.InBounds) (input : List F32)
    (hinput : input.length ≤ maxCallbackFrames) :
    ∃ report delay', delay.process input input.length =
        .ok (report, (delay.queue ++ input.map sanitized).take input.length, delay') ∧
      delay'.queue = (delay.queue ++ input.map sanitized).drop input.length ∧
      delay'.InBounds := by
  rw [process, if_neg (not_not.mpr rfl), if_neg (Nat.not_lt.mpr hinput)]
  by_cases hempty : delay.storage = []
  · -- A delay of zero copies the sanitized input.
    have hqueue : delay.queue = [] := by simp [queue, hempty]
    have hlen : input.length = (input.map sanitized).length := (List.length_map ..).symm
    rw [if_pos (List.isEmpty_iff.mpr hempty), hqueue, List.nil_append, hlen, List.take_length,
      List.drop_length]
    exact ⟨_, delay, by dsimp only; rw [sanitizeAll_fst], hqueue, hin⟩
  · obtain ⟨hout, hqueue, hin'⟩ := delay.processAll_eq (hin.resolve_left hempty) input {}
    rw [if_neg (by simpa using hempty)]
    exact ⟨_, _, by rw [← hout], hqueue, .inr hin'⟩

/-- A new line is in bounds and holds as many zeros as its delay. -/
theorem new_queue {delaySamples : ℕ} {delay : DryDelay} (h : new delaySamples = .ok delay) :
    delay.queue = .replicate delaySamples .zero ∧ delay.InBounds := by
  unfold new at h
  split at h
  · cases h
  · cases h
    refine ⟨by simp [queue], ?_⟩
    cases delaySamples with
    | zero => exact .inl rfl
    | succ n => exact .inr (by simp)

/-- There are as many samples in flight as the line is long. -/
theorem length_queue {delay : DryDelay} (h : delay.InBounds) :
    delay.queue.length = delay.delaySamples := by
  unfold queue delaySamples
  rw [List.length_append, List.length_drop, List.length_take]
  rcases h with hempty | hlt
  · simp [hempty]
  · omega

/-- A reset line is as one that is new. -/
theorem reset_queue (delay : DryDelay) :
    delay.reset.queue = .replicate delay.delaySamples .zero ∧ delay.reset.InBounds := by
  refine ⟨by simp [reset, queue, delaySamples], ?_⟩
  cases hlen : delay.storage with
  | nil => exact .inl (by simp [reset, hlen])
  | cons sample rest => exact .inr (by simp [reset, hlen])

end DryDelay

end Noire
