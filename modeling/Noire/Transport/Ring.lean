import Noire.Transport.Alone

namespace Noire

open Lib (Prog)

/-!
# The transport as a queue

What the calls of the transport do, one at a time, said without its programs.

* `Ring` — the shared state less its telemetry, and `Ring.write`, `Ring.discard`,
  `Ring.clear`, `Ring.fill` on it;
* `Rendering` — what a fill publishes, and `BypassOutput.fillTraced`, the fill with it:
  `fillTraced_erase` says that it is the fill;
* `writeProcessed_ring`, `discardPendingSensitive_ring`, `clearSensitive_ring`,
  `fillTraced_ring` — alone, every call returns and does to the ring what the queue's does.

The programs of `Transport/Bypass.lean` touch a counter of telemetry between most operations, and
take samples in loops.  Run alone, each is a function of the queue and the generation.  The lemmas
go from the loops to the calls, and each says two things: the program returns, and what it leaves
of the ring.  Since a program that is interleaved is not alone, these results are used where the
transport's discipline makes the interleaving irrelevant, and where both callbacks run in one
thread.
-/

/-! ## Fills with what they publish

A fill reports how many samples it published, and not which.  The traced fill returns a
description of them, and is the fill otherwise.
-/

/-- What a fill publishes: so much silence, or what the ramp makes of a block, or of the last
    sample for want of one. -/
inductive Rendering
  | silence (frames : ℕ)
  | rendered (ramp : FaultRamp) (block : Option (List TaggedSample)) (frames : ℕ)

/-- The samples of a rendering. -/
def Rendering.samples (sin : F32 → F32) : Rendering → List F32
  | silence frames => .replicate frames .zero
  | rendered ramp block frames =>
    (ramp.process sin (block.map (·.map TaggedSample.value)) frames).2.1

/-- What the source callback copies out of a fill: as many samples as it reports, and none of a
    fill that fails. -/
def Filled.published (filled : Filled) : List F32 :=
  match filled.result with
  | .ok report => filled.output.take report.frames
  | .error _ => []

namespace BypassOutput

variable (sin : F32 → F32)

/-- `fillSilence`, with what it publishes. -/
def fillSilenceTraced (out : BypassOutput) (frames published : ℕ) :
    BypassProg (Filled × Rendering) :=
  (·, .silence published) <$> out.fillSilence frames published

/-- `fillRendered`, with what it publishes. -/
def fillRenderedTraced (out : BypassOutput) (frames : ℕ) (block : Option (List TaggedSample)) :
    BypassProg (Filled × Rendering) :=
  -- A block the ramp rejects is not published.
  (fun filled => (filled,
    if filled.result.isOk then .rendered out.ramp block frames else .silence 0)) <$>
      out.fillRendered sin frames block

/-- `fillReady`, with what it publishes. -/
def fillReadyTraced (out : BypassOutput) (frames : ℕ) : BypassProg (Filled × Rendering) := do
  if out.emptyWhileBuffering && out.leadingSilencePending then
    fillSilenceTraced { out with leadingSilencePending := false } frames frames
  else
    let block ← popBlock out.generation frames
    let out ← out.fillBranch block
    out.fillRenderedTraced sin frames block

/-- `fillGated`, with what it publishes. -/
def fillGatedTraced (out : BypassOutput) (frames : ℕ) : BypassProg (Filled × Rendering) := do
  if out.startupReady then out.fillReadyTraced sin frames
  else if (← perform .consumerSlots) < out.startupRequired frames then
    out.fillSilenceTraced frames (if out.emptyWhileBuffering then 0 else frames)
  else
    perform .startup
    fillReadyTraced sin { out with startupReady := true, ramp := out.ramp.beginRecovery } frames

/-- `fill`, with what it publishes. -/
def fillTraced (out : BypassOutput) (frames fuel : ℕ) : BypassProg (Filled × Rendering) := do
  perform (.count .outputCallbacks 1)
  if maxCallbackFrames < frames then
    perform (.count .oversizedRequests 1)
    return ({
      result := .error .quantumTooLarge
      output := .replicate frames .zero
      after := { out with ramp := out.ramp.resetSilent } }, .silence 0)
  else
    let out ← out.synchronizeGeneration
    discardStalePrefix out.generation fuel
    out.fillGatedTraced sin frames

/-- Past the startup gate, less what it publishes. -/
theorem fillReadyTraced_erase (out : BypassOutput) (frames : ℕ) :
    Prod.fst <$> out.fillReadyTraced sin frames = out.fillReady sin frames := by
  unfold fillReadyTraced fillReady fillSilenceTraced fillRenderedTraced
  split
  · rw [Functor.map_map, id_map']
  · simp only [map_bind, Functor.map_map, id_map']

/-- From the startup gate on, less what it publishes. -/
theorem fillGatedTraced_erase (out : BypassOutput) (frames : ℕ) :
    Prod.fst <$> out.fillGatedTraced sin frames = out.fillGated sin frames := by
  unfold fillGatedTraced fillGated
  split
  · exact out.fillReadyTraced_erase sin frames
  · rw [map_bind]
    refine bind_congr fun slots => ?_
    split
    · unfold fillSilenceTraced
      rw [Functor.map_map, id_map']
    · rw [map_bind]
      exact bind_congr fun _ => fillReadyTraced_erase sin _ frames

/-- **The trace changes nothing.** A fill with what it publishes is the fill. -/
theorem fillTraced_erase (out : BypassOutput) (frames fuel : ℕ) :
    Prod.fst <$> out.fillTraced sin frames fuel = out.fill sin frames fuel := by
  unfold fillTraced fill
  rw [map_bind]
  refine bind_congr fun _ => ?_
  split
  · rfl
  · simp only [map_bind, fillGatedTraced_erase]

end BypassOutput

/-! ## The queue -/

/-- The shared state, less its telemetry. -/
@[ext] structure Ring where
  generation : ℕ := 1
  enabled : Bool := true
  consumed : List TaggedSample := []
  queue : List TaggedSample := []

/-- What the shared state holds. -/
def SharedState.ring (s : SharedState) : Ring :=
  ⟨s.generation, s.publicationEnabled, s.consumed, s.queue⟩

@[simp] theorem SharedState.ring_count (s : SharedState) (counter : BypassCounter)
    (amount : ℕ) : (s.count counter amount).ring = s.ring := rfl

/-- The history of blocks is telemetry. -/
@[simp] theorem SharedState.ring_recordBlock (s : SharedState) (block : PublishedBlock) :
    (s.recordBlock block).ring = s.ring := by
  unfold SharedState.recordBlock
  split <;> rfl

namespace Ring

/-- Every sample ever pushed, oldest first. -/
def pushed (ring : Ring) : List TaggedSample := ring.consumed ++ ring.queue

/-- Take the oldest samples. -/
def pop (ring : Ring) (samples : ℕ) : Ring :=
  { ring with
    consumed := ring.consumed ++ ring.queue.take samples
    queue := ring.queue.drop samples }

/-- A new generation. -/
def resync (ring : Ring) : Ring := { ring with generation := ring.generation + 1 }

/-- A block of processed samples, and whether it was accepted. -/
def write (ring : Ring) (samples : List F32) : Bool × Ring :=
  if ring.enabled then
    if samples.length ≤ bypassRingCapacity - ring.queue.length then
      (true, { ring with queue := ring.queue ++ samples.map (⟨ring.generation, ·⟩) })
    else (false, ring.resync)
  else (true, ring)

/-- Everything is taken. -/
def discard (ring : Ring) : Ring := ring.pop ring.queue.length

/-- How many of the oldest samples are of another generation. -/
def stale (ring : Ring) : ℕ :=
  (ring.queue.takeWhile (·.generation ≠ ring.generation)).length

/-- How many of the oldest samples are of this generation. -/
def fresh (ring : Ring) : ℕ :=
  (ring.queue.takeWhile (·.generation = ring.generation)).length

/-- The oldest samples, if enough of them are of this generation; short of that, those and the
    one that is not are lost. -/
def block (ring : Ring) (frames : ℕ) : Option (List TaggedSample) × Ring :=
  if frames ≤ ring.fresh then (some (ring.queue.take frames), ring.pop frames)
  else (none, ring.pop (ring.fresh + 1))

/-- The source side, at the ring's generation. -/
def sync (ring : Ring) (out : BypassOutput) : BypassOutput :=
  if ring.generation ≠ out.generation then
    { out.restartSilent with generation := ring.generation }
  else out

variable (sin : F32 → F32)

/-- What is left to a callback past the startup gate. -/
def ready (ring : Ring) (out : BypassOutput) (frames : ℕ) : BypassOutput × Rendering × Ring :=
  if out.emptyWhileBuffering && out.leadingSilencePending then
    ({ out with leadingSilencePending := false }, .silence frames, ring)
  else
    let (block, ring) := ring.block frames
    let ramp := (out.ramp.process sin (block.map (·.map TaggedSample.value)) frames).2.2
    match block with
    | some _ => ({ out with ramp }, .rendered out.ramp block frames, ring)
    | none =>
      ({ out with
          startupReady := false, leadingSilencePending := out.emptyWhileBuffering, ramp },
        .rendered out.ramp none frames, ring.resync)

/-- What is left to a callback of the ring's generation. -/
def gated (ring : Ring) (out : BypassOutput) (frames : ℕ) : BypassOutput × Rendering × Ring :=
  if out.startupReady then ring.ready sin out frames
  else if ring.queue.length < out.startupRequired frames then
    (out, .silence (if out.emptyWhileBuffering then 0 else frames), ring)
  else
    ring.ready sin { out with startupReady := true, ramp := out.ramp.beginRecovery } frames

/-- One callback of `frames` samples. -/
def fill (ring : Ring) (out : BypassOutput) (frames : ℕ) : BypassOutput × Rendering × Ring :=
  (ring.pop ring.stale).gated sin (ring.sync out) frames

@[simp] theorem pop_zero (ring : Ring) : ring.pop 0 = ring :=
  Ring.ext rfl rfl (List.append_nil _) rfl

end Ring

/-! ## Writes -/

/-- **A write** is the queue's. -/
theorem writeProcessed_ring (samples : List F32) (s : SharedState) :
    ∃ t, (writeProcessed samples).run BypassOp.exec s = some ((s.ring.write samples).1, t) ∧
      t.ring = (s.ring.write samples).2 := by
  rw [writeProcessed, Prog.run_call_bind]
  cases henabled : s.publicationEnabled with
  | false =>
    have hring : s.ring.write samples = (true, s.ring) :=
      if_neg (by rw [show s.ring.enabled = false from henabled]; decide)
    rw [if_neg (by rw [show (BypassOp.exec .loadPublication s).1 = false from henabled]; decide),
      hring]
    exact ⟨s, rfl, rfl⟩
  | true =>
    rw [if_pos (show (BypassOp.exec .loadPublication s).1 = true from henabled)]
    change ∃ t, Prog.run _ (if bypassRingCapacity - s.queue.length < samples.length then _
      else _) s = _ ∧ _
    by_cases hroom : samples.length ≤ bypassRingCapacity - s.queue.length
    · have hring : s.ring.write samples =
          (true, { s.ring with queue := s.queue ++ samples.map (⟨s.generation, ·⟩) }) := by
        rw [Ring.write, if_pos (show s.ring.enabled = true from henabled)]
        exact if_pos hroom
      rw [if_neg (Nat.not_lt.mpr hroom), hring]
      -- Behind the pushes there is telemetry only.
      exact ⟨_, Prog.run_bind_of _ (pushAll_alone s.generation samples hroom), rfl⟩
    · have hring : s.ring.write samples = (false, s.ring.resync) := by
        rw [Ring.write, if_pos (show s.ring.enabled = true from henabled)]
        exact if_neg hroom
      rw [if_pos (Nat.lt_of_not_le hroom), hring]
      exact ⟨_, rfl, rfl⟩

/-! ## The loops of the source side

The pops are by induction on the queue or on the number of samples that are still wanted.
-/

/-- A pop from a ring that holds a sample. -/
theorem exec_pop {s : SharedState} {sample : TaggedSample} {rest : List TaggedSample}
    (hqueue : s.queue = sample :: rest) : BypassOp.exec .pop s =
      (some sample, { s with queue := rest, consumed := s.consumed ++ [sample] }) := by
  simp only [BypassOp.exec, hqueue]

/-- What is taken after one pop is taken with it. -/
theorem ring_pop_succ {s : SharedState} {sample : TaggedSample} {rest : List TaggedSample}
    (hqueue : s.queue = sample :: rest) (n : ℕ) :
    Ring.pop ⟨s.generation, s.publicationEnabled, s.consumed ++ [sample], rest⟩ n =
      s.ring.pop (n + 1) := by
  refine Ring.ext rfl rfl ?_ ?_
  · change s.consumed ++ [sample] ++ rest.take n = s.consumed ++ s.queue.take (n + 1)
    rw [hqueue, List.take_succ_cons, List.append_assoc, List.singleton_append]
  · change rest.drop n = s.queue.drop (n + 1)
    rw [hqueue, List.drop_succ_cons]

/-- Stale samples are taken off the front. -/
theorem discardStalePrefix_ring (generation : ℕ) {fuel : ℕ} {s : SharedState}
    (hfuel : s.queue.length < fuel) :
    ∃ t, (discardStalePrefix generation fuel).run BypassOp.exec s = some ((), t) ∧
      t.ring = s.ring.pop (s.queue.takeWhile (·.generation ≠ generation)).length := by
  induction fuel generalizing s with
  | zero => cases hfuel
  | succ fuel ih =>
    have hpeek : BypassOp.exec .peek s = (s.queue.head?, s) := rfl
    rw [discardStalePrefix, Prog.run_call_bind, hpeek]
    rcases hqueue : s.queue with _ | ⟨sample, rest⟩
    · exact ⟨s, rfl, s.ring.pop_zero.symm⟩
    rw [List.head?_cons]
    dsimp only
    -- The first sample that is current ends the loop.
    by_cases hstale : sample.generation ≠ generation
    · rw [if_pos hstale, Prog.run_call_bind, Prog.run_call_bind, exec_pop hqueue,
        List.takeWhile_cons_of_pos (by simpa using hstale)]
      rw [hqueue, List.length_cons] at hfuel
      obtain ⟨t, hrun, hring⟩ := @ih (SharedState.count { s with
        queue := rest, consumed := s.consumed ++ [sample] } .discardedStaleFrames 1)
        (Nat.lt_of_succ_lt_succ hfuel)
      exact ⟨t, hrun, hring.trans (ring_pop_succ hqueue _)⟩
    · rw [if_neg hstale, List.takeWhile_cons_of_neg (by simpa using hstale)]
      exact ⟨s, rfl, s.ring.pop_zero.symm⟩

/-- Everything is taken. -/
theorem discardAll_ring {fuel : ℕ} {s : SharedState} (hfuel : s.queue.length < fuel) :
    ∃ t, (discardAll fuel).run BypassOp.exec s = some ((), t) ∧ t.ring = s.ring.discard := by
  induction fuel generalizing s with
  | zero => cases hfuel
  | succ fuel ih =>
    rw [discardAll, Prog.run_call_bind]
    rcases hqueue : s.queue with _ | ⟨sample, rest⟩
    · have hexec : BypassOp.exec .pop s = (none, s) := by simp only [BypassOp.exec, hqueue]
      have hring : s.ring.discard = s.ring := by
        rw [Ring.discard, show s.ring.queue = [] from hqueue]
        exact s.ring.pop_zero
      rw [hexec, hring]
      exact ⟨s, rfl, rfl⟩
    · -- one sample is popped, and the rest with what is left of the fuel
      rw [hqueue, List.length_cons] at hfuel
      obtain ⟨t, hrun, hring⟩ := @ih (SharedState.count { s with
        queue := rest, consumed := s.consumed ++ [sample] } .discardedStaleFrames 1)
        (Nat.lt_of_succ_lt_succ hfuel)
      rw [exec_pop hqueue]
      have hall : s.ring.discard = s.ring.pop (rest.length + 1) := by
        rw [Ring.discard, show s.ring.queue = _ from hqueue]
        rfl
      rw [hall]
      exact ⟨t, hrun, hring.trans (ring_pop_succ hqueue _)⟩

/-- The pop loop takes a block, or loses what is there of one. -/
theorem popBlock_ring (generation frames : ℕ) (s : SharedState) :
    ∃ t, (popBlock generation frames).run BypassOp.exec s =
        some (if frames ≤ (s.queue.takeWhile (·.generation = generation)).length
          then some (s.queue.take frames) else none, t) ∧
      t.ring = if frames ≤ (s.queue.takeWhile (·.generation = generation)).length
        then s.ring.pop frames
        else s.ring.pop ((s.queue.takeWhile (·.generation = generation)).length + 1) := by
  induction frames generalizing s with
  | zero =>
    rw [if_pos (Nat.zero_le _), if_pos (Nat.zero_le _)]
    exact ⟨s, rfl, s.ring.pop_zero.symm⟩
  | succ frames ih =>
    rw [popBlock, Prog.run_call_bind]
    rcases hqueue : s.queue with _ | ⟨sample, rest⟩
    · -- the ring is empty: nothing is taken, and no block is made
      have hexec : BypassOp.exec .pop s = (none, s) := by simp only [BypassOp.exec, hqueue]
      rw [hexec, List.takeWhile_nil, List.length_nil, if_neg (Nat.not_succ_le_zero _),
        if_neg (Nat.not_succ_le_zero _)]
      refine ⟨s, rfl, Ring.ext rfl rfl ?_ ?_⟩
      · change s.consumed = s.consumed ++ s.queue.take _
        rw [hqueue, List.take_nil, List.append_nil]
      · change s.queue = s.queue.drop _
        rw [hqueue, List.drop_nil]
    rw [exec_pop hqueue]
    dsimp only
    obtain ⟨t, hrun, hring⟩ := ih { s with queue := rest, consumed := s.consumed ++ [sample] }
    dsimp only at hrun hring
    by_cases hfresh : sample.generation = generation
    · rw [if_pos hfresh, List.takeWhile_cons_of_pos (by simpa using hfresh), List.length_cons,
        Prog.run_bind_of _ hrun]
      -- The rest decides, by induction, whether a block is made.
      by_cases henough : frames ≤ (rest.takeWhile (·.generation = generation)).length
      · rw [if_pos henough] at hring ⊢
        rw [if_pos (Nat.succ_le_succ henough), if_pos (Nat.succ_le_succ henough)]
        exact ⟨t, rfl, hring.trans (ring_pop_succ hqueue _)⟩
      · rw [if_neg henough] at hring ⊢
        rw [if_neg (fun h => henough (Nat.le_of_succ_le_succ h)),
          if_neg (fun h => henough (Nat.le_of_succ_le_succ h))]
        exact ⟨t, rfl, hring.trans (ring_pop_succ hqueue _)⟩
    · -- a sample of another generation is taken, too, and ends the loop
      rw [if_neg hfresh, List.takeWhile_cons_of_neg (by simpa using hfresh), List.length_nil,
        if_neg (Nat.not_succ_le_zero _), if_neg (Nat.not_succ_le_zero _)]
      exact ⟨_, rfl, (Ring.pop_zero _).symm.trans (ring_pop_succ hqueue 0)⟩

/-- The pop loop takes the queue's block. -/
theorem popBlock_block (frames : ℕ) (s : SharedState) :
    ∃ t, (popBlock s.generation frames).run BypassOp.exec s =
        some ((s.ring.block frames).1, t) ∧ t.ring = (s.ring.block frames).2 := by
  obtain ⟨t, hrun, hring⟩ := popBlock_ring s.generation frames s
  refine ⟨t, ?_⟩
  rw [hrun, hring]
  by_cases henough : frames ≤ s.ring.fresh
  · have hblock : s.ring.block frames = (some (s.queue.take frames), s.ring.pop frames) :=
      if_pos henough
    rw [hblock]
    exact ⟨congrArg some (Prod.ext (if_pos henough) rfl), if_pos henough⟩
  · have hblock : s.ring.block frames = (none, s.ring.pop (s.ring.fresh + 1)) :=
      if_neg henough
    rw [hblock]
    exact ⟨congrArg some (Prod.ext (if_neg henough) rfl), if_neg henough⟩

/-- A block is as long as the callback that takes it. -/
theorem Ring.length_block (ring : Ring) (frames : ℕ) :
    ∀ samples ∈ (ring.block frames).1, samples.length = frames := by
  intro samples hsamples
  unfold Ring.block at hsamples
  split at hsamples
  · rename_i henough
    cases hsamples
    rw [List.length_take]
    exact Nat.min_eq_left (henough.trans (List.takeWhile_sublist _).length_le)
  · cases hsamples

/-- The values of a block are as many as its samples. -/
theorem length_values {block : Option (List TaggedSample)} {frames : ℕ}
    (hblock : ∀ samples ∈ block, samples.length = frames) :
    ∀ samples ∈ block.map (·.map TaggedSample.value), samples.length = frames := by
  intro samples hsamples
  obtain ⟨block, hmem, rfl⟩ := Option.mem_map.mp hsamples
  rw [List.length_map]
  exact hblock block hmem

/-! ## The calls of the source side -/

/-- **A discard** is the queue's. -/
theorem discardPendingSensitive_ring (out : BypassOutput) {fuel : ℕ} {s : SharedState}
    (hfuel : s.queue.length < fuel) :
    ∃ t, (out.discardPendingSensitive fuel).run BypassOp.exec s = some (out.restartSilent, t) ∧
      t.ring = s.ring.discard := by
  obtain ⟨t, hrun, hring⟩ := discardAll_ring hfuel
  rw [BypassOutput.discardPendingSensitive, Prog.run_bind_of _ hrun]
  exact ⟨_, rfl, hring⟩

/-- **A clear** is the queue's, and a new generation. -/
theorem clearSensitive_ring (out : BypassOutput) {fuel : ℕ} {s : SharedState}
    (hfuel : s.queue.length < fuel) :
    ∃ t, (out.clearSensitive fuel).run BypassOp.exec s =
        some ({ out.restartSilent with generation := s.generation + 1 }, t) ∧
      t.ring = s.ring.resync.discard := by
  obtain ⟨resynced, hresynced⟩ : ∃ resynced : SharedState, resynced =
      { s.count .generationResets 1 with generation := s.generation + 1 } := ⟨_, rfl⟩
  have hresync : requestResync.run BypassOp.exec s = some (s.generation + 1, resynced) := by
    rw [hresynced]
    rfl
  obtain ⟨t, hrun, hring⟩ := discardPendingSensitive_ring out
    (show resynced.queue.length < fuel by rw [hresynced]; exact hfuel)
  have hsame : resynced.ring = s.ring.resync := by rw [hresynced]; rfl
  rw [hsame] at hring
  have hgeneration : t.generation = s.generation + 1 := congrArg Ring.generation hring
  rw [BypassOutput.clearSensitive, Prog.run_bind_of _ hresync, Prog.run_bind_of _ hrun,
    ← hgeneration]
  exact ⟨t, rfl, hring⟩

namespace BypassOutput

variable (sin : F32 → F32)

/-- A program that fills to what the queue's callback leaves. -/
def FillsTo (program : BypassProg (Filled × Rendering)) (s : SharedState)
    (after : BypassOutput × Rendering × Ring) : Prop :=
  ∃ filled t, program.run BypassOp.exec s = some ((filled, after.2.1), t) ∧
    filled.after = after.1 ∧ t.ring = after.2.2 ∧ filled.published = after.2.1.samples sin

/-- Silence. -/
theorem fillSilenceTraced_ring (out : BypassOutput) {frames published : ℕ}
    (hframes : frames ≤ maxCallbackFrames) (hpublished : published ≤ frames) (s : SharedState) :
    FillsTo sin (out.fillSilenceTraced frames published) s (out, .silence published, s.ring) := by
  refine ⟨_, _, rfl, rfl, rfl, ?_⟩
  change (List.replicate frames (.zero : F32)).take (toU16 published) = _
  rw [toU16_of_le (hpublished.trans hframes), List.take_replicate, Nat.min_eq_left hpublished]
  rfl

/-- A block, or the want of one, through the ramp. -/
theorem fillRenderedTraced_ring (out : BypassOutput) {frames : ℕ}
    (hframes : frames ≤ maxCallbackFrames) {block : Option (List TaggedSample)}
    (hblock : ∀ samples ∈ block, samples.length = frames) (s : SharedState) :
    FillsTo sin (out.fillRenderedTraced sin frames block) s
      ({ out with ramp := (out.ramp.process sin (block.map (·.map TaggedSample.value))
          frames).2.2 }, .rendered out.ramp block frames, s.ring) := by
  have hinput := length_values hblock
  have hprocess := FaultRamp.process_eq sin out.ramp hframes hinput
  have hlen := FaultRamp.length_rendering sin out.ramp hinput
  unfold FillsTo fillRenderedTraced fillRendered
  dsimp only
  unfold Rendering.samples
  dsimp only
  rw [hprocess]
  refine ⟨_, _, rfl, rfl, rfl, ?_⟩
  change List.take (toU16 frames) _ = _
  rw [toU16_of_le hframes]
  exact List.take_of_length_le (Nat.le_of_eq hlen)

/-- A fill that first runs another program. -/
theorem FillsTo.bind {α : Type} {first : BypassProg α} {a : α} {s t : SharedState}
    {rest : α → BypassProg (Filled × Rendering)} {after : BypassOutput × Rendering × Ring}
    (hfirst : first.run BypassOp.exec s = some (a, t)) (h : FillsTo sin (rest a) t after) :
    FillsTo sin (first >>= rest) s after := by
  obtain ⟨filled, u, hrun, hfill⟩ := h
  exact ⟨filled, u, (Prog.run_bind_of _ hfirst).trans hrun, hfill⟩

/-- Past the startup gate. -/
theorem fillReadyTraced_ring (out : BypassOutput) {frames : ℕ}
    (hframes : frames ≤ maxCallbackFrames) {s : SharedState}
    (hgeneration : out.generation = s.generation) :
    FillsTo sin (out.fillReadyTraced sin frames) s (s.ring.ready sin out frames) := by
  unfold fillReadyTraced Ring.ready
  split
  · exact fillSilenceTraced_ring sin _ hframes (Nat.le_refl _) s
  obtain ⟨t, hrun, hring⟩ := popBlock_block frames s
  rw [← hgeneration] at hrun
  refine FillsTo.bind sin hrun ?_
  have hlen := s.ring.length_block frames
  generalize s.ring.block frames = taken at hring hlen ⊢
  obtain ⟨block, ring⟩ := taken
  cases block with
  | some samples =>
    -- The history records the block; the ring does not see it.
    have hrecorded : (t.recordBlock
        ⟨out.generation, t.consumed.length - samples.length, samples⟩).ring = ring :=
      (t.ring_recordBlock _).trans hring
    refine FillsTo.bind sin (a := out) rfl ?_
    have hrendered := out.fillRenderedTraced_ring sin hframes hlen
      (t.recordBlock ⟨out.generation, t.consumed.length - samples.length, samples⟩)
    rw [hrecorded] at hrendered
    exact hrendered
  -- Too few samples are left: the channel counts it and moves to the next generation.
  | none =>
    obtain ⟨resynced, hresynced⟩ : ∃ resynced : SharedState, resynced =
      { (t.count .underflows 1).count .generationResets 1 with generation := t.generation + 1 } :=
      ⟨_, rfl⟩
    have hunderflow : resynced.ring = ring.resync := by
      rw [hresynced, ← show t.ring = ring from hring]
      rfl
    have hrendered := fillRenderedTraced_ring sin { out with
      startupReady := false, leadingSilencePending := out.emptyWhileBuffering } hframes hlen
      resynced
    rw [hunderflow] at hrendered
    have hbranch : (out.fillBranch none).run BypassOp.exec t = some ({ out with
        startupReady := false, leadingSilencePending := out.emptyWhileBuffering }, resynced) := by
      rw [hresynced]
      rfl
    exact FillsTo.bind sin hbranch hrendered

/-- From the startup gate on. -/
theorem fillGatedTraced_ring (out : BypassOutput) {frames : ℕ}
    (hframes : frames ≤ maxCallbackFrames) {s : SharedState}
    (hgeneration : out.generation = s.generation) :
    FillsTo sin (out.fillGatedTraced sin frames) s (s.ring.gated sin out frames) := by
  unfold fillGatedTraced Ring.gated
  split
  · exact out.fillReadyTraced_ring sin hframes hgeneration
  refine FillsTo.bind sin (a := s.queue.length) (t := s) rfl ?_
  rw [show s.ring.queue.length = s.queue.length from rfl]
  split
  · refine fillSilenceTraced_ring sin out hframes ?_ s
    split
    · exact Nat.zero_le _
    · exact Nat.le_refl _
  · exact FillsTo.bind sin (t := { s with runs := [] :: s.runs }) rfl
      (fillReadyTraced_ring sin _ hframes hgeneration)

/-- **A fill** is the queue's. -/
theorem fillTraced_ring (out : BypassOutput) {frames fuel : ℕ}
    (hframes : frames ≤ maxCallbackFrames) {s : SharedState} (hfuel : s.queue.length < fuel) :
    FillsTo sin (out.fillTraced sin frames fuel) s (s.ring.fill sin out frames) := by
  -- The output takes over the generation it finds.
  have hsync : out.synchronizeGeneration.run BypassOp.exec (s.count .outputCallbacks 1) =
      some (s.ring.sync out, s.count .outputCallbacks 1) := by
    change (if s.generation ≠ out.generation then
      pure { out.restartSilent with generation := s.generation } else pure out :
        BypassProg BypassOutput).run BypassOp.exec _ = _
    unfold Ring.sync
    split
    · rename_i hmoved
      rw [if_pos (show s.ring.generation ≠ out.generation from hmoved)]
      rfl
    · rename_i hsame
      rw [if_neg (show ¬s.ring.generation ≠ out.generation from hsame)]
      rfl
  have hgeneration : (s.ring.sync out).generation = s.generation := by
    unfold Ring.sync
    split
    · rfl
    · rename_i hsame
      exact (not_not.mp hsame).symm
  -- What is stale is dropped from the front; the rest is current.
  obtain ⟨t, hrun, hring⟩ := discardStalePrefix_ring s.generation
    (show (s.count .outputCallbacks 1).queue.length < fuel from hfuel)
  have hdropped : t.ring = s.ring.pop s.ring.stale := hring
  have hsame : (s.ring.sync out).generation = t.generation :=
    hgeneration.trans (congrArg Ring.generation hdropped).symm
  unfold fillTraced
  refine FillsTo.bind sin (t := s.count .outputCallbacks 1) rfl ?_
  rw [if_neg (Nat.not_lt.mpr hframes)]
  refine FillsTo.bind sin hsync (FillsTo.bind sin (hgeneration ▸ hrun) ?_)
  unfold Ring.fill
  rw [← hdropped]
  exact fillGatedTraced_ring sin _ hframes hsame

end BypassOutput

end Noire
