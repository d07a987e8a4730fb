import Noire.Dsp.Framing
import Noire.Lib.Run

namespace Noire

/-!
# Conservation of samples

Calls of `FrameAssembler.push`, one after another, with everything they emit and return.

* `FramePushes` — the assembler after some calls, the frames it has emitted, and the calls;
* `FramePushes.accepted` — the chunks it took, end to end;
* `FramePushes.Conserved` — each sample it took is in a frame, or waits for the next one;
  `push_rejected` and `push_accepted`: what one call makes of that;
* `frames_conserved` — so over every sequence of calls nothing is lost, repeated or reordered.
-/

/-- A chunk that was pushed, and what `push` returned for it. -/
structure FramePush where
  input : List F32
  result : Except FrameAssemblerError FramePushReport

/-- An assembler in use, and all its caller has seen of it. -/
structure FramePushes where
  assembler : FrameAssembler := .new
  frames : List (List F32) := []
  calls : List FramePush := []

namespace FramePushes

/-- A call of `push` by a caller that keeps every frame. -/
def push (pushes : FramePushes) (input : List F32) : FramePushes :=
  let pushed := Id.run (pushes.assembler.push input
    (fun frames frame => pure (frames ++ [frame])) pushes.frames)
  { assembler := pushed.2.1, frames := pushed.2.2, calls := pushes.calls ++ [⟨input, pushed.1⟩] }

/-- The chunks that `push` has accepted, end to end. -/
def accepted (pushes : FramePushes) : List F32 :=
  (pushes.calls.filter (·.result.isOk)).flatMap (·.input)

/-- What it has reported of them. -/
def reports (pushes : FramePushes) : List FramePushReport :=
  pushes.calls.filterMap (·.result.toOption)

/-- Every sample that was accepted is in a frame, or waits for the next one, and is counted. -/
structure Conserved (pushes : FramePushes) : Prop where
  assembler : pushes.assembler = .holding (pushes.accepted.map sanitized)
  frames : pushes.frames = Lib.blocks modelFrameSamples (pushes.accepted.map sanitized)
  samples : (pushes.reports.map (·.acceptedSamples)).sum = pushes.accepted.length
  emitted : (pushes.reports.map (·.emittedFrames)).sum = pushes.frames.length

/-- **A chunk beyond the boundary is rejected**, and nothing else happens. -/
theorem push_rejected (pushes : FramePushes) {input : List F32}
    (hinput : maxCallbackFrames < input.length) :
    pushes.push input =
      { pushes with calls := pushes.calls ++ [⟨input, .error .quantumTooLarge⟩] } := by
  unfold push
  rw [FrameAssembler.push, if_pos hinput]
  rfl

/-- A caller that keeps every frame keeps the blocks it is given. -/
theorem foldlM_keep (frames blocks : List (List F32)) :
    Id.run (blocks.foldlM (m := Id) (fun frames frame => pure (frames ++ [frame])) frames) =
      frames ++ blocks := by
  induction blocks generalizing frames with
  | nil => exact (List.append_nil frames).symm
  | cons block blocks ih =>
    rw [List.foldlM_cons, pure_bind, ih, List.append_assoc]
    rfl

/-- **A chunk within the boundary is accepted**: it completes the blocks of what waits and what
    is pushed, and reports how many. -/
theorem push_accepted {pushes : FramePushes} {stream : List F32}
    (hassembler : pushes.assembler = .holding stream) {input : List F32}
    (hinput : input.length ≤ maxCallbackFrames) :
    pushes.push input = {
      assembler := .holding (stream ++ input.map sanitized)
      frames := pushes.frames ++ Lib.blocks modelFrameSamples
        (Lib.leftover modelFrameSamples stream ++ input.map sanitized)
      calls := pushes.calls ++ [⟨input, .ok ((FrameAssembler.holding stream).reported input
        { acceptedSamples := input.length })⟩] } := by
  unfold push
  rw [hassembler, FrameAssembler.push_reported _ stream input hinput]
  dsimp only [Id.run_map]
  rw [foldlM_keep]
  rfl

/-- One call keeps the account. -/
theorem Conserved.push {pushes : FramePushes} (h : pushes.Conserved) (input : List F32) :
    (pushes.push input).Conserved := by
  rcases Nat.lt_or_ge maxCallbackFrames input.length with hlong | hshort
  · -- What is rejected is neither in the stream nor in the counts.
    rw [push_rejected pushes hlong]
    have haccepted : accepted { pushes with
        calls := pushes.calls ++ [⟨input, .error .quantumTooLarge⟩] } = pushes.accepted := by
      simp [accepted, Except.isOk, Except.toBool]
    have hreports : reports { pushes with
        calls := pushes.calls ++ [⟨input, .error .quantumTooLarge⟩] } = pushes.reports := by
      simp [reports, Except.toOption]
    refine ⟨?_, ?_, ?_, ?_⟩
    · rw [haccepted]
      exact h.assembler
    · rw [haccepted]
      exact h.frames
    · rw [haccepted, hreports]
      exact h.samples
    · rw [hreports]
      exact h.emitted
  · rw [push_accepted h.assembler hshort]
    generalize hreport : (FrameAssembler.holding (pushes.accepted.map sanitized)).reported input
      { acceptedSamples := input.length } = report
    generalize hafter : FramePushes.mk _ _ _ = after
    have haccepted : after.accepted = pushes.accepted ++ input := by
      simp [← hafter, accepted, Except.isOk, Except.toBool]
    have hreports : after.reports = pushes.reports ++ [report] := by
      simp [← hafter, reports, Except.toOption]
    -- What is appended to a stream meets its leftover only.
    obtain ⟨hblocks, -⟩ := Lib.blocks_append (show 0 < modelFrameSamples by decide)
      (pushes.accepted.map sanitized) (input.map sanitized)
    refine ⟨?_, ?_, ?_, ?_⟩
    · rw [haccepted, List.map_append, ← hafter]
    · rw [haccepted, List.map_append, hblocks, ← h.frames, ← hafter]
    · rw [haccepted, hreports, List.map_append, List.sum_append, h.samples, List.length_append,
        ← hreport]
      rfl
    · have hframes : after.frames.length = pushes.frames.length +
          ((Lib.leftover modelFrameSamples (pushes.accepted.map sanitized)).length +
            input.length) / modelFrameSamples := by
        rw [← hafter, List.length_append, Lib.length_blocks, List.length_append, List.length_map]
      rw [hreports, List.map_append, List.sum_append, h.emitted, hframes, ← hreport]
      show _ + (0 + _) = _
      rw [Nat.zero_add]
      rfl

/-- After every sequence of calls the account holds. -/
theorem conserved (chunks : List (List F32)) : (chunks.foldl push {}).Conserved := by
  refine (Lib.Run.of_foldl push {} chunks).invariant Conserved ⟨rfl, rfl, rfl, rfl⟩ ?_
  rintro pushes input _ h - rfl
  exact h.push input

/-- The calls are of the chunks, in their order. -/
theorem calls_foldl (pushes : FramePushes) (chunks : List (List F32)) :
    (chunks.foldl push pushes).calls.map (·.input) = pushes.calls.map (·.input) ++ chunks :=
  Lib.foldl_log (fun pushes => pushes.calls.map (·.input)) (fun _ _ => List.map_append) pushes
    chunks

end FramePushes

/-- **Conservation.** After every sequence of calls, of chunks of any lengths, the frames emitted
    are the consecutive blocks of what was accepted, sanitized; what waits is the rest of it, fewer
    samples than a frame; the reports add up to both; and a call is rejected exactly if its chunk
    is beyond the boundary, and then nothing changes. -/
theorem frames_conserved (chunks : List (List F32)) :
    let pushes := chunks.foldl FramePushes.push {}
    pushes.calls.map (·.input) = chunks ∧
      pushes.frames = Lib.blocks modelFrameSamples (pushes.accepted.map sanitized) ∧
      pushes.assembler.stored =
        Lib.leftover modelFrameSamples (pushes.accepted.map sanitized) ∧
      pushes.assembler.pendingSamples = pushes.accepted.length % modelFrameSamples ∧
      pushes.assembler.pendingSamples < modelFrameSamples ∧
      (pushes.reports.map (·.acceptedSamples)).sum = pushes.accepted.length ∧
      (pushes.reports.map (·.emittedFrames)).sum = pushes.frames.length ∧
      ∀ input, if maxCallbackFrames < input.length then
          pushes.push input =
            { pushes with calls := pushes.calls ++ [⟨input, .error .quantumTooLarge⟩] }
        else ∃ report, (pushes.push input).calls = pushes.calls ++ [⟨input, .ok report⟩] := by
  intro pushes
  have h : pushes.Conserved := FramePushes.conserved chunks
  refine ⟨FramePushes.calls_foldl {} chunks, h.frames, ?_, ?_, pushes.assembler.pending_lt,
    h.samples, h.emitted, fun input => ?_⟩
  · rw [h.assembler]
    rfl
  · rw [h.assembler]
    show (Lib.leftover _ _).length = _
    rw [Lib.length_leftover, List.length_map]
  · split
    next hlong => exact pushes.push_rejected hlong
    -- A chunk that fits is always accepted.
    next hshort =>
      rw [FramePushes.push_accepted h.assembler (Nat.not_lt.mp hshort)]
      exact ⟨_, rfl⟩

end Noire
