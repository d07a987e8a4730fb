import Noire.Dsp.Framing
import Noire.Lib.Run

namespace Noire

/-!
# Exact delay

Calls of `DryDelay.process`, one after another, each into a buffer of its caller.

* `DryDelay.processInto` — `process`, with the buffer and the line that it leaves, also where it
  refuses; `processInto_eq`: it is `process`;
* `DelayUse` — a line after some calls, and what each of them has left;
* `DelayUse.Delayed` — what came out and what is in flight are the zeros of the delay and what
  went in; `Delayed.process`: one call keeps that;
* `stream_delayed` — so over every sequence of calls the line is an exact delay, which a refused
  call does not move and a reset makes new.

`process` of `Dsp/Framing.lean` returns new values; the calls here share a line and write into
buffers, also when they refuse.  A use keeps all that went in and out, end to end, and the law is
about these two lists: the output is the zeros of the delay followed by the input, as far as it
has come, and the line holds the difference.
-/

namespace DryDelay

/-! ## One call, in place -/

/-- The loop of `process` without a delay: as far as there is input and output. -/
def copyInto : List F32 → List F32 → SanitizeReport → List F32 × SanitizeReport
  | source :: input, _ :: output, report =>
    let sample := sanitizeSample source report
    let others := copyInto input output sample.2
    (sample.1 :: others.1, others.2)
  | _, output, report => (output, report)

/-- The loop of `process` over a nonempty line: as far as there is input and output. -/
def delayInto (delay : DryDelay) : List F32 → List F32 → SanitizeReport →
    List F32 × DryDelay × SanitizeReport
  | source :: input, _ :: output, report =>
    let destination := delay.storage.getD delay.position .zero
    let sample := sanitizeSample source report
    let position := delay.position + 1
    let next : DryDelay := {
      storage := delay.storage.set delay.position sample.1
      position := if position = delay.storage.length then 0 else position }
    let others := next.delayInto input output sample.2
    (destination :: others.1, others.2)
  | _, output, report => (output, delay, report)

/-- `DryDelay::process`, with what it leaves in the output and in the line. -/
def processInto (delay : DryDelay) (input output : List F32) :
    Except DryDelayError SanitizeReport × List F32 × DryDelay :=
  if input.length ≠ output.length then (.error .shapeMismatch, output, delay)
  else if maxCallbackFrames < input.length then (.error .quantumTooLarge, output, delay)
  else if delay.storage.isEmpty then
    let copied := copyInto input output {}
    (.ok copied.2, copied.1, delay)
  else
    let delayed := delay.delayInto input output {}
    (.ok delayed.2.2, delayed.1, delayed.2.1)

/-- An output as long as the input is overwritten. -/
theorem copyInto_eq {input output : List F32} (h : input.length = output.length)
    (report : SanitizeReport) : copyInto input output report = sanitizeAll input report := by
  induction input generalizing output report with
  | nil =>
    obtain rfl := List.length_eq_zero_iff.mp h.symm
    rfl
  | cons source input ih =>
    cases output with
    | nil => cases h
    | cons _ output =>
      rw [copyInto, sanitizeAll, ih (Nat.succ.inj h)]

theorem delayInto_eq {input output : List F32} (h : input.length = output.length)
    (delay : DryDelay) (report : SanitizeReport) :
    delay.delayInto input output report = delay.processAll input report := by
  induction input generalizing output delay report with
  | nil =>
    obtain rfl := List.length_eq_zero_iff.mp h.symm
    rfl
  | cons source input ih =>
    cases output with
    | nil => cases h
    | cons _ output =>
      rw [delayInto, processAll, ih (Nat.succ.inj h)]

/-- In place, `process` does what it does. -/
theorem processInto_eq (delay : DryDelay) (input output : List F32) :
    delay.processInto input output =
      match delay.process input output.length with
      | .ok (report, out, delay') => (.ok report, out, delay')
      | .error error => (.error error, output, delay) := by
  unfold processInto process
  by_cases hshape : input.length = output.length
  · rw [if_neg (not_not.mpr hshape), if_neg (not_not.mpr hshape)]
    by_cases hlong : maxCallbackFrames < input.length
    · rw [if_pos hlong, if_pos hlong]
    · rw [if_neg hlong, if_neg hlong, copyInto_eq hshape, delayInto_eq hshape]
      split <;> rfl
  · rw [if_pos hshape, if_pos hshape]

/-- The delay counts what it replaces as it comes in. -/
theorem processAll_report (delay : DryDelay) (input : List F32) (report : SanitizeReport) :
    (delay.processAll input report).2.2 = (sanitizeAll input report).2 := by
  induction input generalizing delay report with
  | nil => rfl
  | cons source input ih => exact ih _ _

/-- Whatever the delay, what is reported is what was replaced. -/
theorem process_report {delay delay' : DryDelay} {input out : List F32} {frames : ℕ}
    {report : SanitizeReport} (h : delay.process input frames = .ok (report, out, delay')) :
    report = (sanitizeAll input {}).2 := by
  unfold process at h
  split at h
  · cases h
  · split at h
    · cases h
    · split at h
      · exact (congrArg Prod.fst (Except.ok.inj h)).symm
      · exact (congrArg Prod.fst (Except.ok.inj h)).symm.trans (processAll_report ..)

end DryDelay

/-! ## Calls

A use of the line with what every call was given and what it answered.
-/

/-- A call of `process`: the input, and the output as its caller left it. -/
structure DelayCall where
  input : List F32
  output : List F32

/-- The calls that `process` accepts. -/
def DelayCall.Fits (call : DelayCall) : Prop :=
  call.input.length = call.output.length ∧ call.input.length ≤ maxCallbackFrames

instance (call : DelayCall) : Decidable call.Fits := inferInstanceAs (Decidable (_ ∧ _))

/-- A call that was made, what `process` returned, and what it left in the output. -/
structure DelayAnswer where
  call : DelayCall
  result : Except DryDelayError SanitizeReport
  output : List F32

/-- A line in use, and all its caller has seen of it. -/
structure DelayUse where
  line : DryDelay
  answers : List DelayAnswer := []

namespace DelayUse

/-- A call of `process`. -/
def process (use : DelayUse) (call : DelayCall) : DelayUse :=
  let processed := use.line.processInto call.input call.output
  { line := processed.2.2
    answers := use.answers ++ [⟨call, processed.1, processed.2.1⟩] }

/-- The calls that were accepted. -/
def accepted (use : DelayUse) : List DelayAnswer := use.answers.filter (·.result.isOk)

/-- What went in, end to end. -/
def inputs (use : DelayUse) : List F32 := use.accepted.flatMap (·.call.input)

/-- What came out, end to end. -/
def outputs (use : DelayUse) : List F32 := use.accepted.flatMap (·.output)

/-- What came out and what is in flight are the zeros of the delay, and what went in. -/
structure Delayed (delaySamples : ℕ) (use : DelayUse) : Prop where
  inBounds : use.line.InBounds
  length : use.outputs.length = use.inputs.length
  stream : use.outputs ++ use.line.queue =
    .replicate delaySamples .zero ++ use.inputs.map sanitized

/-- **A refused call** leaves the line and the output as they are. -/
theorem process_refused (use : DelayUse) {call : DelayCall} (h : ¬call.Fits) :
    ∃ error, use.process call =
      { use with answers := use.answers ++ [⟨call, .error error, call.output⟩] } := by
  unfold process DryDelay.processInto
  by_cases hshape : call.input.length = call.output.length
  · have hlong : maxCallbackFrames < call.input.length :=
      Nat.not_le.mp fun hle => h ⟨hshape, hle⟩
    rw [if_neg (not_not.mpr hshape), if_pos hlong]
    exact ⟨_, rfl⟩
  · rw [if_pos hshape]
    exact ⟨_, rfl⟩

/-- **An accepted call** takes from the samples in flight, and what it was given joins them. -/
theorem process_accepted {use : DelayUse} (hin : use.line.InBounds) {call : DelayCall}
    (h : call.Fits) :
    ∃ line : DryDelay, line.InBounds ∧
      line.queue = (use.line.queue ++ call.input.map sanitized).drop call.input.length ∧
      use.process call = {
        line
        answers := use.answers ++ [⟨call, .ok (sanitizeAll call.input {}).2,
          (use.line.queue ++ call.input.map sanitized).take call.input.length⟩] } := by
  obtain ⟨report, line, hprocess, hqueue, hin'⟩ := use.line.process_eq hin call.input h.2
  refine ⟨line, hin', hqueue, ?_⟩
  unfold process
  rw [DryDelay.processInto_eq, ← h.1, hprocess, DryDelay.process_report hprocess]

/-- One call keeps the delay. -/
theorem Delayed.process {delaySamples : ℕ} {use : DelayUse} (h : use.Delayed delaySamples)
    (call : DelayCall) : (use.process call).Delayed delaySamples := by
  by_cases hfits : call.Fits
  · obtain ⟨line, hin, hqueue, hprocess⟩ := process_accepted h.inBounds hfits
    rw [hprocess]
    -- What comes out is the front of what was in flight and what went in; the rest stays.
    generalize hout : (use.line.queue ++ call.input.map sanitized).take call.input.length = out
    generalize hafter : DelayUse.mk _ _ = after
    have hinputs : after.inputs = use.inputs ++ call.input := by
      simp [← hafter, inputs, accepted, Except.isOk, Except.toBool]
    have houtputs : after.outputs = use.outputs ++ out := by
      simp [← hafter, outputs, accepted, Except.isOk, Except.toBool]
    have hlength : out.length = call.input.length := by
      rw [← hout, List.length_take, List.length_append, List.length_map]
      omega
    refine ⟨?_, ?_, ?_⟩
    · rw [← hafter]
      exact hin
    · rw [houtputs, hinputs, List.length_append, List.length_append, h.length, hlength]
    · have hline : after.line.queue =
          (use.line.queue ++ call.input.map sanitized).drop call.input.length := by
        rw [← hafter]
        exact hqueue
      calc after.outputs ++ after.line.queue
          = use.outputs ++ (use.line.queue ++ call.input.map sanitized) := by
            rw [houtputs, hline, ← hout, List.append_assoc, List.take_append_drop]
        _ = .replicate delaySamples .zero ++ (use.inputs.map sanitized ++
              call.input.map sanitized) := by
            rw [← List.append_assoc, h.stream, List.append_assoc]
        _ = .replicate delaySamples .zero ++ after.inputs.map sanitized := by
            rw [hinputs, List.map_append]
  · -- What is refused neither goes in nor comes out.
    obtain ⟨error, hprocess⟩ := use.process_refused hfits
    have hinputs : (use.process call).inputs = use.inputs := by
      simp [hprocess, inputs, accepted, Except.isOk, Except.toBool]
    have houtputs : (use.process call).outputs = use.outputs := by
      simp [hprocess, outputs, accepted, Except.isOk, Except.toBool]
    have hline : (use.process call).line = use.line := by rw [hprocess]
    refine ⟨?_, ?_, ?_⟩
    · rw [hline]
      exact h.inBounds
    · rw [houtputs, hinputs]
      exact h.length
    · rw [houtputs, hinputs, hline]
      exact h.stream

/-- After every sequence of calls on a new line. -/
theorem delayed {delaySamples : ℕ} {line : DryDelay} (hnew : DryDelay.new delaySamples = .ok line)
    (calls : List DelayCall) : (calls.foldl process { line }).Delayed delaySamples := by
  obtain ⟨hqueue, hin⟩ := DryDelay.new_queue hnew
  refine (Lib.Run.of_foldl process { line } calls).invariant (Delayed delaySamples)
    ⟨hin, rfl, ?_⟩ ?_
  · rw [← hqueue]
    exact (List.append_nil _).symm
  · rintro use call _ h - rfl
    exact h.process call

/-- The calls are those that were made, in their order. -/
theorem calls_foldl (use : DelayUse) (calls : List DelayCall) :
    (calls.foldl process use).answers.map (·.call) = use.answers.map (·.call) ++ calls :=
  Lib.foldl_log (fun use => use.answers.map (·.call)) (fun _ _ => List.map_append) use calls

/-- As many samples are in flight as the line delays by. -/
theorem Delayed.length_line {delaySamples : ℕ} {use : DelayUse} (h : use.Delayed delaySamples) :
    use.line.delaySamples = delaySamples := by
  have hstream := congrArg List.length h.stream
  rw [List.length_append, List.length_append, List.length_map, List.length_replicate, h.length,
    DryDelay.length_queue h.inBounds] at hstream
  omega

end DelayUse

/-- **The delay is exact.** For every delay up to the boundary, and every sequence of calls, of
    inputs of any lengths into outputs of any lengths: what the accepted calls put out is the zeros
    of the delay and then what they were given, sanitized, as far as they were given any; a call is
    refused exactly if its shape or size does not fit, and then the line and the output are as
    before; and a reset makes the line what it was when new. -/
theorem stream_delayed {delaySamples : ℕ} (h : delaySamples ≤ maxDryDelaySamples) :
    ∃ line, DryDelay.new delaySamples = .ok line ∧ ∀ calls : List DelayCall,
      let use := calls.foldl DelayUse.process { line }
      use.answers.map (·.call) = calls ∧
        use.outputs = (.replicate delaySamples .zero ++ use.inputs.map sanitized).take
          use.inputs.length ∧
        (∀ call : DelayCall, if call.Fits then
            ∃ output, output.length = call.output.length ∧ (use.process call).answers =
              use.answers ++ [⟨call, .ok (sanitizeAll call.input {}).2, output⟩]
          else ∃ error, use.process call =
            { use with answers := use.answers ++ [⟨call, .error error, call.output⟩] }) ∧
        use.line.reset = line := by
  have hnew : DryDelay.new delaySamples = .ok ⟨.replicate delaySamples .zero, 0⟩ :=
    if_neg (Nat.not_lt.mpr h)
  refine ⟨_, hnew, fun calls => ?_⟩
  intro use
  have hdelayed : use.Delayed delaySamples := DelayUse.delayed hnew calls
  refine ⟨DelayUse.calls_foldl _ calls, ?_, fun call => ?_, ?_⟩
  · rw [← hdelayed.stream, ← hdelayed.length, List.take_left]
  · split
    -- An accepted call puts out as many samples as it takes in.
    next hfits =>
      obtain ⟨line, -, -, hprocess⟩ := DelayUse.process_accepted hdelayed.inBounds hfits
      refine ⟨_, ?_, congrArg DelayUse.answers hprocess⟩
      rw [List.length_take, List.length_append, List.length_map, ← hfits.1]
      omega
    next hfits => exact use.process_refused hfits
  · unfold DryDelay.reset
    rw [show use.line.storage.length = delaySamples from hdelayed.length_line]

/-- Three samples late: a call that fits, and one into an output that is too short. -/
theorem stream_delayed_three : ∃ line, DryDelay.new 3 = .ok line ∧
    ([⟨[.one, .one, .nan, .one], [.one, .one, .one, .one]⟩, ⟨[.one], []⟩].foldl
      DelayUse.process { line }).outputs = [.zero, .zero, .zero, .one] := by
  obtain ⟨line, hnew, hcalls⟩ := stream_delayed (show 3 ≤ maxDryDelaySamples by decide)
  cases hnew
  exact ⟨_, rfl, (hcalls _).2.1.trans (by decide)⟩

end Noire
