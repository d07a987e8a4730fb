import Mathlib.Data.List.TakeWhile
import Noire.Lib.Run
import Noire.Live.Path

namespace Noire

/-!
# Audio of a paused consumer

A consumer that goes and comes back within the debounce keeps its demand, so that nothing resets
the sink: what its delay and its assembler hold by then was captured without a consumer.

* `LivePath.Cleared` — a source that resumes finds nothing in the sink, and nothing on its own
  side, or finds both about to be cleared;
* `LivePath.Timely` — while the source streams, everything on the path was captured in the
  streaming period, or is about to be cleared;
* `resumed_audio_fresh` — in every run whose resumptions are cleared, what is published at a gain
  was captured in the streaming period that publishes it, or is the silence of the delay;
* `resumed_audio_stale`, a run in which it was captured while the source was paused.

Every sample on the path carries the streaming period that it was captured in, or none if the
source was not streaming then.  `Timely` is the invariant: while the source streams, the sink and
the source's side hold samples of this period only, or are about to be cleared.  A demand that
begins asks for a new generation of the input, which clears the sink, and a pause leaves a command
that clears the source's side.  A warm resumption asks for neither, so it has to find the sink
empty, which is what `Cleared` assumes.

The second half of the module computes.  A frame that is captured in two parts is followed from
its first samples to what is published of them, in a run whose pause leaves nothing in the sink,
and in one whose pause is when the first part is captured.
-/

variable {σ : Type}

namespace LivePath

/-- A source that resumes while its consumer still counts finds nothing captured in the sink,
    and nothing on its own side, or finds both about to be cleared; and a generation of the
    input is left for one that comes anew. -/
def Cleared (model : Denoiser σ) (path : LivePath σ) : LivePathEvent σ → Prop
  | .sourceChanged change _ => change = .streaming → ¬path.Streaming →
    path.graph.demand = .active →
      (path.captureGeneration ≠ path.graph.capture.generationCommand ∨ path.held model = []) ∧
        (path.graph.source.audioCommand ≠ .none ∨
          path.feed.shared.queue = [] ∧ path.out.ramp.gainStep = 0)
  | .serviceDemand _ _ => path.Streaming → path.graph.demand = .idle →
    path.graph.capture.generationCommand < u64Max
  | .capture _ _ _ _ => True
  | .source _ => True

/-- Captured in a period of the source, or not captured at all. -/
def Current (period : ℕ) (origin : Option Captured) : Prop :=
  ∀ captured ∈ origin, captured.period = some period

/-- What holds of a path whose resumptions are cleared: while the source streams, the sink and the
    source's side hold what was captured in this period, or are about to be cleared. -/
structure Timely (model : Denoiser σ) (path : LivePath σ) : Prop where
  sink : path.Streaming → path.graph.demand = .active →
    path.captureGeneration = path.graph.capture.generationCommand →
      ∀ captured ∈ path.held model, captured.period = some path.period
  source : path.graph.source.audioCommand = .none → path.Holds (fun _ => False) ∨
    (path.graph.demand = .active ∧ path.Holds (Current path.period))
  fresh : ∀ sample ∈ path.published, sample.Fresh

/-- A change of the source's state. -/
theorem Timely.sourceChanged {model : Denoiser σ} {path : LivePath σ} (h : path.Timely model)
    (hsound : path.Sound model) {change : StreamChange} {now : ℕ}
    (hcleared : path.Cleared model (.sourceChanged change now)) :
    (path.sourceChanged change now).Timely model := by
  have hdemand : (path.sourceChanged change now).graph.demand = path.graph.demand :=
    path.graph.source.control.stateChanged_demand change now
  refine ⟨fun hstreaming hactive hsame => ?_, fun hnone => ?_, h.fresh⟩
  · rw [hdemand] at hactive
    obtain rfl := (path.streaming_sourceChanged change now).mp hstreaming
    by_cases hbefore : path.Streaming
    · have hperiod : (path.sourceChanged .streaming now).period = path.period :=
        if_neg fun hboth => hboth.2 hbefore
      rw [hperiod]
      exact h.sink hbefore hactive hsame
    · -- A transition: the sink is cleared.
      rcases (hcleared rfl hbefore hactive).1 with hreset | hempty
      · exact absurd hsame hreset
      · intro captured hcaptured
        have hcaptured : captured ∈ path.held model := hcaptured
        rw [hempty] at hcaptured
        cases hcaptured
  · rcases h.source hnone with hdrained | ⟨hactive, hcurrent⟩
    · exact .inl ⟨hdrained.coherent, hdrained.length, hdrained.queued, hdrained.last⟩
    by_cases htransition : change = .streaming ∧ ¬path.Streaming
    · -- A transition: the source's side is cleared.
      rcases (hcleared htransition.1 htransition.2 hactive).2 with hpending | ⟨hempty, hsilent⟩
      · exact absurd hnone hpending
      · exact .inl (.drained _ hempty hsound.length hsound.coherent hsilent)
    · have hperiod : (path.sourceChanged change now).period = path.period := if_neg htransition
      refine .inr ⟨hdemand.trans hactive, ?_⟩
      rw [hperiod]
      exact ⟨hcurrent.coherent, hcurrent.length, hcurrent.queued, hcurrent.last⟩

/-- A demand poll. -/
theorem Timely.serviceDemand {model : Denoiser σ} {path : LivePath σ} (h : path.Timely model)
    (hsound : path.Sound model) {now : ℕ} {setActive : Native}
    (hcleared : path.Cleared model (.serviceDemand now setActive)) {graph : LiveGraph}
    (hnext : (GraphCall.serviceDemand now setActive).next path.graph = some graph) :
    ({ path with graph, owed := false } : LivePath σ).Timely model := by
  obtain ⟨hstate, hpolled⟩ := GraphCall.next_polled hnext
  cases hpolled with
  | activated hstreaming hidle hactive hpending hgeneration =>
    refine ⟨fun _ _ hsame => ?_, fun hnone => absurd hnone hpending, h.fresh⟩
    -- The new generation is another one.
    have hroom := hcleared hstreaming hidle
    have hbehind := hsound.behind
    have hsame : path.captureGeneration = graph.capture.generationCommand := hsame
    unfold saturatingAdd at hgeneration
    omega
  | deactivated hpaused hpending _ =>
    exact ⟨fun hstreaming => absurd (hstate.symm.trans hstreaming) hpaused,
      fun hnone => absurd hnone hpending, h.fresh⟩
  | unchanged _ hdemand hcommand hgeneration =>
    refine ⟨fun hstreaming hactive hsame => ?_, fun hnone => ?_, h.fresh⟩
    · exact h.sink (hstate.symm.trans hstreaming) (hdemand.symm.trans hactive)
        (hsame.trans hgeneration)
    · rcases hcommand with hpending | hkept
      · exact absurd hnone hpending
      · rcases h.source (hkept.symm.trans hnone) with hdrained | ⟨hactive, hcurrent⟩
        · exact .inl hdrained
        · exact .inr ⟨hdemand.trans hactive, hcurrent⟩

/-- A capture callback. -/
theorem Timely.capture {model : Denoiser σ} {path path' : LivePath σ} (h : path.Timely model)
    (hsound : path.Sound model) {parameters : AtomicParameters} {samples : Option (List F32)}
    {clock : ℕ → ModelClock} {initial : σ}
    (hpaced : path.Paced (.capture parameters samples clock initial))
    (hcapture : path.capture model parameters samples clock initial = some path') :
    path'.Timely model := by
  have hactive : path.Streaming → path.graph.demand = .active := fun hstreaming =>
    hsound.demanded hstreaming hpaced.1
  obtain ⟨live, feed, stream, hrun, -, hgrown, hheld⟩ := hsound.capture parameters samples clock
    initial hpaced.2
    (Q := fun captured => path.Streaming → captured.period = some path.period)
    (fun hsame captured hcaptured hstreaming =>
      h.sink hstreaming (hactive hstreaming) hsame.symm captured hcaptured)
    (fun captured hperiod hstreaming => hperiod.trans (if_pos hstreaming))
  obtain rfl := Option.some.inj (hrun.symm.trans hcapture)
  refine ⟨fun hstreaming _ _ captured hcaptured => hheld captured hcaptured hstreaming,
    fun hnone => ?_, h.fresh⟩
  by_cases hstreaming : path.Streaming
  · refine .inr ⟨hactive hstreaming, ?_⟩
    have hcurrent : path.Holds (Current path.period) := by
      rcases h.source hnone with hdrained | ⟨-, hcurrent⟩
      · exact ⟨hdrained.coherent, hdrained.length, fun origin horigin =>
          (hdrained.queued origin horigin).elim, fun hgain => (hdrained.last hgain).elim⟩
      · exact hcurrent
    exact Held.grown hcurrent (hgrown.mono fun origin horigin captured hcaptured =>
      horigin captured hcaptured hstreaming)
  · -- Publication is disabled, and nothing is pushed.
    have hoff : path.feed.shared.publicationEnabled = false := by
      rw [← Bool.not_eq_true, hsound.enabled]
      exact hstreaming
    have hnothing := hgrown.disabled hoff
    rcases h.source hnone with hdrained | ⟨hactive, hcurrent⟩
    · exact .inl (Held.grown hdrained (hnothing _))
    · exact .inr ⟨hactive, Held.grown hcurrent (hnothing _)⟩

/-- A source callback. -/
theorem Timely.serveBuffers {model : Denoiser σ} (sin : F32 → F32) {path path' : LivePath σ}
    (h : path.Timely model) (hsound : path.Sound model) {buffers : List SourceBuffer}
    (hserve : path.serveBuffers sin buffers = some path') : path'.Timely model := by
  -- What the source's side holds, after the command if there is one, is nothing or current.
  obtain ⟨P, hP, hholds, hfresh⟩ : ∃ P : Option Captured → Prop,
      (path.graph.source.audioCommand = .none → path.Holds P) ∧
      (∀ path' : LivePath σ, path'.graph.demand = path.graph.demand →
        path'.period = path.period → path'.Holds P → path'.Holds (fun _ => False) ∨
          (path'.graph.demand = .active ∧ path'.Holds (Current path'.period))) ∧
      ∀ origin, P origin → Current path.period origin := by
    by_cases hdrained : path.graph.source.audioCommand = .none → path.Holds fun _ => False
    · exact ⟨_, hdrained, fun _ _ _ hholds => .inl hholds, fun _ hnot => hnot.elim⟩
    · obtain ⟨hnone, hnot⟩ := Classical.not_imp.mp hdrained
      obtain ⟨hactive, hcurrent⟩ := (h.source hnone).resolve_left hnot
      refine ⟨Current path.period, fun _ => hcurrent, fun path' hdemand hperiod hholds => ?_,
        fun _ => id⟩
      rw [hperiod]
      exact .inr ⟨hdemand.trans hactive, hholds⟩
  obtain ⟨path'', hrun, hserved⟩ := serveBuffers_served sin hsound.length hP buffers
  obtain rfl := Option.some.inj (hrun.symm.trans hserve)
  obtain ⟨⟨out, shared, last, made, rfl, hmade⟩, -, -, hafter⟩ := hserved
  refine ⟨h.sink, fun _ => hholds _ rfl rfl hafter, List.forall_mem_append.mpr ⟨h.fresh, ?_⟩⟩
  intro sample hsample hstep
  obtain ⟨hperiod, hmeets⟩ := hmade sample hsample
  rw [hperiod]
  exact hfresh _ (hmeets hstep)

/-- **One event** whose resumption is cleared keeps a path timely. -/
theorem Timely.step {model : Denoiser σ} (sin : F32 → F32) {path path' : LivePath σ}
    (h : path.Timely model) (hsound : path.Sound model) {event : LivePathEvent σ}
    (hpaced : path.Paced event) (hcleared : path.Cleared model event)
    (hstep : path.step sin model event = some path') : path'.Timely model := by
  cases event with
  | sourceChanged change now =>
    obtain rfl := Option.some.inj hstep
    exact h.sourceChanged hsound hcleared
  | serviceDemand now setActive =>
    obtain ⟨graph, hnext, rfl⟩ := Option.map_eq_some_iff.mp hstep
    exact h.serviceDemand hsound hcleared hnext
  | capture parameters samples clock initial => exact h.capture hsound hpaced hstep
  | source buffers => exact h.serveBuffers sin hsound hstep

end LivePath

/-! ## Runs -/

/-- A connected path is sound and timely. -/
theorem LivePath.connect_timely {model : Denoiser σ} {initial : σ} {sink : LiveCaptureSink σ}
    {shared : SharedState} {out : BypassOutput}
    (hnew : createLiveChannel model initial = .ok (sink, shared, out)) (targetNodeName : String)
    (meterMonitoring : Bool) (setActive : Native) (strength : StrengthRamp) :
    (connect targetNodeName meterMonitoring setActive { sink with strength } shared out).Sound
        model ∧
      (connect targetNodeName meterMonitoring setActive { sink with strength } shared out).Timely
        model := by
  obtain ⟨hsink, rfl, rfl⟩ : LiveCaptureSink.new model initial = .ok sink ∧
      createProcessedChannel.1 = shared ∧ createProcessedChannel.2 = out := by
    unfold createLiveChannel at hnew
    split at hnew
    · cases hnew
    · rename_i hsink
      cases hnew
      exact ⟨hsink, rfl, rfl⟩
  obtain ⟨hclean, hposition, hstored, haligned, hpublished⟩ := LiveCaptureSink.new_latched hsink
  -- A meter reserves a generation; the source's state is what it was.
  obtain ⟨graph, hgraph⟩ : ∃ graph, graph =
    ((LiveGraph.connected targetNodeName).setMeterMonitoring meterMonitoring setActive).2 :=
    ⟨_, rfl⟩
  have hstate : graph.source.control.streamState = .unconnected ∧
      initialGeneration ≤ graph.capture.generationCommand ∧
      graph.capture.generationCommand ≤ u64Max := by
    rw [hgraph]
    have hfirst : initialGeneration ≤ initialGeneration ∧ initialGeneration ≤ u64Max := by decide
    have hsecond : initialGeneration ≤ saturatingAdd u64Max initialGeneration 1 ∧
        saturatingAdd u64Max initialGeneration 1 ≤ u64Max := by decide
    cases meterMonitoring with
    | false => exact ⟨rfl, hfirst⟩
    | true => cases setActive <;> exact ⟨rfl, hsecond⟩
  -- Nothing streams yet, so there is no period to be late in.
  have hpaused : ¬graph.source.control.streamState = .streaming := by
    rw [hstate.1]
    decide
  unfold connect
  rw [← hgraph]
  refine ⟨⟨iff_of_false Bool.false_ne_true hpaused, ⟨hclean, hposition, hstored,
      ⟨haligned.inBounds, haligned.queue⟩, hpublished⟩, .nil, hstate.2.1, hstate.2.2,
      fun hstreaming => absurd hstreaming hpaused, FaultRamp.new.resetSilent_coherent⟩,
    ⟨fun hstreaming => absurd hstreaming hpaused, fun _ => .inl ?_, nofun⟩⟩
  exact .drained _ rfl rfl FaultRamp.new.resetSilent_coherent rfl

/-- **Audio of a paused consumer.** In every run at strength zero, with the meter on or off, in
    which a poll stands between every change of the source's state and the next callback, and in
    which a source that resumes while its consumer still counts finds the path cleared: what is
    published at a gain was captured while the source was streaming, and since it last began to. -/
theorem resumed_audio_fresh (sin : F32 → F32) {model : Denoiser σ} {initial : σ}
    {sink : LiveCaptureSink σ} {shared : SharedState} {out : BypassOutput}
    (hnew : createLiveChannel model initial = .ok (sink, shared, out)) (targetNodeName : String)
    (meterMonitoring : Bool) (setActive : Native) (strength : StrengthRamp)
    {events : List (LivePathEvent σ)} {path : LivePath σ}
    (h : Lib.Run (fun path event path' => LivePath.step sin model path event = some path')
      (fun path event => path.Paced event ∧ path.Cleared model event)
      (.connect targetNodeName meterMonitoring setActive { sink with strength } shared out)
      events path) :
    (∀ sample ∈ path.published, sample.Fresh) ∧
      List.Forall₂ Stems path.feed.shared.pushed path.feed.origins := by
  obtain ⟨hsound, htimely⟩ : path.Sound model ∧ path.Timely model := by
    refine h.invariant (fun path => path.Sound model ∧ path.Timely model)
      (LivePath.connect_timely hnew targetNodeName meterMonitoring setActive strength) ?_
    intro path event path' hpath hmeets hstep
    exact ⟨hpath.1.step sin hmeets.1 hstep,
      hpath.2.step sin hpath.1 hmeets.1 hmeets.2 hstep⟩
  exact ⟨htimely.fresh, hsound.traced⟩

open LivePath

/-! ## A frame that is captured in two parts

The frame is followed symbolically, since it has hundreds of samples: `Poised` describes the path
that waits for the rest of the frame, `Listening` the path once the frame is in the ring.  Both
leave open in which period the first samples were captured, and so serve both runs.
-/

/-- A ring of one generation has nothing stale, and is fresh throughout. -/
theorem Ring.current {ring : Ring}
    (h : ∀ sample ∈ ring.queue, sample.generation = ring.generation) :
    ring.stale = 0 ∧ ring.fresh = ring.queue.length := by
  unfold stale fresh
  refine ⟨?_, congrArg List.length (List.takeWhile_eq_self_iff.mpr fun sample hsample => ?_)⟩
  · cases hqueue : ring.queue with
    | nil => rfl
    | cons sample rest =>
      have hsame : sample.generation = ring.generation := h sample (hqueue ▸ List.mem_cons_self)
      rw [List.takeWhile_cons_of_neg (by simpa using hsame)]
      rfl
  · simpa using h sample hsample

/-- With its generation and nothing stale, a callback goes straight to the startup gate. -/
theorem Ring.fill_current (sin : F32 → F32) {ring : Ring} {out : BypassOutput}
    (h : ∀ sample ∈ ring.queue, sample.generation = ring.generation)
    (hgeneration : ring.generation = out.generation) (frames : ℕ) :
    ring.fill sin out frames = ring.gated sin out frames := by
  unfold fill
  rw [(Ring.current h).1, pop_zero, sync, if_neg (not_not.mpr hgeneration)]

/-- Samples that complete a frame send it through, if nothing is in the way. -/
theorem LivePath.capture_block {σ : Type} {model : Denoiser σ} {path : LivePath σ}
    (h : path.Sound model)
    (hsame : path.graph.capture.generationCommand = path.captureGeneration)
    (samples : List F32) (hlen : path.stream.length + samples.length =
      path.feed.position + modelFrameSamples) (hbounded : samples.length ≤ maxCallbackFrames)
    (parameters : AtomicParameters)
    (clock : ℕ → ModelClock) (initial : σ)
    (hhealthy : path.live.sink.failed = false) (hok : model.AlwaysOk)
    (hon : path.feed.shared.publicationEnabled = true)
    (hroom : modelFrameSamples ≤ bypassRingCapacity - path.feed.shared.queue.length) :
    ∃ live shared stream, ∃ block : List F32,
      path.capture model parameters (some samples) clock initial = some { path with
        live, stream
        feed := path.feed.advance model.descriptor.delaySamples stream shared } ∧
      stream = path.stream ++ capturedIn path.streamingPeriod (samples.map sanitized) ∧
      block.length = modelFrameSamples ∧ shared.ring = { path.feed.shared.ring with
        queue := path.feed.shared.queue ++ block.map (⟨path.feed.shared.generation, ·⟩) } := by
  obtain ⟨stream, hstream⟩ : ∃ stream, stream =
    path.stream ++ capturedIn path.streamingPeriod (samples.map sanitized) := ⟨_, rfl⟩
  have hvalues : stream.map Captured.value =
      path.stream.map Captured.value ++ (samples.map sanitized).map sanitized := by
    rw [hstream, List.map_append, capturedIn_value, map_sanitized_sanitized]
  -- The samples that are pending and the new ones are one frame, and nothing is left over.
  obtain ⟨hclean, hn, hpending, haligned⟩ :=
    h.latched.entered parameters (samples.map sanitized)
  rw [← hvalues] at hclean hn hpending haligned
  have hfull : path.feed.position + modelFrameSamples ≤ (stream.map Captured.value).length := by
    rw [hvalues, List.length_append, List.length_map, List.length_map, List.length_map, hlen]
  have hblock : ((stream.map Captured.value).drop path.feed.position).length =
      modelFrameSamples := by
    rw [List.length_drop, hvalues, List.length_append, List.length_map, List.length_map,
      List.length_map, hlen, Nat.add_sub_cancel_left]
  have hframe : ((stream.map Captured.value).drop path.feed.position).take modelFrameSamples =
      (stream.map Captured.value).drop path.feed.position := by
    rw [← hblock, List.take_length]
  obtain ⟨-, -, hfailed, -⟩ :=
    TimedCaptureSink.enter_keeps parameters path.live.sink (samples.map sanitized)
  obtain ⟨after, shared, block, hfeeding, hlength, hring⟩ := haligned.feeding_pushed clock hclean
    hfull (hfailed.trans hhealthy) (hok _ _ (by rw [hframe, hblock]) fun x hx =>
      hclean x (List.mem_of_mem_drop (List.mem_of_mem_take hx))) hon hroom
  rw [hframe] at hfeeding
  have hcut : Lib.blocks modelFrameSamples ((stream.map Captured.value).drop path.feed.position) =
      [(stream.map Captured.value).drop path.feed.position] := by
    have hone := Lib.blocks_block_append (by decide) hblock []
    rwa [List.append_nil] at hone
  -- So the loop of the callback is one round.
  obtain ⟨live, hwrite⟩ : ∃ live, (path.live.write (TimedCaptureSink.feeding model clock stream)
      parameters (samples.map sanitized)).run path.feed =
        some (live, path.feed.advance model.descriptor.delaySamples stream shared) := by
    rw [TimedCaptureSink.write_eq _ parameters path.live
      (by rw [List.length_map]; exact hbounded), hpending, hcut, StateT.run_map,
      List.foldlM_cons, funext fun _ => List.foldlM_nil, bind_pure]
    change ∃ live, _ <$> TimedCaptureSink.feeding model clock stream _ _ path.feed = _
    rw [hfeeding]
    exact ⟨_, rfl⟩
  refine ⟨live, shared, stream, block, ?_, hstream, hlength, hring⟩
  unfold LivePath.capture LivePath.synchronizeGeneration
  rw [if_pos hsame, Option.bind_eq_bind, Option.bind_some]
  dsimp only
  rw [if_neg (Nat.not_lt.mpr hbounded), sanitizeBuffer_fst, ← hstream, hwrite]
  rfl

instance (ramp : StrengthRamp) : Decidable ramp.SettledAtZero :=
  inferInstanceAs (Decidable (_ ∧ _))

instance {σ : Type} (path : LivePath σ) : DecidablePred path.Paced
  | .sourceChanged _ _ => .isTrue trivial
  | .serviceDemand _ _ => .isTrue trivial
  | .capture _ _ _ _ => inferInstanceAs (Decidable (_ ∧ _))
  | .source _ => inferInstanceAs (Decidable (_ = false))

/-- An echo without a delay. -/
def undelayed : Denoiser Unit :=
  { echo with descriptor := { echo.descriptor with delaySamples := 0 } }

/-- Its sink, at strength zero. -/
def undelayedSink : LiveCaptureSink Unit where
  model := ()
  assembler := .new
  dryDelay := ⟨[], 0⟩
  strength := .new .zero

/-- The path of the echo as it is connected. -/
def connected : LivePath Unit :=
  .connect "mic" false (.ok ()) undelayedSink createProcessedChannel.1 createProcessedChannel.2

theorem createLiveChannel_undelayed : createLiveChannel undelayed () =
    .ok ({ undelayedSink with strength := .new .one }, createProcessedChannel.1,
      createProcessedChannel.2) := rfl

/-- Where events lead that all meet a condition. -/
def reached (C : LivePath Unit → LivePathEvent Unit → Prop) [∀ path, DecidablePred (C path)]
    (events : List (LivePathEvent Unit)) : Option (LivePath Unit) :=
  events.foldlM (fun path event =>
    if C path event then LivePath.step taylorSine undelayed path event else none) connected

/-- What is computed of it holds at the end of a run. -/
theorem run_reached {C : LivePath Unit → LivePathEvent Unit → Prop}
    [∀ path, DecidablePred (C path)] (events : List (LivePathEvent Unit)) (P : LivePath Unit → Bool)
    (h : (reached C events).any P = true) : ∃ path,
      Lib.Run (fun path event path' => LivePath.step taylorSine undelayed path event = some path') C
        connected events path ∧ P path = true := by
  obtain ⟨path, hreached, hP⟩ := Option.any_eq_true _ _ |>.mp h
  refine ⟨path, Lib.Run.of_foldlM _ (fun path event path' hstep => ?_) hreached, hP⟩
  split at hstep
  · rename_i hmeets
    exact ⟨hmeets, hstep⟩
  · cases hstep

/-- The source's side before its first samples. -/
def waiting : BypassOutput := { createProcessedChannel.2 with generation := 3 }

/-- Four samples, all captured in one period of the source or in none, are in the assembler of a
    sink that is well, and that nothing resets; the transport is empty, and in use. -/
structure Poised (captured : Option ℕ) (period : ℕ) (path : LivePath Unit) : Prop where
  healthy : path.live.sink.failed = false
  position : path.feed.position = 0
  stream : path.stream = .replicate 4 ⟨.one, captured⟩
  generation : path.feed.shared.generation = 3
  enabled : path.feed.shared.publicationEnabled = true
  consumed : path.feed.shared.consumed = []
  queue : path.feed.shared.queue = []
  origins : path.feed.origins = []
  command : path.graph.source.audioCommand = .none
  owed : path.owed = false
  same : path.graph.capture.generationCommand = path.captureGeneration
  zero : (path.live.sink.loadParameters { enabled := false }).strength.SettledAtZero
  out : path.out = waiting
  periods : path.period = period

instance (captured : Option ℕ) (period : ℕ) : DecidablePred (Poised captured period) := fun path =>
  decidable_of_iff (path.live.sink.failed = false ∧ path.feed.position = 0 ∧
      path.stream = .replicate 4 ⟨.one, captured⟩ ∧ path.feed.shared.generation = 3 ∧
      path.feed.shared.publicationEnabled = true ∧ path.feed.shared.consumed = [] ∧
      path.feed.shared.queue = [] ∧ path.feed.origins = [] ∧
      path.graph.source.audioCommand = .none ∧ path.owed = false ∧
      path.graph.capture.generationCommand = path.captureGeneration ∧
      (path.live.sink.loadParameters { enabled := false }).strength.SettledAtZero ∧
      path.out = waiting ∧ path.period = period)
    ⟨fun ⟨h₁, h₂, h₃, h₄, h₅, h₆, h₇, h₈, h₉, h₁₀, h₁₁, h₁₂, h₁₃, h₁₄⟩ =>
        ⟨h₁, h₂, h₃, h₄, h₅, h₆, h₇, h₈, h₉, h₁₀, h₁₁, h₁₂, h₁₃, h₁₄⟩,
      fun ⟨h₁, h₂, h₃, h₄, h₅, h₆, h₇, h₈, h₉, h₁₀, h₁₁, h₁₂, h₁₃, h₁₄⟩ =>
        ⟨h₁, h₂, h₃, h₄, h₅, h₆, h₇, h₈, h₉, h₁₀, h₁₁, h₁₂, h₁₃, h₁₄⟩⟩

/-- And when it starts up: the reserve is there, and its leading silence is out. -/
def started : BypassOutput := { waiting with
  startupReady := true
  ramp := waiting.ramp.beginRecovery
  leadingSilencePending := false }

/-- A frame in the ring is the reserve: it is published after the leading silence. -/
theorem fill_started (sin : F32 → F32) {block : List F32}
    (hlen : block.length = modelFrameSamples) :
    Ring.fill sin ⟨3, true, [], block.map (⟨3, ·⟩)⟩
        waiting 4 =
      (started, .silence 4, ⟨3, true, [], block.map (⟨3, ·⟩)⟩) ∧
    ∃ out, Ring.fill sin ⟨3, true, [], block.map (⟨3, ·⟩)⟩ started 4 =
      (out, .rendered started.ramp (some ((block.map (⟨3, ·⟩)).take 4)) 4,
        Ring.pop ⟨3, true, [], block.map (⟨3, ·⟩)⟩ 4) := by
  -- The samples of the block are all of the current generation.
  obtain ⟨ring, hring⟩ : ∃ ring : Ring, ring = ⟨3, true, [], block.map (⟨3, ·⟩)⟩ := ⟨_, rfl⟩
  have hcurrent : ∀ sample ∈ ring.queue, sample.generation = ring.generation := by
    rw [hring]
    exact List.forall_mem_map.mpr fun _ _ => rfl
  have hqueue : ring.queue.length = modelFrameSamples := by
    rw [hring]
    exact (List.length_map ..).trans hlen
  rw [← hring]
  refine ⟨?_, ?_⟩
  · -- the first fill starts the output and is silent itself
    rw [Ring.fill_current sin hcurrent (by rw [hring]; rfl)]
    unfold Ring.gated
    rw [if_neg (show ¬waiting.startupReady = true from Bool.false_ne_true), hqueue,
      if_neg (show ¬modelFrameSamples < waiting.startupRequired 4 by decide)]
    rfl
  · rw [Ring.fill_current sin hcurrent (by rw [hring]; rfl)]
    unfold Ring.gated
    rw [if_pos (show started.startupReady = true from rfl)]
    -- The second takes its frames off the block.
    unfold Ring.ready
    have henough : 4 ≤ ring.fresh := by
      rw [(Ring.current hcurrent).2, hqueue]
      decide
    have hblock : ring.block 4 = (some (ring.queue.take 4), ring.pop 4) := if_pos henough
    rw [if_neg (show ¬(started.emptyWhileBuffering && started.leadingSilencePending) = true from
      Bool.false_ne_true), hblock]
    dsimp only
    rw [hring]
    exact ⟨_, rfl⟩

/-- A mapped buffer of four samples is filled. -/
theorem serveBuffer_four {σ : Type} (sin : F32 → F32) {path : LivePath σ}
    (hnone : path.graph.source.audioCommand = .none) :
    path.serveBuffer sin (.mapped 0 16) = path.fill sin 4 := by
  unfold LivePath.serveBuffer LivePath.applyAudioCommand
  dsimp only
  rw [if_neg (by decide), hnone]
  rfl

/-- The first step of the startup ramp is a gain. -/
theorem published_started {block : List (Option Captured)} {origin : Option Captured}
    (h : block.head? = some origin) (period : ℕ) (last : Option Captured) 
    (samples : List TaggedSample) :
    ⟨1, origin, period⟩ ∈ Rendering.published period block last
      (.rendered started.ramp (some samples) 4) := by
  obtain ⟨rest, hrest⟩ : ∃ rest, block = origin :: rest := List.head?_eq_some_iff.mp h
  obtain ⟨steps, hsteps⟩ : ∃ steps,
      (Rendering.rendered started.ramp (some samples) 4).steps = 1 :: steps := ⟨_, rfl⟩
  unfold Rendering.published Rendering.origins
  dsimp only
  rw [hsteps, hrest]
  exact List.mem_cons_self

/-- The samples that complete the frame. -/
def completing : LivePathEvent Unit :=
  .capture { enabled := false } (some (.replicate 508 .one)) (fun _ => {}) ()

/-- What the source finds then: a frame in the ring, whose first sample is one of the four, and
    nothing left in the sink. -/
structure Listening (captured : Option ℕ) (period : ℕ) (path : LivePath Unit) : Prop where
  ring : ∃ block : List F32, block.length = modelFrameSamples ∧
    path.feed.shared.ring = ⟨3, true, [], block.map (⟨3, ·⟩)⟩
  origins : path.feed.origins.head? = some (some ⟨.one, captured⟩)
  out : path.out = waiting
  command : path.graph.source.audioCommand = .none
  owed : path.owed = false
  periods : path.period = period
  held : path.held undelayed = []

/-- The rest of the frame sends the four samples through. -/
theorem Poised.completing {captured : Option ℕ} {period : ℕ} {path : LivePath Unit}
    (h : Poised captured period path) (hsound : path.Sound undelayed) :
    ∃ path', LivePath.step taylorSine undelayed path completing = some path' ∧
      path'.graph = path.graph ∧ Listening captured period path' := by
  have hring : path.feed.shared.ring = ⟨3, true, [], []⟩ :=
    Ring.ext h.generation h.enabled h.consumed h.queue
  obtain ⟨live, shared, stream, block, hcapture, hlonger, hlen, hpushed⟩ :=
    capture_block hsound h.same (.replicate 508 .one)
      (by rw [h.stream, h.position, List.length_replicate, List.length_replicate]; rfl)
      (by rw [List.length_replicate]; decide) { enabled := false } (fun _ => {}) () h.healthy
      (fun _ _ _ _ => rfl) h.enabled (by rw [h.queue]; decide)
  have hfull : shared.ring = ⟨3, true, [], block.map (⟨3, ·⟩)⟩ := by
    rw [hpushed, hring, h.queue, h.generation]
    rfl
  refine ⟨_, hcapture, rfl, ⟨block, hlen, hfull⟩, ?_, h.out, h.command, h.owed, h.periods, ?_⟩
  · have hpushes : shared.pushed.length - path.feed.shared.pushed.length = modelFrameSamples := by
      have hbefore : path.feed.shared.pushed = [] := congrArg Ring.pushed hring
      have hafter : shared.pushed = block.map (⟨3, ·⟩) := congrArg Ring.pushed hfull
      rw [hbefore, hafter, List.length_map, hlen]
      rfl
    unfold Feed.advance
    dsimp only
    rw [h.origins, hpushes, h.position, List.nil_append, List.head?_map, List.head?_range,
      if_neg (by decide), hlonger, h.stream]
    rfl
  · -- The frame took all that was captured, and there is no delay.
    have hlength : stream.length = modelFrameSamples := by
      rw [hlonger, h.stream, List.length_append, capturedIn, List.length_map, List.length_map,
        List.length_replicate, List.length_replicate]
      rfl
    unfold LivePath.held Feed.advance
    dsimp only
    rw [h.position]
    exact List.drop_eq_nil_of_le (Nat.le_of_eq hlength)

/-- A buffer of the source stream for four samples, twice. -/
def twoBuffers : LivePathEvent Unit := .source [.mapped 0 16, .mapped 0 16]

/-- Two buffers publish the leading silence, and then the four samples. -/
theorem Listening.published {captured : Option ℕ} {period : ℕ} {path : LivePath Unit}
    (h : Listening captured period path) :
    ∃ path', LivePath.step taylorSine undelayed path twoBuffers = some path' ∧
      (path'.graph = path.graph ∧ path'.period = period ∧ path'.held undelayed = []) ∧
      ⟨1, some ⟨.one, captured⟩, period⟩ ∈ path'.published := by
  obtain ⟨block, hlen, hring⟩ := h.ring
  obtain ⟨hsilence, out, hrendered⟩ := fill_started taylorSine hlen
  rw [← hring, ← h.out] at hsilence
  obtain ⟨t, ht, hfirst⟩ := path.fill_ring taylorSine (by decide) hsilence
  -- The first buffer is silence: the path after it is named, since the second starts from it.
  obtain ⟨silent, hsilent⟩ : ∃ silent : LivePath Unit, silent = { path with
    out := started
    feed.shared := t
    last := (Rendering.silence 4).lastOrigin
      (latest path.feed.origins path.feed.shared.ring.consumed.length 4) path.last
    published := path.published ++ Rendering.published path.period
      (latest path.feed.origins path.feed.shared.ring.consumed.length 4) path.last
        (.silence 4) } := ⟨_, rfl⟩
  have hsilentRing : silent.feed.shared.ring = ⟨3, true, [], block.map (⟨3, ·⟩)⟩ := by
    rw [hsilent, ← hring]
    exact ht
  have hsilentOut : silent.out = started := by rw [hsilent]
  have hsilentNone : silent.graph.source.audioCommand = .none := by
    rw [hsilent]
    exact h.command
  have hsilentPeriod : silent.period = period := by
    rw [hsilent]
    exact h.periods
  have hsilentOrigins : silent.feed.origins.head? = some (some ⟨.one, captured⟩) := by
    rw [hsilent]
    exact h.origins
  have hsilentKept : silent.graph = path.graph ∧ silent.period = period ∧
      silent.held undelayed = [] := by
    rw [hsilent]
    exact ⟨rfl, h.periods, h.held⟩
  rw [← hsilentRing, ← hsilentOut] at hrendered
  -- The second buffer takes its four samples from the ring.
  obtain ⟨u, -, hsecond⟩ := silent.fill_ring taylorSine (by decide) hrendered
  unfold LivePath.step twoBuffers LivePath.serveBuffers LivePath.applyAudioCommand
  dsimp only
  rw [h.command, Option.bind_eq_bind, Option.bind_some, List.foldlM_cons,
    serveBuffer_four taylorSine h.command, hfirst, Option.bind_eq_bind, Option.bind_some,
    ← hsilent, List.foldlM_cons, serveBuffer_four taylorSine hsilentNone, hsecond,
    Option.bind_eq_bind, Option.bind_some, List.foldlM_nil]
  refine ⟨_, rfl, hsilentKept, List.mem_append_right _ ?_⟩
  have hplace : (silent.feed.shared.ring.pop 4).consumed.length = 4 := by
    rw [hsilentRing]
    simp [Ring.pop, hlen, modelFrameSamples]
  rw [hsilentOut, hsilentPeriod, hplace]
  refine published_started ?_ _ _ _
  rw [latest, Nat.sub_self, List.drop_zero, List.head?_take, if_neg (by decide)]
  exact hsilentOrigins

/-! ## A consumer that comes back

In the first run the samples are captured and published while the source streams, and it pauses
afterwards.  In the second they are captured while it is paused.
-/

/-- A consumer that comes, and four samples for it. -/
def arriving : List (LivePathEvent Unit) :=
  [.sourceChanged .streaming 0, .serviceDemand 0 (.ok ()),
    .capture { enabled := false } (some (.replicate 4 .one)) (fun _ => {}) (), .source []]

/-- The graph that it finds. -/
def arrivedGraph : LiveGraph where
  targetNodeName := "mic"
  capture := { active := true, generationCommand := 2 }
  source :=
    { control := { streamState := .streaming, demand := .active }
      publicationEnabled := true }

/-- The same graph once the consumer is gone, and the owner thread has seen it. -/
def pausedGraph : LiveGraph :=
  { arrivedGraph with source :=
      { control := { streamState := .paused, demand := .active, idleSince := some 0 }
        audioCommand := .discard } }

/-- The rest of the frame, two buffers that publish some of it, and a pause that leaves nothing in
    the sink, and the owner thread sees: the resumption is cleared. -/
def resuming : List (LivePathEvent Unit) :=
  arriving ++ [completing] ++ [twoBuffers] ++ [.sourceChanged .paused 0] ++
    [.serviceDemand 0 (.ok ())] ++ [.sourceChanged .streaming 0]

instance {model : Denoiser σ} (path : LivePath σ) : DecidablePred (path.Cleared model)
  | .sourceChanged _ _ => inferInstanceAs (Decidable (_ → _ → _ → _ ∧ _))
  | .serviceDemand _ _ => inferInstanceAs (Decidable (_ → _ → _))
  | .capture _ _ _ _ => .isTrue trivial
  | .source _ => .isTrue trivial

/-- The first sample is published at a gain, in the period that it was captured in, and all that is
    published is fresh. -/
theorem resumed_audio_fresh_arriving : ∃ path,
    Lib.Run (fun path event path' => LivePath.step taylorSine undelayed path event = some path')
      (fun path event => path.Paced event ∧ path.Cleared undelayed event) connected resuming path ∧
    ⟨1, some ⟨.one, some 1⟩, 1⟩ ∈ path.published ∧ path.period = 2 ∧
    ∀ sample ∈ path.published, sample.Fresh := by
  obtain ⟨path, hrun, hpath⟩ := run_reached
    (C := fun path event => path.Paced event ∧ path.Cleared undelayed event) arriving
    (fun path => decide (Poised (some 1) 1 path ∧ path.graph = arrivedGraph)) (by decide +kernel)
  -- One more frame completes the block, and the next fill hears it.
  obtain ⟨hpoised, hgraph⟩ := of_decide_eq_true hpath
  have hsound : path.Sound undelayed :=
    hrun.invariant (fun path => path.Sound undelayed)
      (connect_timely createLiveChannel_undelayed "mic" false (.ok ()) (.new .zero)).1
      fun _ _ _ hpath hmeets hstep => hpath.step taylorSine hmeets.1 hstep
  obtain ⟨filled, hfilled, hfilledGraph, hlistening⟩ := hpoised.completing hsound
  obtain ⟨served, hserved, ⟨hservedGraph, hperiod, hheld⟩, hmem⟩ := hlistening.published
  have hsame : served.graph = arrivedGraph := (hservedGraph.trans hfilledGraph).trans hgraph
  -- The owner thread's poll finds the consumer gone, within the debounce.
  obtain ⟨gone, hgone⟩ : ∃ gone, gone = served.sourceChanged .paused 0 := ⟨_, rfl⟩
  have hgoneGraph : gone.graph = { arrivedGraph with
      source := arrivedGraph.source.stateChanged .paused 0 } := by
    rw [hgone, ← hsame]
    rfl
  have hnext : (GraphCall.serviceDemand 0 (.ok ())).next gone.graph = some pausedGraph := by
    rw [hgoneGraph]
    decide
  obtain ⟨polled, hpolled⟩ : ∃ polled, polled = { gone with graph := pausedGraph, owed := false } :=
    ⟨_, rfl⟩
  have hpoll : LivePath.step taylorSine undelayed gone (.serviceDemand 0 (.ok ())) =
      some polled := by
    show ((GraphCall.serviceDemand 0 (.ok ())).next gone.graph).map _ = _
    rw [hnext, hpolled]
    rfl
  have hrun : Lib.Run (fun path event path' => LivePath.step taylorSine undelayed path event =
      some path') (fun path event => path.Paced event ∧ path.Cleared undelayed event) connected
      resuming (polled.sourceChanged .streaming 0) := by
    -- The resume is warm, and cleared: nothing of the old period is held.
    refine .snoc (.snoc (.snoc (.snoc (.snoc hrun ⟨⟨hpoised.owed, hpoised.zero⟩, trivial⟩ hfilled)
      ⟨hlistening.owed, trivial⟩ hserved) ⟨trivial, nofun⟩ (hgone ▸ rfl))
      ⟨trivial, fun hstreaming => ?_⟩ hpoll) ⟨trivial, fun _ _ _ => ⟨.inr ?_, .inl ?_⟩⟩ rfl
    · have hstreaming : gone.graph.source.control.streamState = .streaming := hstreaming
      rw [hgoneGraph] at hstreaming
      cases hstreaming
    · rw [hpolled, hgone]
      exact hheld
    · rw [hpolled]
      nofun
  refine ⟨_, hrun, ?_, ?_, (resumed_audio_fresh taylorSine createLiveChannel_undelayed "mic" false
    (.ok ()) (.new .zero) hrun).1⟩
  · rw [hpolled, hgone]
    exact hmem
  · rw [hpolled, hgone]
    exact congrArg (· + 1) hperiod

/-- A consumer that comes and goes, four samples without it, and the consumer back within the
    debounce. -/
def returning : List (LivePathEvent Unit) :=
  [.sourceChanged .streaming 0, .serviceDemand 0 (.ok ()), .sourceChanged .paused 0,
    .serviceDemand 0 (.ok ()),
    .capture { enabled := false } (some (.replicate 4 .one)) (fun _ => {}) (),
    .sourceChanged .streaming 0, .serviceDemand 0 (.ok ()), .source []]

/-- **Stale audio.** The four samples that were captured while the source was paused are
    published, at a gain, in the streaming period that follows. -/
theorem resumed_audio_stale : ¬ ∀ {σ : Type} {model : Denoiser σ} {initial : σ}
    {sink : LiveCaptureSink σ} {shared : SharedState} {out : BypassOutput},
    createLiveChannel model initial = .ok (sink, shared, out) →
    ∀ (targetNodeName : String) (meterMonitoring : Bool) (setActive : Native)
      (strength : StrengthRamp) (events : List (LivePathEvent σ)) (path : LivePath σ),
    Lib.Run (fun path event path' => LivePath.step taylorSine model path event = some path')
      (fun path event => path.Paced event)
      (.connect targetNodeName meterMonitoring setActive { sink with strength } shared out)
      events path → ∀ sample ∈ path.published, sample.Fresh := by
  intro hall
  obtain ⟨path, hrun, hpath⟩ := run_reached (C := fun path event => path.Paced event) returning
    (fun path => decide (Poised none 2 path)) (by decide +kernel)
  have hpoised := of_decide_eq_true hpath
  have hsound : path.Sound undelayed :=
    hrun.invariant (fun path => path.Sound undelayed)
      (connect_timely createLiveChannel_undelayed "mic" false (.ok ()) (.new .zero)).1
      fun _ _ _ hpath hpaced hstep => hpath.step taylorSine hpaced hstep
  obtain ⟨filled, hfilled, -, hlistening⟩ := hpoised.completing hsound
  obtain ⟨served, hserved, -, hmem⟩ := hlistening.published
  have hpaced : path.Paced completing := ⟨hpoised.owed, hpoised.zero⟩
  have hpaced' : filled.Paced twoBuffers := hlistening.owed
  have hfresh := hall createLiveChannel_undelayed "mic" false (.ok ()) (.new .zero) _ served
    (.snoc (.snoc hrun hpaced hfilled) hpaced' hserved) _ hmem
  cases hfresh (by decide) _ rfl

end Noire
