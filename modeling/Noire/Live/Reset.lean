import Noire.Live.Latch

namespace Noire

/-!
# What a reset forgets

After a reset, a live sink hands over what a new one would.  Nothing of the audio before it is
heard again, nor of a failure; and what the sink measures of itself is not heard at all.

* `LiveCaptureSink.audio` — a sink without what it publishes of itself;
  `audio_processFrameParts`: a frame makes of it what it makes of any sink of the same audio;
* `Alike` — two sinks in use that are heard as one; `Alike.write`: a callback keeps them so;
* `LiveEvent.heard` — an event without the clock and the watchdog's policy;
  `LiveRun.Continues` — a run that is heard as another one from some time on;
* `reset_forgets` — so a run after a reset is heard as that of a new sink, which starts with the
  strength and the parameters that the reset finds.

A reset leaves the model at a given state: that of a new instance, by the adapters' own resets.

Two sinks are compared that differ in their past.  What is heard of a sink are its signal state,
its latch and its parameters; the counters, the watchdog and the published state are not.  So the
sinks are compared without these, and the relation is kept by every callback, because what is
heard of a frame depends on the audio of the sink alone.
-/

variable {σ : Type}

/-! ## The audio of a sink

Its counters and its telemetry left out, what remains of a sink decides all that it will ever
publish.
-/

namespace LiveCaptureSink

/-- A sink without what it publishes of itself. -/
def audio (sink : LiveCaptureSink σ) : LiveCaptureSink σ := { sink with shared := {} }

/-- Sinks of one audio differ in their counters only. -/
theorem eq_of_audio {sink sink' : LiveCaptureSink σ} (h : sink.audio = sink'.audio) :
    ∃ shared, sink' = { sink with shared } := by
  refine ⟨sink'.shared, ?_⟩
  cases sink
  cases sink'
  unfold audio at h
  cases h
  rfl

/-- Loading the parameters reads no counter. -/
theorem audio_loadParameters (parameters : AtomicParameters) {sink sink' : LiveCaptureSink σ}
    (h : sink.audio = sink'.audio) :
    (sink.loadParameters parameters).audio = (sink'.loadParameters parameters).audio := by
  obtain ⟨shared, rfl⟩ := eq_of_audio h
  unfold loadParameters
  dsimp only
  split
  · rfl
  · split <;> rfl

/-- But for the parameters, a callback begins by counting. -/
theorem audio_enter (parameters : AtomicParameters) {sink sink' : LiveCaptureSink σ}
    (h : sink.audio = sink'.audio) (samples : List F32) :
    (sink.enter parameters samples).audio = (sink'.enter parameters samples).audio := by
  have hcounted : ∀ counted counted' : LiveCounters,
      ({ sink with shared := counted } : LiveCaptureSink σ).audio =
        ({ sink' with shared := counted' } : LiveCaptureSink σ).audio := fun _ _ => h
  exact audio_loadParameters parameters (hcounted _ _)

section Frame

variable {m : Type → Type} [Monad m] [LawfulMonad m] (writeProcessed : List F32 → m Bool)

/-- A failed path publishes its dry frame whatever it has counted. -/
theorem audio_failOpen {sink sink' : LiveCaptureSink σ} (h : sink.audio = sink'.audio)
    (dry : List F32) :
    audio <$> sink.failOpen writeProcessed dry = audio <$> sink'.failOpen writeProcessed dry := by
  obtain ⟨shared, rfl⟩ := eq_of_audio h
  by_cases hopen : sink.parameters.failMode = .opened
  · have hopen' : ({ sink with shared } : LiveCaptureSink σ).parameters.failMode = .opened := hopen
    rw [failOpen_opened hopen, failOpen_opened hopen', ← comp_map, ← comp_map]
    congr 1
    funext accepted
    cases accepted <;> rfl
  · rw [failOpen, if_neg hopen, failOpen, if_neg hopen, map_pure, map_pure]
    rfl

/-- **A frame** makes of the audio of a sink what it makes of the audio of any sink like it. -/
theorem audio_processFrameParts (model : Denoiser σ) {sink sink' : LiveCaptureSink σ}
    (h : sink.audio = sink'.audio) (frame : List F32) :
    audio <$> sink.processFrameParts writeProcessed model frame =
      audio <$> sink'.processFrameParts writeProcessed model frame := by
  obtain ⟨shared, rfl⟩ := eq_of_audio h
  unfold processFrameParts
  dsimp only
  rcases sink.dryDelay.process frame modelFrameSamples with error | ⟨report, dry, dryDelay⟩
  · dsimp only
    rw [map_pure, map_pure]
    rfl
  -- From here on the two differ in their counters again.
  have hcounted : (countSanitized { sink with dryDelay } report).audio =
      (countSanitized { sink with dryDelay, shared } report).audio := rfl
  dsimp only
  generalize countSanitized { sink with dryDelay } report = counted at hcounted ⊢
  generalize countSanitized { sink with dryDelay, shared } report = counted' at hcounted ⊢
  obtain ⟨shared', rfl⟩ := eq_of_audio hcounted
  dsimp only
  by_cases hfailed : counted.failed = true
  · rw [if_pos hfailed, if_pos hfailed]
    exact audio_failOpen writeProcessed hcounted dry
  rw [if_neg hfailed, if_neg hfailed]
  rcases (model.processFrame counted.model frame).2 with error | wet
  · refine audio_failOpen writeProcessed ?_ dry
    rfl
  · -- The two sinks mix with one strength, so they hand over one block.
    dsimp only [mixFrame]
    rw [← comp_map, ← comp_map]
    congr 1
    funext accepted
    cases accepted <;> rfl

end Frame

end LiveCaptureSink

namespace TimedCaptureSink

/-- The watchdog is not heard. -/
theorem audio_watched (clock : ℕ → ModelClock) (t : TimedCaptureSink σ) (frame : List F32) :
    (t.watched clock frame).sink.audio = t.sink.audio := by
  unfold watched
  split
  · obtain ⟨state, -, hsink⟩ := t.observeDeadline_sink clock
    rw [hsink]
    rfl
  · rfl

/-- **A frame through the timed sink**, whatever the clock shows of it. -/
theorem audio_processFrameParts {m : Type → Type} [Monad m] [LawfulMonad m]
    (writeProcessed : List F32 → m Bool) (model : Denoiser σ) (clock clock' : ℕ → ModelClock)
    {t t' : TimedCaptureSink σ} (h : t.sink.audio = t'.sink.audio) (frame : List F32) :
    (·.sink.audio) <$> t.processFrameParts writeProcessed model clock frame =
      (·.sink.audio) <$> t'.processFrameParts writeProcessed model clock' frame := by
  rw [processFrameParts_eq, processFrameParts_eq, ← comp_map, ← comp_map]
  refine LiveCaptureSink.audio_processFrameParts writeProcessed model ?_ frame
  rw [audio_watched, audio_watched, h]

/-- Two sinks, each with what it has handed over, that are heard as one: they are of one audio,
    were handed the same blocks, and their transports go on to answer the same. -/
structure Alike (t t' : TimedCaptureSink σ × Publications σ) : Prop where
  audio : t.1.sink.audio = t'.1.sink.audio
  accepts : t.2.accepts = t'.2.accepts
  blocks : t.2.made.map (·.block) = t'.2.made.map (·.block)

/-- The blocks of what is made of a frame. -/
theorem map_block (made : List (Publication σ)) (sink : LiveCaptureSink σ) (position : ℕ)
    (frame : List F32) (blocks : List (List F32)) :
    (made ++ blocks.map fun block => (⟨sink, position, frame, block⟩ : Publication σ)).map
      (·.block) = made.map (·.block) ++ blocks := by
  rw [List.map_append, List.map_map]
  exact congrArg (made.map (·.block) ++ ·) (List.map_id blocks)

/-- One frame. -/
theorem Alike.publishing {t t' : TimedCaptureSink σ × Publications σ} (h : Alike t t')
    (model : Denoiser σ) (clock clock' : ℕ → ModelClock) (frame : List F32) :
    Alike (t.1.publishing model clock frame t.2) (t'.1.publishing model clock' frame t'.2) := by
  obtain ⟨t, log⟩ := t
  obtain ⟨t', log'⟩ := t'
  obtain ⟨haudio, haccepts, hblocks⟩ := h
  dsimp only at haudio haccepts hblocks ⊢
  have hframe := congrArg (·.run ⟨log.accepts, []⟩)
    (audio_processFrameParts attempt model clock clock' haudio frame)
  rw [StateT.run_map, StateT.run_map] at hframe
  unfold TimedCaptureSink.publishing
  rw [haccepts] at hframe ⊢
  generalize (t.processFrameParts attempt model clock frame).run ⟨log'.accepts, []⟩ = made
    at hframe ⊢
  generalize (t'.processFrameParts attempt model clock' frame).run ⟨log'.accepts, []⟩ = made'
    at hframe ⊢
  obtain ⟨after, tape⟩ := made
  obtain ⟨after', tape'⟩ := made'
  obtain ⟨haudio', rfl⟩ : after.sink.audio = after'.sink.audio ∧ tape = tape' :=
    Prod.mk.inj hframe
  -- The blocks are noted with the sinks they were made by, which count differently.
  refine ⟨haudio', rfl, ?_⟩
  dsimp only
  rw [map_block, map_block, hblocks]

/-- The frames of a callback, one after the other. -/
theorem Alike.foldlM {t t' : TimedCaptureSink σ × Publications σ} (h : Alike t t')
    (model : Denoiser σ) (clock clock' : ℕ → ModelClock) (frames : List (List F32)) :
    Alike (frames.foldlM (TimedCaptureSink.publishing model clock) t.1 t.2)
      (frames.foldlM (TimedCaptureSink.publishing model clock') t'.1 t'.2) := by
  induction frames generalizing t t' with
  | nil => exact h
  | cons frame frames ih => exact ih (h.publishing model clock clock' frame)

/-- **A callback** under the same parameters, with the same samples. -/
theorem Alike.write {t t' : TimedCaptureSink σ × Publications σ} (h : Alike t t')
    (model : Denoiser σ) (clock clock' : ℕ → ModelClock) (shared : AtomicParameters)
    {samples : List F32} (hsamples : samples.length ≤ maxCallbackFrames) :
    Alike (t.1.write (TimedCaptureSink.publishing model clock) shared samples t.2)
      (t'.1.write (TimedCaptureSink.publishing model clock') shared samples t'.2) := by
  obtain ⟨t, log⟩ := t
  obtain ⟨t', log'⟩ := t'
  have hstored : t.sink.assembler = t'.sink.assembler := congrArg (·.assembler) h.audio
  have hentered : Alike ({ t with sink := t.sink.enter shared samples }, log)
      ({ t' with sink := t'.sink.enter shared samples }, log') :=
    ⟨LiveCaptureSink.audio_enter shared h.audio samples, h.accepts, h.blocks⟩
  obtain ⟨haudio, haccepts, hblocks⟩ := hentered.foldlM model clock clock'
    (Lib.blocks modelFrameSamples (t.sink.assembler.stored ++ samples.map sanitized))
  dsimp only
  rw [write_eq _ shared t hsamples, write_eq _ shared t' hsamples, ← hstored]
  refine ⟨?_, haccepts, hblocks⟩
  exact congrArg (fun sink : LiveCaptureSink σ => { sink with
    assembler := .holding (t.sink.assembler.stored ++ samples.map sanitized) }) haudio

/-- A reset leaves what the audio before it says of strength and parameters. -/
theorem audio_resetDeactivated (initial : σ) {t t' : TimedCaptureSink σ}
    (h : t.sink.audio = t'.sink.audio) :
    (t.resetDeactivated initial).sink.audio = (t'.resetDeactivated initial).sink.audio := by
  have hstrength : t.sink.strength = t'.sink.strength := congrArg (·.strength) h
  have hparameters : t.sink.parameters = t'.sink.parameters := congrArg (·.parameters) h
  have hdelay : t.sink.dryDelay = t'.sink.dryDelay := congrArg (·.dryDelay) h
  unfold resetDeactivated resetSignalState LiveCaptureSink.audio
  dsimp only
  rw [hstrength, hparameters, hdelay]

/-- The delay keeps its length. -/
theorem Latched.delaySamples {model : Denoiser σ} {stream : List F32} {n : ℕ}
    {t : TimedCaptureSink σ} (h : t.Latched model stream n) :
    t.sink.dryDelay.delaySamples = model.descriptor.delaySamples := by
  have hn := h.position
  rw [← DryDelay.length_queue h.aligned.inBounds, h.aligned.queue, List.length_drop,
    List.length_append, List.length_replicate, List.length_take]
  omega

end TimedCaptureSink

/-! ## Runs

The run from the reset on, and one of a new sink, side by side through the same events.
-/

/-- An event without what is not heard of it: what the clock says, or all of it, where it sets the
    policy of the watchdog. -/
def LiveEvent.heard : LiveEvent σ → Option (LiveEvent σ)
  | .write shared samples _ accepts => some (.write shared samples (fun _ => {}) accepts)
  | .reset initial => some (.reset initial)
  | .setDeadlinePolicy _ => none

namespace LiveRun

/-- The blocks that a run has handed to the transport. -/
def blocks (run : LiveRun σ) : List (List F32) :=
  run.callbacks.flatMap fun callback => callback.made.map (·.block)

/-- A run of a sink that was just made, but for the strength and the parameters of `run`. -/
def afresh (run : LiveRun σ) (sink : LiveCaptureSink σ) : LiveRun σ where
  live.sink := { sink with
    strength := run.live.sink.strength
    parameters := run.live.sink.parameters }

/-- A run is heard as `earlier`, and then as another run. -/
structure Continues (earlier : List (List F32)) (run other : LiveRun σ) : Prop where
  audio : run.live.sink.audio = other.live.sink.audio
  blocks : run.blocks = earlier ++ other.blocks

/-- A callback hands over what it has made. -/
theorem blocks_append (run : LiveRun σ) (live : TimedCaptureSink σ) (stream : List F32)
    (position : ℕ) (callback : Callback σ) :
    blocks ⟨live, stream, position, run.callbacks ++ [callback]⟩ =
      run.blocks ++ callback.made.map (·.block) := by
  unfold blocks
  rw [List.flatMap_append, List.flatMap_singleton]

/-- **One event** is heard of both runs, or of neither. -/
theorem Continues.step {earlier : List (List F32)} {run other : LiveRun σ}
    (h : Continues earlier run other) (model : Denoiser σ) {event : LiveEvent σ}
    (hbounded : run.Bounded event) :
    Continues earlier (run.step model event)
      (event.heard.toList.foldl (LiveRun.step model) other) := by
  cases event with
  | write shared samples clock accepts =>
    -- Where the two streams stand is noted, and differs; it decides nothing.
    have halike : TimedCaptureSink.Alike (run.live, { accepts, position := run.position })
        (other.live, { accepts, position := other.position }) := ⟨h.audio, rfl, rfl⟩
    obtain ⟨haudio, -, hblocks⟩ := halike.write model clock (fun _ => {}) shared hbounded
    refine ⟨haudio, ?_⟩
    refine (blocks_append run _ _ _ _).trans (Eq.trans ?_
      (congrArg (earlier ++ ·) (blocks_append other _ _ _ _).symm))
    rw [h.blocks, List.append_assoc]
    exact congrArg (fun made => earlier ++ (other.blocks ++ made)) hblocks
  | reset initial =>
    exact ⟨TimedCaptureSink.audio_resetDeactivated initial h.audio, h.blocks⟩
  | setDeadlinePolicy policy => exact ⟨h.audio, h.blocks⟩

/-- **A run** is heard as what is heard of its events. -/
theorem Continues.run {earlier : List (List F32)} {run other after : LiveRun σ}
    (h : Continues earlier run other) {model : Denoiser σ} {events : List (LiveEvent σ)}
    (hrun : Lib.Run (fun run event run' => run.step model event = run') Bounded run events after) :
    Continues earlier after
      ((events.filterMap LiveEvent.heard).foldl (LiveRun.step model) other) := by
  induction hrun with
  | nil => exact h
  | @snoc events run' _ event _ hbounded hstep ih =>
    subst hstep
    have hheard : [event].filterMap LiveEvent.heard = event.heard.toList := by
      cases event <;> rfl
    rw [List.filterMap_append, List.foldl_append, hheard]
    exact ih.step model hbounded

end LiveRun

/-- What a new sink is made of. -/
theorem LiveCaptureSink.new_eq {model : Denoiser σ} {initial : σ} {sink : LiveCaptureSink σ}
    (h : new model initial = .ok sink) :
    sink = {
      model := initial
      assembler := .new
      dryDelay := ⟨.replicate model.descriptor.delaySamples .zero, 0⟩
      strength := .new .one } := by
  unfold new at h
  split at h
  · cases h
  · split at h
    · cases h
    · rename_i dryDelay hdelay
      cases h
      unfold DryDelay.new at hdelay
      split at hdelay
      · cases hdelay
      · cases hdelay
        rfl

/-- **A reset forgets.** Whatever a new live sink has been through, with any model, audio, failures,
    answers of its transport and readings of its clock: what it hands over after a reset is what
    a new sink with its strength and its parameters hands over of the same callbacks, whatever
    the clock shows of them and the watchdog is told; and it has failed again if that has. -/
theorem reset_forgets {model : Denoiser σ} {initial : σ} {sink : LiveCaptureSink σ}
    (hnew : LiveCaptureSink.new model initial = .ok sink) {events session : List (LiveEvent σ)}
    {run after : LiveRun σ}
    (hrun : Lib.Run (fun run event run' => run.step model event = run') LiveRun.Bounded
      { live := { sink } } events run)
    (hsession : Lib.Run (fun run event run' => run.step model event = run') LiveRun.Bounded
      (run.step model (.reset initial)) session after) :
    let other := (session.filterMap LiveEvent.heard).foldl (LiveRun.step model) (run.afresh sink)
    after.blocks = run.blocks ++ other.blocks ∧
      after.live.sink.failed = other.live.sink.failed := by
  have hclosed : run.FailClosed model := by
    refine Lib.Run.invariant (LiveRun.FailClosed model)
      ⟨LiveCaptureSink.new_latched hnew, fun _ hnone => (List.not_mem_nil hnone).elim⟩ ?_ hrun
    intro run event run' hrun hbounded hstep
    rw [← hstep]
    exact (hrun.step hbounded).1
  have hdelay : run.live.sink.dryDelay.storage.length = model.descriptor.delaySamples :=
    hclosed.latched.delaySamples
  have hstart : LiveRun.Continues run.blocks (run.step model (.reset initial))
      (run.afresh sink) := by
    refine ⟨?_, (List.append_nil _).symm⟩
    rw [LiveCaptureSink.new_eq hnew]
    -- Only the length of the delay line is not reset, and no frame has changed it.
    change ({ run.live.sink with
      model := initial
      assembler := .new
      dryDelay := run.live.sink.dryDelay.reset
      failed := false
      shared := {} } : LiveCaptureSink σ) = _
    rw [DryDelay.reset, hdelay]
    rfl
  have hafter := hstart.run hsession
  exact ⟨hafter.blocks, congrArg (·.failed) hafter.audio⟩

/-- An echo whose block was refused, and which was reset. -/
def refusedRun (sink : LiveCaptureSink Unit) : LiveRun Unit :=
  refusedThenReset.foldl (LiveRun.step echo) { live := { sink } }

/-- After another reset it hands over what a new one does. -/
theorem reset_forgets_refused : ∃ sink, LiveCaptureSink.new echo () = .ok sink ∧
    (refusedThenReset.foldl (LiveRun.step echo) ((refusedRun sink).step echo (.reset ()))).blocks =
      (refusedRun sink).blocks ++ ((refusedThenReset.filterMap LiveEvent.heard).foldl
        (LiveRun.step echo) ((refusedRun sink).afresh sink)).blocks := by
  have hbounded : ∀ event ∈ refusedThenReset, ∀ run : LiveRun Unit, run.Bounded event := by
    have hcallback : (List.replicate 300 (.one : F32)).length ≤ maxCallbackFrames := by
      rw [List.length_replicate]
      decide
    refine List.forall_mem_cons.mpr ⟨fun _ => hcallback, List.forall_mem_cons.mpr
      ⟨fun _ => hcallback, fun event hevent run => ?_⟩⟩
    rw [List.mem_singleton.mp hevent]
    trivial
  obtain ⟨sink, hnew⟩ : ∃ sink, LiveCaptureSink.new echo () = .ok sink := ⟨_, rfl⟩
  exact ⟨sink, hnew, (reset_forgets hnew
    ((Lib.Run.of_foldl (LiveRun.step echo) _ refusedThenReset).of_inputs hbounded)
    ((Lib.Run.of_foldl (LiveRun.step echo) _ refusedThenReset).of_inputs hbounded)).1⟩

end Noire
