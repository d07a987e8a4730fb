import Noire.Graph.Live
import Noire.Live.Held

namespace Noire

/-!
# The audio path of the live graph

The live graph in one piece: the owner thread's demand, the capture callback with its sink, the
ring, and the source callback, with what every published sample stems from.

* `LivePath` — the path, and the captured sample behind each sample that it holds or has published;
* `LivePath.step` — stream-state events, demand polls, and the two kinds of callbacks;
* `GraphCall.next_polled`, `Sound.capture`, `serveBuffers_served` — what each of them does;
* `Sound.step` — in every run at strength zero, every sample in the ring is what it stems from.

Beside the samples runs a ghost: the stream of what was captured, each sample with its period, and
for every sample that was pushed the place it stems from.  The proofs about values are those of
`Live/Latch.lean` and `Transport/Source.lean`; at strength zero a published block is the delayed
stream, so the sample at a place of the ring stems from the place one delay earlier in the stream.

The ghost is used in one form only: for any predicate `P` on origins, if what the sink holds meets
`P`, then so does what is pushed; and if what the source's side holds meets `P`, then so does what
is published.  `Sound.capture` and `serveBuffers_served` are stated for every `P`, and freshness
is one of them.
-/

variable {σ : Type}

/-! ## What is published

A sample at a gain, with the captured sample it stems from and the period in which it is heard.
-/

/-- A sample handed to the consumer: the step of its gain, what it stems from, and the streaming
    period it is published in. -/
structure PublishedSample where
  step : ℕ
  origin : Option Captured
  period : ℕ
  deriving DecidableEq

/-- At a gain, a sample was captured in the streaming period that publishes it. -/
def PublishedSample.Fresh (sample : PublishedSample) : Prop :=
  sample.step ≠ 0 → ∀ captured ∈ sample.origin, captured.period = some sample.period

/-- The samples of a rendering, as they are handed over. -/
def Rendering.published (period : ℕ) (block : List (Option Captured)) (last : Option Captured)
    (rendering : Rendering) : List PublishedSample :=
  (rendering.steps.zip (rendering.origins block last)).map fun pair => ⟨pair.1, pair.2, period⟩

/-- `BypassOutput::reject_oversized_request`. -/
def BypassOutput.rejectOversizedRequest (out : BypassOutput) (frames : ℕ) :
    BypassProg BypassOutput := do
  perform (.count .outputCallbacks 1)
  perform (.count .outputFrames frames)
  perform (.count .oversizedRequests 1)
  return { out with ramp := out.ramp.resetSilent }

/-! ## The path

The two sides share the ring, the generation that the control thread asks for, and the switch of
the publication.
-/

/-- A live graph with its callbacks. -/
structure LivePath (σ : Type) where
  graph : LiveGraph
  /-- The generation of the capture processor. -/
  captureGeneration : ℕ
  live : TimedCaptureSink σ
  feed : Feed
  /-- What was captured since the sink was last reset. -/
  stream : List Captured := []
  out : BypassOutput
  /-- What the ramp's last sample stems from. -/
  last : Option Captured := none
  /-- How many times the source has begun to stream. -/
  period : ℕ := 0
  /-- The source's state has changed since the last poll. -/
  owed : Bool := false
  published : List PublishedSample := []

/-- A buffer of the source stream: one that is skipped, or a mapped one with the frames it asks
    for, where zero asks for all, and its bytes. -/
inductive SourceBuffer
  | skipped
  | mapped (requested bytes : ℕ)

/-- The `frame_count` of a mapped buffer. -/
def frameCount (requested bytes : ℕ) : ℕ := if requested = 0 then bytes / 4 else requested

/-- What happens to a live graph. -/
inductive LivePathEvent (σ : Type)
  | sourceChanged (change : StreamChange) (now : ℕ)
  | serviceDemand (now : ℕ) (setActive : Native)
  /-- A buffer of the capture stream, under the parameters the sink finds: without samples, if it
      is empty or malformed.  A reset of the model leaves it at `initial`. -/
  | capture (parameters : AtomicParameters) (samples : Option (List F32))
    (clock : ℕ → ModelClock) (initial : σ)
  | source (buffers : List SourceBuffer)

namespace LivePath

/-- The source is streaming. -/
abbrev Streaming (path : LivePath σ) : Prop :=
  path.graph.source.control.streamState = .streaming

/-- The streaming period that what is captured now belongs to. -/
def streamingPeriod (path : LivePath σ) : Option ℕ :=
  if path.Streaming then some path.period else none

/-- A native change of the source's state, which also gates publication. -/
def sourceChanged (path : LivePath σ) (change : StreamChange) (now : ℕ) : LivePath σ :=
  let source := path.graph.source.stateChanged change now
  { path with
    graph.source := source
    feed.shared.publicationEnabled := source.publicationEnabled
    period := if change = .streaming ∧ ¬path.Streaming then path.period + 1 else path.period
    owed := true }

/-- A demand poll, by an owner that drops the graph when it fails. -/
def serviceDemand (path : LivePath σ) (now : ℕ) (setActive : Native) : Option (LivePath σ) :=
  ((GraphCall.serviceDemand now setActive).next path.graph).map fun graph =>
    { path with graph, owed := false }

/-- `synchronize_generation` of the capture processor: a new generation resets the transport and
    the sink. -/
def synchronizeGeneration (path : LivePath σ) (initial : σ) : Option (LivePath σ) :=
  if path.graph.capture.generationCommand = path.captureGeneration then some path
  else
    (resetCapture.run BypassOp.exec path.feed.shared).map fun ((), shared) =>
      { path with
        captureGeneration := path.graph.capture.generationCommand
        live := path.live.resetDeactivated initial
        feed := { path.feed with shared, position := 0 }
        stream := [] }

/-- `CaptureProcessor::process_mapped`. -/
def capture (model : Denoiser σ) (path : LivePath σ) (parameters : AtomicParameters)
    (samples : Option (List F32)) (clock : ℕ → ModelClock) (initial : σ) :
    Option (LivePath σ) := do
  let path ← path.synchronizeGeneration initial
  match samples with
  | none => some path
  | some samples =>
    if maxCallbackFrames < samples.length then some path
    else
      let samples := (sanitizeBuffer samples).1
      let stream := path.stream ++ capturedIn path.streamingPeriod samples
      let (live, feed) ← (path.live.write (TimedCaptureSink.feeding model clock stream) parameters
        samples).run path.feed
      some { path with live, feed, stream }

/-- `apply_audio_command`. -/
def applyAudioCommand (path : LivePath σ) : Option (LivePath σ) :=
  let fuel := path.feed.shared.queue.length + 1
  match path.graph.source.audioCommand with
  | .none => some path
  | .discard =>
    ((path.out.discardPendingSensitive fuel).run BypassOp.exec path.feed.shared).map
      fun (out, shared) =>
        { path with out, feed.shared := shared, graph.source.audioCommand := .none }
  | .clear =>
    ((path.out.clearSensitive fuel).run BypassOp.exec path.feed.shared).map fun (out, shared) =>
      { path with out, feed.shared := shared, graph.source.audioCommand := .none }

variable (sin : F32 → F32)

/-- A fill, and what it publishes. -/
def fill (path : LivePath σ) (frames : ℕ) : Option (LivePath σ) :=
  ((path.out.fillTraced sin frames (path.feed.shared.queue.length + 1)).run BypassOp.exec
    path.feed.shared).map fun ((filled, rendering), shared) =>
      let feed := { path.feed with shared }
      let block := latest feed.origins shared.consumed.length frames
      { path with
        out := filled.after
        feed
        last := rendering.lastOrigin block path.last
        published := path.published ++ rendering.published path.period block path.last }

/-- One turn of the loop of `process_available_buffers`. -/
def serveBuffer (path : LivePath σ) : SourceBuffer → Option (LivePath σ)
  | .skipped => some path
  | .mapped requested bytes =>
    let frames := frameCount requested bytes
    if maxCallbackFrames < frames ∨ bytes / 4 < frames ∨ bytes % 4 ≠ 0 then
      ((path.out.rejectOversizedRequest frames).run BypassOp.exec path.feed.shared).map
        fun (out, shared) => { path with out, feed.shared := shared }
    else do
      -- A command that arrived since the callback began is applied before anything is published.
      let path ← path.applyAudioCommand
      path.fill sin frames

/-- `process_available_buffers` of the source. -/
def serveBuffers (path : LivePath σ) (buffers : List SourceBuffer) : Option (LivePath σ) := do
  let path ← path.applyAudioCommand
  buffers.foldlM (serveBuffer sin) path

/-- One event. -/
def step (model : Denoiser σ) (path : LivePath σ) : LivePathEvent σ → Option (LivePath σ)
  | .sourceChanged change now => some (path.sourceChanged change now)
  | .serviceDemand now setActive => path.serviceDemand now setActive
  | .capture parameters samples clock initial =>
    path.capture model parameters samples clock initial
  | .source buffers => path.serveBuffers sin buffers

/-- A graph as it is connected to a live channel, with its meter turned on or off: capture is
    inactive, and the source not yet streaming. -/
def connect (targetNodeName : String) (meterMonitoring : Bool) (setActive : Native)
    (sink : LiveCaptureSink σ) (shared : SharedState) (out : BypassOutput) : LivePath σ where
  graph := ((LiveGraph.connected targetNodeName).setMeterMonitoring meterMonitoring setActive).2
  captureGeneration := (LiveGraph.connected targetNodeName).capture.generationCommand
  live := { sink }
  feed := { shared := { shared with publicationEnabled := false } }
  out := out

end LivePath

/-! ## Demand

The owner thread polls the demand, and a poll may send one command to each side.
-/

/-- A clear is never lost. -/
theorem AudioCommand.schedule_clear (command : AudioCommand) :
    command.schedule .clear = .clear := by
  cases command <;> rfl

/-- A discard leaves some command. -/
theorem AudioCommand.schedule_discard (command : AudioCommand) :
    command.schedule .discard ≠ .none := by
  cases command <;> nofun

/-- What a poll that succeeds makes of a graph: a consumer comes, and both sides are to be
    cleared; or it is gone for long enough, and the source's is; or neither. -/
inductive Polled (graph graph' : LiveGraph) : Prop
  | activated (streaming : graph.source.control.streamState = .streaming)
    (idle : graph.demand = .idle) (active : graph'.demand = .active)
    (cleared : graph'.source.audioCommand ≠ .none)
    (generation : graph'.capture.generationCommand =
      saturatingAdd u64Max graph.capture.generationCommand 1)
  | deactivated (paused : graph.source.control.streamState ≠ .streaming)
    (cleared : graph'.source.audioCommand ≠ .none)
    (generation : graph'.capture.generationCommand = graph.capture.generationCommand ∨
      graph'.capture.generationCommand = saturatingAdd u64Max graph.capture.generationCommand 1)
  | unchanged (steady : graph.source.control.streamState = .streaming → graph.demand ≠ .idle)
    (demand : graph'.demand = graph.demand)
    (command : graph'.source.audioCommand ≠ .none ∨
      graph'.source.audioCommand = graph.source.audioCommand)
    (generation : graph'.capture.generationCommand = graph.capture.generationCommand)

/-- The generation of the input never falls, and stays a 64-bit number. -/
theorem Polled.generation {graph graph' : LiveGraph} (h : Polled graph graph')
    (hbounded : graph.capture.generationCommand ≤ u64Max) :
    graph.capture.generationCommand ≤ graph'.capture.generationCommand ∧
      graph'.capture.generationCommand ≤ u64Max := by
  have hadvanced : graph'.capture.generationCommand = graph.capture.generationCommand ∨
      graph'.capture.generationCommand =
        saturatingAdd u64Max graph.capture.generationCommand 1 := by
    cases h with
    | activated _ _ _ _ hgeneration => exact .inr hgeneration
    | deactivated _ _ hgeneration => exact hgeneration
    | unchanged _ _ _ hgeneration => exact .inl hgeneration
  unfold saturatingAdd at hadvanced
  omega

/-- **A demand poll** that succeeds leaves the source's state, and is one of three. -/
theorem GraphCall.next_polled {graph graph' : LiveGraph} {now : ℕ} {setActive : Native}
    (h : (GraphCall.serviceDemand now setActive).next graph = some graph') :
    graph'.source.control.streamState = graph.source.control.streamState ∧
      Polled graph graph' := by
  have hgraph : graph' = (graph.serviceDemand now setActive).2 ∧
      (graph.serviceDemand now setActive).1.isOk = true := by
    cases hok : (graph.serviceDemand now setActive).1.isOk with
    | false => simp [GraphCall.next, GraphCall.exec, hok] at h
    | true =>
      simp only [GraphCall.next, GraphCall.exec, hok] at h
      exact ⟨(Option.some.inj h).symm, rfl⟩
  obtain ⟨rfl, hok⟩ := hgraph
  have hclear : (graph.source.audioCommand.schedule .clear) ≠ .none := by
    rw [AudioCommand.schedule_clear]
    exact AudioCommand.noConfusion
  unfold LiveGraph.serviceDemand at hok ⊢
  rcases resolveDemandTransition_cases graph.source.control now with
    ⟨hresolve, hstreaming, hidle⟩ | ⟨hresolve, hpaused, -⟩ | ⟨hresolve, hsteady, -⟩
  · -- the demand becomes active
    rw [hresolve]
    refine ⟨rfl, .activated hstreaming hidle rfl hclear ?_⟩
    cases setActive <;> rfl
  · rw [hresolve] at hok ⊢
    dsimp only at hok ⊢
    -- A meter keeps capture; without one it is paused, and its input ends.
    split at hok
    · rename_i hmeter
      rw [if_pos hmeter]
      exact ⟨rfl, .deactivated hpaused hclear (.inl rfl)⟩
    · rename_i hmeter
      rw [if_neg hmeter]
      cases setActive with
      | error error => cases hok
      | ok _ => exact ⟨rfl, .deactivated hpaused hclear (.inr rfl)⟩
  · rw [hresolve]
    dsimp only
    -- The demand stays: old samples are dropped, or nothing happens.
    have hsteady : graph.source.control.streamState = .streaming → graph.demand ≠ .idle :=
      fun hstreaming hidle => ConsumerDemand.noConfusion (hidle.symm.trans (hsteady hstreaming))
    split
    · exact ⟨rfl, .unchanged hsteady rfl (.inl (AudioCommand.schedule_discard _)) rfl⟩
    · exact ⟨rfl, .unchanged hsteady rfl (.inr rfl) rfl⟩

/-! ## What holds in every run

`Sound` says that the ghost is true: every sample in the ring has the value of what it stems from.
-/

namespace LivePath

/-- The captured samples in the sink: those in the delay, and those in the assembler. -/
def held (model : Denoiser σ) (path : LivePath σ) : List Captured :=
  path.stream.drop (path.feed.position - model.descriptor.delaySamples)

/-- Everything on the source's side stems from what meets `P`. -/
def Holds (P : Option Captured → Prop) (path : LivePath σ) : Prop :=
  Held P path.feed.origins path.feed.shared.ring path.out path.last

/-- What holds of a path whose callbacks find strength zero: publication follows the source, the
    sink is where its stream is, and every sample in the ring is what it stems from. -/
structure Sound (model : Denoiser σ) (path : LivePath σ) : Prop where
  enabled : path.feed.shared.publicationEnabled = true ↔ path.Streaming
  latched : path.live.Latched model (path.stream.map Captured.value) path.feed.position
  traced : List.Forall₂ Stems path.feed.shared.pushed path.feed.origins
  behind : path.captureGeneration ≤ path.graph.capture.generationCommand
  bounded : path.graph.capture.generationCommand ≤ u64Max
  demanded : path.Streaming → path.owed = false → path.graph.demand = .active
  coherent : path.out.ramp.fade.Coherent

/-- A reset of the transport leaves the ring, but for its generation. -/
theorem resetCapture_run (s : SharedState) :
    ∃ t, resetCapture.run BypassOp.exec s = some ((), t) ∧ t.ring = s.ring.resync :=
  ⟨_, rfl, rfl⟩

/-- The strength that a sink loads. -/
theorem loadParameters_strength (parameters : AtomicParameters) (sink : LiveCaptureSink σ) :
    (sink.loadParameters parameters).strength =
      if parameters.epoch = sink.parameters.epoch ∨ parameters.epoch % 2 ≠ 0 then sink.strength
      else if parameters.target.bits ≠ sink.strength.target.bits then
        sink.strength.setTarget parameters.target 0
      else sink.strength := by
  unfold LiveCaptureSink.loadParameters
  split
  · rfl
  · dsimp only
    split <;> rfl

/-- A reset does not touch it. -/
theorem resetDeactivated_strength (initial : σ) (t : TimedCaptureSink σ)
    (parameters : AtomicParameters) :
    ((t.resetDeactivated initial).sink.loadParameters parameters).strength =
      (t.sink.loadParameters parameters).strength := by
  rw [loadParameters_strength, loadParameters_strength]
  rfl

/-- **The capture processor follows its generation.** What was captured under another is gone
    from the sink; the ring is as it was. -/
theorem Sound.synchronizeGeneration {model : Denoiser σ} {path : LivePath σ}
    (h : path.Sound model) (initial : σ) (P : Option Captured → Prop) :
    ∃ live feed stream, path.synchronizeGeneration initial = some { path with
        captureGeneration := path.graph.capture.generationCommand, live, feed, stream } ∧
      live.Latched model (stream.map Captured.value) feed.position ∧
      Feed.Grown P path.feed feed ∧
      (∀ parameters, (live.sink.loadParameters parameters).strength =
        (path.live.sink.loadParameters parameters).strength) ∧
      ∀ captured ∈ stream.drop (feed.position - model.descriptor.delaySamples),
        path.graph.capture.generationCommand = path.captureGeneration ∧
          captured ∈ path.held model := by
  unfold LivePath.synchronizeGeneration
  split
  · -- the generation is the same: nothing is reset
    rename_i hsame
    refine ⟨path.live, path.feed, path.stream, ?_, h.latched, .refl _ _, fun _ => rfl,
      fun captured hcaptured => ⟨hsame, hcaptured⟩⟩
    rw [hsame]
  · -- a new one: the sink is reset and the stream begins anew
    obtain ⟨shared, hrun, hring⟩ := resetCapture_run path.feed.shared
    have henabled : shared.publicationEnabled = path.feed.shared.publicationEnabled :=
      congrArg Ring.enabled hring
    have hconsumed : shared.consumed = path.feed.shared.consumed := congrArg Ring.consumed hring
    have hqueue : shared.queue = path.feed.shared.queue := congrArg Ring.queue hring
    refine ⟨path.live.resetDeactivated initial, { path.feed with shared, position := 0 }, [], ?_,
      TimedCaptureSink.resetDeactivated_latched h.latched initial, ⟨henabled, hconsumed, [], [],
        hqueue.trans (List.append_nil _).symm, (List.append_nil _).symm, .nil, fun _ => rfl, nofun⟩,
      resetDeactivated_strength initial path.live, fun captured hcaptured => ?_⟩
    · rw [hrun]
      rfl
    · rw [List.drop_nil] at hcaptured
      cases hcaptured

/-- **A capture callback** at strength zero pushes, and keeps in the sink, what the sink held of
    this generation, and what is captured now. -/
theorem Sound.capture {model : Denoiser σ} {path : LivePath σ} (h : path.Sound model)
    (parameters : AtomicParameters) (samples : Option (List F32)) (clock : ℕ → ModelClock)
    (initial : σ) (hzero : (path.live.sink.loadParameters parameters).strength.SettledAtZero)
    {Q : Captured → Prop} (hheld : path.graph.capture.generationCommand = path.captureGeneration →
      ∀ captured ∈ path.held model, Q captured)
    (hnow : ∀ captured, captured.period = path.streamingPeriod → Q captured) :
    ∃ live feed stream, path.capture model parameters samples clock initial = some { path with
        captureGeneration := path.graph.capture.generationCommand, live, feed, stream } ∧
      live.Latched model (stream.map Captured.value) feed.position ∧
      Feed.Grown (fun origin => ∀ captured ∈ origin, Q captured) path.feed feed ∧
      ∀ captured ∈ stream.drop (feed.position - model.descriptor.delaySamples), Q captured := by
  obtain ⟨live, feed, stream, hsync, hlatched, hgrown, hstrength, hkept⟩ :=
    h.synchronizeGeneration initial fun origin => ∀ captured ∈ origin, Q captured
  have hkept' : ∀ captured ∈ stream.drop (feed.position - model.descriptor.delaySamples),
      Q captured := fun captured hcaptured =>
    hheld (hkept captured hcaptured).1 captured (hkept captured hcaptured).2
  unfold LivePath.capture
  rw [hsync, Option.bind_eq_bind, Option.bind_some]
  cases samples with
  -- Without a buffer the callback ends here, and so with one that is too long.
  | none => exact ⟨live, feed, stream, rfl, hlatched, hgrown, hkept'⟩
  | some samples =>
    dsimp only
    split
    · exact ⟨live, feed, stream, rfl, hlatched, hgrown, hkept'⟩
    rename_i hbounded
    rw [sanitizeBuffer_fst]
    -- The buffer is sanitized and written.
    obtain ⟨after, feed', hrun, hlatched', hle, hgrown'⟩ := TimedCaptureSink.write_feeding clock
      hlatched parameters (by rw [List.length_map]; exact Nat.not_lt.mp hbounded)
      (map_sanitized_sanitized samples) (by rw [hstrength]; exact hzero) path.streamingPeriod
    -- What comes after the position is of the old stream, or new.
    have hall : ∀ captured ∈ (stream ++ capturedIn path.streamingPeriod
        (samples.map sanitized)).drop (feed.position - model.descriptor.delaySamples),
        Q captured := by
      rw [List.drop_append]
      refine List.forall_mem_append.mpr ⟨hkept', fun captured hcaptured => hnow captured ?_⟩
      obtain ⟨x, -, rfl⟩ := List.mem_map.mp (List.mem_of_mem_drop hcaptured)
      rfl
    refine ⟨after, feed', _, ?_, hlatched', hgrown.trans (hgrown'.mono fun origin horigin captured
      hcaptured => hall captured (horigin captured hcaptured)), fun captured hcaptured => ?_⟩
    · change Option.bind ((live.write (TimedCaptureSink.feeding model clock
        (stream ++ capturedIn path.streamingPeriod (samples.map sanitized))) parameters
          (samples.map sanitized)).run feed) _ = _
      rw [hrun]
      rfl
    · refine hall captured ((List.drop_sublist_drop_left _ ?_).subset hcaptured)
      omega

/-! ## The source's callbacks

A command is served before any buffer, and leaves nothing on the source's side that could be
published at a gain.
-/

/-- What a source callback makes of a path: it publishes, at a gain and in the path's period, only
    what meets `P`. -/
structure Served (P : Option Captured → Prop) (path path' : LivePath σ) : Prop where
  served : ∃ out shared last made, path' = { path with
      out, last
      feed.shared := shared
      graph.source.audioCommand := .none
      published := path.published ++ made } ∧
    ∀ sample ∈ made, sample.period = path.period ∧ (sample.step ≠ 0 → P sample.origin)
  enabled : path'.feed.shared.publicationEnabled = path.feed.shared.publicationEnabled
  pushed : path'.feed.shared.pushed = path.feed.shared.pushed
  holds : path'.Holds P

/-- One thing after another. -/
theorem Served.trans {P : Option Captured → Prop} {path path' path'' : LivePath σ}
    (h : Served P path path') (h' : Served P path' path'') : Served P path path'' := by
  obtain ⟨⟨out, shared, last, made, rfl, hmade⟩, henabled, hpushed, -⟩ := h
  obtain ⟨⟨out', shared', last', made', rfl, hmade'⟩, henabled', hpushed', hholds⟩ := h'
  refine ⟨⟨out', shared', last', made ++ made', ?_, List.forall_mem_append.mpr ⟨hmade, hmade'⟩⟩,
    henabled'.trans henabled, hpushed'.trans hpushed, hholds⟩
  dsimp only
  rw [List.append_assoc]

/-- Nothing is done without a command. -/
theorem Holds.served {P : Option Captured → Prop} {path : LivePath σ} (h : path.Holds P)
    (hnone : path.graph.source.audioCommand = .none) : Served P path path := by
  refine ⟨⟨path.out, path.feed.shared, path.last, [], ?_, nofun⟩, rfl, rfl, h⟩
  rw [List.append_nil, ← hnone]

/-- **A command** drains the source's side; without one, it is what it was. -/
theorem applyAudioCommand_served {P : Option Captured → Prop} {path : LivePath σ}
    (hlen : path.feed.origins.length = path.feed.shared.pushed.length)
    (h : path.graph.source.audioCommand = .none → path.Holds P) :
    ∃ path', path.applyAudioCommand = some path' ∧ Served P path path' := by
  -- Both commands that do something leave an empty ring and a silent ramp.
  have hdrained : ∀ (ring : Ring), ring.pushed = path.feed.shared.pushed → ∀ {t : SharedState},
      t.ring = ring.discard → ring.enabled = path.feed.shared.publicationEnabled →
      ∀ {out : BypassOutput}, out.ramp = path.out.ramp.resetSilent →
      Served P path { path with
        out
        feed.shared := t
        graph.source.audioCommand := .none } := by
    intro ring hsame t hring henabled out hramp
    have hpushed : t.pushed = path.feed.shared.pushed :=
      (congrArg Ring.pushed hring).trans ((ring.pushed_pop _).trans hsame)
    refine ⟨⟨out, t, path.last, [], ?_, nofun⟩, (congrArg Ring.enabled hring).trans henabled,
      hpushed, .drained P ?_ ?_ ?_ ?_⟩
    · rw [List.append_nil]
    · exact (congrArg Ring.queue hring).trans List.drop_length
    · exact hlen.trans (congrArg List.length hpushed.symm)
    · rw [hramp]
      exact path.out.ramp.resetSilent_coherent
    · rw [hramp]
      rfl
  have hfuel : path.feed.shared.queue.length < path.feed.shared.queue.length + 1 :=
    Nat.lt_succ_self _
  unfold applyAudioCommand
  cases hcommand : path.graph.source.audioCommand with
  -- Without a command the samples are what they were.
  | none => exact ⟨path, rfl, (h hcommand).served hcommand⟩
  | discard =>
    obtain ⟨t, hrun, hring⟩ := discardPendingSensitive_ring path.out hfuel
    dsimp only
    rw [hrun]
    exact ⟨_, rfl, hdrained _ rfl hring rfl rfl⟩
  | clear =>
    obtain ⟨t, hrun, hring⟩ := clearSensitive_ring path.out hfuel
    dsimp only
    rw [hrun]
    exact ⟨_, rfl, hdrained _ rfl hring rfl rfl⟩

/-- **A fill** is the queue's. -/
theorem fill_ring (sin : F32 → F32) (path : LivePath σ) {frames : ℕ}
    (hframes : frames ≤ maxCallbackFrames) {out : BypassOutput} {rendering : Rendering}
    {ring : Ring} (hfill : path.feed.shared.ring.fill sin path.out frames =
      (out, rendering, ring)) :
    ∃ t, t.ring = ring ∧ path.fill sin frames = some { path with
      out
      feed.shared := t
      last := rendering.lastOrigin (latest path.feed.origins ring.consumed.length frames) path.last
      published := path.published ++ rendering.published path.period
        (latest path.feed.origins ring.consumed.length frames) path.last } := by
  obtain ⟨filled, t, hrun, hafter, hring, -⟩ :=
    path.out.fillTraced_ring sin hframes (Nat.lt_succ_self path.feed.shared.queue.length)
  rw [hfill] at hrun hafter hring
  obtain rfl : filled.after = out := hafter
  obtain rfl : t.ring = ring := hring
  unfold LivePath.fill
  rw [hrun]
  exact ⟨t, rfl, rfl⟩

/-- It publishes what the source's side holds. -/
theorem Holds.fill {P : Option Captured → Prop} (sin : F32 → F32) {path : LivePath σ}
    (h : path.Holds P) (hnone : path.graph.source.audioCommand = .none) {frames : ℕ}
    (hframes : frames ≤ maxCallbackFrames) :
    ∃ path', path.fill sin frames = some path' ∧ Served P path path' := by
  have hafter := Held.fill sin h hframes
  rcases hfill : path.feed.shared.ring.fill sin path.out frames with ⟨out, rendering, ring⟩
  rw [hfill] at hafter
  obtain ⟨hheld, henabled, hpushed, -, hmeets⟩ := hafter
  obtain ⟨t, rfl, hrun⟩ := path.fill_ring sin hframes hfill
  refine ⟨_, hrun, ⟨out, t, rendering.lastOrigin (latest path.feed.origins
    t.ring.consumed.length frames) path.last, rendering.published path.period (latest
      path.feed.origins t.ring.consumed.length frames) path.last, ?_, fun sample hsample => ?_⟩,
    henabled, hpushed, hheld⟩
  · rw [← hnone]
  · obtain ⟨pair, hpair, rfl⟩ := List.mem_map.mp hsample
    exact ⟨rfl, hmeets pair hpair⟩

/-- A buffer that is refused silences the ramp. -/
theorem rejectOversizedRequest_run (out : BypassOutput) (frames : ℕ) (s : SharedState) :
    ∃ t, (out.rejectOversizedRequest frames).run BypassOp.exec s =
      some ({ out with ramp := out.ramp.resetSilent }, t) ∧ t.ring = s.ring := ⟨_, rfl, rfl⟩

/-- **One buffer.** -/
theorem Holds.serveBuffer {P : Option Captured → Prop} (sin : F32 → F32) {path : LivePath σ}
    (h : path.Holds P) (hnone : path.graph.source.audioCommand = .none) (buffer : SourceBuffer) :
    ∃ path', path.serveBuffer sin buffer = some path' ∧ Served P path path' := by
  cases buffer with
  | skipped => exact ⟨path, rfl, h.served hnone⟩
  | mapped requested bytes =>
    unfold LivePath.serveBuffer
    dsimp only
    split
    · -- the request is too large and is answered by silence
      obtain ⟨t, hrun, hring⟩ := rejectOversizedRequest_run path.out
        (frameCount requested bytes) path.feed.shared
      have hsilenced : Held P path.feed.origins t.ring
          { path.out with ramp := path.out.ramp.resetSilent } path.last := by
        rw [hring]
        exact h.silenced rfl
      rw [hrun]
      refine ⟨_, rfl, ⟨{ path.out with ramp := path.out.ramp.resetSilent }, t, path.last, [], ?_,
        nofun⟩, congrArg Ring.enabled hring, congrArg Ring.pushed hring, hsilenced⟩
      rw [List.append_nil, ← hnone]
    · -- the command of the owner is applied first, then the buffer is filled
      rename_i hframes
      obtain ⟨path', happly, hserved⟩ := applyAudioCommand_served h.length fun _ => h
      obtain ⟨⟨out, shared, last, made, rfl, hmade⟩, henabled, hpushed, hholds⟩ := hserved
      obtain ⟨path'', hfill, hfilled⟩ := hholds.fill sin rfl
        (Nat.not_lt.mp fun hlarge => hframes (.inl hlarge))
      rw [happly]
      exact ⟨path'', hfill, .trans ⟨⟨out, shared, last, made, rfl, hmade⟩, henabled, hpushed,
        hholds⟩ hfilled⟩

/-- **A source callback** publishes what the source's side holds, or nothing but silence if a
    command was left for it. -/
theorem serveBuffers_served {P : Option Captured → Prop} (sin : F32 → F32) {path : LivePath σ}
    (hlen : path.feed.origins.length = path.feed.shared.pushed.length)
    (h : path.graph.source.audioCommand = .none → path.Holds P) (buffers : List SourceBuffer) :
    ∃ path', path.serveBuffers sin buffers = some path' ∧ Served P path path' := by
  obtain ⟨path', happly, hserved⟩ := applyAudioCommand_served hlen h
  unfold LivePath.serveBuffers
  rw [happly, Option.bind_eq_bind, Option.bind_some]
  clear happly hlen h
  -- By the buffers: each is served from what the one before left.
  induction buffers generalizing path' with
  | nil => exact ⟨path', rfl, hserved⟩
  | cons buffer rest ih =>
    obtain ⟨⟨out, shared, last, made, rfl, hmade⟩, henabled, hpushed, hholds⟩ := hserved
    obtain ⟨path'', hbuffer, hnext⟩ := hholds.serveBuffer sin rfl buffer
    rw [List.foldlM_cons, hbuffer]
    exact ih path'' (.trans ⟨⟨out, shared, last, made, rfl, hmade⟩, henabled, hpushed, hholds⟩
      hnext)

/-! ## One event

The invariant through every event, from the lemmas of the two callbacks and of the poll.
-/

/-- The ghost is as long as what was pushed. -/
theorem Sound.length {model : Denoiser σ} {path : LivePath σ} (h : path.Sound model) :
    path.feed.origins.length = path.feed.shared.pushed.length := h.traced.length_eq.symm

/-- Whatever the source's side holds, it holds. -/
theorem Sound.holds {model : Denoiser σ} {path : LivePath σ} (h : path.Sound model)
    (_ : path.graph.source.audioCommand = .none) : path.Holds fun _ => True :=
  ⟨h.coherent, h.length, fun _ _ => trivial, fun _ => trivial⟩

/-- The conditions of a run: a poll stands between every change of the source's state and the
    next callback, and every capture callback finds strength zero. -/
def Paced (path : LivePath σ) : LivePathEvent σ → Prop
  | .sourceChanged _ _ => True
  | .serviceDemand _ _ => True
  | .capture parameters _ _ _ =>
    path.owed = false ∧ (path.live.sink.loadParameters parameters).strength.SettledAtZero
  | .source _ => path.owed = false

/-- After a change to it the source streams. -/
theorem streaming_sourceChanged (path : LivePath σ) (change : StreamChange) (now : ℕ) :
    (path.sourceChanged change now).Streaming ↔ change = .streaming := by
  have hstate : (path.sourceChanged change now).graph.source.control.streamState = change.state :=
    path.graph.source.control.stateChanged_streamState change now
  unfold Streaming
  rw [hstate]
  cases change with
  | streaming => exact iff_of_true rfl rfl
  | unconnected => exact iff_of_false nofun nofun
  | connecting => exact iff_of_false nofun nofun
  | paused => exact iff_of_false nofun nofun
  | error message => exact iff_of_false nofun nofun

/-- **One event** keeps a path sound. -/
theorem Sound.step {model : Denoiser σ} (sin : F32 → F32) {path path' : LivePath σ}
    (h : path.Sound model) {event : LivePathEvent σ} (hpaced : path.Paced event)
    (hstep : path.step sin model event = some path') : path'.Sound model := by
  cases event with
  | sourceChanged change now =>
    obtain rfl := Option.some.inj hstep
    refine ⟨?_, h.latched, h.traced, h.behind, h.bounded, fun _ howed => ?_, h.coherent⟩
    · rw [streaming_sourceChanged]
      exact decide_eq_true_iff
    · cases howed
  | serviceDemand now setActive =>
    obtain ⟨graph, hnext, rfl⟩ := Option.map_eq_some_iff.mp hstep
    -- A poll leaves the state of the source, so the switch still follows it.
    obtain ⟨hstate, hpolled⟩ := GraphCall.next_polled hnext
    have henabled : path.feed.shared.publicationEnabled = true ↔
        graph.source.control.streamState = .streaming := by
      rw [hstate]
      exact h.enabled
    obtain ⟨hgeneration, hbounded⟩ := hpolled.generation h.bounded
    refine ⟨henabled, h.latched, h.traced, h.behind.trans hgeneration, hbounded,
      fun hstreaming _ => ?_, h.coherent⟩
    have hstreaming : path.Streaming := hstate.symm.trans hstreaming
    cases hpolled with
    | activated _ _ hactive _ _ => exact hactive
    | deactivated hpaused _ _ => exact absurd hstreaming hpaused
    | unchanged hsteady hdemand _ _ =>
      have hactive := hsteady hstreaming
      rw [← hdemand] at hactive
      cases hnow : graph.demand with
      | active => rfl
      | idle => exact absurd hnow hactive
  | capture parameters samples clock initial =>
    -- The predicate is not needed: only that the sink stays latched, and the ghost grows.
    obtain ⟨live, feed, stream, hcapture, hlatched, hgrown, -⟩ := h.capture parameters samples
      clock initial hpaced.2 (Q := fun _ => True) (fun _ _ _ => trivial) fun _ _ => trivial
    obtain rfl := Option.some.inj (hcapture.symm.trans hstep)
    refine ⟨?_, hlatched, hgrown.traced h.traced, Nat.le_refl _, h.bounded, h.demanded, h.coherent⟩
    rw [show feed.shared.publicationEnabled = _ from hgrown.enabled]
    exact h.enabled
  | source buffers =>
    obtain ⟨path'', hserve, hserved⟩ := serveBuffers_served sin h.length (h.holds ·) buffers
    obtain rfl := Option.some.inj (hserve.symm.trans hstep)
    obtain ⟨⟨out, shared, last, made, rfl, -⟩, henabled, hpushed, hholds⟩ := hserved
    refine ⟨?_, h.latched, ?_, h.behind, h.bounded, h.demanded, hholds.coherent⟩
    · rw [henabled]
      exact h.enabled
    · rw [hpushed]
      exact h.traced

end LivePath

end Noire
