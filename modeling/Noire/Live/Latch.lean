import Noire.Lib.Run
import Noire.Live.Law

namespace Noire

/-!
# The failure latch of the live sink

A failure anywhere in the live path latches it: from then on nothing is published but what the
user opted into, and only a reset lifts the latch.

* `DeadlineWindow` — the watchdog over late model frames, which may publish a degraded state;
* `TimedCaptureSink` — the live sink with its watchdog, and its callback in full;
  `TimedCaptureSink.processFrameParts_eq`: but for the state it publishes, the sink of
  `LiveCaptureSink`;
* `FrameAt` — what the frame at a position of the stream does, over any transport;
* `Latched` — what holds between callbacks: the latch is the published state, and the delay
  holds the samples before the next frame;
* `Permitted` — the blocks that may be published;
* `fail_closed_latch` — over every run, the latch is the state, every published block is
  permitted, and only a reset clears a failure.

The proof goes up in four steps, and the transport stays open in all of them.

1. The watchdog writes one word, the published state, and only to degrade it; so a frame of the
   timed sink is a frame of the plain one (`processFrameParts_eq`).
2. A frame hands at most one block over, and what it leaves depends on the transport's answer only
   (`Frame`).  Each branch of `process_frame` is a case.
3. At a position of the stream the delay holds known samples (`Aligned`), so the dry block is the
   delayed stream (`FrameAt`).
4. A callback is a row of frames: `Publishing` is the invariant of that loop, `Latched` the one
   between callbacks.
-/

variable {σ : Type}

/-! ## The watchdog

The window of deadline misses, and when it asks for a failure.
-/

/-- `DeadlinePolicy`; durations are in nanoseconds. -/
structure DeadlinePolicy where
  modelDeadline : ℕ := 4000000
  missesPerWindow : ℕ := 5
  window : ℕ := 10000000000

/-- `DeadlineWindow`: the times of the last misses, of which there are at most five. -/
structure DeadlineWindow where
  misses : List (Option ℕ) := .replicate 5 none
  next : ℕ := 0
  count : ℕ := 0

/-- `record`: a miss now, and whether it degrades the performance. -/
def DeadlineWindow.record (window : DeadlineWindow) (now : ℕ) (policy : DeadlinePolicy) :
    Bool × DeadlineWindow :=
  let required := min (max policy.missesPerWindow 1) window.misses.length
  let misses := window.misses.set window.next (some now)
  let next := (window.next + 1) % required
  let count := min (saturatingAdd u64Max window.count 1) required
  if count < required then (false, { misses, next, count })
  else
    ((misses.getD next none).any fun oldest => now - oldest ≤ policy.window,
      { misses, next, count })

/-- `DEFAULT_TIMING_SAMPLE_INTERVAL`. -/
def defaultTimingSampleInterval : ℕ := 100

/-- What the clock says of one call of the model. -/
structure ModelClock where
  elapsed : ℕ := 0
  now : ℕ := 0

/-! ## The sink

The fields and methods are those of the live sink, in the order in which a callback uses them.
-/

/-- `LiveCaptureSink`, with its watchdog. -/
structure TimedCaptureSink (σ : Type) where
  sink : LiveCaptureSink σ
  deadlinePolicy : DeadlinePolicy := {}
  deadlineWindow : DeadlineWindow := {}
  modelCount : ℕ := 0
  deadlineMisses : ℕ := 0

namespace TimedCaptureSink

/-- One call of the model, as the watchdog sees it; `clock` tells of the call of each number. -/
def observeDeadline (clock : ℕ → ModelClock) (t : TimedCaptureSink σ) : TimedCaptureSink σ :=
  let modelCount := saturatingAdd u64Max t.modelCount 1
  let { elapsed, now } := clock modelCount
  if modelCount % defaultTimingSampleInterval = 0 ∧ t.deadlinePolicy.modelDeadline < elapsed then
    let (degraded, deadlineWindow) := t.deadlineWindow.record now t.deadlinePolicy
    { t with
      modelCount
      deadlineWindow
      deadlineMisses := t.deadlineMisses + 1
      sink.shared.state := if degraded then .degradedPerformance else t.sink.shared.state }
  else { t with modelCount }

variable {m : Type → Type} [Monad m]

/-- `LiveCaptureSink::process_frame_parts`. -/
def processFrameParts (writeProcessed : List F32 → m Bool) (model : Denoiser σ)
    (clock : ℕ → ModelClock) (t : TimedCaptureSink σ) (frame : List F32) :
    m (TimedCaptureSink σ) :=
  match t.sink.dryDelay.process frame modelFrameSamples with
  | .error _ => return { t with sink := t.sink.modelFailed }
  | .ok (report, dry, dryDelay) =>
    let t := { t with sink := { t.sink with dryDelay := dryDelay }.countSanitized report }
    if t.sink.failed then
      (fun sink => { t with sink }) <$> t.sink.failOpen writeProcessed dry
    else
      let processed := model.processFrame t.sink.model frame
      -- The watchdog publishes before the model's result is looked at.
      let t := { t with sink.model := processed.1 }.observeDeadline clock
      match processed.2 with
      | .error _ =>
        (fun sink => { t with sink }) <$> t.sink.modelFailed.failOpen writeProcessed dry
      | .ok wet =>
        let mixed := t.sink.mixFrame dry wet.toList
        (fun accepted => { t with sink := mixed.2.settleFrame accepted }) <$>
          writeProcessed mixed.1

/-- `LiveCaptureSink::write`, with what it does to each frame. -/
def write (process : TimedCaptureSink σ → List F32 → m (TimedCaptureSink σ))
    (shared : AtomicParameters) (t : TimedCaptureSink σ) (samples : List F32) :
    m (TimedCaptureSink σ) := do
  let t := { t with sink := t.sink.enter shared samples }
  let pushed ← t.sink.assembler.push (sanitizeBuffer samples).1 process t
  let t := { pushed.2.2 with sink.assembler := pushed.2.1 }
  match pushed.1 with
  | .error _ => return { t with sink := t.sink.modelFailed }
  | .ok _ => return t

/-- `reset_signal_state`. -/
def resetSignalState (t : TimedCaptureSink σ) : TimedCaptureSink σ :=
  { t with
    sink := { t.sink with
      assembler := .new
      dryDelay := t.sink.dryDelay.reset
      failed := false
      shared.state := .running }
    deadlineWindow := {} }

/-- `reset_deactivated`, for a model whose `reset` leaves the state `initial`.  A `reset` to a
    new generation also resets the transport. -/
def resetDeactivated (initial : σ) (t : TimedCaptureSink σ) : TimedCaptureSink σ :=
  { t with sink.model := initial }.resetSignalState

/-- `set_deadline_policy_deactivated`. -/
def setDeadlinePolicyDeactivated (policy : DeadlinePolicy) (t : TimedCaptureSink σ) :
    TimedCaptureSink σ :=
  { t with deadlinePolicy := policy, deadlineWindow := {} }

/-! ## The watchdog only publishes

It writes to the shared telemetry and to nothing that a frame depends on.  So the callback with
the watchdog is the one without it, on the sink that the watchdog leaves.
-/

/-- The watchdog touches the sink's published state only, and only to degrade it. -/
theorem observeDeadline_sink (clock : ℕ → ModelClock) (t : TimedCaptureSink σ) :
    ∃ state, (state = t.sink.shared.state ∨ state = .degradedPerformance) ∧
      (t.observeDeadline clock).sink = { t.sink with shared.state := state } := by
  unfold observeDeadline
  dsimp only
  split
  · split
    · exact ⟨_, .inr rfl, rfl⟩
    · exact ⟨_, .inl rfl, rfl⟩
  · exact ⟨_, .inl rfl, rfl⟩

/-- The watchdog reads nothing of the sink, and writes its published state. -/
theorem observeDeadline_with (clock : ℕ → ModelClock) (t : TimedCaptureSink σ)
    (sink : LiveCaptureSink σ) (hstate : sink.shared.state = t.sink.shared.state) :
    ({ t with sink } : TimedCaptureSink σ).observeDeadline clock =
      { t.observeDeadline clock with
        sink := { sink with shared.state := (t.observeDeadline clock).sink.shared.state } } := by
  unfold observeDeadline
  dsimp only
  split
  · rw [hstate]
  · rw [← hstate]

/-- The sink when it settles a frame: the model, if it is called on it, has been watched. -/
def watched (clock : ℕ → ModelClock) (t : TimedCaptureSink σ) (frame : List F32) :
    TimedCaptureSink σ :=
  if (t.sink.dryDelay.process frame modelFrameSamples).isOk && !t.sink.failed then
    t.observeDeadline clock
  else t

/-- **The watchdog only publishes.** A frame through the timed sink is the frame through the
    sink, watched. -/
theorem processFrameParts_eq {m : Type → Type} [Monad m] [LawfulMonad m]
    (writeProcessed : List F32 → m Bool) (model : Denoiser σ) (clock : ℕ → ModelClock)
    (t : TimedCaptureSink σ) (frame : List F32) :
    t.processFrameParts writeProcessed model clock frame =
      (fun sink => { t.watched clock frame with sink }) <$>
        (t.watched clock frame).sink.processFrameParts writeProcessed model frame := by
  -- The clock is read only where the model is called: each way out before it is the sink's own.
  rcases hdry : t.sink.dryDelay.process frame modelFrameSamples with error | ⟨report, dry, dryDelay⟩
  · have hwatched : t.watched clock frame = t := by
      unfold watched
      rw [hdry]
      rfl
    rw [hwatched, processFrameParts, LiveCaptureSink.processFrameParts, hdry]
    dsimp only
    rw [map_pure]
  cases hfailed : t.sink.failed with
  | true =>
    have hwatched : t.watched clock frame = t := by
      unfold watched
      rw [hdry, hfailed]
      rfl
    rw [hwatched, processFrameParts, LiveCaptureSink.processFrameParts, hdry]
    dsimp only [LiveCaptureSink.countSanitized]
    rw [if_pos hfailed, if_pos hfailed]
  | false =>
    have hwatched : t.watched clock frame = t.observeDeadline clock := by
      unfold watched
      rw [hdry, hfailed]
      rfl
    obtain ⟨state, -, hsink⟩ := t.observeDeadline_sink clock
    -- What is watched is the sink that has moved its dry path and its model.
    have hmoved := observeDeadline_with clock t
      { { t.sink with dryDelay := dryDelay }.countSanitized report with
        model := (model.processFrame t.sink.model frame).1 } rfl
    rw [hwatched, processFrameParts, LiveCaptureSink.processFrameParts, hsink, hdry]
    dsimp only [LiveCaptureSink.countSanitized] at hmoved ⊢
    rw [if_neg (by rw [hfailed]; decide), if_neg (by rw [hfailed]; decide), hmoved, hsink]
    cases (model.processFrame t.sink.model frame).2 with
    | error error => rfl
    | ok wet =>
      dsimp only
      rw [← comp_map]
      rfl

end TimedCaptureSink

/-! ## What a frame publishes

A block is handed over in two ways: by the healthy path, or by the open fail mode, once something
has failed.  An error of the delay or of the model fails the sink before a block is made, and a
refusal of the transport after.
-/

namespace LiveCaptureSink

/-- The latch is the published state. -/
def Published (sink : LiveCaptureSink σ) : Prop :=
  sink.failed = true ↔
    sink.shared.state = .modelFailed ∨ sink.shared.state = .transportFailed

/-- The dry frame that goes with a frame: the samples in flight, then the frame's. -/
def dryFrame (sink : LiveCaptureSink σ) (frame : List F32) : List F32 :=
  (sink.dryDelay.queue ++ frame).take modelFrameSamples

/-- The model succeeds on the frame. -/
def ModelOk (model : Denoiser σ) (sink : LiveCaptureSink σ) (frame : List F32) : Prop :=
  (model.processFrame sink.model frame).2.isOk = true

/-- A block that may be handed to the transport for a frame: anything the healthy path makes, or
    the dry frame, once something has failed and the user has opted in. -/
def MayPublish (model : Denoiser σ) (sink : LiveCaptureSink σ) (frame block : List F32) : Prop :=
  (sink.failed = false ∧ sink.ModelOk model frame) ∨
    ((sink.failed = true ∨ ¬sink.ModelOk model frame) ∧
      sink.parameters.failMode = .opened ∧ block = sink.dryFrame frame)

/-- What one frame makes of a sink. -/
structure Settled (sink : LiveCaptureSink σ) (frame : List F32) (after : LiveCaptureSink σ) :
    Prop where
  queue : after.dryDelay.queue = (sink.dryDelay.queue ++ frame).drop modelFrameSamples
  inBounds : after.dryDelay.InBounds
  parameters : after.parameters = sink.parameters
  strength : sink.strength.remaining = 0 → after.strength = sink.strength
  latched : sink.failed = true → after.failed = true
  published : sink.Published → after.Published

/-- A block that is handed to the transport for a frame; at strength zero it is the dry frame,
    clamped or as it is. -/
structure Handed (model : Denoiser σ) (sink : LiveCaptureSink σ) (frame block : List F32) :
    Prop where
  length : block.length = modelFrameSamples
  permitted : sink.MayPublish model frame block
  dry : sink.strength.SettledAtZero →
    block = (sink.dryFrame frame).map (fun x => (sanitized x).clamp .minusOne .one) ∨
      block = sink.dryFrame frame

/-- Processing one frame in a monad that writes: without a block, or with one, whatever the
    transport answers. -/
inductive Frame (model : Denoiser σ) (sink : LiveCaptureSink σ) (frame : List F32) : Prop
  | kept (after : LiveCaptureSink σ) (settled : sink.Settled frame after)
    (failed : sink.failed = true ∨ ¬sink.ModelOk model frame)
    (eq : ∀ {m : Type → Type} [Monad m] [LawfulMonad m] (writeProcessed : List F32 → m Bool),
      sink.processFrameParts writeProcessed model frame = pure after)
  | handed (block : List F32) (settle : Bool → LiveCaptureSink σ)
    (settled : ∀ accepted, sink.Settled frame (settle accepted))
    (block_eq : Handed model sink frame block)
    (eq : ∀ {m : Type → Type} [Monad m] [LawfulMonad m] (writeProcessed : List F32 → m Bool),
      sink.processFrameParts writeProcessed model frame = settle <$> writeProcessed block)

/-- The dry frame is a whole frame. -/
theorem length_dryFrame (sink : LiveCaptureSink σ) {frame : List F32} (hframe : IsFrame frame) :
    (sink.dryFrame frame).length = modelFrameSamples := by
  rw [dryFrame, List.length_take, List.length_append, hframe.1]
  omega

/-- Failing open hands over the dry frame, and only counts. -/
theorem failOpen_opened {sink : LiveCaptureSink σ} (hopen : sink.parameters.failMode = .opened)
    {m : Type → Type} [Monad m] [LawfulMonad m] (writeProcessed : List F32 → m Bool)
    (dry : List F32) :
    sink.failOpen writeProcessed dry = (fun accepted => if accepted then
        { sink with shared := { sink.shared with dryFrames := sink.shared.dryFrames + 1 } }
      else sink) <$> writeProcessed dry := by
  rw [failOpen, if_pos hopen, map_eq_pure_bind]
  refine bind_congr fun accepted => ?_
  cases accepted <;> rfl

/-- **A failed frame** hands over the dry frame, if the user has opted in. -/
theorem Frame.of_failOpen {model : Denoiser σ} {sink failed : LiveCaptureSink σ}
    {frame : List F32} (hframe : IsFrame frame) (settled : sink.Settled frame failed)
    (hwhy : sink.failed = true ∨ ¬sink.ModelOk model frame)
    (hprocess : ∀ {m : Type → Type} [Monad m] (writeProcessed : List F32 → m Bool),
      sink.processFrameParts writeProcessed model frame =
        failed.failOpen writeProcessed (sink.dryFrame frame)) :
    Frame model sink frame := by
  by_cases hopen : failed.parameters.failMode = .opened
  · refine .handed (sink.dryFrame frame) (fun accepted => if accepted then
        { failed with shared := { failed.shared with dryFrames := failed.shared.dryFrames + 1 } }
      else failed) (fun accepted => ?_) ⟨sink.length_dryFrame hframe,
        .inr ⟨hwhy, settled.parameters ▸ hopen, rfl⟩, fun _ => .inr rfl⟩ fun writeProcessed => ?_
    · cases accepted with
      | true =>
        exact ⟨settled.queue, settled.inBounds, settled.parameters, settled.strength,
          settled.latched, settled.published⟩
      | false => exact settled
    · rw [hprocess, failOpen_opened hopen]
  · refine .kept failed settled hwhy fun writeProcessed => ?_
    rw [hprocess, failOpen, if_neg hopen]

/-- At strength zero the mixer passes the dry frame, clamped. -/
theorem mixFrame_dry {sink : LiveCaptureSink σ} (hzero : sink.strength.SettledAtZero)
    {dry wet : List F32} (hlen : dry.length ≤ wet.length) :
    (sink.mixFrame dry wet).1 = dry.map fun x => (sanitized x).clamp .minusOne .one := by
  refine ((mixAll_eq (dry.zip wet) sink.strength {}).1).trans (List.ext_getElem? fun i => ?_)
  rw [List.getElem?_mapIdx, List.getElem?_map]
  cases hx : dry[i]? with
  | none =>
    rw [List.getElem?_eq_none_iff] at hx
    rw [List.getElem?_eq_none (by rw [List.length_zip]; omega)]
    rfl
  | some x =>
    obtain ⟨hi, rfl⟩ := List.getElem?_eq_some_iff.mp hx
    have hi' : i < wet.length := by omega
    have hpair : (dry.zip wet)[i]? = some (dry[i], wet[i]) :=
      List.getElem?_zip_eq_some.mpr ⟨hx, List.getElem?_eq_getElem _⟩
    rw [hpair, Option.map_some, Option.map_some, LinearMixer.mix_zero _ _
      (StrengthRamp.SettledAtZero.strengthAt (n := 0) hzero (Nat.zero_le i))]

/-- **A processed frame** hands over the mix, and only a refusal of the transport fails the sink. -/
theorem Frame.of_mixed {model : Denoiser σ} {sink called : LiveCaptureSink σ}
    {frame wet : List F32} (hframe : IsFrame frame) (hwet : wet.length = modelFrameSamples)
    (settled : sink.Settled frame called) (hstrength : called.strength = sink.strength)
    (hnot : ¬sink.failed = true) (hok : sink.ModelOk model frame)
    (hprocess : ∀ {m : Type → Type} [Monad m] [LawfulMonad m] (writeProcessed : List F32 → m Bool),
      sink.processFrameParts writeProcessed model frame =
        (called.mixFrame (sink.dryFrame frame) wet).2.settleFrame <$>
          writeProcessed (called.mixFrame (sink.dryFrame frame) wet).1) :
    Frame model sink frame := by
  have hlen : (sink.dryFrame frame).length = wet.length :=
    (sink.length_dryFrame hframe).trans hwet.symm
  have hmixed : (called.mixFrame (sink.dryFrame frame) wet).1.length = modelFrameSamples := by
    refine (congrArg List.length (mixAll_eq _ called.strength {}).1).trans ?_
    rw [List.length_mapIdx, List.length_zip, ← hlen, Nat.min_self, sink.length_dryFrame hframe]
  have hresting : sink.strength.remaining = 0 →
      (called.mixFrame (sink.dryFrame frame) wet).2.strength = sink.strength := fun hremaining => by
    refine (mixAll_eq _ called.strength {}).2.trans ?_
    rw [hstrength, StrengthRamp.after_of_resting hremaining]
  -- At a settled zero the mix is the dry sample, brought into range.
  have hdry : sink.strength.SettledAtZero → (called.mixFrame (sink.dryFrame frame) wet).1 =
      (sink.dryFrame frame).map fun x => (sanitized x).clamp .minusOne .one := fun hzero =>
    mixFrame_dry (hstrength ▸ hzero) (Nat.le_of_eq hlen)
  refine .handed (called.mixFrame (sink.dryFrame frame) wet).1
    (called.mixFrame (sink.dryFrame frame) wet).2.settleFrame (fun accepted => ?_)
    ⟨hmixed, .inl ⟨by simpa using hnot, hok⟩, fun hzero => .inl (hdry hzero)⟩ hprocess
  cases accepted with
  | true =>
    exact ⟨settled.queue, settled.inBounds, settled.parameters, hresting,
      fun hfailed => absurd hfailed hnot, settled.published⟩
  -- A refused block marks the sink as failed.
  | false =>
    exact ⟨settled.queue, settled.inBounds, settled.parameters, hresting,
      fun _ => rfl, fun _ => iff_of_true rfl (.inr rfl)⟩

/-- **One frame** through a sink, whatever its model and its transport do. -/
theorem processFrameParts_frame (model : Denoiser σ) {sink : LiveCaptureSink σ}
    (hbounds : sink.dryDelay.InBounds) {frame : List F32} (hframe : IsFrame frame) :
    Frame model sink frame := by
  have hclean : frame.map sanitized = frame :=
    (List.map_congr_left hframe.2).trans (List.map_id _)
  obtain ⟨report, dryDelay, hprocess, hqueue, hbounds'⟩ :=
    sink.dryDelay.process_eq hbounds frame (by rw [hframe.1]; decide)
  rw [hclean, hframe.1] at hprocess hqueue
  -- What the frame does first: the dry path advances.
  obtain ⟨moved, hmoved⟩ : ∃ moved : LiveCaptureSink σ, moved =
    { sink with dryDelay := dryDelay }.countSanitized report := ⟨_, rfl⟩
  have settled : sink.Settled frame moved := by
    rw [hmoved]
    exact ⟨hqueue, hbounds', rfl, fun _ => rfl, id, id⟩
  by_cases hfailed : sink.failed = true
  · -- already failed: the model is not called
    refine .of_failOpen hframe settled (.inl hfailed) fun writeProcessed => ?_
    rw [processFrameParts, hprocess]
    dsimp only
    rw [← hmoved, if_pos (by rw [hmoved]; exact hfailed)]
    rfl
  have hnot : ¬moved.failed = true := by
    rw [hmoved]
    exact hfailed
  obtain ⟨called, hcalled⟩ : ∃ called : LiveCaptureSink σ, called =
    { moved with model := (model.processFrame sink.model frame).1 } := ⟨_, rfl⟩
  have hmodel : moved.model = sink.model := by rw [hmoved]; rfl
  cases hresult : (model.processFrame sink.model frame).2 with
  | error error =>
    -- the model fails on this frame
    have hnotOk : ¬sink.ModelOk model frame := by
      unfold ModelOk
      rw [hresult]
      exact Bool.false_ne_true
    have hfailed' : sink.Settled frame called.modelFailed := by
      rw [hcalled]
      exact ⟨settled.queue, settled.inBounds, settled.parameters, settled.strength,
        fun _ => rfl, fun _ => iff_of_true rfl (.inl rfl)⟩
    refine .of_failOpen hframe hfailed' (.inr hnotOk) fun writeProcessed => ?_
    rw [processFrameParts, hprocess]
    dsimp only
    rw [← hmoved, if_neg hnot, hmodel, hresult, hcalled]
    rfl
  | ok wet =>
    have hok : sink.ModelOk model frame := by
      unfold ModelOk
      rw [hresult]
      rfl
    have hcalled' : sink.Settled frame called := by
      rw [hcalled]
      exact ⟨settled.queue, settled.inBounds, settled.parameters, settled.strength,
        settled.latched, settled.published⟩
    have hstrength : called.strength = sink.strength := by rw [hcalled, hmoved]; rfl
    refine .of_mixed hframe wet.length_toList hcalled' hstrength hfailed hok
      fun writeProcessed => ?_
    rw [processFrameParts, hprocess]
    dsimp only
    rw [← hmoved, if_neg hnot, hmodel, hresult, hcalled]
    rfl

end LiveCaptureSink

/-! ## What a callback publishes

The publications are collected with the sink and the frame that they came from, so that the run can
say of each block under which condition it was made, also after later frames have changed the sink.
-/

/-- A block that was handed to the transport: the sink and the frame it was made from, and how
    many samples had gone through before. -/
structure Publication (σ : Type) where
  sink : LiveCaptureSink σ
  position : ℕ
  frame : List F32
  block : List F32

/-- How the transport answers, how many samples have gone through, and what was handed to it. -/
structure Publications (σ : Type) where
  accepts : List Bool := []
  position : ℕ := 0
  made : List (Publication σ) := []

/-- How a transport answers, and the blocks it was handed. -/
structure Tape where
  accepts : List Bool := []
  blocks : List (List F32) := []

/-- A transport that answers from the tape, and remembers what it was handed. -/
def attempt (block : List F32) : StateM Tape Bool :=
  fun tape => (tape.accepts.headD true, ⟨tape.accepts.tail, tape.blocks ++ [block]⟩)

namespace TimedCaptureSink

/-- One frame, with what it hands to the transport. -/
def publishing (model : Denoiser σ) (clock : ℕ → ModelClock) (t : TimedCaptureSink σ)
    (frame : List F32) : StateM (Publications σ) (TimedCaptureSink σ) := fun log =>
  let (after, tape) := (t.processFrameParts attempt model clock frame).run ⟨log.accepts, []⟩
  (after, ⟨tape.accepts, log.position + modelFrameSamples,
    log.made ++ tape.blocks.map (⟨t.sink, log.position, frame, ·⟩)⟩)

/-- The dry path holds the samples of the stream before position `n`, as many as its delay. -/
structure Aligned (delaySamples : ℕ) (stream : List F32) (n : ℕ) (t : TimedCaptureSink σ) :
    Prop where
  inBounds : t.sink.dryDelay.InBounds
  queue : t.sink.dryDelay.queue =
    (List.replicate delaySamples (.zero : F32) ++ stream.take n).drop n

/-- A block that may be published: its frame is the stream's from its position on, and either
    nothing had failed and the model succeeded on it, or something had, the fail mode was open,
    and the block is the stream's from there on, delayed. -/
def Permitted (model : Denoiser σ) (failMode : FailMode) (stream : List F32)
    (publication : Publication σ) : Prop :=
  publication.frame = (stream.drop publication.position).take modelFrameSamples ∧
    ((publication.sink.failed = false ∧
        publication.sink.ModelOk model publication.frame) ∨
      ((publication.sink.failed = true ∨ ¬publication.sink.ModelOk model publication.frame) ∧
        failMode = .opened ∧
        publication.block = (List.range modelFrameSamples).map fun j =>
          delayed model.descriptor.delaySamples stream (publication.position + j)))

/-- The dry frame of an aligned sink is the delayed stream. -/
theorem Aligned.dryFrame {delaySamples n : ℕ} {stream : List F32} {t : TimedCaptureSink σ}
    (h : t.Aligned delaySamples stream n) (hn : n + modelFrameSamples ≤ stream.length) :
    t.sink.dryFrame ((stream.drop n).take modelFrameSamples) =
      (List.range modelFrameSamples).map fun j => delayed delaySamples stream (n + j) := by
  -- The delay with the frame behind it is a stretch of the padded stream.
  have hjoin : t.sink.dryDelay.queue ++ (stream.drop n).take modelFrameSamples =
      (List.replicate delaySamples (.zero : F32) ++
        stream.take (n + modelFrameSamples)).drop n := by
    rw [h.queue, ← List.drop_append_of_le_length, List.append_assoc, ← List.take_add]
    rw [List.length_append, List.length_take]
    omega
  unfold LiveCaptureSink.dryFrame
  rw [hjoin]
  refine List.ext_getElem? fun j => ?_
  by_cases hj : j < modelFrameSamples
  · have hlen : (stream.take (n + modelFrameSamples)).length = n + modelFrameSamples :=
      List.length_take_of_le hn
    have hcut : delayed delaySamples (stream.take (n + modelFrameSamples)) (n + j) =
        delayed delaySamples stream (n + j) := by
      unfold delayed
      split
      · rfl
      · rw [List.getD_eq_getElem?_getD, List.getD_eq_getElem?_getD,
          List.getElem?_take_of_lt (by omega)]
    rw [List.getElem?_take_of_lt hj, List.getElem?_drop,
      getElem?_padded delaySamples _ (by rw [hlen]; omega), hcut, List.getElem?_map,
      List.getElem?_range hj]
    rfl
  · rw [List.getElem?_eq_none (by rw [List.length_take]; omega),
      List.getElem?_eq_none (by rw [List.length_map, List.length_range]; omega)]

/-- Watching changes the published state only, and keeps it the latch. -/
theorem watched_sink (clock : ℕ → ModelClock) (t : TimedCaptureSink σ) (frame : List F32) :
    ∃ state, (t.watched clock frame).sink = { t.sink with shared.state := state } ∧
      (t.sink.Published → (t.watched clock frame).sink.Published) := by
  unfold watched
  split
  · rename_i hcalled
    have hhealthy : t.sink.failed = false := by simpa using (Bool.and_eq_true_iff.mp hcalled).2
    obtain ⟨state, hstate, hsink⟩ := t.observeDeadline_sink clock
    refine ⟨state, hsink, fun hpublished => ?_⟩
    rw [hsink]
    rcases hstate with rfl | rfl
    · exact hpublished
    · exact iff_of_false (by rw [hhealthy]; decide) (by rintro (h | h) <;> cases h)
  · exact ⟨t.sink.shared.state, rfl, id⟩

/-- What holds of a callback's sink from frame to frame: it is where the stream is, it keeps the
    parameters it has loaded and a strength that rests, and it stays latched. -/
structure Advanced (delaySamples : ℕ) (stream : List F32) (n : ℕ) (t t' : TimedCaptureSink σ) :
    Prop where
  aligned : t'.Aligned delaySamples stream n
  parameters : t'.sink.parameters = t.sink.parameters
  strength : t.sink.strength.remaining = 0 → t'.sink.strength = t.sink.strength
  latched : t.sink.failed = true → t'.sink.failed = true
  published : t.sink.Published → t'.sink.Published

/-- Nothing has happened yet. -/
theorem Aligned.advanced {delaySamples : ℕ} {stream : List F32} {n : ℕ} {t : TimedCaptureSink σ}
    (h : t.Aligned delaySamples stream n) : Advanced delaySamples stream n t t :=
  ⟨h, rfl, fun _ => rfl, id, id⟩

/-- One thing after another. -/
theorem Advanced.trans {delaySamples : ℕ} {stream : List F32} {n n' : ℕ}
    {t t' t'' : TimedCaptureSink σ} (h : Advanced delaySamples stream n t t')
    (h' : Advanced delaySamples stream n' t' t'') : Advanced delaySamples stream n' t t'' := by
  refine ⟨h'.aligned, h'.parameters.trans h.parameters, fun hresting => ?_,
    fun hf => h'.latched (h.latched hf), fun hp => h'.published (h.published hp)⟩
  have hsame := h.strength hresting
  exact (h'.strength (by rw [hsame]; exact hresting)).trans hsame

/-- The delayed frame at a position of the stream. -/
def delayedFrame (delaySamples : ℕ) (stream : List F32) (n : ℕ) : List F32 :=
  (List.range modelFrameSamples).map fun j => delayed delaySamples stream (n + j)

/-- Processing the frame at a position in a monad that writes: without a block, or with one,
    whatever the transport answers. -/
inductive FrameAt (model : Denoiser σ) (clock : ℕ → ModelClock) (stream : List F32) (n : ℕ)
    (t : TimedCaptureSink σ) : Prop
  | kept (after : TimedCaptureSink σ)
    (advanced : Advanced model.descriptor.delaySamples stream (n + modelFrameSamples) t after)
    (failed : t.sink.failed = true ∨
      ¬t.sink.ModelOk model ((stream.drop n).take modelFrameSamples))
    (eq : ∀ {m : Type → Type} [Monad m] [LawfulMonad m] (writeProcessed : List F32 → m Bool),
      t.processFrameParts writeProcessed model clock ((stream.drop n).take modelFrameSamples) =
        pure after)
  | handed (block : List F32) (settle : Bool → TimedCaptureSink σ)
    (advanced : ∀ accepted, Advanced model.descriptor.delaySamples stream
      (n + modelFrameSamples) t (settle accepted))
    (length : block.length = modelFrameSamples)
    (permitted : t.sink.MayPublish model ((stream.drop n).take modelFrameSamples) block)
    (dry : t.sink.strength.SettledAtZero →
      block = (delayedFrame model.descriptor.delaySamples stream n).map
          (fun x => (sanitized x).clamp .minusOne .one) ∨
        block = delayedFrame model.descriptor.delaySamples stream n)
    (eq : ∀ {m : Type → Type} [Monad m] [LawfulMonad m] (writeProcessed : List F32 → m Bool),
      t.processFrameParts writeProcessed model clock ((stream.drop n).take modelFrameSamples) =
        settle <$> writeProcessed block)

/-- **The frame at a position** of an aligned sink. -/
theorem Aligned.frame {model : Denoiser σ} (clock : ℕ → ModelClock) {stream : List F32}
    (hclean : ∀ x ∈ stream, sanitized x = x) {n : ℕ} {t : TimedCaptureSink σ}
    (h : t.Aligned model.descriptor.delaySamples stream n)
    (hn : n + modelFrameSamples ≤ stream.length) : FrameAt model clock stream n t := by
  obtain ⟨frame, hframe⟩ : ∃ frame, frame = (stream.drop n).take modelFrameSamples := ⟨_, rfl⟩
  have hexact : IsFrame frame := by
    rw [hframe]
    refine ⟨by rw [List.length_take, List.length_drop]; omega, fun x hx => ?_⟩
    exact hclean x (List.mem_of_mem_drop (List.mem_of_mem_take hx))
  obtain ⟨state, hsink, hpublished⟩ := t.watched_sink clock frame
  have hbounds : (t.watched clock frame).sink.dryDelay.InBounds := by
    rw [hsink]
    exact h.inBounds
  have hdryFrame : (t.watched clock frame).sink.dryFrame frame =
      delayedFrame model.descriptor.delaySamples stream n := by
    rw [hsink, hframe]
    exact h.dryFrame hn
  -- What settles the frame advances the sink: its delay holds the stream before the next one.
  have hadvanced : ∀ after, (t.watched clock frame).sink.Settled frame after →
      Advanced model.descriptor.delaySamples stream (n + modelFrameSamples) t
        { t.watched clock frame with sink := after } := by
    intro after settled
    obtain ⟨hqueue, hbounds', hparameters, hstrength, hlatched, hkept⟩ := settled
    rw [hsink] at hqueue hparameters hstrength hlatched
    refine ⟨⟨hbounds', ?_⟩, hparameters, hstrength, hlatched, fun hp => hkept (hpublished hp)⟩
    dsimp only at hqueue ⊢
    rw [hqueue, h.queue, hframe, ← List.drop_append_of_le_length, List.append_assoc,
      ← List.take_add, List.drop_drop]
    rw [List.length_append, List.length_take]
    omega
  -- The watched sink does to the frame what the bare one does.
  cases LiveCaptureSink.processFrameParts_frame model hbounds hexact with
  | kept after settled hfailed heq =>
    rw [hsink] at hfailed
    refine .kept _ (hadvanced after settled) (hframe ▸ hfailed) fun writeProcessed => ?_
    rw [← hframe, processFrameParts_eq, heq, map_pure]
  | handed block settle settled handed heq =>
    refine .handed block (fun accepted => { t.watched clock frame with sink := settle accepted })
      (fun accepted => hadvanced _ (settled accepted)) handed.length ?_ (fun hzero => ?_)
      fun writeProcessed => ?_
    · have hpermitted := handed.permitted
      rw [hsink] at hpermitted
      rw [← hframe]
      exact hpermitted
    · rw [← hdryFrame]
      exact handed.dry (by rw [hsink]; exact hzero)
    · rw [← hframe, processFrameParts_eq, heq, Functor.map_map]

/-- What holds in a callback before the frame at `n`: the sink has advanced there, and what was
    handed to the transport is permitted. -/
structure Publishing (model : Denoiser σ) (stream : List F32) (t : TimedCaptureSink σ)
    (log : Publications σ) (n : ℕ) (t' : TimedCaptureSink σ) (log' : Publications σ) : Prop where
  position : log'.position = n
  advanced : Advanced model.descriptor.delaySamples stream n t t'
  made : ∃ made, log'.made = log.made ++ made ∧
    ∀ publication ∈ made, Permitted model t.sink.parameters.failMode stream publication

/-- **One frame.** -/
theorem Publishing.frame {model : Denoiser σ} (clock : ℕ → ModelClock) {stream : List F32}
    (hclean : ∀ x ∈ stream, sanitized x = x) {t : TimedCaptureSink σ} {log : Publications σ}
    (n : ℕ) (t' : TimedCaptureSink σ) (log' : Publications σ)
    (h : Publishing model stream t log n t' log') (hn : n + modelFrameSamples ≤ stream.length) :
    Publishing model stream t log (n + modelFrameSamples)
      (t'.publishing model clock ((stream.drop n).take modelFrameSamples) log').1
      (t'.publishing model clock ((stream.drop n).take modelFrameSamples) log').2 := by
  obtain ⟨rfl, hadvanced, made, hmade, hpermitted⟩ := h
  unfold publishing
  cases hadvanced.aligned.frame clock hclean hn with
  -- Nothing is published, and the log stays as it is.
  | kept after hnext _ heq =>
    rw [heq]
    exact ⟨rfl, hadvanced.trans hnext, made, hmade ▸ List.append_nil _, hpermitted⟩
  | handed block settle hnext _ hmay _ heq =>
    rw [heq]
    refine ⟨rfl, hadvanced.trans (hnext _), made ++ [⟨t'.sink, log'.position,
      (stream.drop log'.position).take modelFrameSamples, block⟩], ?_, ?_⟩
    · rw [← List.append_assoc, ← hmade]
      rfl
    · refine List.forall_mem_append.mpr ⟨hpermitted, List.forall_mem_singleton.mpr ⟨rfl, ?_⟩⟩
      -- A block is only handed over with the model in order, or dry in an open failure.
      rcases hmay with hok | ⟨hfailed, hopen, hdry⟩
      · exact .inl hok
      · refine .inr ⟨hfailed, hadvanced.parameters ▸ hopen, hdry.trans ?_⟩
        exact hadvanced.aligned.dryFrame hn

/-- What holds of the sink between callbacks: its assembler holds what the stream has after the
    frames that went through, its dry path what came before, and the latch is the state. -/
structure Latched (model : Denoiser σ) (stream : List F32) (n : ℕ) (t : TimedCaptureSink σ) :
    Prop where
  clean : ∀ x ∈ stream, sanitized x = x
  position : n ≤ stream.length
  stored : t.sink.assembler.stored = stream.drop n
  aligned : t.Aligned model.descriptor.delaySamples stream n
  published : t.sink.Published

/-- The entry of a callback leaves the latch, the state, and what the sink holds. -/
theorem enter_keeps (shared : AtomicParameters) (sink : LiveCaptureSink σ) (samples : List F32) :
    (sink.enter shared samples).assembler = sink.assembler ∧
      (sink.enter shared samples).dryDelay = sink.dryDelay ∧
      (sink.enter shared samples).failed = sink.failed ∧
      (sink.enter shared samples).shared.state = sink.shared.state := by
  obtain ⟨parameters, strength, hload⟩ := LiveCaptureSink.loadParameters_fields shared
    { sink with
      shared := { sink.shared with inputSamples := sink.shared.inputSamples + samples.length } }
  unfold LiveCaptureSink.enter
  dsimp only
  rw [hload]
  exact ⟨rfl, rfl, rfl, rfl⟩

/-- A callback loads the parameters, processes the blocks it completes, and keeps the rest. -/
theorem write_eq {m : Type → Type} [Monad m] [LawfulMonad m]
    (process : TimedCaptureSink σ → List F32 → m (TimedCaptureSink σ))
    (shared : AtomicParameters) (t : TimedCaptureSink σ) {samples : List F32}
    (hsamples : samples.length ≤ maxCallbackFrames) :
    write process shared t samples = (fun after =>
        { after with
          sink.assembler := .holding (t.sink.assembler.stored ++ samples.map sanitized) }) <$>
      (Lib.blocks modelFrameSamples (t.sink.assembler.stored ++ samples.map sanitized)).foldlM
        process { t with sink := t.sink.enter shared samples } := by
  have hstored : Lib.leftover modelFrameSamples t.sink.assembler.stored =
      t.sink.assembler.stored := Lib.leftover_of_lt t.sink.assembler.pending_lt
  have hholding : (t.sink.enter shared samples).assembler =
      .holding t.sink.assembler.stored :=
    (enter_keeps shared t.sink samples).1.trans (FrameAssembler.ext hstored.symm)
  obtain ⟨report, hpush⟩ := FrameAssembler.push_eq process t.sink.assembler.stored
    (samples.map sanitized) (by rwa [List.length_map])
  have hheld : (FrameAssembler.holding t.sink.assembler.stored).stored =
      t.sink.assembler.stored := hstored
  rw [map_sanitized_sanitized, hheld] at hpush
  unfold write
  dsimp only
  rw [hholding, sanitizeBuffer_fst, hpush, bind_map_left]
  exact bind_pure_comp ..

/-- **A callback begins.** The stream is longer by its samples, none of which has gone through. -/
theorem Latched.entered {model : Denoiser σ} {stream : List F32} {n : ℕ} {t : TimedCaptureSink σ}
    (h : t.Latched model stream n) (shared : AtomicParameters) (samples : List F32) :
    (∀ x ∈ stream ++ samples.map sanitized, sanitized x = x) ∧
      n ≤ (stream ++ samples.map sanitized).length ∧
      t.sink.assembler.stored ++ samples.map sanitized =
        (stream ++ samples.map sanitized).drop n ∧
      ({ t with sink := t.sink.enter shared samples } : TimedCaptureSink σ).Aligned
        model.descriptor.delaySamples (stream ++ samples.map sanitized) n := by
  obtain ⟨hclean, hn, hstored, halign, -⟩ := h
  obtain ⟨-, hdelay, -, -⟩ := enter_keeps shared t.sink samples
  refine ⟨List.forall_mem_append.mpr ⟨hclean, List.forall_mem_map.mpr fun x _ => ?_⟩,
    ?_, ?_, ?_, ?_⟩
  · exact sanitized_sanitized x
  · rw [List.length_append]
    omega
  · rw [List.drop_append_of_le_length hn, hstored]
  · rw [hdelay]
    exact halign.inBounds
  · rw [List.take_append_of_le_length hn]
    dsimp only
    rw [hdelay]
    exact halign.queue

/-- **A callback ends.** Its frames have gone through, and the assembler keeps what is left. -/
theorem Latched.left {model : Denoiser σ} {stream : List F32} {n : ℕ} {t : TimedCaptureSink σ}
    (h : t.Latched model stream n) {shared : AtomicParameters} {samples : List F32} {n' : ℕ}
    {after : TimedCaptureSink σ}
    (hadvanced : Advanced model.descriptor.delaySamples (stream ++ samples.map sanitized) n'
      { t with sink := t.sink.enter shared samples } after)
    (hn' : n' ≤ (stream ++ samples.map sanitized).length)
    (hleft : (stream ++ samples.map sanitized).drop n' = Lib.leftover modelFrameSamples
      ((stream ++ samples.map sanitized).drop n)) :
    ({ after with
        sink.assembler := .holding ((stream ++ samples.map sanitized).drop n) } :
      TimedCaptureSink σ).Latched model (stream ++ samples.map sanitized) n' := by
  obtain ⟨hclean, -, -, -⟩ := h.entered shared samples
  obtain ⟨-, -, hfailed, hstate⟩ := enter_keeps shared t.sink samples
  refine ⟨hclean, hn', hleft.symm, ⟨hadvanced.aligned.inBounds, hadvanced.aligned.queue⟩, ?_⟩
  refine hadvanced.published ?_
  change (t.sink.enter shared samples).failed = true ↔
    (t.sink.enter shared samples).shared.state = _ ∨
      (t.sink.enter shared samples).shared.state = _
  rw [hfailed, hstate]
  exact h.published

/-- **A callback** publishes what is permitted, and leaves the sink latched. -/
theorem write_latched {model : Denoiser σ} (clock : ℕ → ModelClock) {stream : List F32} {n : ℕ}
    {t : TimedCaptureSink σ} (h : t.Latched model stream n) (shared : AtomicParameters)
    {samples : List F32} (hsamples : samples.length ≤ maxCallbackFrames) (log : Publications σ)
    (hlog : log.position = n) :
    ∃ made, ((write (publishing model clock) shared t samples).run log).2.made =
        log.made ++ made ∧
      ((write (publishing model clock) shared t samples).run log).1.Latched model
        (stream ++ samples.map sanitized)
        ((write (publishing model clock) shared t samples).run log).2.position ∧
      (t.sink.failed = true →
        ((write (publishing model clock) shared t samples).run log).1.sink.failed = true) ∧
      ∀ publication ∈ made, Permitted model (t.sink.enter shared samples).parameters.failMode
        (stream ++ samples.map sanitized) publication := by
  obtain ⟨hclean, hn, hpending, halign⟩ := h.entered shared samples
  obtain ⟨-, -, hfailed, -⟩ := enter_keeps shared t.sink samples
  obtain ⟨n', -, hle, hleft, hposition, hadvanced, made, hmade, hpermitted⟩ :=
    Lib.foldlM_blocks (show 0 < modelFrameSamples by decide) (publishing model clock)
      (Publishing model (stream ++ samples.map sanitized) _ log) (Publishing.frame clock hclean)
      ⟨hlog, halign.advanced, [], (List.append_nil _).symm, nofun⟩ hn
  rw [write_eq _ shared t hsamples, hpending, StateT.run_map]
  -- The map is on what the callback returns: the log is that of its frames.
  change ∃ made, _ = log.made ++ made ∧ Latched model _ ((Lib.blocks modelFrameSamples
    ((stream ++ samples.map sanitized).drop n)).foldlM (publishing model clock) { t with
      sink := t.sink.enter shared samples } log).2.position _ ∧ _
  rw [hposition]
  exact ⟨made, hmade, h.left hadvanced hle hleft,
    fun hlatched => hadvanced.latched (hfailed.trans hlatched), hpermitted⟩

/-- **A reset** lifts the latch, and starts another stream. -/
theorem resetDeactivated_latched {model : Denoiser σ} {stream : List F32} {n : ℕ}
    {t : TimedCaptureSink σ} (h : t.Latched model stream n) (initial : σ) :
    (t.resetDeactivated initial).Latched model [] 0 := by
  obtain ⟨-, hn, -, halign, -⟩ := h
  refine ⟨fun _ hx => (List.not_mem_nil hx).elim, Nat.le_refl _, rfl, ?_,
    iff_of_false Bool.false_ne_true (by rintro (h | h) <;> cases h)⟩
  -- The delay keeps its length.
  have hlength : t.sink.dryDelay.delaySamples = model.descriptor.delaySamples := by
    rw [← DryDelay.length_queue halign.inBounds, halign.queue, List.length_drop,
      List.length_append, List.length_replicate, List.length_take]
    omega
  obtain ⟨hqueue, hbounds⟩ := t.sink.dryDelay.reset_queue
  rw [hlength] at hqueue
  exact ⟨hbounds, hqueue.trans (by simp)⟩

/-- The policy of the watchdog is no part of it. -/
theorem setDeadlinePolicyDeactivated_latched {model : Denoiser σ} {stream : List F32} {n : ℕ}
    {t : TimedCaptureSink σ} (h : t.Latched model stream n) (policy : DeadlinePolicy) :
    (t.setDeadlinePolicyDeactivated policy).Latched model stream n := by
  obtain ⟨hclean, hn, hstored, halign, hpublished⟩ := h
  exact ⟨hclean, hn, hstored, ⟨halign.inBounds, halign.queue⟩, hpublished⟩

end TimedCaptureSink

/-- **A new sink** is latched, before anything has gone through. -/
theorem LiveCaptureSink.new_latched {model : Denoiser σ} {initial : σ} {sink : LiveCaptureSink σ}
    (hnew : LiveCaptureSink.new model initial = .ok sink) :
    ({ sink } : TimedCaptureSink σ).Latched model [] 0 := by
  obtain ⟨healthy, hassembler, -, -, hqueue, -⟩ := LiveCaptureSink.new_ok hnew
  -- A new sink is running and has not failed.
  have hstate : sink.shared.state = .running := by
    unfold LiveCaptureSink.new at hnew
    split at hnew
    · cases hnew
    · split at hnew <;> cases hnew
      rfl
  refine ⟨fun _ hx => (List.not_mem_nil hx).elim, Nat.le_refl _, ?_, ⟨healthy.inBounds, ?_⟩, ?_⟩
  · dsimp only
    rw [hassembler]
    rfl
  · dsimp only
    rw [hqueue]
    simp
  · refine iff_of_false (by rw [healthy.failed]; exact Bool.false_ne_true) ?_
    rw [hstate]
    rintro (h | h) <;> cases h

/-! ## Runs

A reset starts another stream at position zero.  The other events continue the stream.
-/

/-- What a callback handed to the transport: the fail mode it had loaded, and the sanitized
    samples since the last reset, its own included. -/
structure Callback (σ : Type) where
  failMode : FailMode
  stream : List F32
  made : List (Publication σ)

/-- A live sink in use, the sanitized samples since its last reset, how many of them have gone
    through in whole frames, and its callbacks. -/
structure LiveRun (σ : Type) where
  live : TimedCaptureSink σ
  stream : List F32 := []
  position : ℕ := 0
  callbacks : List (Callback σ) := []

/-- What happens to a live sink. -/
inductive LiveEvent (σ : Type)
  /-- A callback, under the parameters it finds; what the clock says of each call of the model;
      and how the transport answers, which accepts once the answers are used up. -/
  | write (shared : AtomicParameters) (samples : List F32) (clock : ℕ → ModelClock)
    (accepts : List Bool)
  /-- `reset` or `reset_deactivated`: the model's own reset leaves `initial`. -/
  | reset (initial : σ)
  | setDeadlinePolicy (policy : DeadlinePolicy)

namespace LiveRun

/-- One event. -/
def step (model : Denoiser σ) (run : LiveRun σ) : LiveEvent σ → LiveRun σ
  | .write shared samples clock accepts =>
    let (live, log) :=
      (run.live.write (TimedCaptureSink.publishing model clock) shared samples).run
        { accepts, position := run.position }
    let stream := run.stream ++ samples.map sanitized
    { live
      stream
      position := log.position
      callbacks := run.callbacks ++
        [⟨(run.live.sink.enter shared samples).parameters.failMode, stream, log.made⟩] }
  | .reset initial =>
    { run with live := run.live.resetDeactivated initial, stream := [], position := 0 }
  | .setDeadlinePolicy policy =>
    { run with live := run.live.setDeadlinePolicyDeactivated policy }

/-- A callback within the boundary. -/
def Bounded (_ : LiveRun σ) : LiveEvent σ → Prop
  | .write _ samples _ _ => samples.length ≤ maxCallbackFrames
  | .reset _ | .setDeadlinePolicy _ => True

/-- The sink is latched, and its callbacks published what is permitted. -/
structure FailClosed (model : Denoiser σ) (run : LiveRun σ) : Prop where
  latched : run.live.Latched model run.stream run.position
  permitted : ∀ callback ∈ run.callbacks, ∀ publication ∈ callback.made,
    TimedCaptureSink.Permitted model callback.failMode callback.stream publication

/-- **One event** keeps the sink latched, and lifts the latch only if it is a reset. -/
theorem FailClosed.step {model : Denoiser σ} {run : LiveRun σ} (h : run.FailClosed model)
    {event : LiveEvent σ} (hbounded : run.Bounded event) :
    (run.step model event).FailClosed model ∧
      ((∀ initial, event ≠ .reset initial) → run.live.sink.failed = true →
        (run.step model event).live.sink.failed = true) := by
  cases event with
  | write shared samples clock accepts =>
    obtain ⟨made, hmade, hlatched, hfailed, hpermitted⟩ :=
      TimedCaptureSink.write_latched clock h.latched shared hbounded
        { accepts, position := run.position } rfl
    refine ⟨⟨hlatched, fun callback hcallback => ?_⟩, fun _ => hfailed⟩
    -- Of an earlier callback it is known, and this one is what the write has made.
    rcases List.mem_append.mp hcallback with hearlier | hnow
    · exact h.permitted callback hearlier
    · obtain rfl := List.mem_singleton.mp hnow
      rw [List.nil_append] at hmade
      rw [← hmade] at hpermitted
      exact hpermitted
  | reset initial =>
    exact ⟨⟨TimedCaptureSink.resetDeactivated_latched h.latched initial, h.permitted⟩,
      fun hno => absurd rfl (hno initial)⟩
  | setDeadlinePolicy policy =>
    exact ⟨⟨TimedCaptureSink.setDeadlinePolicyDeactivated_latched h.latched policy, h.permitted⟩,
      fun _ => id⟩

end LiveRun

/-- **The latch fails closed.** In every run of a new sink, whatever its model, its transport,
    its parameters and its clock do: the latch is the published state; a block that reaches the
    transport is made by the healthy path from a frame on which the model succeeded, or is the
    delayed dry frame, after a failure and with the fail mode loaded as open; and only a reset
    lifts the latch. -/
theorem fail_closed_latch {model : Denoiser σ} {initial : σ} {sink : LiveCaptureSink σ}
    (hnew : LiveCaptureSink.new model initial = .ok sink) {events : List (LiveEvent σ)}
    {run : LiveRun σ}
    (h : Lib.Run (fun run event run' => run.step model event = run') LiveRun.Bounded
      { live := { sink } } events run) :
    run.live.sink.Published ∧
      (∀ callback ∈ run.callbacks, ∀ publication ∈ callback.made,
        TimedCaptureSink.Permitted model callback.failMode callback.stream publication) ∧
      ∀ event, run.Bounded event → (∀ initial, event ≠ .reset initial) →
        run.live.sink.failed = true → (run.step model event).live.sink.failed = true := by
  have hclosed : run.FailClosed model := by
    refine Lib.Run.invariant (LiveRun.FailClosed model)
      ⟨LiveCaptureSink.new_latched hnew, fun _ hnone => (List.not_mem_nil hnone).elim⟩ ?_ h
    intro run event run' hrun hbounded hstep
    rw [← hstep]
    exact (hrun.step hbounded).1
  exact ⟨hclosed.latched.published, hclosed.permitted, fun event hbounded =>
    (hclosed.step hbounded).2⟩

/-- Two callbacks, of whose block the transport wants nothing, and a reset. -/
def refusedThenReset : List (LiveEvent Unit) :=
  [.write { epoch := 2 } (.replicate 300 .one) (fun _ => {}) [false],
    .write { epoch := 2 } (.replicate 300 .one) (fun _ => {}) [false], .reset ()]

/-- An echo's sink is latched after them. -/
theorem fail_closed_latch_refused : ∃ sink, LiveCaptureSink.new echo () = .ok sink ∧
    (refusedThenReset.foldl (LiveRun.step echo) { live := { sink } }).live.sink.Published := by
  have hbounded : ∀ event ∈ refusedThenReset, ∀ run : LiveRun Unit, run.Bounded event := by
    have hcallback : (List.replicate 300 (.one : F32)).length ≤ maxCallbackFrames := by
      rw [List.length_replicate]
      decide
    refine List.forall_mem_cons.mpr ⟨fun _ => hcallback, List.forall_mem_cons.mpr
      ⟨fun _ => hcallback, fun event hevent run => ?_⟩⟩
    rw [List.mem_singleton.mp hevent]
    trivial
  exact ⟨_, rfl, (fail_closed_latch rfl
    ((Lib.Run.of_foldl (LiveRun.step echo) _ refusedThenReset).of_inputs hbounded)).1⟩

end Noire
