import Noire.Live.Law
import Noire.Transport.Alone

namespace Noire

open Lib (Prog)

/-!
# Lock-step graph cycles

The live path driven by a graph that runs both callbacks once in every cycle, on the same
quantum: samples arrive in frames of `modelFrameSamples` and leave in quanta of any length.

* `LockStep.writeThenFill`, `LockStep.fillThenWrite` — the two orders of a cycle;
* `LockStep.reserve` — the samples on their way: queued in the ring, or waiting in the
  assembler for their frame to fill.  A write adds its quantum to it and a fill past startup
  takes its quantum from it, so it is the same after every cycle;
* `Buffering` and `Flowing` — the path before and since its startup, with a step lemma for
  each cycle;
* `lock_step` — the laws of both orders, for every sequence of quanta.

The quantity that every cycle leaves the same is the reserve: what is queued in the ring and what
waits in the assembler.  A write adds its quantum, a fill past startup takes the same away.
Before the startup nothing is taken, so the reserve grows until it reaches a frame, and the fill
of that cycle starts the flow.  From there on the ring holds enough for every fill, because the
reserve is what it was at the start; how much it holds more is bounded by a frame and the starting
quantum.

The two orders of a cycle differ in when the fill sees the frame that a write completes.  `Steps`
collects what a cycle does before, in and after the one that starts the flow; both orders have
these steps, and the run lemma is proved once from them.
-/

variable {σ : Type}

/-- What one graph cycle brings: the parameters its capture callback finds, and the
    captured quantum. -/
structure LiveInput where
  parameters : AtomicParameters
  samples : List F32

/-- The live path between two callbacks, and what its last fill reported. -/
structure LockStep (σ : Type) where
  sink : LiveCaptureSink σ
  shared : SharedState
  out : BypassOutput
  report : Except BypassOutputError BypassOutputReport := .ok {}

namespace LockStep

variable (sin : F32 → F32) (model : Denoiser σ)

/-- The capture callback of a cycle. -/
def write (t : LockStep σ) (input : LiveInput) : Option (LockStep σ) :=
  ((t.sink.write writeProcessed model input.parameters input.samples).run BypassOp.exec
    t.shared).map fun r => { t with sink := r.1, shared := r.2 }

/-- The source callback of a cycle.  The ring never holds more stale samples than the fuel. -/
def fill (t : LockStep σ) (frames : ℕ) : Option (LockStep σ) :=
  ((t.out.fill sin frames (bypassRingCapacity + 1)).run BypassOp.exec t.shared).map fun r =>
    { t with out := r.1.after, report := r.1.result, shared := r.2 }

/-- A cycle that captures before it publishes. -/
def writeThenFill (t : LockStep σ) (input : LiveInput) : Option (LockStep σ) :=
  (t.write model input).bind (·.fill sin input.samples.length)

/-- A cycle that publishes before it captures. -/
def fillThenWrite (t : LockStep σ) (input : LiveInput) : Option (LockStep σ) :=
  (t.fill sin input.samples.length).bind (·.write model input)

/-- The live path after `n` cycles. -/
def after (cycle : LockStep σ → LiveInput → Option (LockStep σ)) (input : ℕ → LiveInput)
    (start : LockStep σ) : ℕ → Option (LockStep σ)
  | 0 => some start
  | n + 1 => (after cycle input start n).bind (cycle · (input n))

/-- The samples on their way. -/
def reserve (t : LockStep σ) : ℕ := t.shared.queue.length + t.sink.assembler.pendingSamples

/-- The ring holds the reserve, but for less than a frame. -/
theorem reserve_bounds (t : LockStep σ) :
    t.shared.queue.length ≤ t.reserve ∧ t.reserve < t.shared.queue.length + modelFrameSamples :=
  ⟨Nat.le_add_right .., Nat.add_lt_add_left t.sink.assembler.pending_lt _⟩

/-! ## The capture callback

A healthy sink publishes every frame it completes, as long as the ring has room.
-/

/-- A live path in which nothing has gone wrong. -/
structure Sound (t : LockStep σ) : Prop where
  healthy : t.sink.Healthy
  stored : ∀ x ∈ t.sink.assembler.stored, sanitized x = x
  clean : Clean t.shared
  generation : t.out.generation = t.shared.generation
  frameSamples : t.out.startupFrameSamples = modelFrameSamples
  quanta : t.out.startupQuanta = 0
  empty : t.out.emptyWhileBuffering = true

end LockStep

/-- A processed frame is a whole frame. -/
theorem LiveCaptureSink.length_mixedFrame {model : Denoiser σ} (hok : model.AlwaysOk)
    (sink : LiveCaptureSink σ) {frame : List F32} (hframe : IsFrame frame) :
    (sink.mixedFrame model frame).length = modelFrameSamples := by
  rw [mixedFrame, List.length_mapIdx, List.length_zip, List.length_take, List.length_append,
    hframe.1, hok.length_wet _ hframe]
  omega

/-- Frames through a healthy sink onto a clean channel with room for them. -/
theorem process_alone {model : Denoiser σ} (hok : model.AlwaysOk) {frames : List (List F32)}
    (hframes : ∀ frame ∈ frames, IsFrame frame) {sink : LiveCaptureSink σ}
    (healthy : sink.Healthy) {s : SharedState} (clean : Clean s)
    (hroom : s.queue.length + modelFrameSamples * frames.length ≤ bypassRingCapacity) :
    ∃ after s', (frames.foldlM (LiveCaptureSink.processFrameParts writeProcessed model)
        sink).run BypassOp.exec s = some (after, s') ∧ after.Healthy ∧ Clean s' ∧
      s'.generation = s.generation ∧ s'.runs = s.runs ∧
      s'.queue.length = s.queue.length + modelFrameSamples * frames.length := by
  induction frames generalizing sink s with
  | nil => exact ⟨sink, s, rfl, healthy, clean, rfl, rfl, rfl⟩
  | cons frame rest ih =>
    -- An accepted write leaves the channel clean, with one frame more in the ring.
    obtain ⟨hframe, hrest⟩ := List.forall_mem_cons.mp hframes
    obtain ⟨mixed, hprocessed, hstep⟩ :=
      LiveCaptureSink.processFrameParts_eq hok healthy hframe
    have hlength := sink.length_mixedFrame hok hframe
    rw [List.length_cons, Nat.mul_succ] at hroom ⊢
    obtain ⟨queued, hwrite, hsame⟩ :=
      writeProcessed_alone (sink.mixedFrame model frame) clean (by omega)
    have hqueue : queued.queue.length = s.queue.length + modelFrameSamples := by
      rw [hsame.queue, List.length_append, List.length_map, hlength]
    have hqueued : Clean queued := by
      refine hsame.clean ⟨clean.enabled, ?_, clean.underflows, clean.overflows⟩
      exact List.forall_mem_append.mpr ⟨clean.current, List.forall_mem_map.mpr fun _ _ => rfl⟩
    have hsettled : (mixed.settleFrame true).Healthy :=
      ⟨hprocessed.healthy.failed, hprocessed.healthy.inBounds⟩
    obtain ⟨after, s', hrun, hhealthy, hclean, hgeneration, hruns, hlast⟩ :=
      ih hrest hsettled hqueued (by omega)
    refine ⟨after, s', ?_, hhealthy, hclean, hgeneration.trans hsame.generation,
      hruns.trans hsame.runs, by omega⟩
    rw [List.foldlM_cons, hstep, Prog.run_bind_of _ (Prog.run_map_of _ _ hwrite), hrun]

namespace LockStep

/-- What a write of `quantum` samples does to the live path. -/
structure Written (quantum : ℕ) (t t' : LockStep σ) : Prop where
  sound : t'.Sound
  reserve : t'.reserve = t.reserve + quantum
  queue : ∃ frames, t'.shared.queue.length = t.shared.queue.length + modelFrameSamples * frames
  out : t'.out = t.out
  report : t'.report = t.report
  runs : t'.shared.runs = t.shared.runs

/-- **The capture callback.** Where the ring has room for the whole reserve, a write only
    adds its quantum to it. -/
theorem Sound.write {model : Denoiser σ} (hok : model.AlwaysOk) {t : LockStep σ}
    (sound : t.Sound) (input : LiveInput) (hinput : input.samples.length ≤ maxCallbackFrames)
    (hroom : t.reserve + input.samples.length ≤ bypassRingCapacity) :
    ∃ t', t.write model input = some t' ∧ Written input.samples.length t t' := by
  obtain ⟨arrived, harrived⟩ : ∃ arrived, arrived =
      t.sink.assembler.stored ++ input.samples.map sanitized := ⟨_, rfl⟩
  have hwrite := t.sink.write_stored writeProcessed model input.parameters hinput
  rw [← harrived] at hwrite
  have hclean : ∀ x ∈ arrived, sanitized x = x := by
    rw [harrived]
    exact List.forall_mem_append.mpr ⟨sound.stored,
      List.forall_mem_map.mpr fun x _ => sanitized_sanitized x⟩
  have hlength : arrived.length =
      t.sink.assembler.pendingSamples + input.samples.length := by
    rw [harrived, List.length_append, List.length_map, FrameAssembler.pendingSamples]
  -- What arrived is cut into frames for the ring and a leftover for the assembler.
  have hcut := Nat.div_add_mod arrived.length modelFrameSamples
  rw [LockStep.reserve] at hroom
  obtain ⟨_, henter⟩ := LiveCaptureSink.enter_fields input.parameters t.sink input.samples
  obtain ⟨_, _, hload⟩ := LiveCaptureSink.loadParameters_fields input.parameters t.sink
  have hentered : (t.sink.enter input.parameters input.samples).Healthy := by
    rw [henter, hload]
    exact ⟨sound.healthy.failed, sound.healthy.inBounds⟩
  have hframes : ∀ frame ∈ Lib.blocks modelFrameSamples arrived, IsFrame frame :=
    fun frame hframe =>
      ⟨Lib.length_of_mem_blocks hframe, fun x hx => hclean x (Lib.mem_of_mem_blocks hframe hx)⟩
  -- The ring takes each of the frames, as there is room for all that arrived.
  obtain ⟨sink, s', hrun, hhealthy, hclean', hgeneration, hruns, hqueue⟩ :=
    process_alone hok hframes hentered sound.clean (by rw [Lib.length_blocks]; omega)
  rw [Lib.length_blocks] at hqueue
  have hleft : (FrameAssembler.holding arrived).pendingSamples =
      arrived.length % modelFrameSamples := Lib.length_leftover ..
  refine ⟨⟨{ sink with assembler := .holding arrived }, s', t.out, t.report⟩, ?_, ?_⟩
  · rw [LockStep.write, hwrite, Prog.run_map_of _ _ hrun]
    rfl
  · exact {
      sound := {
        healthy := ⟨hhealthy.failed, hhealthy.inBounds⟩
        stored := fun x hx => hclean x (List.mem_of_mem_drop hx)
        clean := hclean'
        generation := sound.generation.trans hgeneration.symm
        frameSamples := sound.frameSamples
        quanta := sound.quanta
        empty := sound.empty }
      reserve := by
        rw [LockStep.reserve, LockStep.reserve, hleft, hqueue]
        omega
      queue := ⟨_, hqueue⟩
      out := rfl
      report := rfl
      runs := hruns }

/-! ## The phases

While it buffers the output is silent and the reserve grows; once it flows each callback takes
what the capture brings.
-/

/-- Before startup: nothing was published, and the ring holds whole frames. -/
structure Buffering (t : LockStep σ) : Prop where
  sound : t.Sound
  ready : t.out.startupReady = false
  pending : t.out.leadingSilencePending = true
  ramp : t.out.ramp.state = .silent
  runs : t.shared.runs = []
  whole : modelFrameSamples ∣ t.shared.queue.length

/-- Since startup: one run, of a block for each of the quanta `published`. -/
structure Flowing (published : List ℕ) (t : LockStep σ) : Prop where
  sound : t.Sound
  ready : t.out.startupReady = true
  pending : t.out.leadingSilencePending = false
  runs : ∃ run, t.shared.runs = [run] ∧ run.map (·.samples.length) = published

theorem Written.buffering {quantum : ℕ} {t t' : LockStep σ} (h : Written quantum t t')
    (buffering : t.Buffering) : t'.Buffering where
  sound := h.sound
  ready := h.out ▸ buffering.ready
  pending := h.out ▸ buffering.pending
  ramp := h.out ▸ buffering.ramp
  runs := h.runs.trans buffering.runs
  whole := by
    obtain ⟨frames, hqueue⟩ := h.queue
    rw [hqueue]
    exact (Nat.dvd_add_right buffering.whole).mpr (Nat.dvd_mul_right ..)

theorem Written.flowing {quantum : ℕ} {t t' : LockStep σ} (h : Written quantum t t')
    {published : List ℕ} (flowing : t.Flowing published) : t'.Flowing published where
  sound := h.sound
  ready := h.out ▸ flowing.ready
  pending := h.out ▸ flowing.pending
  runs := h.runs.symm ▸ flowing.runs

/-- Before startup the ring holds a frame once the reserve does. -/
theorem Buffering.ready_iff {t : LockStep σ} (buffering : t.Buffering) :
    modelFrameSamples ≤ t.shared.queue.length ↔ modelFrameSamples ≤ t.reserve := by
  obtain ⟨hqueue, hreserve⟩ := t.reserve_bounds
  -- A reserve of a frame, less a part of one, is not a multiple below one frame.
  obtain ⟨frames, hframes⟩ := buffering.whole
  refine ⟨fun h => h.trans hqueue, fun h => ?_⟩
  rw [hframes] at hreserve ⊢
  cases frames with
  | zero => omega
  | succ frames => exact Nat.le_mul_of_pos_right _ (Nat.succ_pos frames)

/-! ## The source callback

Below the startup region a fill is refused, at it the flow starts with silence, and past it a fill
is real samples.
-/

/-- A fill that leaves a clean channel of its own generation leaves the path sound. -/
theorem Sound.filled {t t' : LockStep σ} (sound : t.Sound) (hclean : Clean t'.shared)
    (hsink : t'.sink = t.sink) (hgeneration : t'.shared.generation = t.shared.generation)
    (hout : t'.out.generation = t.out.generation)
    (hframes : t'.out.startupFrameSamples = t.out.startupFrameSamples)
    (hquanta : t'.out.startupQuanta = t.out.startupQuanta)
    (hempty : t'.out.emptyWhileBuffering = t.out.emptyWhileBuffering) : t'.Sound where
  healthy := hsink ▸ sound.healthy
  stored := hsink ▸ sound.stored
  clean := hclean
  generation := hout.trans (sound.generation.trans hgeneration.symm)
  frameSamples := hframes.trans sound.frameSamples
  quanta := hquanta.trans sound.quanta
  empty := hempty.trans sound.empty

/-- The startup region ends at one frame. -/
theorem Sound.startupRequired {t : LockStep σ} (sound : t.Sound) (frames : ℕ) :
    t.out.startupRequired frames = modelFrameSamples := by
  rw [BypassOutput.startupRequired, sound.frameSamples, sound.quanta, saturatingMul,
    Nat.mul_zero]
  rfl

variable (sin : F32 → F32) {t : LockStep σ} {frames : ℕ}

/-- Below a frame a fill publishes nothing. -/
theorem Buffering.fill (buffering : t.Buffering) (hframes : frames ≤ maxCallbackFrames)
    (hbelow : t.reserve < modelFrameSamples) :
    ∃ t', t.fill sin frames = some t' ∧ t'.Buffering ∧ t'.reserve = t.reserve ∧
      t'.report = .ok { frames := 0, startup := true, rampState := .silent } := by
  have sound := buffering.sound
  have hqueue : t.shared.queue.length < t.out.startupRequired frames := by
    rw [sound.startupRequired]
    exact Nat.lt_of_not_le (buffering.ready_iff.not.mpr (Nat.not_le.mpr hbelow))
  obtain ⟨s, hrun, hsame⟩ := BypassOutput.fill_buffering sin sound.clean sound.generation hframes
    bypassRingCapacity buffering.ready sound.empty hqueue
  refine ⟨_, by rw [LockStep.fill, hrun]; rfl, ?_, ?_, by rw [buffering.ramp]⟩
  · exact {
      sound := sound.filled (hsame.clean sound.clean) rfl hsame.generation rfl rfl rfl rfl
      ready := buffering.ready
      pending := buffering.pending
      ramp := buffering.ramp
      runs := hsame.runs.trans buffering.runs
      whole := hsame.queue.symm ▸ buffering.whole }
  · rw [reserve, reserve, hsame.queue]

/-- From a frame on a fill starts the flow, with a callback of silence. -/
theorem Buffering.start (buffering : t.Buffering) (hframes : frames ≤ maxCallbackFrames)
    (habove : modelFrameSamples ≤ t.reserve) :
    ∃ t', t.fill sin frames = some t' ∧ t'.Flowing [] ∧ t'.reserve = t.reserve ∧
      t'.report = .ok { frames := frames, startup := true, rampState := .fadingIn } := by
  have sound := buffering.sound
  -- A frame in reserve is what the output asks for before it starts.
  have hqueue : t.out.startupRequired frames ≤ t.shared.queue.length := by
    rw [sound.startupRequired]
    exact buffering.ready_iff.mpr habove
  obtain ⟨s, hrun, hsame⟩ := BypassOutput.fill_silent sin sound.clean sound.generation hframes
    bypassRingCapacity buffering.ready sound.empty buffering.pending hqueue
  have hramp : t.out.ramp.beginRecovery.state = .fadingIn := by
    rw [FaultRamp.beginRecovery, buffering.ramp]
    rfl
  have hclean : Clean s := hsame.clean
    ⟨sound.clean.enabled, sound.clean.current, sound.clean.underflows, sound.clean.overflows⟩
  refine ⟨_, by rw [LockStep.fill, hrun]; rfl, ?_, ?_, by rw [hramp]⟩
  · exact {
      sound := sound.filled hclean rfl hsame.generation rfl rfl rfl rfl
      ready := rfl
      pending := rfl
      runs := ⟨[], by rw [hsame.runs, buffering.runs], rfl⟩ }
  · rw [reserve, reserve, hsame.queue]

/-- Past startup a fill publishes its whole quantum, when the ring holds it. -/
theorem Flowing.fill {published : List ℕ} (flowing : t.Flowing published)
    (hframes : frames ≤ maxCallbackFrames) (hqueue : frames ≤ t.shared.queue.length) :
    ∃ t', t.fill sin frames = some t' ∧ t'.Flowing (published ++ [frames]) ∧
      t'.reserve + frames = t.reserve ∧ ∃ rampState, t'.report = .ok {
        frames := frames, missingFrames := 0, startup := false, rampState := rampState } := by
  have sound := flowing.sound
  obtain ⟨run, hruns, hpublished⟩ := flowing.runs
  -- The block is the front of the queue.
  obtain ⟨samples, rest, hsplit, rfl⟩ : ∃ samples rest,
      t.shared.queue = samples ++ rest ∧ samples.length = frames :=
    ⟨_, _, (List.take_append_drop frames _).symm, List.length_take_of_le hqueue⟩
  obtain ⟨s, rampState, _, _, block, hrun, hblock, hsame⟩ := BypassOutput.fill_published sin
    sound.clean sound.generation hsplit hframes bypassRingCapacity flowing.ready flowing.pending
    hruns
  have hclean : Clean s := by
    refine hsame.clean ⟨sound.clean.enabled, fun x hx => ?_, sound.clean.underflows,
      sound.clean.overflows⟩
    exact sound.clean.current x (hsplit ▸ List.mem_append_right _ hx)
  refine ⟨_, by rw [LockStep.fill, hrun]; rfl, ?_, ?_, rampState, rfl⟩
  · exact {
      sound := sound.filled hclean rfl hsame.generation rfl rfl rfl rfl
      ready := flowing.ready
      pending := flowing.pending
      runs := ⟨_, hsame.runs, by rw [List.map_append, hpublished, List.map_singleton, hblock]⟩ }
  · rw [reserve, reserve, hsame.queue, hsplit, List.length_append]
    dsimp only
    omega

/-! ## Runs of cycles

Where the flow starts is not known in advance: it is the first cycle whose reserve reaches a
frame, and there is one because quanta are not empty.
-/

/-- The samples captured in the first `n` cycles. -/
def captured (input : ℕ → LiveInput) : ℕ → ℕ
  | 0 => 0
  | n + 1 => captured input n + (input n).samples.length

theorem captured_mono (input : ℕ → LiveInput) : Monotone (captured input) :=
  monotone_nat_of_le_succ fun _ => Nat.le_add_right ..

/-- Nonempty quanta complete a frame. -/
theorem exists_frame {input : ℕ → LiveInput} (hinput : ∀ i, 0 < (input i).samples.length) :
    ∃ s, captured input s < modelFrameSamples ∧ modelFrameSamples ≤ captured input (s + 1) := by
  -- As many samples as cycles at least, so some first cycle passes a frame.
  have hpos : ∀ n, n ≤ captured input n := fun n => by
    induction n with
    | zero => exact Nat.le_refl 0
    | succ n ih => exact Nat.add_le_add ih (hinput n)
  have hfirst : ∀ n, modelFrameSamples ≤ captured input n → ∃ s,
      captured input s < modelFrameSamples ∧ modelFrameSamples ≤ captured input (s + 1) := by
    intro n hn
    induction n with
    | zero => exact absurd hn (Nat.not_succ_le_zero 511)
    | succ n ih =>
      rcases Nat.lt_or_ge (captured input n) modelFrameSamples with hlt | hge
      · exact ⟨n, hlt, hn⟩
      · exact ih hge
  exact hfirst modelFrameSamples (hpos modelFrameSamples)

/-- What the fill of the cycle `i` reports, when the flow starts in the cycle `s`: nothing
    published before it, silence in it, and the whole quantum of real samples after it. -/
def Reported (quantum : ℕ → ℕ) (s i : ℕ)
    (report : Except BypassOutputError BypassOutputReport) : Prop :=
  if i < s then report = .ok { frames := 0, startup := true, rampState := .silent }
  else if i = s then
    report = .ok { frames := quantum i, startup := true, rampState := .fadingIn }
  else ∃ rampState, report = .ok {
    frames := quantum i, missingFrames := 0, startup := false, rampState := rampState }

/-- What is seen of the path after the cycle `i`, when the flow starts in the cycle `s`: no
    fault was counted, the fill reported what it should, and one block of real samples was
    published for each whole quantum since the start. -/
structure Observed (quantum : ℕ → ℕ) (s i : ℕ) (t : LockStep σ) : Prop where
  underflows : t.shared.counters .underflows = 0
  overflows : t.shared.counters .overflows = 0
  report : Reported quantum s i t.report
  blocks : t.shared.runs.map (·.map (·.samples.length)) =
    if i < s then [] else [(List.range' (s + 1) (i - s)).map quantum]

/-- The phase of the path after `n` cycles, when the flow starts in the cycle `s`. -/
def Phase (input : ℕ → LiveInput) (s n : ℕ) (t : LockStep σ) : Prop :=
  if n ≤ s then t.Buffering ∧ t.reserve = captured input n
  else t.Flowing ((List.range' (s + 1) (n - (s + 1))).map fun i => (input i).samples.length) ∧
    t.reserve = captured input (s + 1)

section Run

variable {cycle : LockStep σ → LiveInput → Option (LockStep σ)} {input : ℕ → LiveInput}
  {start : LockStep σ} {s : ℕ}

/-- What a cycle does before, in and after the one that starts the flow. -/
structure Steps (cycle : LockStep σ → LiveInput → Option (LockStep σ)) (input : ℕ → LiveInput)
    (s n : ℕ) : Prop where
  buffers : ∀ i < s, ∀ t : LockStep σ, t.Buffering → t.reserve = captured input i →
    ∃ t', cycle t (input i) = some t' ∧ t'.Buffering ∧ t'.reserve = captured input (i + 1) ∧
      t'.report = .ok { frames := 0, startup := true, rampState := .silent }
  starts : ∀ t : LockStep σ, t.Buffering → t.reserve = captured input s →
    ∃ t', cycle t (input s) = some t' ∧ t'.Flowing [] ∧ t'.reserve = captured input (s + 1) ∧
      t'.report = .ok {
        frames := (input s).samples.length, startup := true, rampState := .fadingIn }
  flows : ∀ i ≤ n, s < i → ∀ (t : LockStep σ) published, t.Flowing published →
    t.reserve = captured input (s + 1) →
    ∃ t', cycle t (input i) = some t' ∧
      t'.Flowing (published ++ [(input i).samples.length]) ∧
      t'.reserve = captured input (s + 1) ∧ ∃ rampState, t'.report = .ok {
        frames := (input i).samples.length, missingFrames := 0, startup := false,
        rampState := rampState }

/-- **Step lemma.** A cycle keeps the phases and reports what it should. -/
theorem Steps.step {n : ℕ} (steps : Steps cycle input s n) {i : ℕ} (hi : i ≤ n)
    {t : LockStep σ} (phase : t.Phase input s i) :
    ∃ t', cycle t (input i) = some t' ∧ t'.Phase input s (i + 1) ∧
      Reported (fun i => (input i).samples.length) s i t'.report := by
  unfold Phase at phase ⊢
  unfold Reported
  -- Before the start it buffers, with it it starts, and after it it flows.
  rcases Nat.lt_trichotomy i s with hlt | rfl | hgt
  · rw [if_pos (Nat.le_of_lt hlt)] at phase
    obtain ⟨t', hcycle, hbuffering, hreserve, hreport⟩ := steps.buffers i hlt t phase.1 phase.2
    refine ⟨t', hcycle, ?_, by rwa [if_pos hlt]⟩
    rw [if_pos (Nat.succ_le_of_lt hlt)]
    exact ⟨hbuffering, hreserve⟩
  · rw [if_pos (Nat.le_refl i)] at phase
    obtain ⟨t', hcycle, hflowing, hreserve, hreport⟩ := steps.starts t phase.1 phase.2
    refine ⟨t', hcycle, ?_, by rwa [if_neg (Nat.lt_irrefl i), if_pos rfl]⟩
    rw [if_neg (Nat.not_succ_le_self i), Nat.sub_self]
    exact ⟨hflowing, hreserve⟩
  · rw [if_neg (Nat.not_le.mpr hgt)] at phase
    obtain ⟨t', hcycle, hflowing, hreserve, hreport⟩ :=
      steps.flows i hi hgt t _ phase.1 phase.2
    refine ⟨t', hcycle, ?_, by rwa [if_neg (Nat.lt_asymm hgt), if_neg (Nat.ne_of_gt hgt)]⟩
    have hsucc : i + 1 - (s + 1) = i - (s + 1) + 1 := by omega
    have hlast : s + 1 + 1 * (i - (s + 1)) = i := by omega
    rw [if_neg (by omega), hsucc, List.range'_concat, hlast, List.map_append]
    exact ⟨hflowing, hreserve⟩

/-- The phase and the report of a cycle are what is seen of it. -/
theorem Phase.observed {i : ℕ} {t : LockStep σ} (phase : t.Phase input s (i + 1))
    (hreport : Reported (fun i => (input i).samples.length) s i t.report) :
    t.Observed (fun i => (input i).samples.length) s i := by
  unfold Phase at phase
  by_cases hlt : i < s
  · rw [if_pos (Nat.succ_le_of_lt hlt)] at phase
    have clean := phase.1.sound.clean
    exact ⟨clean.underflows, clean.overflows, hreport, by rw [phase.1.runs, if_pos hlt]; rfl⟩
  · rw [if_neg (show ¬i + 1 ≤ s from hlt), Nat.add_sub_add_right] at phase
    have clean := phase.1.sound.clean
    obtain ⟨run, hruns, hpublished⟩ := phase.1.runs
    refine ⟨clean.underflows, clean.overflows, hreport, ?_⟩
    rw [hruns, if_neg hlt, ← hpublished]
    rfl

/-- **Run lemma.** Every cycle of a fresh path is seen to do what it should. -/
theorem Steps.run {n : ℕ} (steps : Steps cycle input s n) (hstart : start.Buffering)
    (hreserve : start.reserve = 0) {i : ℕ} (hi : i ≤ n) :
    ∃ t, after cycle input start (i + 1) = some t ∧ t.Phase input s (i + 1) ∧
      t.Observed (fun i => (input i).samples.length) s i := by
  have hphase : ∀ i ≤ n, ∃ t, after cycle input start i = some t ∧ t.Phase input s i := by
    intro i hi
    induction i with
    | zero => exact ⟨start, rfl, by rw [Phase, if_pos (Nat.zero_le s)]; exact ⟨hstart, hreserve⟩⟩
    | succ i ih =>
      obtain ⟨t, hafter, phase⟩ := ih (Nat.le_of_succ_le hi)
      obtain ⟨t', hcycle, phase', -⟩ := steps.step (Nat.le_of_succ_le hi) phase
      exact ⟨t', by rw [after, hafter]; exact hcycle, phase'⟩
  obtain ⟨t, hafter, phase⟩ := hphase i hi
  obtain ⟨t', hcycle, phase', hreport⟩ := steps.step hi phase
  exact ⟨t', by rw [after, hafter]; exact hcycle, phase', phase'.observed hreport⟩

end Run

/-! ## The two orders

Each order shows that it has the steps; nothing else is said of it in what follows.
-/

section Orders

variable (sin : F32 → F32) {model : Denoiser σ} (hok : model.AlwaysOk)
  {input : ℕ → LiveInput} (hinput : ∀ i, (input i).samples.length ≤ maxCallbackFrames)
  {s : ℕ} (hbelow : captured input s < modelFrameSamples)
  (habove : modelFrameSamples ≤ captured input (s + 1))
include hok hinput hbelow habove

/-- Capturing first, the flow starts in the cycle that completes the first frame. -/
theorem writeThenFill_steps (n : ℕ) : Steps (writeThenFill sin model) input s n := by
  have hcapacity : bypassRingCapacity = 2 * maxCallbackFrames + 2 * modelFrameSamples := rfl
  have hlast : captured input (s + 1) = captured input s + (input s).samples.length := rfl
  have hquantum := hinput s
  constructor
  case buffers =>
    -- Up to the frame the write leaves the reserve below it, and the fill publishes nothing.
    intro i hi t buffering hreserve
    have hnext : captured input (i + 1) = captured input i + (input i).samples.length := rfl
    have hmono := captured_mono input (Nat.succ_le_of_lt hi)
    obtain ⟨u, hwrite, written⟩ :=
      buffering.sound.write hok (input i) (hinput i) (by rw [Nat.succ_eq_add_one] at hmono; omega)
    have hu : u.reserve = captured input (i + 1) := by rw [written.reserve, hreserve, hnext]
    obtain ⟨t', hfill, hbuffering, hreserve', hreport⟩ :=
      (written.buffering buffering).fill sin (hinput i) (hu ▸ hmono.trans_lt hbelow)
    exact ⟨t', by rw [writeThenFill, hwrite]; exact hfill, hbuffering, hreserve'.trans hu, hreport⟩
  case starts =>
    intro t buffering hreserve
    obtain ⟨u, hwrite, written⟩ :=
      buffering.sound.write hok (input s) hquantum (by omega)
    have hu : u.reserve = captured input (s + 1) := by rw [written.reserve, hreserve, hlast]
    obtain ⟨t', hfill, hflowing, hreserve', hreport⟩ :=
      (written.buffering buffering).start sin hquantum (hu ▸ habove)
    exact ⟨t', by rw [writeThenFill, hwrite]; exact hfill, hflowing, hreserve'.trans hu, hreport⟩
  case flows =>
    intro i _ _ t published flowing hreserve
    have hi := hinput i
    obtain ⟨u, hwrite, written⟩ := flowing.sound.write hok (input i) hi (by omega)
    -- The reserve is at least a frame above the quantum, and less than a frame is pending.
    have hqueue : (input i).samples.length ≤ u.shared.queue.length := by
      have := u.reserve_bounds
      have := written.reserve
      omega
    obtain ⟨t', hfill, hflowing, hreserve', hreport⟩ :=
      (written.flowing flowing).fill sin hi hqueue
    have := written.reserve
    exact ⟨t', by rw [writeThenFill, hwrite]; exact hfill, hflowing, by omega, hreport⟩

/-- Publishing first, the flow starts one cycle after the first frame is complete, and goes
    on as long as no quantum exceeds that of its start. -/
theorem fillThenWrite_steps {n : ℕ} (hlater : ∀ i ≤ n, s + 1 < i →
    (input i).samples.length ≤ (input (s + 1)).samples.length) :
    Steps (fillThenWrite sin model) input (s + 1) n := by
  have hcapacity : bypassRingCapacity = 2 * maxCallbackFrames + 2 * modelFrameSamples := rfl
  have hframe : captured input (s + 1) = captured input s + (input s).samples.length := rfl
  have hlast : captured input (s + 1 + 1) =
    captured input (s + 1) + (input (s + 1)).samples.length := rfl
  have hquantum := hinput s
  have hstart := hinput (s + 1)
  constructor
  case buffers =>
    intro i hi t buffering hreserve
    have hmono := captured_mono input (Nat.le_of_lt_succ hi)
    have hi := hinput i
    -- Too little is there to start: the fill is silent, and the write adds to the reserve.
    obtain ⟨u, hfill, hbuffering, hreserve', hreport⟩ :=
      buffering.fill sin hi (hreserve ▸ hmono.trans_lt hbelow)
    obtain ⟨t', hwrite, written⟩ := hbuffering.sound.write hok (input i) hi (by omega)
    refine ⟨t', by rw [fillThenWrite, hfill]; exact hwrite, written.buffering hbuffering, ?_,
      written.report.trans hreport⟩
    rw [written.reserve, hreserve', hreserve]
    rfl
  -- The first fill that finds enough starts the output.
  case starts =>
    intro t buffering hreserve
    obtain ⟨u, hfill, hflowing, hreserve', hreport⟩ :=
      buffering.start sin hstart (hreserve ▸ habove)
    obtain ⟨t', hwrite, written⟩ :=
      hflowing.sound.write hok (input (s + 1)) hstart (by omega)
    exact ⟨t', by rw [fillThenWrite, hfill]; exact hwrite, written.flowing hflowing,
      by rw [written.reserve, hreserve', hreserve, hlast], written.report.trans hreport⟩
  case flows =>
    intro i hn hi t published flowing hreserve
    have hle := hlater i hn hi
    -- Here the fill meets the reserve alone: a frame and the quantum of the start.
    have hqueue : (input i).samples.length ≤ t.shared.queue.length := by
      have := t.reserve_bounds
      omega
    obtain ⟨u, hfill, hflowing, hreserve', rampState, hreport⟩ :=
      flowing.fill sin (hinput i) hqueue
    obtain ⟨t', hwrite, written⟩ :=
      hflowing.sound.write hok (input i) (hinput i) (by omega)
    exact ⟨t', by rw [fillThenWrite, hfill]; exact hwrite, written.flowing hflowing,
      by rw [written.reserve, hreserve', hreserve], rampState, written.report.trans hreport⟩

end Orders

end LockStep

/-- A fresh live channel is buffering, with nothing on its way. -/
theorem createLiveChannel_ok {model : Denoiser σ} {initial : σ} {sink : LiveCaptureSink σ}
    {shared : SharedState} {out : BypassOutput}
    (h : createLiveChannel model initial = .ok (sink, shared, out)) :
    (⟨sink, shared, out, .ok {}⟩ : LockStep σ).Buffering ∧
      (⟨sink, shared, out, .ok {}⟩ : LockStep σ).reserve = 0 := by
  unfold createLiveChannel at h
  split at h
  · cases h
  · -- A new channel is empty, and waits for its first frame.
    rename_i hsink
    cases h
    obtain ⟨healthy, hassembler, -⟩ := LiveCaptureSink.new_ok hsink
    have hstored : sink.assembler.stored = [] := by rw [hassembler]; rfl
    refine ⟨?_, by rw [LockStep.reserve, FrameAssembler.pendingSamples, hstored]; rfl⟩
    exact {
      sound := {
        healthy := healthy
        stored := by rw [hstored]; nofun
        clean := ⟨rfl, nofun, rfl, rfl⟩
        generation := rfl
        frameSamples := rfl
        quanta := rfl
        empty := rfl }
      ready := rfl
      pending := rfl
      ramp := rfl
      runs := rfl
      whole := Nat.dvd_zero _ }

/-! ## The law

Both orders from a new channel: the run law, with the callback at which the reserve reaches a
frame.
-/

/-- **Lock-step cycles.** A fresh live channel whose model never fails is driven in cycles of
    arbitrary nonempty quanta up to the callback boundary, under any parameters.

    * Capturing before publishing, there is a startup cycle `s`: up to it nothing but silence
      is published, every later fill publishes its whole quantum of real samples and leaves
      fewer than a frame and the quantum of `s` in the ring, and no cycle counts an underflow
      or an overflow;
    * publishing before capturing, there is a startup cycle as well, and the same holds of
      every cycle if no later quantum exceeds that of the startup cycle. -/
theorem lock_step (sin : F32 → F32) {model : Denoiser σ} (hok : model.AlwaysOk) {initial : σ}
    {sink : LiveCaptureSink σ} {shared : SharedState} {out : BypassOutput}
    (hnew : createLiveChannel model initial = .ok (sink, shared, out)) {input : ℕ → LiveInput}
    (hinput : ∀ i, 0 < (input i).samples.length ∧
      (input i).samples.length ≤ maxCallbackFrames) :
    let quantum := fun i => (input i).samples.length
    let start : LockStep σ := ⟨sink, shared, out, .ok {}⟩
    (∃ s, ∀ i, ∃ t, LockStep.after (LockStep.writeThenFill sin model) input start (i + 1) =
        some t ∧ t.Observed quantum s i ∧
        (s ≤ i → t.shared.queue.length < modelFrameSamples + quantum s)) ∧
      ∃ s, (∀ i ≤ s, ∃ t, LockStep.after (LockStep.fillThenWrite sin model) input start (i + 1) =
          some t ∧ t.Observed quantum s i) ∧
        ((∀ i, s < i → quantum i ≤ quantum s) → ∀ i, ∃ t,
          LockStep.after (LockStep.fillThenWrite sin model) input start (i + 1) = some t ∧
            t.Observed quantum s i) := by
  intro quantum start
  obtain ⟨hbuffering, hreserve⟩ := createLiveChannel_ok hnew
  have hle : ∀ i, (input i).samples.length ≤ maxCallbackFrames := fun i => (hinput i).2
  -- What was captured first covers a frame with callback `s`.
  obtain ⟨s, hbelow, habove⟩ := LockStep.exists_frame fun i => (hinput i).1
  refine ⟨⟨s, fun i => ?_⟩, s + 1, fun i hi => ?_, fun hlater i => ?_⟩
  · -- the write comes first: the output starts in the same callback
    have steps := LockStep.writeThenFill_steps sin hok hle hbelow habove i
    obtain ⟨t, hafter, phase, hobserved⟩ := steps.run hbuffering hreserve (Nat.le_refl i)
    refine ⟨t, hafter, hobserved, fun hs => ?_⟩
    have hlast : LockStep.captured input (s + 1) = LockStep.captured input s + quantum s := rfl
    have hqueue := t.reserve_bounds.1
    -- It flows by now, so the reserve is what is queued.
    rw [LockStep.Phase, if_neg (by omega)] at phase
    have hphase := phase.2
    omega
  · -- the fill comes first: it starts one callback later
    have steps := LockStep.fillThenWrite_steps sin hok hle hbelow habove
      (n := s + 1) fun i hi hlt => absurd hi (Nat.not_le.mpr hlt)
    obtain ⟨t, hafter, -, hobserved⟩ := steps.run hbuffering hreserve hi
    exact ⟨t, hafter, hobserved⟩
  · -- no later quantum is larger, so the run goes on
    have steps := LockStep.fillThenWrite_steps sin hok hle hbelow habove
      (n := i) fun i _ hlt => hlater i hlt
    obtain ⟨t, hafter, -, hobserved⟩ := steps.run hbuffering hreserve (Nat.le_refl i)
    exact ⟨t, hafter, hobserved⟩

/-- An echo driven in cycles of 300 samples never underflows, in either order. -/
theorem lock_step_echo : ∃ sink shared out,
    createLiveChannel echo () = .ok (sink, shared, out) ∧
    ∀ cycle ∈ [LockStep.writeThenFill taylorSine echo, LockStep.fillThenWrite taylorSine echo],
      ∀ i, ∃ t, LockStep.after cycle (fun _ => ⟨{}, .replicate 300 .one⟩)
        ⟨sink, shared, out, .ok {}⟩ (i + 1) = some t ∧ t.shared.counters .underflows = 0 := by
  let input : ℕ → LiveInput := fun _ => ⟨{}, .replicate 300 .one⟩
  have hinput : ∀ i, 0 < (input i).samples.length ∧
      (input i).samples.length ≤ maxCallbackFrames := fun i => by
    have hlength : (input i).samples.length = 300 := List.length_replicate
    rw [hlength]
    decide
  refine ⟨_, _, _, rfl, ?_⟩
  obtain ⟨⟨_, hfirst⟩, _, -, hsecond⟩ := lock_step taylorSine
    (show echo.AlwaysOk from fun _ _ _ _ => rfl) rfl hinput
  refine List.forall_mem_cons.mpr ⟨fun i => ?_, List.forall_mem_singleton.mpr fun i => ?_⟩
  · obtain ⟨t, hafter, hobserved, -⟩ := hfirst i
    exact ⟨t, hafter, hobserved.underflows⟩
  · obtain ⟨t, hafter, hobserved⟩ := hsecond (fun _ _ => Nat.le_refl _) i
    exact ⟨t, hafter, hobserved.underflows⟩

end Noire
