import Noire.Dsp.Fault
import Noire.Transport.Ring

namespace Noire

open Lib (Prog)

/-!
# Fades that are cut short

The gain of the fault ramp, sample by sample, over any writes and callbacks.

* `Rendering.steps` — the gain step of every sample a fill publishes;
* `FadeRun` — a channel in use, and the gain steps of all it has published;
* `Uncut` — a callback that finds its generation unmoved, or the ramp at silence;
* `fades_uncut` — in every run of such callbacks the gain moves by single steps, and
  `fade_cut`, a run with another in which it falls at once.

An underflow and an overflow both move the generation, so that the next callback starts over
from silence, whatever the ramp was about.

The calls are those of `Transport/Ring.lean`, where the programs are functions of the queue.  What
decides the gain of a sample is the state and the step of the ramp, so the proof forgets the
samples and keeps the list of the steps that were published.  `Fading` says how the end of this
list stands to the ramp: they are equal, or next to each other just above silence.  A callback
appends the steps of a fade that goes on, or of silence, or of a fade that starts from silence.
Only a generation that has moved under a ramp above silence breaks this, because the callback that
finds it resets the ramp.
-/

/-- The gain steps of what a fill publishes; silence is step zero. -/
def Rendering.steps : Rendering → List ℕ
  | silence frames => .replicate frames 0
  | rendered ramp block frames =>
    (ramp.begun (block.map (·.map TaggedSample.value))).fade.steps frames

/-! ## A channel in use

Writes may come between any two callbacks, in any number and of any length.
-/

/-- A channel, and the gain steps of all it has published. -/
structure FadeRun where
  shared : SharedState
  out : BypassOutput
  steps : List ℕ := []

/-- What happens to a channel: a block of the producer, or a callback of the source. -/
inductive FadeEvent
  | write (samples : List F32)
  | fill (frames : ℕ)

/-- A callback of samples, and within the boundary. -/
def FadeEvent.Bounded : FadeEvent → Prop
  | write _ => True
  | fill frames => 1 ≤ frames ∧ frames ≤ maxCallbackFrames

instance : DecidablePred FadeEvent.Bounded
  | .write _ => .isTrue trivial
  | .fill frames => inferInstanceAs (Decidable (1 ≤ frames ∧ frames ≤ maxCallbackFrames))

namespace FadeRun

variable (sin : F32 → F32)

/-- One event.  A callback takes at most as many rounds to discard as the ring holds samples,
    and one more. -/
def step (run : FadeRun) : FadeEvent → Option FadeRun
  | .write samples =>
    ((writeProcessed samples).run BypassOp.exec run.shared).map fun (_, shared) =>
      { run with shared }
  | .fill frames =>
    ((run.out.fillTraced sin frames (run.shared.queue.length + 1)).run
      BypassOp.exec run.shared).map fun ((filled, rendering), shared) =>
        { shared, out := filled.after, steps := run.steps ++ rendering.steps }

/-- The ring holds enough fresh samples for the callback to pass the startup gate of a channel
    that publishes no leading silence. -/
def Recovers (run : FadeRun) (frames : ℕ) : Prop :=
  let ring := run.shared.ring.pop run.shared.ring.stale
  run.out.emptyWhileBuffering = false ∧ run.out.startupRequired frames ≤ ring.queue.length ∧
    frames ≤ ring.fresh

/-- A callback that cuts no fade short: its generation has not moved since the last one, or the
    ramp is at most one step above silence, or two steps and starts over at once. -/
def Uncut (run : FadeRun) : FadeEvent → Prop
  | .write _ => True
  | .fill frames =>
    run.out.generation = run.shared.generation ∨ run.out.ramp.gainStep ≤ 1 ∨
      (run.out.ramp.gainStep = 2 ∧ run.Recovers frames)

/-- The gain moves by single steps. -/
def Gentle (run : FadeRun) : Prop := run.steps.IsChain Fade.Adjacent

end FadeRun

/-- What holds of a channel whose fades are not cut short. -/
structure Fading (ring : Ring) (out : BypassOutput) (steps : List ℕ) : Prop where
  coherent : out.ramp.fade.Coherent
  behind : out.generation ≤ ring.generation
  /-- Before startup the ramp is silent, or about to be. -/
  starting : out.startupReady = false →
    out.ramp.gainStep = 0 ∨ out.generation ≠ ring.generation
  started : out.startupReady = true → out.emptyWhileBuffering = true →
    out.leadingSilencePending = false
  gentle : steps.IsChain Fade.Adjacent
  /-- The last published sample had the ramp's step, or the ramp has restarted just below. -/
  last : ∀ step ∈ steps.getLast?, step = out.ramp.gainStep ∨ (step ≤ 1 ∧ out.ramp.gainStep = 0)

/-- A write moves the generation, or does not; the source side has seen neither. -/
theorem Fading.write {ring : Ring} {out : BypassOutput} {steps : List ℕ} (h : Fading ring out steps)
    (samples : List F32) : Fading (ring.write samples).2 out steps := by
  have hmoves : (ring.write samples).2.generation = ring.generation ∨
      (ring.write samples).2.generation = ring.generation + 1 := by
    unfold Ring.write
    split
    · split
      · exact .inl rfl
      · exact .inr rfl
    · exact .inl rfl
  have hbehind := h.behind
  refine ⟨h.coherent, by omega, fun hready => ?_, h.started, h.gentle, h.last⟩
  rcases h.starting hready with hzero | hmoved
  · exact .inl hzero
  · exact .inr (by omega)

/-! ## What a callback appends

A callback that is past the startup gate renders; one before it publishes silence; and one that
passes it begins a recovery.
-/

/-- Silence after at most the first step. -/
theorem gentle_silence {steps : List ℕ} (hgentle : steps.IsChain Fade.Adjacent)
    (hlast : ∀ step ∈ steps.getLast?, step ≤ 1) (frames : ℕ) :
    (steps ++ List.replicate frames 0).IsChain Fade.Adjacent ∧
      ∀ step ∈ (steps ++ List.replicate frames 0).getLast?, step ≤ 1 := by
  cases frames with
  | zero =>
    rw [List.replicate_zero, List.append_nil]
    exact ⟨hgentle, hlast⟩
  | succ frames =>
    refine ⟨List.isChain_append.mpr ⟨hgentle, List.isChain_replicate_of_rel _ (.refl 0), ?_⟩, ?_⟩
    · intro step hstep first hfirst
      rw [List.head?_replicate, if_neg (Nat.succ_ne_zero _)] at hfirst
      obtain rfl := Option.some.inj hfirst
      exact ⟨hlast step hstep, Nat.zero_le _⟩
    · intro step hstep
      rw [List.getLast?_append, List.getLast?_replicate, if_neg (Nat.succ_ne_zero _)] at hstep
      obtain rfl := Option.some.inj hstep
      exact Nat.zero_le _

/-- A rendering that starts beside the last step. -/
theorem gentle_rendered {steps : List ℕ} (hgentle : steps.IsChain Fade.Adjacent) {fade : Fade}
    (hfade : fade.Coherent) (hlast : ∀ step ∈ steps.getLast?, Fade.Adjacent step fade.next.step)
    {frames : ℕ} (hframes : 1 ≤ frames) :
    (steps ++ fade.steps frames).IsChain Fade.Adjacent ∧
      ∀ step ∈ (steps ++ fade.steps frames).getLast?, step = (fade.after frames).gainStep := by
  obtain ⟨samples, rfl⟩ : ∃ samples, frames = samples + 1 := ⟨frames - 1, by omega⟩
  obtain ⟨-, hchain, hend⟩ := hfade.steps (samples + 1)
  refine ⟨List.isChain_append.mpr ⟨hgentle, hchain.tail, ?_⟩, ?_⟩
  · intro step hstep first hfirst
    obtain rfl := Option.some.inj hfirst
    exact hlast step hstep
  · intro step hstep
    unfold Fade.steps at hend hstep
    rw [List.getLast?_cons_cons] at hend
    rw [List.getLast?_append, hend] at hstep
    exact (Option.some.inj hstep).symm

/-- From the step of a fade, or just above silence, the next step is adjacent. -/
theorem Fade.Coherent.adjacent {fade : Fade} (h : fade.Coherent) {step : ℕ}
    (hstep : step = fade.gainStep ∨ (step ≤ 1 ∧ fade.gainStep = 0)) :
    Fade.Adjacent step fade.next.step := by
  obtain ⟨-, hnext, hadjacent⟩ := h.next
  obtain ⟨hup, hdown⟩ := hadjacent
  rw [hnext]
  rcases hstep with rfl | ⟨hle, hzero⟩
  · exact ⟨hup, hdown⟩
  · exact ⟨by omega, by omega⟩

/-- Two steps above silence, a fade that has restarted is adjacent. -/
theorem Fade.adjacent_restarted {fade : Fade} (hstate : fade.state = .fadingIn)
    (hzero : fade.gainStep = 0) : Fade.Adjacent 2 fade.next.step := by
  obtain ⟨state, gainStep⟩ := fade
  obtain rfl : state = .fadingIn := hstate
  obtain rfl : gainStep = 0 := hzero
  exact ⟨by decide, by decide⟩

/-- **Past the startup gate.** A fade goes on, or starts from silence. -/
theorem ready_fading (sin : F32 → F32) {ring : Ring} {out : BypassOutput} {steps : List ℕ}
    {frames : ℕ} (hframes : 1 ≤ frames ∧ frames ≤ maxCallbackFrames)
    (hcoherent : out.ramp.fade.Coherent) (hgeneration : out.generation = ring.generation)
    (hready : out.startupReady = true) (hgentle : steps.IsChain Fade.Adjacent)
    (hsilence : (out.emptyWhileBuffering && out.leadingSilencePending) = true →
      out.ramp.gainStep = 0 ∧ ∀ step ∈ steps.getLast?, step ≤ 1)
    (hlast : ∀ step ∈ steps.getLast?,
      (step = out.ramp.gainStep ∨ (step ≤ 1 ∧ out.ramp.gainStep = 0)) ∨
        (step = 2 ∧ out.ramp.gainStep = 0 ∧ out.ramp.state = .fadingIn ∧ frames ≤ ring.fresh)) :
    Fading (ring.ready sin out frames).2.2 (ring.ready sin out frames).1
      (steps ++ (ring.ready sin out frames).2.1.steps) := by
  unfold Ring.ready
  split
  · rename_i hpending
    obtain ⟨hzero, hlow⟩ := hsilence hpending
    obtain ⟨hchain, hend⟩ := gentle_silence hgentle hlow frames
    exact ⟨hcoherent, Nat.le_of_eq hgeneration, fun hnot => absurd hready (by rw [hnot]; decide),
      fun _ _ => rfl, hchain, fun step hstep => .inr ⟨hend step hstep, hzero⟩⟩
  rename_i hpending
  -- The ramp renders from where it is, whether it gets a block or not.
  have hlen := ring.length_block frames
  have hfull : frames ≤ ring.fresh → (ring.block frames).1.isSome = true := fun henough => by
    rw [Ring.block, if_pos henough]
    rfl
  have hkept : (ring.block frames).2.generation = ring.generation := by
    unfold Ring.block
    split <;> rfl
  generalize ring.block frames = taken at hlen hfull hkept ⊢
  obtain ⟨block, ring'⟩ := taken
  dsimp only at hlen hfull hkept ⊢
  have hinput := length_values hlen
  obtain ⟨hbegun, hstep⟩ := FaultRamp.begun_coherent hcoherent
    (block.map (·.map TaggedSample.value))
  have hafter := FaultRamp.process_fade sin out.ramp hframes.2 hinput
  have hadjacent : ∀ step ∈ steps.getLast?, Fade.Adjacent step
      (out.ramp.begun (block.map (·.map TaggedSample.value))).fade.next.step := by
    intro step hmem
    rcases hlast step hmem with hnear | ⟨rfl, hzero, hstate, henough⟩
    · rw [← hstep] at hnear
      exact hbegun.adjacent hnear
    · obtain ⟨samples, rfl⟩ := Option.isSome_iff_exists.mp (hfull henough)
      exact Fade.adjacent_restarted hstate hzero
  obtain ⟨hchain, hend⟩ := gentle_rendered hgentle hbegun hadjacent hframes.1
  have hcoherent' := (hbegun.steps frames).1
  rw [← hafter] at hcoherent' hend
  cases block with
  -- With a block the output stays in step, and goes on.
  | some samples =>
    exact ⟨hcoherent', by rw [hkept]; exact Nat.le_of_eq hgeneration,
      fun hnot => absurd hready (by rw [hnot]; decide),
      fun _ hempty => by rw [hempty] at hpending; simpa using hpending, hchain,
      fun step hmem => .inl (hend step hmem)⟩
  -- Without one the ring has moved on, and the next fill starts anew.
  | none =>
    have hmoved : out.generation ≠ ring'.resync.generation := by
      rw [hgeneration, ← hkept]
      exact (Nat.succ_ne_self _).symm
    exact ⟨hcoherent', by rw [hgeneration, ← hkept]; exact Nat.le_succ _, fun _ => .inr hmoved,
      fun hnot => Bool.noConfusion hnot, hchain, fun step hmem => .inl (hend step hmem)⟩

/-- **A callback of the ring's generation.** What has not started up publishes silence, or
    starts from there. -/
theorem gated_fading (sin : F32 → F32) {ring : Ring} {out : BypassOutput} {steps : List ℕ}
    {frames : ℕ} (hframes : 1 ≤ frames ∧ frames ≤ maxCallbackFrames)
    (h : Fading ring out []) (hgeneration : out.generation = ring.generation)
    (hgentle : steps.IsChain Fade.Adjacent)
    (hlast : ∀ step ∈ steps.getLast?,
      (step = out.ramp.gainStep ∨ (step ≤ 1 ∧ out.ramp.gainStep = 0)) ∨
        (step = 2 ∧ out.startupReady = false ∧ out.emptyWhileBuffering = false ∧
          out.startupRequired frames ≤ ring.queue.length ∧ frames ≤ ring.fresh)) :
    Fading (ring.gated sin out frames).2.2 (ring.gated sin out frames).1
      (steps ++ (ring.gated sin out frames).2.1.steps) := by
  unfold Ring.gated
  split
  · rename_i hready
    refine ready_fading sin hframes h.coherent hgeneration hready hgentle (fun hpending => ?_)
      fun step hstep => ?_
    · obtain ⟨hempty, hleading⟩ := Bool.and_eq_true_iff.mp hpending
      rw [h.started hready hempty] at hleading
      cases hleading
    · rcases hlast step hstep with hnear | ⟨-, hnot, -⟩
      · exact .inl hnear
      · rw [hnot] at hready
        cases hready
  rename_i hnot
  -- Before the startup gate the ramp rests at silence.
  have hzero : out.ramp.gainStep = 0 :=
    (h.starting (by simpa using hnot)).resolve_right (not_not.mpr hgeneration)
  split
  · rename_i hbelow
    have hlow : ∀ step ∈ steps.getLast?, step ≤ 1 := fun step hstep => by
      rcases hlast step hstep with (hstep | ⟨hle, -⟩) | ⟨-, -, -, habove, -⟩
      · omega
      · exact hle
      · omega
    obtain ⟨hchain, hend⟩ := gentle_silence hgentle hlow
      (if out.emptyWhileBuffering then 0 else frames)
    exact ⟨h.coherent, h.behind, h.starting, h.started, hchain,
      fun step hstep => .inr ⟨hend step hstep, hzero⟩⟩
  · -- the callback passes the gate: a recovery begins at silence
    obtain ⟨hrecovered, hsame⟩ := FaultRamp.beginRecovery_coherent h.coherent
    refine ready_fading sin hframes hrecovered hgeneration rfl hgentle (fun hpending => ?_)
      fun step hstep => ?_
    · refine ⟨hsame.trans hzero, fun step hstep => ?_⟩
      obtain ⟨hempty, -⟩ := Bool.and_eq_true_iff.mp hpending
      rcases hlast step hstep with (hstep | ⟨hle, -⟩) | ⟨-, -, hnotEmpty, -⟩
      · omega
      · exact hle
      · rw [show out.emptyWhileBuffering = true from hempty] at hnotEmpty
        cases hnotEmpty
    · rcases hlast step hstep with hnear | ⟨htwo, -, -, -, henough⟩
      · exact .inl (hsame ▸ hnear)
      · exact .inr ⟨htwo, hsame.trans hzero, FaultRamp.beginRecovery_state h.coherent hzero,
          henough⟩

/-- **A callback** that cuts no fade short appends single steps. -/
theorem FadeRun.fill_fading (sin : F32 → F32) {run : FadeRun}
    (h : Fading run.shared.ring run.out run.steps) {frames : ℕ}
    (hframes : 1 ≤ frames ∧ frames ≤ maxCallbackFrames) (huncut : run.Uncut (.fill frames)) :
    Fading (run.shared.ring.fill sin run.out frames).2.2
      (run.shared.ring.fill sin run.out frames).1
      (run.steps ++ (run.shared.ring.fill sin run.out frames).2.1.steps) := by
  obtain ⟨shared, out, steps⟩ := run
  obtain ⟨hcoherent, hbehind, hstarting, hstarted, hgentle, hlast⟩ := h
  dsimp only at hcoherent hbehind hstarting hstarted hgentle hlast ⊢
  unfold Ring.fill
  by_cases hmoved : shared.ring.generation ≠ out.generation
  · -- The generation has moved: silence, and the startup gate.
    have hsync : shared.ring.sync out =
        { out.restartSilent with generation := shared.ring.generation } := if_pos hmoved
    rw [hsync]
    refine gated_fading sin hframes ⟨out.ramp.resetSilent_coherent, Nat.le_refl _,
      fun _ => .inl rfl, fun hready => Bool.noConfusion hready, .nil, nofun⟩ rfl hgentle
      fun step hstep => ?_
    have hstep' := hlast step hstep
    rcases huncut with hsame | hlow | ⟨htwo, hempty, hrequired, henough⟩
    · exact absurd hsame.symm hmoved
    · have hlow : out.ramp.gainStep ≤ 1 := hlow
      exact .inl (.inr ⟨by omega, rfl⟩)
    · have htwo : out.ramp.gainStep = 2 := htwo
      exact .inr ⟨by omega, rfl, hempty, hrequired, henough⟩
  · have hsync : shared.ring.sync out = out := if_neg hmoved
    have hgeneration : out.generation = shared.ring.generation := (not_not.mp hmoved).symm
    rw [hsync]
    exact gated_fading sin hframes ⟨hcoherent, hbehind, hstarting, hstarted, .nil, nofun⟩
      hgeneration hgentle fun step hstep => .inl (hlast step hstep)

/-! ## Runs -/

/-- What an event does to the queue, to the source side and to what is published. -/
def Ring.event (sin : F32 → F32) : Ring × BypassOutput × List ℕ → FadeEvent →
    Ring × BypassOutput × List ℕ
  | (ring, out, steps), .write samples => ((ring.write samples).2, out, steps)
  | (ring, out, steps), .fill frames =>
    let (out, rendering, ring) := ring.fill sin out frames
    (ring, out, steps ++ rendering.steps)

namespace FadeRun

variable (sin : F32 → F32)

/-- The queue of a run, its source side, and what it has published. -/
def seen (run : FadeRun) : Ring × BypassOutput × List ℕ := (run.shared.ring, run.out, run.steps)

/-- **Every event within the boundary returns**, and does what the queue's does. -/
theorem step_seen (run : FadeRun) {event : FadeEvent} (hbounded : event.Bounded) :
    ∃ run', run.step sin event = some run' ∧ run'.seen = Ring.event sin run.seen event := by
  cases event with
  | write samples =>
    obtain ⟨shared, hrun, hring⟩ := writeProcessed_ring samples run.shared
    refine ⟨{ run with shared }, congrArg (Option.map _) hrun, ?_⟩
    unfold seen
    rw [hring]
    rfl
  | fill frames =>
    obtain ⟨filled, shared, hrun, hafter, hring, -⟩ :=
      run.out.fillTraced_ring sin hbounded.2 (Nat.lt_succ_self _)
    refine ⟨⟨shared, filled.after,
      run.steps ++ (run.shared.ring.fill sin run.out frames).2.1.steps⟩,
      congrArg (Option.map _) hrun, ?_⟩
    unfold seen
    rw [hafter, hring]
    rfl

/-- The runs of events within the boundary are those of the queue, under any condition that what the
    run has come to meets at each event. -/
theorem run_seen {C : FadeRun → FadeEvent → Prop} {events : List FadeEvent} (start : FadeRun)
    (hmeets : ∀ i (hi : i < events.length) (run : FadeRun),
      run.seen = (events.take i).foldl (Ring.event sin) start.seen →
        events[i].Bounded ∧ C run events[i]) :
    ∃ run, Lib.Run (fun run event run' => step sin run event = some run') C start events run ∧
      run.seen = events.foldl (Ring.event sin) start.seen := by
  induction events using List.reverseRecOn with
  | nil => exact ⟨start, .nil, rfl⟩
  | append_singleton events event ih =>
    obtain ⟨run, hrun, hseen⟩ := ih fun i hi run hrun => by
      have hlast : i < (events ++ [event]).length := by
        rw [List.length_append]
        exact Nat.lt_add_right _ hi
      have hmeets' := hmeets i hlast run
      rw [List.take_append_of_le_length hi.le, List.getElem_append_left hi] at hmeets'
      exact hmeets' hrun
    have hlast : events.length < (events ++ [event]).length := by simp
    -- The last event sees what all before it have left.
    have hnow := hmeets events.length hlast run
    rw [List.take_left, List.getElem_concat_length rfl] at hnow
    obtain ⟨hbounded, hmeet⟩ := hnow hseen
    obtain ⟨run', hstep, hseen'⟩ := run.step_seen sin hbounded
    refine ⟨run', .snoc hrun hmeet hstep, ?_⟩
    rw [hseen', hseen, List.foldl_append]
    rfl

/-- **One event** that cuts no fade short. -/
theorem step_fading {run run' : FadeRun} (h : Fading run.shared.ring run.out run.steps)
    {event : FadeEvent} (hbounded : event.Bounded) (huncut : run.Uncut event)
    (hstep : run.step sin event = some run') :
    Fading run'.shared.ring run'.out run'.steps := by
  obtain ⟨after, hafter, hseen⟩ := run.step_seen sin hbounded
  obtain rfl := Option.some.inj (hafter.symm.trans hstep)
  have hring : after.shared.ring = (Ring.event sin run.seen event).1 := congrArg Prod.fst hseen
  have hout : after.out = (Ring.event sin run.seen event).2.1 := congrArg (·.2.1) hseen
  have hsteps : after.steps = (Ring.event sin run.seen event).2.2 := congrArg (·.2.2) hseen
  rw [hring, hout, hsteps]
  cases event with
  | write samples => exact h.write samples
  | fill frames => exact fill_fading sin h hbounded huncut

end FadeRun

/-- A channel as it is built, with any reserve. -/
theorem createChannel_fading (startupFrameSamples startupQuanta : ℕ) (emptyWhileBuffering : Bool) :
    Fading {} (createChannel 1 startupFrameSamples startupQuanta emptyWhileBuffering) [] :=
  ⟨FaultRamp.new.resetSilent_coherent, Nat.le_refl _, fun _ => .inl rfl,
    fun hready => Bool.noConfusion hready, .nil, nofun⟩

/-- **Fades that nothing cuts short.** In every run of a channel, whatever is written to it, whose
    callbacks each find the generation unmoved, or the ramp no more than a step above silence, the
    gain of what is published moves by single steps. -/
theorem fades_uncut (sin : F32 → F32) (startupFrameSamples startupQuanta : ℕ)
    (emptyWhileBuffering : Bool) {events : List FadeEvent} {run : FadeRun}
    (h : Lib.Run (fun run event run' => FadeRun.step sin run event = some run')
      (fun run event => event.Bounded ∧ run.Uncut event)
      { shared := {}
        out := createChannel 1 startupFrameSamples startupQuanta emptyWhileBuffering }
      events run) :
    run.Gentle := by
  have hfading : Fading run.shared.ring run.out run.steps :=
    h.invariant (fun run => Fading run.shared.ring run.out run.steps)
      (createChannel_fading startupFrameSamples startupQuanta emptyWhileBuffering)
      fun _ _ _ hrun hmeets hstep => FadeRun.step_fading sin hrun hmeets.1 hmeets.2 hstep
  exact hfading.gentle

/-- A reserve that is published to its end at full gain, a callback that finds the ring empty and
    is long enough for the fade, and one more. -/
def faded : List FadeEvent :=
  [.write (.replicate 516 .one), .fill 4, .fill 256, .fill 256, .fill 256, .fill 4]

/-- An underflow whose fade runs out: the gain falls from step 239 to zero within the callback, and
    the next one, of another generation, starts over from there. -/
theorem fades_uncut_startup : ∃ run,
    Lib.Run (fun run event run' => FadeRun.step taylorSine run event = some run')
      (fun run event => event.Bounded ∧ run.Uncut event)
      { shared := {}, out := createBypassChannel.2 } faded run ∧
    run.steps[515]? = some 240 ∧ run.steps[516]? = some 239 ∧ run.steps[755]? = some 0 ∧
    run.shared.ring.generation = 2 ∧ run.Gentle := by
  have hbounded : ∀ event ∈ faded, event.Bounded := by decide
  let start : FadeRun := { shared := {}, out := createBypassChannel.2 }
  -- What each callback finds, and what is left, on the queue and the source side alone.
  have hfound : ∀ i < faded.length,
      ((faded.take i).foldl (Ring.event taylorSine) start.seen).2.1.generation =
        ((faded.take i).foldl (Ring.event taylorSine) start.seen).1.generation ∨
      ((faded.take i).foldl (Ring.event taylorSine) start.seen).2.1.ramp.gainStep ≤ 1 := by
    decide +kernel
  have hleft : (faded.foldl (Ring.event taylorSine) start.seen).1.generation = 2 ∧
      (faded.foldl (Ring.event taylorSine) start.seen).2.2[515]? = some 240 ∧
      (faded.foldl (Ring.event taylorSine) start.seen).2.2[516]? = some 239 ∧
      (faded.foldl (Ring.event taylorSine) start.seen).2.2[755]? = some 0 := by
    decide +kernel
  obtain ⟨run, hrun, hseen⟩ := FadeRun.run_seen taylorSine start
    (C := fun run event => event.Bounded ∧ run.Uncut event) fun i hi run hrun => by
      have hevent := hbounded _ (List.getElem_mem hi)
      refine ⟨hevent, hevent, ?_⟩
      have hfound' := hfound i hi
      rw [← hrun] at hfound'
      cases faded[i] with
      | write samples => trivial
      | fill frames => exact hfound'.imp_right .inl
  rw [← hseen] at hleft
  obtain ⟨hgeneration, hfull, hfirst, hlast⟩ := hleft
  exact ⟨run, hrun, hfull, hfirst, hlast, hgeneration,
    fades_uncut taylorSine modelFrameSamples bypassStartupQuanta false hrun⟩

/-- A reserve that is published to its end at full gain, a callback that finds the ring empty,
    and one more. -/
def underflowing : List FadeEvent :=
  [.write (.replicate 516 .one), .fill 4, .fill 256, .fill 256, .fill 4, .fill 4]

/-- **A fade that is cut.** The callback after the underflow is silent at once: four steps into
    the fade, the gain falls from step 236 to zero. -/
theorem fade_cut : ¬ ∀ (startupFrameSamples startupQuanta : ℕ) (emptyWhileBuffering : Bool)
    (events : List FadeEvent) (run : FadeRun),
    Lib.Run (fun run event run' => FadeRun.step taylorSine run event = some run')
      (fun _ event => event.Bounded)
      { shared := {}
        out := createChannel 1 startupFrameSamples startupQuanta emptyWhileBuffering }
      events run → run.Gentle := by
  intro hall
  have hbounded : ∀ event ∈ underflowing, event.Bounded := by decide
  obtain ⟨run, hrun, hseen⟩ := FadeRun.run_seen taylorSine
    { shared := {}, out := createBypassChannel.2 }
    fun i hi _ _ => ⟨hbounded _ (List.getElem_mem hi), hbounded _ (List.getElem_mem hi)⟩
  have hsteps : run.steps.drop 516 = [239, 238, 237, 236, 0, 0, 0, 0] := by
    rw [show run.steps = _ from congrArg (·.2.2) hseen]
    decide +kernel
  have hgentle := (hall _ _ _ _ run hrun).drop 516
  rw [hsteps] at hgentle
  exact absurd hgentle (by decide)

end Noire
