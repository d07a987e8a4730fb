import Noire.Transport.Fade
import Mathlib.Algebra.Order.Ring.Abs
import Mathlib.Algebra.Order.Ring.Rat
import Mathlib.Data.Finset.Lattice.Fold
import Mathlib.Tactic.Linarith
import Mathlib.Tactic.NormNum

namespace Noire

/-!
# Audio that is missing

The fault ramp over exact numbers, and what it publishes while no audio comes.

* `Gain` — a gain curve: monotone on the steps of a fade, from zero to one;
* `ExactRamp` — `FaultRamp` over it, which takes the same steps (`process_fade`);
* `Sound` — what holds of it in every run over samples of at most full scale;
* `missing` — what it publishes over callbacks without audio, `held` one fade of one sample;
* `Whole` — the cuts into callbacks that leave the fade alone;
* `missing_smooth_iff` — the fade is smooth and does not depend on the cuts exactly where the
  held sample has not been faded before, up to one step, and the cuts are such.

The ramp of `fault.rs` rounds, so its samples satisfy no exact law.  Over exact numbers they do, and
the two ramps go through the same states and steps (`process_fade`), so the cuts that go wrong are
the same for both.

A missing callback holds the last output and fades it.  In one callback this is one fade of one
sample (`held`), along which neighbours differ by one step of the gain.  The next callback holds the
last output again, which is faded already, and fades it a second time.  `Sound.missing_after` says
when that makes no difference: the second callback begins at a step whose gain is one, or there is
no gain left.  The induction over the callbacks is on the list of their lengths, and what it carries
is that the ramp is sound.
-/

/-! ## The gain

What is needed of the table of gains: it rises from zero to one, in steps of at most `delta`.
-/

variable {K : Type} [CommRing K] [LinearOrder K]

/-- A gain curve over the steps of a fade. -/
structure Gain (K : Type) [CommRing K] [LinearOrder K] where
  gain : ℕ → K
  mono : ∀ step < faultRampSamples, gain step ≤ gain (step + 1)
  zero : gain 0 = 0
  full : gain faultRampSamples = 1

namespace Gain

variable (g : Gain K)

/-- The largest difference that one step makes. -/
def delta : K :=
  (Finset.range faultRampSamples).sup' ⟨0, Finset.mem_range.mpr (by decide)⟩ fun step =>
    g.gain (step + 1) - g.gain step

/-- No step makes a larger one. -/
theorem le_delta {step : ℕ} (h : step < faultRampSamples) :
    g.gain (step + 1) - g.gain step ≤ g.delta :=
  Finset.le_sup' (fun step => g.gain (step + 1) - g.gain step) (Finset.mem_range.mpr h)

/-- The gain rises with the step. -/
theorem gain_le {step step' : ℕ} (h : step ≤ step') (hle : step' ≤ faultRampSamples) :
    g.gain step ≤ g.gain step' := by
  induction step', h using Nat.le_induction with
  | base => exact le_rfl
  | succ step' _ ih => exact (ih (Nat.le_of_succ_le hle)).trans (g.mono step' hle)

theorem gain_nonneg {step : ℕ} (h : step ≤ faultRampSamples) : 0 ≤ g.gain step := by
  rw [← g.zero]
  exact g.gain_le (Nat.zero_le _) h

theorem gain_le_one {step : ℕ} (h : step ≤ faultRampSamples) : g.gain step ≤ 1 := by
  rw [← g.full]
  exact g.gain_le h le_rfl

/-- Below a step without gain there is none. -/
theorem gain_eq_zero {step step' : ℕ} (h : step ≤ step') (hle : step' ≤ faultRampSamples)
    (hzero : g.gain step' = 0) : g.gain step = 0 :=
  le_antisymm ((g.gain_le h hle).trans hzero.le) (g.gain_nonneg (h.trans hle))

variable [IsStrictOrderedRing K]

theorem delta_nonneg : 0 ≤ g.delta :=
  (sub_nonneg.mpr (g.mono 0 (by decide))).trans (g.le_delta (by decide))

end Gain

/-! ## The ramp

The ramp of the source over exact numbers, so that a step of the output can be measured.
-/

/-- `FaultRamp`, over exact numbers. -/
structure ExactRamp (K : Type) where
  state : FaultRampState
  gainStep : ℕ
  lastOutput : K

namespace ExactRamp

/-- `FaultRamp::new`. -/
def new : ExactRamp K := ⟨.passing, faultRampSamples, 0⟩

/-- `FaultRamp::begin_fault`. -/
def beginFault (ramp : ExactRamp K) : ExactRamp K :=
  if ramp.state = .silent then ramp else { ramp with state := .fadingOut }

/-- `FaultRamp::begin_recovery`. -/
def beginRecovery (ramp : ExactRamp K) : ExactRamp K :=
  if ramp.state = .passing then ramp else { ramp with state := .fadingIn }

/-- `FaultRamp::reset_silent`. -/
def resetSilent (_ramp : ExactRamp K) : ExactRamp K := ⟨.silent, 0, 0⟩

variable (g : Gain K)

/-- `FaultRamp::next_gain`. -/
def nextGain (ramp : ExactRamp K) : K × ExactRamp K :=
  match ramp.state with
  | .passing => (1, ramp)
  | .silent => (0, ramp)
  | .fadingOut =>
    let gainStep := ramp.gainStep - 1
    (g.gain gainStep,
      { ramp with gainStep, state := if gainStep = 0 then .silent else ramp.state })
  | .fadingIn =>
    let gainStep := min (min (ramp.gainStep + 1) (2 ^ 16 - 1)) faultRampSamples
    (g.gain gainStep,
      { ramp with
        gainStep, state := if gainStep = faultRampSamples then .passing else ramp.state })

/-- `FaultRamp::render_sample`: exact numbers are finite, and never replaced. -/
def renderSample (ramp : ExactRamp K) (source : K) : K × ExactRamp K :=
  let gain := ramp.nextGain g
  let destination := source * gain.1
  (destination, { gain.2 with lastOutput := destination })

/-- The sources of one callback, rendered one after the other. -/
def renderAll (ramp : ExactRamp K) : List K → List K × ExactRamp K
  | [] => ([], ramp)
  | source :: rest =>
    let first := ramp.renderSample g source
    let others := first.2.renderAll rest
    (first.1 :: others.1, others.2)

/-- `FaultRamp::process` into a buffer of `frames` samples. -/
def process (ramp : ExactRamp K) (input : Option (List K)) (frames : ℕ) :
    Except FaultRampError FaultRampReport × List K × ExactRamp K :=
  if maxCallbackFrames < frames then
    (.error .quantumTooLarge, .replicate frames 0, ramp.resetSilent)
  else if input.any fun samples => samples.length != frames then
    (.error .shapeMismatch, .replicate frames 0, ramp.resetSilent)
  else
    let ramp := if input.isNone then ramp.beginFault else ramp
    let missing := if input.isNone then toU16 frames else 0
    let rendered := ramp.renderAll g (input.getD (.replicate frames ramp.lastOutput))
    (.ok { missingSamples := missing, state := rendered.2.state }, rendered.1, rendered.2)

/-! ## It takes the steps of the source's ramp -/

/-- The fade of a ramp. -/
def fade (ramp : ExactRamp K) : Fade := ⟨ramp.state, ramp.gainStep⟩

theorem nextGain_fade (ramp : ExactRamp K) : (ramp.nextGain g).2.fade = ramp.fade.next := by
  obtain ⟨state, gainStep, lastOutput⟩ := ramp
  cases state with
  | passing => rfl
  | silent => rfl
  | fadingOut => rfl
  | fadingIn => rfl

theorem renderAll_fade (ramp : ExactRamp K) (sources : List K) :
    (ramp.renderAll g sources).2.fade = ramp.fade.after sources.length := by
  induction sources generalizing ramp with
  | nil => rfl
  | cons source rest ih =>
    rw [renderAll, List.length_cons, Fade.after, ← nextGain_fade g]
    exact ih _

/-- The ramp as it renders: an underflow begins a fault. -/
def begun (ramp : ExactRamp K) (input : Option (List K)) : ExactRamp K :=
  if input.isNone then ramp.beginFault else ramp

/-- What the ramp renders of one callback. -/
def rendering (ramp : ExactRamp K) (input : Option (List K)) (frames : ℕ) :
    List K × ExactRamp K :=
  (ramp.begun input).renderAll g (input.getD (.replicate frames (ramp.begun input).lastOutput))

/-- A callback whose length or shape is refused is silent, and so is the ramp after it. -/
theorem process_refused (ramp : ExactRamp K) {input : Option (List K)} {frames : ℕ}
    (h : maxCallbackFrames < frames ∨ ∃ samples ∈ input, samples.length ≠ frames) :
    (ramp.process g input frames).2 = (.replicate frames 0, ramp.resetSilent) := by
  unfold process
  by_cases hlarge : maxCallbackFrames < frames
  · rw [if_pos hlarge]
  · obtain ⟨samples, rfl, hshape⟩ := h.resolve_left hlarge
    rw [if_neg hlarge, if_pos (by simpa using hshape)]

/-- Any other is rendered. -/
theorem process_rendered (ramp : ExactRamp K) {input : Option (List K)} {frames : ℕ}
    (hframes : frames ≤ maxCallbackFrames) (hinput : ∀ samples ∈ input, samples.length = frames) :
    (ramp.process g input frames).2 = ramp.rendering g input frames := by
  have hshape : ¬(input.any fun samples => samples.length != frames) = true := by
    cases input with
    | none => exact Bool.false_ne_true
    | some samples => simp [hinput samples rfl]
  unfold process
  rw [if_neg (Nat.not_lt.mpr hframes), if_neg hshape]
  rfl

/-- **The two ramps move together**: over callbacks of one length and shape, a ramp over machine
    numbers and one over exact numbers go through the same states and steps. -/
theorem process_fade (sin : F32 → F32) {ramp : ExactRamp K} {machine : FaultRamp}
    (h : ramp.fade = machine.fade) {input : Option (List K)} {samples : Option (List F32)}
    (hshape : input.map List.length = samples.map List.length) (frames : ℕ) :
    (ramp.process g input frames).2.2.fade = (machine.process sin samples frames).2.2.fade := by
  obtain ⟨state, gainStep, lastOutput⟩ := ramp
  obtain ⟨state', gainStep', lastOutput'⟩ := machine
  obtain ⟨rfl, rfl⟩ : state = state' ∧ gainStep = gainStep' := by
    injection h with hstate hstep
    exact ⟨hstate, hstep⟩
  unfold process FaultRamp.process
  -- Both ramps refuse the same callbacks: the decision is by the lengths alone.
  by_cases hlarge : maxCallbackFrames < frames
  · rw [if_pos hlarge, if_pos hlarge]
    rfl
  rw [if_neg hlarge, if_neg hlarge]
  cases input with
  | none =>
    cases samples with
    | some _ => cases hshape
    | none =>
      -- Missing audio is rendered as if by a fault, one step for each sample.
      refine (renderAll_fade g _ _).trans (Eq.trans ?_ (FaultRamp.renderAll_fade sin _ _ _).symm)
      show Fade.after (fade (beginFault _)) (List.replicate _ _).length =
        Fade.after (FaultRamp.fade (FaultRamp.beginFault _)) (List.replicate _ _).length
      rw [List.length_replicate, List.length_replicate]
      cases state <;> rfl
  | some xs =>
    cases samples with
    | none => cases hshape
    | some ys =>
      have hlength : xs.length = ys.length := Option.some.inj hshape
      by_cases hframes : xs.length = frames
      · have hframes' : ys.length = frames := hlength.symm.trans hframes
        have hshape : ¬((some xs).any fun xs => xs.length != frames) = true := by
          simp [hframes]
        have hshape' : ¬((some ys).any fun ys => ys.length != frames) = true := by
          simp [hframes']
        rw [if_neg hshape, if_neg hshape']
        refine (renderAll_fade g _ _).trans
          (Eq.trans ?_ (FaultRamp.renderAll_fade sin _ _ _).symm)
        show Fade.after _ xs.length = Fade.after _ ys.length
        rw [hlength]
        rfl
      · have hframes' : ¬ys.length = frames := fun heq => hframes (hlength.trans heq)
        rw [if_pos (by simp [hframes]), if_pos (by simp [hframes'])]
        rfl

/-! ## Runs

Every use of a ramp is covered: callbacks with audio and without, refused ones, and the two resets.
-/

/-- One use of a ramp. -/
inductive Call (K : Type)
  | beginFault
  | beginRecovery
  | resetSilent
  | process (input : Option (List K)) (frames : ℕ)

/-- The ramp after it. -/
def apply (ramp : ExactRamp K) : Call K → ExactRamp K
  | .beginFault => ramp.beginFault
  | .beginRecovery => ramp.beginRecovery
  | .resetSilent => ramp.resetSilent
  | .process input frames => (ramp.process g input frames).2.2

/-- Its samples are of at most full scale. -/
def Call.Bounded (call : Call K) : Prop :=
  match call with
  | .process (some samples) _ => ∀ sample ∈ samples, |sample| ≤ 1
  | _ => True

/-- The ramps that such uses of a new ramp lead to. -/
def Reachable (ramp : ExactRamp K) : Prop :=
  ∃ calls, Lib.Run (fun ramp call after => apply g ramp call = after) (fun _ call => call.Bounded)
    new calls ramp

/-- What holds of them: the ramp is coherent, its last sample is of at most full scale, and at step
    zero it is silence. -/
structure Sound (ramp : ExactRamp K) : Prop where
  coherent : ramp.fade.Coherent
  bounded : |ramp.lastOutput| ≤ 1
  silent : ramp.gainStep = 0 → ramp.lastOutput = 0

theorem Sound.beginFault {ramp : ExactRamp K} (h : ramp.Sound) : ramp.beginFault.Sound := by
  unfold ExactRamp.beginFault
  split
  · exact h
  · exact ⟨⟨nofun, nofun, h.coherent.le⟩, h.bounded, h.silent⟩

theorem Sound.beginRecovery {ramp : ExactRamp K} (h : ramp.Sound) : ramp.beginRecovery.Sound := by
  unfold ExactRamp.beginRecovery
  split
  · exact h
  · exact ⟨⟨nofun, nofun, h.coherent.le⟩, h.bounded, h.silent⟩

/-- The gain of a sample is that of the step it is rendered at. -/
theorem nextGain_gain {ramp : ExactRamp K} (h : ramp.fade.Coherent) :
    (ramp.nextGain g).1 = g.gain (ramp.nextGain g).2.gainStep := by
  obtain ⟨state, gainStep, lastOutput⟩ := ramp
  cases state with
  | passing =>
    obtain rfl : gainStep = faultRampSamples := h.passing rfl
    exact g.full.symm
  | silent =>
    obtain rfl : gainStep = 0 := h.silent rfl
    exact g.zero.symm
  | fadingOut => rfl
  | fadingIn => rfl

section
variable [IsStrictOrderedRing K]

theorem Sound.new : Sound (new : ExactRamp K) where
  coherent := ⟨fun _ => rfl, nofun, le_rfl⟩
  bounded := by
    show |(0 : K)| ≤ 1
    rw [abs_zero]
    exact zero_le_one
  silent _ := rfl

theorem Sound.resetSilent (ramp : ExactRamp K) : ramp.resetSilent.Sound where
  coherent := ⟨nofun, fun _ => rfl, Nat.zero_le _⟩
  bounded := by
    show |(0 : K)| ≤ 1
    rw [abs_zero]
    exact zero_le_one
  silent _ := rfl

/-- A sample of at most full scale leaves a sound ramp. -/
theorem Sound.renderSample {ramp : ExactRamp K} (h : ramp.Sound) {source : K}
    (hsource : |source| ≤ 1) : (ramp.renderSample g source).2.Sound := by
  have hfade := ramp.nextGain_fade g
  obtain ⟨hcoherent, -, -⟩ := h.coherent.next
  rw [← hfade] at hcoherent
  have hgain := nextGain_gain g h.coherent
  have hle : (ramp.nextGain g).2.gainStep ≤ faultRampSamples := hcoherent.le
  refine ⟨hcoherent, ?_, fun hzero => ?_⟩
  · show |source * (ramp.nextGain g).1| ≤ 1
    rw [hgain, abs_mul, abs_of_nonneg (g.gain_nonneg hle)]
    exact mul_le_one₀ hsource (g.gain_nonneg hle) (g.gain_le_one hle)
  · show source * (ramp.nextGain g).1 = 0
    have hzero : (ramp.nextGain g).2.gainStep = 0 := hzero
    rw [hgain, hzero, g.zero, mul_zero]

theorem Sound.renderAll {ramp : ExactRamp K} (h : ramp.Sound) {sources : List K}
    (hsources : ∀ source ∈ sources, |source| ≤ 1) : (ramp.renderAll g sources).2.Sound := by
  induction sources generalizing ramp with
  | nil => exact h
  | cons source rest ih =>
    exact ih (h.renderSample g (hsources source List.mem_cons_self))
      fun other hother => hsources other (List.mem_cons_of_mem _ hother)

/-- A callback, refused or not, leaves a sound ramp. -/
theorem Sound.process {ramp : ExactRamp K} (h : ramp.Sound) {input : Option (List K)}
    {frames : ℕ} (hinput : ∀ samples ∈ input, ∀ sample ∈ samples, |sample| ≤ 1) :
    (ramp.process g input frames).2.2.Sound := by
  by_cases hrefused : maxCallbackFrames < frames ∨ ∃ samples ∈ input, samples.length ≠ frames
  · rw [process_refused g ramp hrefused]
    exact .resetSilent ramp
  · rw [process_rendered g ramp (Nat.not_lt.mp fun hlarge => hrefused (.inl hlarge))
      fun samples hsamples => by_contra fun hne => hrefused (.inr ⟨samples, hsamples, hne⟩)]
    cases input with
    | none =>
      refine h.beginFault.renderAll g fun source hsource => ?_
      rw [List.eq_of_mem_replicate hsource]
      exact h.beginFault.bounded
    | some samples => exact h.renderAll g (hinput samples rfl)

theorem Reachable.sound {ramp : ExactRamp K} (h : Reachable g ramp) : ramp.Sound := by
  obtain ⟨calls, run⟩ := h
  refine run.invariant Sound .new fun ramp call after hsound hbounded hstep => ?_
  obtain rfl : apply g ramp call = after := hstep
  cases call with
  | beginFault => exact hsound.beginFault
  | beginRecovery => exact hsound.beginRecovery
  | resetSilent => exact .resetSilent ramp
  | process input frames =>
    refine hsound.process g fun samples hsamples => ?_
    obtain rfl := hsamples
    exact hbounded

end

/-! ## One fade of one sample

While samples are missing, the step only falls, and the sample held is the last output of the
callback before.
-/

/-- A sample held through a fade from a step on. -/
def held (sample : K) (step frames : ℕ) : List K :=
  (List.range frames).map fun i => sample * g.gain (step - 1 - i)

theorem held_succ (sample : K) (step frames : ℕ) :
    held g sample step (frames + 1) =
      sample * g.gain (step - 1) :: held g sample (step - 1) frames := by
  unfold held
  rw [List.range_succ_eq_map, List.map_cons, List.map_map, Nat.sub_zero]
  refine congrArg _ (List.map_congr_left fun i _ => ?_)
  rw [Function.comp_apply, Nat.succ_eq_add_one, Nat.add_comm i 1, ← Nat.sub_sub]

/-- A fade goes on where a part of it ended. -/
theorem held_add (sample : K) (step frames more : ℕ) :
    held g sample step (frames + more) =
      held g sample step frames ++ held g sample (step - frames) more := by
  induction frames generalizing step with
  | zero => rw [Nat.zero_add]; rfl
  | succ frames ih =>
    rw [Nat.add_right_comm, held_succ, held_succ, ih, List.cons_append, Nat.sub_sub,
      Nat.add_comm 1 frames]

/-- Silence stays silence. -/
theorem held_zero (step frames : ℕ) : held g 0 step frames = .replicate frames 0 := by
  refine List.eq_replicate_iff.mpr ⟨by simp [held], fun sample hsample => ?_⟩
  obtain ⟨i, -, rfl⟩ := List.mem_map.mp hsample
  exact zero_mul _

/-- And so does a sample that fades from no gain. -/
theorem held_of_gain_zero {step : ℕ} (hle : step ≤ faultRampSamples)
    (hzero : g.gain (step - 1) = 0) (sample : K) (frames : ℕ) :
    held g sample step frames = .replicate frames 0 := by
  refine List.eq_replicate_iff.mpr ⟨by simp [held], fun x hx => ?_⟩
  obtain ⟨i, -, rfl⟩ := List.mem_map.mp hx
  rw [g.gain_eq_zero (Nat.sub_le _ i) ((Nat.sub_le _ 1).trans hle) hzero, mul_zero]

/-- The ramp fades out, or has done so. -/
def Falling (ramp : ExactRamp K) : Prop :=
  ramp.state = .fadingOut ∨ ramp.state = .silent ∧ ramp.gainStep = 0

/-- A missing sample lowers the gain by one step. -/
theorem Falling.renderSample {ramp : ExactRamp K} (h : ramp.Falling) (source : K) :
    (ramp.renderSample g source).1 = source * g.gain (ramp.gainStep - 1) ∧
      (ramp.renderSample g source).2.gainStep = ramp.gainStep - 1 ∧
      (ramp.renderSample g source).2.lastOutput = source * g.gain (ramp.gainStep - 1) ∧
      (ramp.renderSample g source).2.Falling := by
  obtain ⟨state, gainStep, lastOutput⟩ := ramp
  rcases h with hout | ⟨hsilent, hzero⟩
  · obtain rfl : state = .fadingOut := hout
    refine ⟨rfl, rfl, rfl, ?_⟩
    show (if gainStep - 1 = 0 then _ else _) = _ ∨ (if gainStep - 1 = 0 then _ else _) = _ ∧ _
    by_cases hend : gainStep - 1 = 0
    · rw [if_pos hend]
      exact .inr ⟨rfl, hend⟩
    · rw [if_neg hend]
      exact .inl rfl
  · obtain rfl : state = .silent := hsilent
    obtain rfl : gainStep = 0 := hzero
    have hgain : source * (0 : K) = source * g.gain (0 - 1) := by
      rw [Nat.zero_sub, g.zero]
    exact ⟨hgain, rfl, hgain, .inr ⟨rfl, rfl⟩⟩

/-- Missing samples are one fade of what they are held at. -/
theorem Falling.renderAll {ramp : ExactRamp K} (h : ramp.Falling) (source : K) (frames : ℕ) :
    (ramp.renderAll g (.replicate frames source)).1 = held g source ramp.gainStep frames ∧
      (ramp.renderAll g (.replicate frames source)).2.gainStep = ramp.gainStep - frames ∧
      (ramp.renderAll g (.replicate frames source)).2.lastOutput =
        if frames = 0 then ramp.lastOutput else source * g.gain (ramp.gainStep - frames) := by
  induction frames generalizing ramp with
  | zero => exact ⟨rfl, rfl, rfl⟩
  | succ frames ih =>
    -- One sample more: the gain is one step lower, and what is held is the same.
    obtain ⟨hsample, hstep, hlast, hfalling⟩ := h.renderSample g source
    obtain ⟨hall, hsteps, hlasts⟩ := ih hfalling
    rw [hstep] at hall hsteps hlasts
    rw [List.replicate_succ]
    refine ⟨?_, ?_, ?_⟩
    · rw [held_succ, ← hsample, ← hall]
      rfl
    · refine hsteps.trans ?_
      rw [Nat.sub_sub, Nat.add_comm 1 frames]
    · refine hlasts.trans ?_
      rw [if_neg (Nat.succ_ne_zero frames), Nat.sub_sub, Nat.add_comm 1 frames]
      split
      · rename_i hzero
        rw [hlast, hzero]
      · rfl

/-! ## Missing audio

The law of a missing run by induction over the cuts.  A callback without samples changes nothing,
and one that is too long silences the ramp.
-/

/-- What the ramp publishes over callbacks without audio. -/
def missing (ramp : ExactRamp K) : List ℕ → List K
  | [] => []
  | frames :: rest =>
    let processed := ramp.process g none frames
    processed.2.1 ++ processed.2.2.missing rest

/-- What it would publish in one callback, however long. -/
def undivided (ramp : ExactRamp K) (frames : ℕ) : List K := (ramp.rendering g none frames).1

/-- The cuts into callbacks that leave a fade from a step on alone: a callback with samples fits
    into the buffer and, unless it is the first, begins at unity; or else there is no gain left
    where it begins. -/
def Whole (first : Bool) (step : ℕ) : List ℕ → Prop
  | [] => True
  | 0 :: rest => Whole first step rest
  | (frames + 1) :: rest =>
    (g.gain (step - 1) = 0 ∨
      (frames + 1 ≤ maxCallbackFrames ∧ (first = true ∨ g.gain step = 1))) ∧
      Whole false (step - (frames + 1)) rest

/-- A missing run is smooth: no two samples that follow each other, from the last one before it on,
    are further apart than one step of the gain takes them; and it is that of one callback. -/
structure Smooth (ramp : ExactRamp K) (sizes : List ℕ) : Prop where
  bounded : (ramp.lastOutput :: ramp.missing g sizes).IsChain fun sample next =>
    |next - sample| ≤ g.delta
  undivided : ramp.missing g sizes = ramp.undivided g sizes.sum

/-- A missing callback begins to fall. -/
theorem Sound.falling {ramp : ExactRamp K} (h : ramp.Sound) : ramp.beginFault.Falling := by
  unfold ExactRamp.beginFault
  split
  · rename_i hsilent
    exact .inr ⟨hsilent, h.coherent.silent hsilent⟩
  · exact .inl rfl

omit [CommRing K] [LinearOrder K] in
/-- A fault begins where the ramp is. -/
theorem beginFault_kept (ramp : ExactRamp K) :
    ramp.beginFault.gainStep = ramp.gainStep ∧ ramp.beginFault.lastOutput = ramp.lastOutput := by
  unfold beginFault
  split
  · exact ⟨rfl, rfl⟩
  · exact ⟨rfl, rfl⟩

/-- One callback without audio is one fade of the last sample. -/
theorem Sound.rendering {ramp : ExactRamp K} (h : ramp.Sound) (frames : ℕ) :
    (ramp.rendering g none frames).1 = held g ramp.lastOutput ramp.gainStep frames ∧
      (ramp.rendering g none frames).2.gainStep = ramp.gainStep - frames ∧
      (ramp.rendering g none frames).2.lastOutput = if frames = 0 then ramp.lastOutput
        else ramp.lastOutput * g.gain (ramp.gainStep - frames) := by
  obtain ⟨hstep, hlast⟩ := ramp.beginFault_kept
  have hall := h.falling.renderAll g ramp.beginFault.lastOutput frames
  rw [hstep, hlast] at hall
  have hrendering : ramp.rendering g none frames =
      ramp.beginFault.renderAll g (.replicate frames ramp.lastOutput) := by
    rw [← hlast]
    rfl
  rw [hrendering]
  exact hall

theorem Sound.undivided {ramp : ExactRamp K} (h : ramp.Sound) (frames : ℕ) :
    ramp.undivided g frames = held g ramp.lastOutput ramp.gainStep frames :=
  (h.rendering g frames).1

/-- A callback that is too long is silent, and so is all that follows it. -/
theorem missing_refused (ramp : ExactRamp K) {frames : ℕ} (rest : List ℕ)
    (hframes : maxCallbackFrames < frames) :
    ramp.missing g (frames :: rest) =
      .replicate frames 0 ++ ramp.resetSilent.missing g rest := by
  rw [missing, process_refused g ramp (.inl hframes)]

/-- One callback of a missing run. -/
theorem Sound.missing_cons {ramp : ExactRamp K} (h : ramp.Sound) {frames : ℕ} (rest : List ℕ)
    (hframes : frames ≤ maxCallbackFrames) :
    ramp.missing g (frames :: rest) = held g ramp.lastOutput ramp.gainStep frames ++
      (ramp.rendering g none frames).2.missing g rest := by
  rw [missing, process_rendered g ramp hframes (fun _ hnone => by cases hnone),
    (h.rendering g frames).1]

/-- Once there is no gain left, the cuts do not matter. -/
theorem whole_of_gain_zero {step : ℕ} (hle : step ≤ faultRampSamples)
    (hzero : g.gain (step - 1) = 0) (first : Bool) (sizes : List ℕ) : Whole g first step sizes := by
  induction sizes generalizing first step with
  | nil => trivial
  | cons frames rest ih =>
    cases frames with
    | zero => exact ih hle hzero first
    | succ frames =>
      exact ⟨.inl hzero, ih ((Nat.sub_le ..).trans hle)
        (g.gain_eq_zero (by omega) ((Nat.sub_le _ 1).trans hle) hzero) false⟩

/-- Only the callback that comes first is excused. -/
theorem whole_false_iff {step : ℕ} {sizes : List ℕ} (hsizes : sizes.sum ≠ 0) :
    Whole g false step sizes ↔
      (g.gain (step - 1) = 0 ∨ g.gain step = 1) ∧ Whole g true step sizes := by
  induction sizes with
  | nil => exact absurd rfl hsizes
  | cons frames rest ih =>
    cases frames with
    | zero => exact ih (by simpa using hsizes)
    | succ frames =>
      unfold Whole
      simp only [Bool.false_eq_true, false_or, true_or, and_true]
      tauto

theorem whole_of_sum_zero (first : Bool) (step : ℕ) {sizes : List ℕ} (hsizes : sizes.sum = 0) :
    Whole g first step sizes := by
  induction sizes with
  | nil => trivial
  | cons frames rest ih =>
    obtain ⟨rfl, hrest⟩ : frames = 0 ∧ rest.sum = 0 := by
      rw [List.sum_cons] at hsizes
      omega
    exact ih hrest

section
variable [IsStrictOrderedRing K]

/-- A missing callback keeps a ramp sound. -/
theorem Sound.missed {ramp : ExactRamp K} (h : ramp.Sound) (frames : ℕ) :
    (ramp.process g none frames).2.2.Sound := h.process g (fun _ hnone => by cases hnone)

/-- After silence, missing audio is silence. -/
theorem Sound.missing_silence {ramp : ExactRamp K} (h : ramp.Sound) (hsilent : ramp.lastOutput = 0)
    (sizes : List ℕ) : ramp.missing g sizes = .replicate sizes.sum 0 := by
  induction sizes generalizing ramp with
  | nil => rfl
  | cons frames rest ih =>
    by_cases hframes : maxCallbackFrames < frames
    · rw [missing_refused g ramp rest hframes, ih (.resetSilent ramp) rfl, List.sum_cons,
        List.replicate_append_replicate]
    · have hframes := Nat.not_lt.mp hframes
      have hnext := (h.rendering g frames).2.2
      rw [hsilent, zero_mul, ite_self] at hnext
      have hsound := h.missed g frames
      rw [process_rendered g ramp hframes (fun _ hnone => by cases hnone)] at hsound
      rw [h.missing_cons g rest hframes, hsilent, held_zero, ih hsound hnext, List.sum_cons,
        List.replicate_append_replicate]

/-- The first sample of a missing run: one step down from the held sample, unless the callback is
    too long. -/
theorem Sound.head_missing {ramp : ExactRamp K} (h : ramp.Sound) {sizes : List ℕ}
    (hsizes : sizes.sum ≠ 0) :
    (ramp.missing g sizes).head? = some (ramp.lastOutput * g.gain (ramp.gainStep - 1)) ∨
      (ramp.missing g sizes).head? = some 0 := by
  induction sizes generalizing ramp with
  | nil => exact absurd rfl hsizes
  | cons frames rest ih =>
    by_cases hframes : maxCallbackFrames < frames
    · obtain ⟨n, rfl⟩ := Nat.exists_eq_succ_of_ne_zero (Nat.ne_zero_of_lt hframes)
      rw [missing_refused g ramp rest hframes]
      exact .inr rfl
    · have hframes := Nat.not_lt.mp hframes
      rw [h.missing_cons g rest hframes]
      cases frames with
      -- An empty callback puts nothing out: the next one decides.
      | zero =>
        obtain ⟨-, hstep, hlast⟩ := h.rendering g 0
        have hsound := h.missed g 0
        rw [process_rendered g ramp hframes (fun _ hnone => by cases hnone)] at hsound
        have hrest := ih hsound (by simpa using hsizes)
        rw [hstep, hlast, if_pos rfl] at hrest
        exact hrest
      | succ frames =>
        rw [held_succ]
        exact .inl rfl

/-- The ramp after a missing callback that fits into the buffer. -/
theorem Sound.rendered {ramp : ExactRamp K} (h : ramp.Sound) {frames : ℕ}
    (hframes : frames ≤ maxCallbackFrames) : (ramp.rendering g none frames).2.Sound := by
  have hsound := h.missed g frames
  rw [process_rendered g ramp hframes (fun _ hnone => by cases hnone)] at hsound
  exact hsound

/-- After a first callback with samples, a missing run goes on as the fade of the held sample
    exactly if the cut leaves the fade alone. -/
theorem Sound.missing_after {ramp : ExactRamp K} (h : ramp.Sound) {sample : K} {rest : List ℕ}
    (hlast : ramp.lastOutput = sample * g.gain ramp.gainStep)
    (hwhole : ramp.missing g rest = held g ramp.lastOutput ramp.gainStep rest.sum ↔
      ramp.lastOutput = 0 ∨ Whole g true ramp.gainStep rest) :
    ramp.missing g rest = held g sample ramp.gainStep rest.sum ↔
      sample = 0 ∨ Whole g false ramp.gainStep rest := by
  have hle : ramp.gainStep ≤ faultRampSamples := h.coherent.le
  by_cases hrest : rest.sum = 0
  · have hwhole' := fun first => whole_of_sum_zero g first ramp.gainStep hrest
    rw [hrest] at hwhole ⊢
    exact ⟨fun _ => .inr (hwhole' false), fun _ => hwhole.mpr (.inr (hwhole' true))⟩
  rw [whole_false_iff g hrest]
  by_cases hzero : sample = 0
  · -- silence
    have hsilent : ramp.lastOutput = 0 := by rw [hlast, hzero, zero_mul]
    have hall := hwhole.mpr (.inl hsilent)
    rw [hsilent, ← hzero] at hall
    exact ⟨fun _ => .inl hzero, fun _ => hall⟩
  by_cases hunity : g.gain ramp.gainStep = 1
  · -- at unity the last sample is the held one
    have hsame : ramp.lastOutput = sample := by rw [hlast, hunity, mul_one]
    rw [hsame] at hwhole
    rw [hwhole]
    constructor
    · exact fun hcase => hcase.imp id fun hcuts => ⟨.inr hunity, hcuts⟩
    · exact fun hcase => hcase.imp id And.right
  by_cases hgone : g.gain (ramp.gainStep - 1) = 0
  · -- no gain is left
    have hcuts := whole_of_gain_zero g hle hgone true rest
    have hall := hwhole.mpr (.inr hcuts)
    rw [held_of_gain_zero g hle hgone] at hall ⊢
    exact ⟨fun _ => .inr ⟨.inl hgone, hcuts⟩, fun _ => hall⟩
  · -- The first sample is faded twice, or not at all.
    constructor
    · intro hall
      exfalso
      obtain ⟨n, hn⟩ := Nat.exists_eq_succ_of_ne_zero hrest
      have hhead := h.head_missing g hrest
      rw [hall, hn, Nat.succ_eq_add_one, held_succ, List.head?_cons] at hhead
      rcases hhead with hhead | hhead
      · have htwice : sample * g.gain (ramp.gainStep - 1) * (g.gain ramp.gainStep - 1) = 0 := by
          rw [mul_sub, mul_one, sub_eq_zero, mul_right_comm, ← hlast]
          exact (Option.some.inj hhead).symm
        rcases mul_eq_zero.mp htwice with hsample | hgain
        · exact (mul_ne_zero hzero hgone) hsample
        · exact hunity (sub_eq_zero.mp hgain)
      · exact (mul_ne_zero hzero hgone) (Option.some.inj hhead)
    · rintro (hcase | ⟨hgone' | hunity', -⟩)
      · exact absurd hcase hzero
      · exact absurd hgone' hgone
      · exact absurd hunity' hunity

/-- **A missing run is one fade** of the last sample exactly if that is silence, or the cuts leave
    the fade alone. -/
theorem Sound.missing_eq_iff {ramp : ExactRamp K} (h : ramp.Sound) (sizes : List ℕ) :
    ramp.missing g sizes = held g ramp.lastOutput ramp.gainStep sizes.sum ↔
      ramp.lastOutput = 0 ∨ Whole g true ramp.gainStep sizes := by
  have hle : ramp.gainStep ≤ faultRampSamples := h.coherent.le
  induction sizes generalizing ramp with
  | nil => exact ⟨fun _ => .inr trivial, fun _ => rfl⟩
  | cons frames rest ih =>
    rw [List.sum_cons]
    by_cases hlarge : maxCallbackFrames < frames
    · -- The callback is refused: the fade has to be over.
      obtain ⟨n, rfl⟩ := Nat.exists_eq_succ_of_ne_zero (Nat.ne_zero_of_lt hlarge)
      rw [missing_refused g ramp rest hlarge, (Sound.resetSilent ramp).missing_silence g rfl,
        List.replicate_append_replicate]
      constructor
      · intro hall
        rw [Nat.succ_add, Nat.succ_eq_add_one, held_succ, List.replicate_succ] at hall
        rcases mul_eq_zero.mp (List.head_eq_of_cons_eq hall).symm with hsilent | hgone
        · exact .inl hsilent
        · exact .inr (whole_of_gain_zero g hle hgone true _)
      · rintro (hsilent | ⟨hgone | ⟨hfits, -⟩, -⟩)
        · rw [hsilent, held_zero]
        · rw [held_of_gain_zero g hle hgone]
        · exact absurd hfits (Nat.not_le.mpr hlarge)
    · have hfits := Nat.not_lt.mp hlarge
      obtain ⟨-, hstep, hlast⟩ := h.rendering g frames
      have hsound := h.rendered g hfits
      -- The callback fits: it is held as one run, and the rest decides.
      have hrest := ih hsound hsound.coherent.le
      rw [h.missing_cons g rest hfits, held_add, List.append_cancel_left_eq]
      cases frames with
      -- An empty callback changes nothing.
      | zero =>
        rw [hstep, hlast, if_pos rfl] at hrest
        exact hrest
      | succ frames =>
        rw [if_neg (Nat.succ_ne_zero frames), ← hstep] at hlast
        have hafter := hsound.missing_after g hlast hrest
        rw [hstep] at hafter
        rw [hafter]
        constructor
        · exact fun hcase => hcase.imp id fun hcuts => ⟨.inr ⟨hfits, .inl rfl⟩, hcuts⟩
        · exact fun hcase => hcase.imp id And.right

/-! ## Smoothness

Within one callback the run is a chain of small steps.  At its beginning it follows the last sample
published, and the question is how far that is from its first fade.
-/

/-- Within a fade, two samples that follow each other are one step of the gain apart. -/
theorem held_isChain {sample : K} (hsample : |sample| ≤ 1) {step : ℕ}
    (hle : step ≤ faultRampSamples) (frames : ℕ) :
    (held g sample step frames).IsChain fun sample next => |next - sample| ≤ g.delta := by
  induction frames generalizing step with
  | zero => exact .nil
  | succ frames ih =>
    rw [held_succ]
    have hrest := ih ((Nat.sub_le step 1).trans hle)
    cases frames with
    | zero => exact .singleton _
    | succ frames =>
      rw [held_succ] at hrest ⊢
      refine .cons_cons ?_ hrest
      have hnonneg := g.delta_nonneg
      -- Two samples differ by one step of the gain, at most at full scale.
      rcases Nat.eq_zero_or_pos (step - 1) with hend | hpos
      · rw [hend, sub_self, abs_zero]
        exact hnonneg
      · have hdelta : g.gain (step - 1 - 1 + 1) - g.gain (step - 1 - 1) ≤ g.delta :=
          g.le_delta (by omega)
        have hmono := g.mono (step - 1 - 1) (by omega)
        rw [Nat.sub_add_cancel hpos] at hdelta hmono
        rw [← mul_sub, abs_mul, abs_sub_comm, abs_of_nonneg (sub_nonneg.mpr hmono)]
        exact (mul_le_of_le_one_left (sub_nonneg.mpr hmono) hsample).trans hdelta

/-- A fade begins smoothly exactly if its sample has been faded by at most one step. -/
theorem Sound.isChain_iff {ramp : ExactRamp K} (h : ramp.Sound) (frames : ℕ) :
    ((ramp.lastOutput :: held g ramp.lastOutput ramp.gainStep frames).IsChain
        fun sample next => |next - sample| ≤ g.delta) ↔
      frames = 0 ∨ |ramp.lastOutput| * (1 - g.gain (ramp.gainStep - 1)) ≤ g.delta := by
  have hle : ramp.gainStep ≤ faultRampSamples := h.coherent.le
  have hfade := held_isChain g h.bounded hle frames
  cases frames with
  | zero => exact ⟨fun _ => .inl rfl, fun _ => .singleton _⟩
  | succ frames =>
    have hone := g.gain_le_one ((Nat.sub_le ramp.gainStep 1).trans hle)
    have hfirst : |ramp.lastOutput * g.gain (ramp.gainStep - 1) - ramp.lastOutput| =
        |ramp.lastOutput| * (1 - g.gain (ramp.gainStep - 1)) := by
      rw [abs_sub_comm, ← mul_one_sub, abs_mul, abs_of_nonneg (sub_nonneg.mpr hone)]
    rw [held_succ] at hfade ⊢
    rw [List.isChain_cons_cons, hfirst]
    constructor
    · exact fun hchain => .inr hchain.1
    · rintro (hzero | hstep)
      · cases hzero
      · exact ⟨hstep, hfade⟩

/-- **Missing audio.** After every run of a ramp over samples of at most full scale, audio that is
    missing for a while fades smoothly, and as if it were missing for one callback, exactly if the
    last sample is silence, or: it is at most one step of the gain away from its first fade, and
    no callback but the first begins between unity and silence, or is too long while there is gain
    left. -/
theorem missing_smooth_iff {ramp : ExactRamp K} (h : Reachable g ramp) (sizes : List ℕ) :
    Smooth g ramp sizes ↔ ramp.lastOutput = 0 ∨
      (sizes.sum = 0 ∨ |ramp.lastOutput| * (1 - g.gain (ramp.gainStep - 1)) ≤ g.delta) ∧
        Whole g true ramp.gainStep sizes := by
  have hsound := h.sound g
  -- Undivided is one condition, and free of steps another.
  have hcuts := hsound.missing_eq_iff g sizes
  have hchain := hsound.isChain_iff g sizes.sum
  constructor
  · rintro ⟨hbounded, hundivided⟩
    rw [hsound.undivided] at hundivided
    rw [hundivided] at hbounded
    exact (hcuts.mp hundivided).imp id fun hwhole => ⟨hchain.mp hbounded, hwhole⟩
  · intro hcase
    have hundivided := hcuts.mpr (hcase.imp id And.right)
    refine ⟨?_, hundivided.trans (hsound.undivided g _).symm⟩
    rw [hundivided]
    refine hchain.mpr ?_
    rcases hcase with hsilent | ⟨hfirst, -⟩
    · rw [hsilent, abs_zero, zero_mul]
      exact .inr g.delta_nonneg
    · exact hfirst

end

/-- A gain curve that is a straight line. -/
def straight : Gain ℚ where
  gain step := step / 240
  mono step _ := by
    have hle : (step : ℚ) ≤ (step + 1 : ℕ) := by exact_mod_cast Nat.le_succ step
    exact div_le_div_of_nonneg_right hle (by norm_num)
  zero := by norm_num
  full := by norm_num [faultRampSamples]

/-- A ramp that has passed one sample of full scale. -/
def primed : ExactRamp ℚ := ⟨.passing, faultRampSamples, 1⟩

theorem primed_reachable : Reachable straight primed := by
  have hbounded : (Call.process (some [(1 : ℚ)]) 1).Bounded := by
    intro sample hsample
    rw [List.mem_singleton.mp hsample, abs_one]
  have happly : apply straight new (.process (some [1]) 1) = primed := by
    show (⟨.passing, faultRampSamples, 1 * 1⟩ : ExactRamp ℚ) = primed
    rw [mul_one]
    rfl
  exact ⟨[.process (some [1]) 1], .single hbounded happly⟩

/-- Two samples that are missing from one callback fade smoothly. -/
theorem missing_smooth_iff_primed : Smooth straight primed [2] := by
  refine (missing_smooth_iff straight primed_reachable [2]).mpr (.inr ⟨.inr ?_, ?_⟩)
  · have hstep : straight.gain (239 + 1) - straight.gain 239 ≤ straight.delta :=
      straight.le_delta (by decide)
    have hlast : |primed.lastOutput| * (1 - straight.gain (primed.gainStep - 1)) =
        straight.gain (239 + 1) - straight.gain 239 := by
      norm_num [primed, straight, faultRampSamples]
    rw [hlast]
    exact hstep
  · exact ⟨.inr ⟨by decide, .inl rfl⟩, trivial⟩

/-- **A click.** Two samples that are missing from two callbacks are not those that are missing
    from one: the second callback fades what the first has faded. -/
theorem missing_cut : ¬ ∀ (K : Type) [CommRing K] [LinearOrder K] [IsStrictOrderedRing K]
    (g : Gain K) (ramp : ExactRamp K), Reachable g ramp → ∀ sizes : List ℕ,
      ((ramp.lastOutput :: ramp.missing g sizes).IsChain fun sample next =>
        |next - sample| ≤ g.delta) ∧
      ∀ sizes' : List ℕ, sizes'.sum = sizes.sum → ramp.missing g sizes' = ramp.missing g sizes := by
  intro hall
  have hsound := primed_reachable.sound straight
  have hsame := (hall ℚ straight primed primed_reachable [1, 1]).2 [2] rfl
  have hone := (hsound.missing_eq_iff straight [2]).mpr
    (.inr ⟨.inr ⟨by decide, .inl rfl⟩, trivial⟩)
  rcases (hsound.missing_eq_iff straight [1, 1]).mp (hsame.symm.trans hone) with
    hsilent | ⟨-, hgone | ⟨-, hfirst | hunity⟩, -⟩
  · norm_num [primed] at hsilent
  · norm_num [primed, straight, faultRampSamples] at hgone
  · cases hfirst
  · norm_num [primed, straight, faultRampSamples] at hunity

end ExactRamp

end Noire
