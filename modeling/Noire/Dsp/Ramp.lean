import Noire.Dsp.Sample
import Mathlib.Logic.Function.Iterate

namespace Noire

open Lib (Binary32)

/-!
# Ramps and the mixer

* `StrengthRamp` — the wet strength, which moves to a new target over at least
  `minStrengthRampSamples` outputs.  `StrengthRamp.strengthAt` is its value at an output
  sample, and `StrengthRamp.after_remaining` says that it lands on its target;
* `LinearMixer.mix` — the blend of a dry and a wet sample.  `LinearMixer.mix_zero`: at
  strength zero it is the dry sample, clamped;
* `FaultRamp` — the gain between passing audio and silence.  The sine of its equal-power
  curve is a parameter, since the standard library does not specify its last bits.
-/

/-- `finite_unit`. -/
def finiteUnit (value : F32) : F32 :=
  if value.isFinite then value.clamp .zero .one else .zero

/-! ## Strength

`StrengthRamp`: it glides from where it is to where it is asked to be.
-/

/-- `StrengthRamp`. -/
structure StrengthRamp where
  current : F32
  target : F32
  step : F32
  remaining : ℕ

namespace StrengthRamp

/-- `StrengthRamp::new`. -/
def new (initial : F32) : StrengthRamp :=
  let initial := finiteUnit initial
  { current := initial, target := initial, step := .zero, remaining := 0 }

/-- `StrengthRamp::set_target`. -/
def setTarget (ramp : StrengthRamp) (target : F32) (requestedSamples : ℕ) : StrengthRamp :=
  let target := finiteUnit target
  -- Compared by bits: `-0` is a target of its own.
  if target.bits = ramp.current.bits then
    { ramp with target := target, step := .zero, remaining := 0 }
  else
    let duration := max requestedSamples minStrengthRampSamples
    { ramp with
      target := target
      step := (target.sub ramp.current).div (.ofNat duration)
      remaining := duration }

/-- `StrengthRamp::next`. -/
def next (ramp : StrengthRamp) : F32 × StrengthRamp :=
  if ramp.remaining = 0 then (ramp.current, ramp)
  else
    let remaining := ramp.remaining - 1
    -- The last draw is the target itself, whatever the steps have rounded to.
    let current := if remaining = 0 then ramp.target else ramp.current.add ramp.step
    (current, { ramp with remaining := remaining, current := current })

/-- The ramp after `n` values were drawn from it. -/
def after (ramp : StrengthRamp) (n : ℕ) : StrengthRamp := (fun r => r.next.2)^[n] ramp

/-- The strength at the output sample `i`: the value of the draw number `i + 1`. -/
def strengthAt (ramp : StrengthRamp) (i : ℕ) : F32 := (ramp.after i).next.1

/-- The ramp rests at strength zero. -/
def SettledAtZero (ramp : StrengthRamp) : Prop :=
  ramp.remaining = 0 ∧ ramp.current.isZero = true

theorem after_add (ramp : StrengthRamp) (m n : ℕ) :
    ramp.after (m + n) = (ramp.after m).after n := by
  unfold after
  rw [Nat.add_comm, Function.iterate_add_apply]

theorem after_succ (ramp : StrengthRamp) (n : ℕ) :
    ramp.after (n + 1) = (ramp.after n).next.2 := after_add ramp n 1

theorem strengthAt_after (ramp : StrengthRamp) (m i : ℕ) :
    (ramp.after m).strengthAt i = ramp.strengthAt (m + i) := by
  unfold strengthAt
  rw [after_add]

/-- A resting ramp yields its value and rests. -/
theorem next_of_resting {ramp : StrengthRamp} (h : ramp.remaining = 0) :
    ramp.next = (ramp.current, ramp) := if_pos h

theorem after_of_resting {ramp : StrengthRamp} (h : ramp.remaining = 0) (n : ℕ) :
    ramp.after n = ramp := by
  induction n with
  | zero => rfl
  | succ n ih => rw [after_succ, ih, next_of_resting h]

/-- Once it rests at zero, a ramp yields a zero at every output. -/
theorem SettledAtZero.strengthAt {ramp : StrengthRamp} {n : ℕ} (h : (ramp.after n).SettledAtZero)
    {i : ℕ} (hi : n ≤ i) : (ramp.strengthAt i).isZero = true := by
  obtain ⟨d, rfl⟩ := Nat.exists_eq_add_of_le hi
  rw [← strengthAt_after, StrengthRamp.strengthAt, after_of_resting h.1, next_of_resting h.1]
  exact h.2

/-- **Landing.** A ramp under way rests exactly on its target after its remaining
    draws. -/
theorem after_remaining (ramp : StrengthRamp) (h : 0 < ramp.remaining) :
    (ramp.after ramp.remaining).remaining = 0 ∧
      (ramp.after ramp.remaining).current = ramp.target := by
  -- By the number of draws that remain; the step is one draw off the front.
  generalize hn : ramp.remaining = n
  induction n generalizing ramp with
  | zero => omega
  | succ n ih =>
    have hnext : ramp.next.2.remaining = n ∧ ramp.next.2.target = ramp.target ∧
        (n = 0 → ramp.next.2.current = ramp.target) := by
      unfold next
      rw [if_neg (by omega)]
      refine ⟨by simp [hn], rfl, fun h0 => ?_⟩
      simp [hn, h0]
    rw [Nat.add_comm, after_add]
    show ((ramp.next.2).after n).remaining = 0 ∧ ((ramp.next.2).after n).current = ramp.target
    rcases Nat.eq_zero_or_pos n with rfl | hpos
    · exact ⟨hnext.1, hnext.2.2 rfl⟩
    · obtain ⟨hrest, hcurrent⟩ := ih ramp.next.2 (by omega) hnext.1
      exact ⟨hrest, hcurrent.trans hnext.2.1⟩

/-- A new target is reached within the shortest transition. -/
theorem setTarget_lands (ramp : StrengthRamp) (target : F32) :
    ((ramp.setTarget target 0).after minStrengthRampSamples).remaining = 0 ∧
      ((ramp.setTarget target 0).after minStrengthRampSamples).current = finiteUnit target := by
  by_cases hbits : (finiteUnit target).bits = ramp.current.bits
  · have hset : ramp.setTarget target 0 =
        { ramp with target := finiteUnit target, step := .zero, remaining := 0 } := if_pos hbits
    rw [hset, after_of_resting rfl]
    exact ⟨rfl, (congrArg Binary32.mk hbits).symm⟩
  · have hset : ramp.setTarget target 0 =
        { ramp with
          target := finiteUnit target
          step := ((finiteUnit target).sub ramp.current).div (.ofNat minStrengthRampSamples)
          remaining := minStrengthRampSamples } := if_neg hbits
    rw [hset]
    exact after_remaining _ (show 0 < minStrengthRampSamples by decide)

end StrengthRamp

/-! ## Mixing

`LinearMixer`: dry and processed at a strength.
-/

/-- Counters of the mixer. -/
structure MixReport where
  sanitized : SanitizeReport := {}
  hardCeiling : ℕ := 0
  deriving DecidableEq

/-- `LinearMixer::mix`. -/
def LinearMixer.mix (dry wet strength : F32) (report : MixReport) : F32 × MixReport :=
  let dry := sanitizeSample dry report.sanitized
  let wet := sanitizeSample wet dry.2
  let strength := finiteUnit strength
  let blend :=
    if strength.le .zero then dry.1
    else if Binary32.le .one strength then wet.1
    else (dry.1.mul (Binary32.sub .one strength)).add (wet.1.mul strength)
  let mixed := sanitizeSample blend wet.2
  let inRange := Binary32.minusOne.le mixed.1 && mixed.1.le .one
  (mixed.1.clamp .minusOne .one,
    { sanitized := mixed.2
      hardCeiling := if inRange then report.hardCeiling else report.hardCeiling + 1 })

/-- What the mixer makes of one pair of samples. -/
def LinearMixer.mixed (dry wet strength : F32) : F32 := (mix dry wet strength {}).1

/-- The mixed value does not depend on the counters. -/
@[simp] theorem LinearMixer.mix_fst (dry wet strength : F32) (report : MixReport) :
    (mix dry wet strength report).1 = mixed dry wet strength := by
  simp only [mixed, mix, sanitizeSample_fst]

/-- At strength zero the mixer passes the dry sample, clamped to `[-1, 1]`. -/
theorem LinearMixer.mix_zero (dry wet : F32) {strength : F32} (h : strength.isZero = true) :
    mixed dry wet strength = (sanitized dry).clamp .minusOne .one := by
  -- Both zeros take the mixer's first branch.
  have hle : (finiteUnit strength).le .zero = true := by
    rcases Binary32.eq_of_isZero h with rfl | rfl <;> decide
  simp only [mixed, mix, sanitizeSample_fst, hle, if_true, sanitized_sanitized]

/-! ## Faults

`FaultRamp`: the fade out and in around a fault.
-/

/-- `core::f32::consts::FRAC_PI_2`. -/
def halfPi : F32 := ⟨0x3FC90FDB⟩

/-- The sine on the first quadrant, by its Taylor polynomial of degree eleven: one function
    the fade curve can be read with. -/
def taylorSine (x : F32) : F32 :=
  let square := x.mul x
  x.mul ([110, 72, 42, 20, 6].foldl (fun sum n =>
    Binary32.one.sub ((square.div (.ofNat n)).mul sum)) .one)

/-- `FaultRampState`. -/
inductive FaultRampState
  | passing
  | fadingOut
  | silent
  | fadingIn
  deriving DecidableEq

/-- `FaultRampError`. -/
inductive FaultRampError
  | shapeMismatch
  | quantumTooLarge
  deriving DecidableEq

/-- `FaultRampReport`. -/
structure FaultRampReport where
  missingSamples : ℕ := 0
  sanitized : SanitizeReport := {}
  state : FaultRampState := .passing
  deriving DecidableEq

/-- `FaultRamp`. -/
structure FaultRamp where
  state : FaultRampState
  gainStep : ℕ
  lastOutput : F32
  deriving DecidableEq

namespace FaultRamp

/-- `FaultRamp::new`. -/
def new : FaultRamp := ⟨.passing, faultRampSamples, .zero⟩

/-- `FaultRamp::begin_fault`. -/
def beginFault (ramp : FaultRamp) : FaultRamp :=
  if ramp.state = .silent then ramp else { ramp with state := .fadingOut }

/-- `FaultRamp::begin_recovery`. -/
def beginRecovery (ramp : FaultRamp) : FaultRamp :=
  if ramp.state = .passing then ramp else { ramp with state := .fadingIn }

/-- `FaultRamp::reset_silent`. -/
def resetSilent (_ramp : FaultRamp) : FaultRamp := ⟨.silent, 0, .zero⟩

variable (sin : F32 → F32)

/-- `FaultRamp::current_gain`. -/
def currentGain (ramp : FaultRamp) : F32 :=
  sin ((halfPi.mul (.ofNat ramp.gainStep)).div (.ofNat faultRampSamples))

/-- `FaultRamp::next_gain`. -/
def nextGain (ramp : FaultRamp) : F32 × FaultRamp :=
  match ramp.state with
  | .passing => (.one, ramp)
  | .silent => (.zero, ramp)
  | .fadingOut =>
    let gainStep := ramp.gainStep - 1
    let ramp :=
      { ramp with gainStep, state := if gainStep = 0 then .silent else ramp.state }
    (ramp.currentGain sin, ramp)
  | .fadingIn =>
    let gainStep := min (min (ramp.gainStep + 1) (2 ^ 16 - 1)) faultRampSamples
    let ramp :=
      { ramp with gainStep, state := if gainStep = faultRampSamples then .passing else ramp.state }
    (ramp.currentGain sin, ramp)

/-- `FaultRamp::render_sample`. -/
def renderSample (ramp : FaultRamp) (source : F32) (report : SanitizeReport) :
    F32 × FaultRamp × SanitizeReport :=
  let source := sanitizeSample source report
  let gain := ramp.nextGain sin
  let destination := sanitizeSample (source.1.mul gain.1) source.2
  (destination.1, { gain.2 with lastOutput := destination.1 }, destination.2)

/-- The sources of one callback, rendered one after the other. -/
def renderAll (ramp : FaultRamp) : List F32 → SanitizeReport →
    List F32 × FaultRamp × SanitizeReport
  | [], report => ([], ramp, report)
  | source :: rest, report =>
    let first := ramp.renderSample sin source report
    let others := first.2.1.renderAll rest first.2.2
    (first.1 :: others.1, others.2)

/-- `FaultRamp::process` into a buffer of `frames` samples. -/
def process (ramp : FaultRamp) (input : Option (List F32)) (frames : ℕ) :
    Except FaultRampError FaultRampReport × List F32 × FaultRamp :=
  if maxCallbackFrames < frames then
    (.error .quantumTooLarge, .replicate frames .zero, ramp.resetSilent)
  else if input.any fun samples => samples.length != frames then
    (.error .shapeMismatch, .replicate frames .zero, ramp.resetSilent)
  else
    let ramp := if input.isNone then ramp.beginFault else ramp
    let missing := if input.isNone then toU16 frames else 0
    -- An underflow holds the last published sample; no earlier buffer is replayed.
    let rendered := ramp.renderAll sin (input.getD (.replicate frames ramp.lastOutput)) {}
    (.ok ⟨missing, rendered.2.2, rendered.2.1.state⟩, rendered.1, rendered.2.1)

/-- Sources are rendered one for one. -/
theorem length_renderAll (ramp : FaultRamp) (sources : List F32) (report : SanitizeReport) :
    (ramp.renderAll sin sources report).1.length = sources.length := by
  induction sources generalizing ramp report with
  | nil => rfl
  | cons source rest ih => exact congrArg (· + 1) (ih _ _)

/-- The ramp as it renders: an underflow begins a fault. -/
def begun (ramp : FaultRamp) (input : Option (List F32)) : FaultRamp :=
  if input.isNone then ramp.beginFault else ramp

/-- What the ramp is given to render: without a block, its last sample. -/
def sources (ramp : FaultRamp) (input : Option (List F32)) (frames : ℕ) : List F32 :=
  input.getD (.replicate frames ramp.lastOutput)

/-- There is a source for every sample of a callback. -/
theorem length_sources (ramp : FaultRamp) {input : Option (List F32)} {frames : ℕ}
    (hinput : ∀ samples ∈ input, samples.length = frames) :
    (ramp.sources input frames).length = frames := by
  cases input with
  | none => exact List.length_replicate ..
  | some samples => exact hinput samples rfl

/-- What the ramp renders of one callback. -/
def rendering (ramp : FaultRamp) (input : Option (List F32)) (frames : ℕ) :
    List F32 × FaultRamp × SanitizeReport :=
  (ramp.begun input).renderAll sin ((ramp.begun input).sources input frames) {}

/-- **A callback within the boundary is rendered**, from a block that fills it or without. -/
theorem process_eq (ramp : FaultRamp) {input : Option (List F32)} {frames : ℕ}
    (hframes : frames ≤ maxCallbackFrames) (hinput : ∀ samples ∈ input, samples.length = frames) :
    ramp.process sin input frames =
      (.ok ⟨if input.isNone then toU16 frames else 0, (ramp.rendering sin input frames).2.2,
          (ramp.rendering sin input frames).2.1.state⟩,
        (ramp.rendering sin input frames).1, (ramp.rendering sin input frames).2.1) := by
  have hshape : ¬(input.any fun samples => samples.length != frames) = true := by
    cases input with
    | none => exact Bool.false_ne_true
    | some samples => simp [hinput samples rfl]
  rw [process, if_neg (Nat.not_lt.mpr hframes), if_neg hshape]
  rfl

/-- A callback is rendered sample for sample. -/
theorem length_rendering (ramp : FaultRamp) {input : Option (List F32)} {frames : ℕ}
    (hinput : ∀ samples ∈ input, samples.length = frames) :
    (ramp.rendering sin input frames).1.length = frames :=
  (length_renderAll sin _ _ _).trans (length_sources _ hinput)

/-- A callback within the boundary whose input fills it is rendered. -/
theorem process_some (ramp : FaultRamp) {samples : List F32}
    (hlen : samples.length ≤ maxCallbackFrames) :
    ∃ report output ramp', ramp.process sin (some samples) samples.length =
      (.ok report, output, ramp') ∧ report.missingSamples = 0 := by
  rw [process_eq sin ramp hlen (fun _ h => Option.some.inj h ▸ rfl)]
  exact ⟨_, _, _, rfl, rfl⟩

end FaultRamp

end Noire
