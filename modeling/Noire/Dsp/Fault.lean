import Noire.Dsp.Ramp
import Noire.Lib.Run
import Mathlib.Data.List.Chain

namespace Noire

/-!
# The steps of a fault ramp

The fault ramp sample by sample, over any calls.

* `Fade` — the ramp less its last sample: what decides the gain steps of what it renders;
  `Fade.Coherent.next`: one sample moves it by at most one step;
* `Fade.FallenBy` / `Fade.RisenBy` — what a number of samples leaves of a fade under way;
* `FaultUse` — a ramp in use, everything it has published and every sample it has rendered;
  `FaultUse.along` is the rule for what each rendered sample preserves;
* `fault_steps` — so in every use of the ramp its gain moves by single steps, it is silent where
  it says so, and its fades end in time.

What the ramp publishes depends on its samples, but which step a sample is rendered at does not.
So the samples are forgotten first: a `Fade` is a state and a step, and `Fade.next` moves it by
one sample.  Each promise about fades is then a relation that one sample and one call keep, and
`FaultUse.along` turns these two into a statement about a whole use, by induction over the calls
and, inside a call, over the samples it renders.

The relation for a fade that is under way counts the samples since it began (`FallenBy`,
`RisenBy`); when the count reaches the length of the ramp, the fade has ended.
-/

/-! ## Fades

A fade is coherent where its step fits its state: full while passing, zero while silent.
-/

/-- A ramp, less the last sample it published. -/
structure Fade where
  state : FaultRampState
  gainStep : ℕ

/-- The fade of a ramp. -/
def FaultRamp.fade (ramp : FaultRamp) : Fade := ⟨ramp.state, ramp.gainStep⟩

namespace Fade

/-- The fade after one more sample. -/
def next (fade : Fade) : Fade :=
  match fade.state with
  | .passing => fade
  | .silent => fade
  | .fadingOut =>
    let gainStep := fade.gainStep - 1
    ⟨if gainStep = 0 then .silent else .fadingOut, gainStep⟩
  | .fadingIn =>
    let gainStep := min (min (fade.gainStep + 1) (2 ^ 16 - 1)) faultRampSamples
    ⟨if gainStep = faultRampSamples then .passing else .fadingIn, gainStep⟩

/-- The gain step of the sample that was rendered last. -/
def step (fade : Fade) : ℕ :=
  match fade.state with
  | .passing => faultRampSamples
  | .silent => 0
  | .fadingOut => fade.gainStep
  | .fadingIn => fade.gainStep

/-- The gain steps of the samples to come. -/
def steps (fade : Fade) : ℕ → List ℕ
  | 0 => []
  | samples + 1 => fade.next.step :: fade.next.steps samples

/-- The fade after some more samples. -/
def after (fade : Fade) : ℕ → Fade
  | 0 => fade
  | samples + 1 => fade.next.after samples

/-- A fade whose gain step is that of its last sample. -/
structure Coherent (fade : Fade) : Prop where
  passing : fade.state = .passing → fade.gainStep = faultRampSamples
  silent : fade.state = .silent → fade.gainStep = 0
  le : fade.gainStep ≤ faultRampSamples

/-- Two gain steps that are at most one apart. -/
def Adjacent (step step' : ℕ) : Prop := step ≤ step' + 1 ∧ step' ≤ step + 1

instance (step step' : ℕ) : Decidable (Adjacent step step') :=
  inferInstanceAs (Decidable (_ ∧ _))

theorem Adjacent.refl (step : ℕ) : Adjacent step step := ⟨Nat.le_succ _, Nat.le_succ _⟩

/-- One sample moves a coherent fade by at most one step, and keeps it coherent. -/
theorem Coherent.next {fade : Fade} (h : fade.Coherent) :
    fade.next.Coherent ∧ fade.next.step = fade.next.gainStep ∧
      Adjacent fade.gainStep fade.next.gainStep := by
  obtain ⟨state, gainStep⟩ := fade
  obtain ⟨hpassing, hsilent, hle⟩ := h
  dsimp only at hpassing hsilent hle
  cases state with
  -- At rest nothing moves.
  | passing =>
    obtain rfl := hpassing rfl
    exact ⟨⟨fun _ => rfl, nofun, hle⟩, rfl, .refl _⟩
  | silent =>
    obtain rfl := hsilent rfl
    exact ⟨⟨nofun, fun _ => rfl, hle⟩, rfl, .refl _⟩
  | fadingOut =>
    have hadjacent : Adjacent gainStep (gainStep - 1) := ⟨by omega, by omega⟩
    have hle' : gainStep - 1 ≤ faultRampSamples := by omega
    unfold Fade.next
    dsimp only
    -- A fade that reaches its end rests there.
    by_cases hzero : gainStep - 1 = 0
    · rw [if_pos hzero]
      exact ⟨⟨nofun, fun _ => hzero, hle'⟩, hzero.symm, hadjacent⟩
    · rw [if_neg hzero]
      exact ⟨⟨nofun, nofun, hle'⟩, rfl, hadjacent⟩
  | fadingIn =>
    have hbound : faultRampSamples = 240 := rfl
    -- The step is counted in sixteen bits, which the ramp is far from.
    obtain ⟨risen, hrisen⟩ : ∃ risen,
      risen = min (min (gainStep + 1) (2 ^ 16 - 1)) faultRampSamples := ⟨_, rfl⟩
    have hadjacent : Adjacent gainStep risen := ⟨by omega, by omega⟩
    have hle' : risen ≤ faultRampSamples := by omega
    unfold Fade.next
    dsimp only
    rw [← hrisen]
    by_cases hfull : risen = faultRampSamples
    · rw [if_pos hfull]
      exact ⟨⟨fun _ => hfull, nofun, hle'⟩, hfull.symm, hadjacent⟩
    · rw [if_neg hfull]
      exact ⟨⟨nofun, nofun, hle'⟩, rfl, hadjacent⟩

/-- **A rendering moves by single steps**, and its last step is the fade's. -/
theorem Coherent.steps {fade : Fade} (h : fade.Coherent) (samples : ℕ) :
    (fade.after samples).Coherent ∧ (fade.gainStep :: fade.steps samples).IsChain Adjacent ∧
      (fade.gainStep :: fade.steps samples).getLast? = some (fade.after samples).gainStep := by
  induction samples generalizing fade with
  | zero => exact ⟨h, .singleton _, rfl⟩
  | succ samples ih =>
    obtain ⟨hnext, hstep, hadjacent⟩ := h.next
    obtain ⟨hafter, hchain, hlast⟩ := ih hnext
    unfold Fade.steps Fade.after
    rw [hstep]
    exact ⟨hafter, .cons_cons hadjacent hchain, by rw [List.getLast?_cons_cons]; exact hlast⟩

end Fade

/-! ## The ramp's fade

The state and the gain of a ramp without its samples: what they do next depends on nothing else.
-/

namespace FaultRamp

variable (sin : F32 → F32)

theorem nextGain_fade (ramp : FaultRamp) : (ramp.nextGain sin).2.fade = ramp.fade.next := by
  obtain ⟨state, gainStep, lastOutput⟩ := ramp
  cases state with
  | passing => rfl
  | silent => rfl
  | fadingOut => rfl
  | fadingIn => rfl

theorem renderAll_fade (ramp : FaultRamp) (sources : List F32) (report : SanitizeReport) :
    (ramp.renderAll sin sources report).2.1.fade = ramp.fade.after sources.length := by
  induction sources generalizing ramp report with
  | nil => rfl
  | cons source rest ih =>
    rw [renderAll, List.length_cons, Fade.after, ← nextGain_fade sin]
    exact ih _ _

/-- **What a callback leaves of the ramp** is the fade of what it rendered. -/
theorem process_fade (ramp : FaultRamp) {input : Option (List F32)} {frames : ℕ}
    (hframes : frames ≤ maxCallbackFrames) (hinput : ∀ samples ∈ input, samples.length = frames) :
    (ramp.process sin input frames).2.2.fade = (ramp.begun input).fade.after frames := by
  rw [process_eq sin ramp hframes hinput]
  refine (renderAll_fade sin _ _ _).trans ?_
  rw [length_sources _ hinput]

/-- A transition begins where the ramp is. -/
theorem begun_coherent {ramp : FaultRamp} (h : ramp.fade.Coherent) (input : Option (List F32)) :
    (ramp.begun input).fade.Coherent ∧ (ramp.begun input).gainStep = ramp.gainStep := by
  unfold begun beginFault
  split
  · split
    · exact ⟨h, rfl⟩
    · exact ⟨⟨nofun, nofun, h.le⟩, rfl⟩
  · exact ⟨h, rfl⟩

/-- A recovery begins where the ramp is. -/
theorem beginRecovery_coherent {ramp : FaultRamp} (h : ramp.fade.Coherent) :
    ramp.beginRecovery.fade.Coherent ∧ ramp.beginRecovery.gainStep = ramp.gainStep := by
  unfold beginRecovery
  split
  · exact ⟨h, rfl⟩
  · exact ⟨⟨nofun, nofun, h.le⟩, rfl⟩

/-- At step zero the ramp does not pass, so that a recovery fades in. -/
theorem beginRecovery_state {ramp : FaultRamp}
    (h : ramp.fade.Coherent) (hzero : ramp.gainStep = 0) :
    ramp.beginRecovery.state = .fadingIn := by
  have hnot : ¬ramp.state = .passing := fun hpassing => by
    have hfull : ramp.gainStep = faultRampSamples := h.passing hpassing
    rw [hzero] at hfull
    cases hfull
  unfold beginRecovery
  rw [if_neg hnot]

theorem resetSilent_coherent (ramp : FaultRamp) : ramp.resetSilent.fade.Coherent :=
  ⟨nofun, fun _ => rfl, Nat.zero_le _⟩

end FaultRamp

/-! ## Fades under way

How far a fade has come, by the number of samples since it began.
-/

namespace Fade

/-- A fade-out after some samples: a step down for each of them, unless it has ended. -/
def FallenBy (samples : ℕ) (fade : Fade) : Prop :=
  fade.state = .silent ∨
    (fade.state = .fadingOut ∧ fade.gainStep + samples ≤ faultRampSamples ∧
      (0 < samples → 0 < fade.gainStep))

/-- A fade-in after some samples: a step up for each of them, unless it has ended. -/
def RisenBy (samples : ℕ) (fade : Fade) : Prop :=
  fade.state = .passing ∨
    (fade.state = .fadingIn ∧ samples ≤ fade.gainStep ∧
      (0 < samples → fade.gainStep < faultRampSamples))

variable {samples : ℕ} {fade : Fade}

theorem FallenBy.next (h : fade.FallenBy samples) : fade.next.FallenBy (samples + 1) := by
  obtain ⟨state, gainStep⟩ := fade
  rcases h with hsilent | ⟨hfading, hle, hpos⟩
  · obtain rfl : state = .silent := hsilent
    exact .inl rfl
  · obtain rfl : state = .fadingOut := hfading
    dsimp only at hle hpos
    unfold Fade.next
    dsimp only
    by_cases hzero : gainStep - 1 = 0
    · rw [if_pos hzero]
      exact .inl rfl
    · rw [if_neg hzero]
      exact .inr ⟨rfl, show gainStep - 1 + (samples + 1) ≤ _ by omega, fun _ =>
        Nat.pos_of_ne_zero hzero⟩

theorem RisenBy.next (h : fade.RisenBy samples) : fade.next.RisenBy (samples + 1) := by
  obtain ⟨state, gainStep⟩ := fade
  rcases h with hpassing | ⟨hfading, hle, hlt⟩
  · obtain rfl : state = .passing := hpassing
    exact .inl rfl
  · obtain rfl : state = .fadingIn := hfading
    dsimp only at hle hlt
    have hbound : faultRampSamples = 240 := rfl
    -- The gain rises by one, until the ramp is at its end.
    obtain ⟨risen, hrisen⟩ : ∃ risen,
      risen = min (min (gainStep + 1) (2 ^ 16 - 1)) faultRampSamples := ⟨_, rfl⟩
    unfold Fade.next
    dsimp only
    rw [← hrisen]
    by_cases hfull : risen = faultRampSamples
    · rw [if_pos hfull]
      exact .inl rfl
    · rw [if_neg hfull]
      exact .inr ⟨rfl, show samples + 1 ≤ risen by omega, fun _ => show risen < _ by omega⟩

/-- A fade-out ends within the ramp's length. -/
theorem FallenBy.silent (h : fade.FallenBy samples) (hsamples : faultRampSamples ≤ samples) :
    fade.state = .silent := by
  rcases h with hsilent | ⟨-, hle, hpos⟩
  · exact hsilent
  · have hbound : faultRampSamples = 240 := rfl
    omega

/-- A fade-in ends within the ramp's length. -/
theorem RisenBy.passing (h : fade.RisenBy samples) (hsamples : faultRampSamples ≤ samples) :
    fade.state = .passing := by
  rcases h with hpassing | ⟨-, hle, hlt⟩
  · exact hpassing
  · have hbound : faultRampSamples = 240 := rfl
    omega

end Fade

/-! ## Rendered samples

A sample is recorded with the ramp before it and after, so that what is said of a use can speak of
every sample on its own.
-/

/-- A rendered sample: the ramp that it found, and the one that it left, whose gain step and last
    output are the sample's. -/
structure FaultSample where
  found : FaultRamp
  left : FaultRamp

namespace FaultRamp

variable (sin : F32 → F32)

/-- The ramp that a sample leaves. -/
def rendered (ramp : FaultRamp) (source : F32) : FaultRamp := (ramp.renderSample sin source {}).2.1

/-- The samples that `renderAll` renders. -/
def samples (ramp : FaultRamp) : List F32 → List FaultSample
  | [] => []
  | source :: rest => ⟨ramp, ramp.rendered sin source⟩ :: (ramp.rendered sin source).samples rest

/-- What is rendered does not depend on the counters. -/
theorem renderSample_eq (ramp : FaultRamp) (source : F32) (report : SanitizeReport) :
    (ramp.renderSample sin source report).1 = (ramp.rendered sin source).lastOutput ∧
      (ramp.renderSample sin source report).2.1 = ramp.rendered sin source := by
  simp only [rendered, renderSample, sanitizeSample_fst, and_self]

/-- A sample is its source at the next gain. -/
theorem rendered_eq (ramp : FaultRamp) (source : F32) :
    ramp.rendered sin source = { (ramp.nextGain sin).2 with
      lastOutput := sanitized ((sanitized source).mul (ramp.nextGain sin).1) } := by
  simp only [rendered, renderSample, sanitizeSample_fst]

theorem rendered_fade (ramp : FaultRamp) (source : F32) :
    (ramp.rendered sin source).fade = ramp.fade.next := by
  rw [rendered_eq, ← nextGain_fade sin]
  rfl

/-- `renderAll` renders the samples, and leaves what they leave. -/
theorem renderAll_eq (ramp : FaultRamp) (sources : List F32) (report : SanitizeReport) :
    (ramp.renderAll sin sources report).1 =
        (ramp.samples sin sources).map (·.left.lastOutput) ∧
      (ramp.renderAll sin sources report).2.1 = sources.foldl (rendered sin) ramp := by
  induction sources generalizing ramp report with
  | nil => exact ⟨rfl, rfl⟩
  | cons source rest ih =>
    obtain ⟨hout, hleft⟩ := ramp.renderSample_eq sin source report
    rw [renderAll, samples]
    dsimp only
    rw [hout, hleft]
    obtain ⟨hrest, hend⟩ := ih (ramp.rendered sin source) (ramp.renderSample sin source report).2.2
    exact ⟨congrArg (_ :: ·) hrest, hend⟩

theorem samples_append (ramp : FaultRamp) (sources others : List F32) :
    ramp.samples sin (sources ++ others) =
      ramp.samples sin sources ++ (sources.foldl (rendered sin) ramp).samples sin others := by
  induction sources generalizing ramp with
  | nil => rfl
  | cons source rest ih => exact congrArg (_ :: ·) (ih _)

/-- A sample at gain zero is a zero. -/
theorem silenced {gain : F32} (hgain : gain.isZero = true) (source : F32) :
    (sanitized ((sanitized source).mul gain)).isZero = true := by
  have hzero : ((sanitized source).mul gain).isZero = true :=
    Lib.Binary32.mul_isZero (sanitized_clean source).1 hgain
  rcases sanitized_eq ((sanitized source).mul gain) with h | h <;> rw [h]
  · exact hzero
  · decide

/-- **One sample**: it moves a coherent ramp by at most one step, and a silent one is silent. -/
theorem rendered_coherent {ramp : FaultRamp} (h : ramp.fade.Coherent) (source : F32) :
    (ramp.rendered sin source).fade.Coherent ∧
      Fade.Adjacent ramp.gainStep (ramp.rendered sin source).gainStep := by
  obtain ⟨hnext, -, hadjacent⟩ := h.next
  rw [← rendered_fade sin ramp source] at hnext hadjacent
  exact ⟨hnext, hadjacent⟩

/-- A sample that finds silence leaves it, and so does one at gain zero. -/
theorem rendered_silent {ramp : FaultRamp} (h : ramp.fade.Coherent) (source : F32) :
    (ramp.state = .silent → (ramp.rendered sin source).state = .silent ∧
      (ramp.rendered sin source).lastOutput.isZero = true) ∧
    ((ramp.rendered sin source).state = .silent → (sin .zero).isZero = true →
      (ramp.rendered sin source).lastOutput.isZero = true) := by
  obtain ⟨state, gainStep, lastOutput⟩ := ramp
  rw [rendered_eq]
  cases state with
  | passing => exact ⟨nofun, nofun⟩
  | silent =>
    have hzero : Lib.Binary32.zero.isZero = true := by decide
    exact ⟨fun _ => ⟨rfl, silenced hzero source⟩, fun _ _ => silenced hzero source⟩
  -- A fade ends where its gain is the sine of zero.
  | fadingOut =>
    refine ⟨nofun, fun hsilent hsin => silenced ?_ source⟩
    by_cases hzero : gainStep - 1 = 0
    · show (sin ((halfPi.mul (.ofNat (gainStep - 1))).div (.ofNat faultRampSamples))).isZero = true
      have hangle : (halfPi.mul (.ofNat 0)).div (.ofNat faultRampSamples) = .zero := by decide
      rw [hzero, hangle]
      exact hsin
    · have hstate : (if gainStep - 1 = 0 then FaultRampState.silent else .fadingOut) = .silent :=
        hsilent
      rw [if_neg hzero] at hstate
      cases hstate
  | fadingIn =>
    refine ⟨nofun, fun hsilent _ => ?_⟩
    have hstate : (if min (min (gainStep + 1) (2 ^ 16 - 1)) faultRampSamples = faultRampSamples
      then FaultRampState.passing else .fadingIn) = .silent := hsilent
    split at hstate <;> cases hstate

end FaultRamp

/-! ## A ramp in use

A call first changes the state of the ramp, then renders.  Only the first part depends on the kind
of call.
-/

/-- A call of the ramp's owner. -/
inductive FaultCall
  | beginFault
  | beginRecovery
  | process (input : Option (List F32)) (frames : ℕ)
  deriving DecidableEq

namespace FaultCall

/-- A callback within the boundary, from a block that fills it or without one. -/
def Bounded : FaultCall → Prop
  | beginFault => True
  | beginRecovery => True
  | process input frames =>
    frames ≤ maxCallbackFrames ∧ ∀ samples ∈ input, samples.length = frames

instance : DecidablePred Bounded
  | beginFault => .isTrue trivial
  | beginRecovery => .isTrue trivial
  | process input frames => inferInstanceAs
      (Decidable (frames ≤ maxCallbackFrames ∧ ∀ samples ∈ input, samples.length = frames))

/-- The calls that turn a ramp towards silence. -/
def Fails : FaultCall → Prop
  | beginFault => True
  | beginRecovery => False
  | process input _ => input = none

/-- A callback whose input is present. -/
def present (input : List F32) : FaultCall := process (some input) input.length

/-- What a call makes of the ramp before it renders. -/
def begun (ramp : FaultRamp) : FaultCall → FaultRamp
  | beginFault => ramp.beginFault
  | beginRecovery => ramp.beginRecovery
  | process input _ => ramp.begun input

/-- What it then renders. -/
def sources (ramp : FaultRamp) : FaultCall → List F32
  | beginFault => []
  | beginRecovery => []
  | process input frames => (ramp.begun input).sources input frames

/-- A call leaves a coherent ramp coherent, at its step. -/
theorem begun_coherent {ramp : FaultRamp} (h : ramp.fade.Coherent) (call : FaultCall) :
    (call.begun ramp).fade.Coherent ∧ (call.begun ramp).gainStep = ramp.gainStep := by
  cases call with
  | beginFault => exact FaultRamp.begun_coherent h none
  | beginRecovery => exact FaultRamp.beginRecovery_coherent h
  | process input frames => exact FaultRamp.begun_coherent h input

/-- Only a recovery turns a fade-out. -/
theorem begun_fallenBy {ramp : FaultRamp} {samples : ℕ} (h : ramp.fade.FallenBy samples)
    {call : FaultCall} (hcall : call ≠ .beginRecovery) :
    (call.begun ramp).fade.FallenBy samples := by
  have hfault : ramp.beginFault.fade.FallenBy samples := by
    unfold FaultRamp.beginFault
    split
    · exact h
    · next hstate =>
      rcases h with hsilent | ⟨-, hrest⟩
      · exact absurd hsilent hstate
      · exact .inr ⟨rfl, hrest⟩
  cases call with
  | beginFault => exact hfault
  | beginRecovery => exact absurd rfl hcall
  | process input frames =>
    cases input with
    | none => exact hfault
    | some input => exact h

/-- Only a failure turns a fade-in. -/
theorem begun_risenBy {ramp : FaultRamp} {samples : ℕ} (h : ramp.fade.RisenBy samples)
    {call : FaultCall} (hcall : ¬call.Fails) : (call.begun ramp).fade.RisenBy samples := by
  cases call with
  | beginFault => exact absurd trivial hcall
  | beginRecovery =>
    show ramp.beginRecovery.fade.RisenBy samples
    unfold FaultRamp.beginRecovery
    split
    · exact h
    · next hstate =>
      rcases h with hpassing | ⟨-, hrest⟩
      · exact absurd hpassing hstate
      · exact .inr ⟨rfl, hrest⟩
  | process input frames =>
    cases input with
    | none => exact absurd rfl hcall
    | some input => exact h

end FaultCall

/-- A ramp in use: what it has published, and every sample it has rendered. -/
structure FaultUse where
  ramp : FaultRamp
  output : List F32 := []
  samples : List FaultSample := []

namespace FaultUse

variable (sin : F32 → F32)

/-- One call. -/
def step (use : FaultUse) : FaultCall → FaultUse
  | .beginFault => { use with ramp := use.ramp.beginFault }
  | .beginRecovery => { use with ramp := use.ramp.beginRecovery }
  | .process input frames =>
    let processed := use.ramp.process sin input frames
    { ramp := processed.2.2
      output := use.output ++ processed.2.1
      samples := use.samples ++
        (use.ramp.begun input).samples sin ((use.ramp.begun input).sources input frames) }

/-- **A call within the boundary** begins, and renders its sources. -/
theorem step_eq (use : FaultUse) {call : FaultCall} (hbounded : call.Bounded) :
    use.step sin call = {
      ramp := (call.sources use.ramp).foldl (FaultRamp.rendered sin) (call.begun use.ramp)
      output := use.output ++
        ((call.begun use.ramp).samples sin (call.sources use.ramp)).map (·.left.lastOutput)
      samples := use.samples ++ (call.begun use.ramp).samples sin (call.sources use.ramp) } := by
  obtain ⟨ramp, output, samples⟩ := use
  cases call with
  -- The turns render nothing.
  | beginFault => simp [step, FaultCall.begun, FaultCall.sources, FaultRamp.samples]
  | beginRecovery => simp [step, FaultCall.begun, FaultCall.sources, FaultRamp.samples]
  | process input frames =>
    obtain ⟨hout, hleft⟩ := (ramp.begun input).renderAll_eq sin
      ((ramp.begun input).sources input frames) {}
    unfold step
    dsimp only
    rw [FaultRamp.process_eq sin ramp hbounded.1 hbounded.2]
    dsimp only
    unfold FaultRamp.rendering
    rw [hout, hleft]
    rfl

/-- What holds of the samples rendered so far, and of the ramp, by how many they are. -/
def Along (P : ℕ → Fade → Prop) (use : FaultUse) : Prop :=
  P use.samples.length use.ramp.fade ∧
    ∀ i sample, use.samples[i]? = some sample → P (i + 1) sample.left.fade

theorem Along.start {P : ℕ → Fade → Prop} {ramp : FaultRamp} (h : P 0 ramp.fade) :
    Along P { ramp := ramp } := by
  refine ⟨h, fun i sample hsample => ?_⟩
  rw [List.getElem?_nil] at hsample
  cases hsample

/-- What a sample preserves holds along its rendering. -/
theorem rendering_along {P : ℕ → Fade → Prop} (hnext : ∀ n fade, P n fade → P (n + 1) fade.next)
    {ramp : FaultRamp} {n : ℕ} (h : P n ramp.fade) (sources : List F32) :
    P (n + sources.length) (sources.foldl (FaultRamp.rendered sin) ramp).fade ∧
      ∀ i sample, (ramp.samples sin sources)[i]? = some sample →
        P (n + i + 1) sample.left.fade := by
  induction sources generalizing ramp n with
  | nil => exact ⟨h, nofun⟩
  | cons source rest ih =>
    have hleft : P (n + 1) (ramp.rendered sin source).fade := by
      rw [FaultRamp.rendered_fade]
      exact hnext n ramp.fade h
    obtain ⟨hend, hall⟩ := ih hleft
    refine ⟨?_, fun i sample hsample => ?_⟩
    · rw [List.foldl_cons, List.length_cons, ← Nat.add_assoc, Nat.add_right_comm]
      exact hend
    · -- The first sample is the one rendered here, the others come after it.
      cases i with
      | zero =>
        obtain rfl := Option.some.inj hsample
        exact hleft
      | succ i =>
        have hprefix := hall i sample hsample
        rwa [show n + 1 + i = n + (i + 1) by omega] at hprefix

/-- **Rule of the samples.** What every sample preserves, and every call, holds after each
    sample. -/
theorem along {P : ℕ → Fade → Prop} (hnext : ∀ n fade, P n fade → P (n + 1) fade.next)
    {C : FaultCall → Prop}
    (hbegun : ∀ n ramp call, C call → P n ramp.fade → P n (call.begun ramp).fade)
    {calls : List FaultCall} (hcalls : ∀ call ∈ calls, call.Bounded ∧ C call)
    {use : FaultUse} (h : use.Along P) : (calls.foldl (step sin) use).Along P := by
  induction calls generalizing use with
  | nil => exact h
  | cons call calls ih =>
    obtain ⟨⟨hbounded, hcall⟩, hrest⟩ := List.forall_mem_cons.mp hcalls
    -- One call keeps it: its samples follow on those before.
    refine ih hrest ?_
    rw [step_eq sin use hbounded]
    obtain ⟨hend, hall⟩ := rendering_along sin hnext
      (hbegun use.samples.length use.ramp call hcall h.1) (call.sources use.ramp)
    refine ⟨?_, fun i sample hsample => ?_⟩
    · have hlen : ((call.begun use.ramp).samples sin (call.sources use.ramp)).length =
          (call.sources use.ramp).length := by
        rw [← List.length_map (·.left.lastOutput), ← (FaultRamp.renderAll_eq sin _ _ {}).1,
          FaultRamp.length_renderAll]
      show P (use.samples ++ _).length _
      rw [List.length_append, hlen]
      exact hend
    · rcases Nat.lt_or_ge i use.samples.length with hold | hnew
      · rw [List.getElem?_append_left hold] at hsample
        exact h.2 i sample hsample
      · rw [List.getElem?_append_right hnew] at hsample
        have hafter := hall _ sample hsample
        rwa [Nat.add_sub_cancel' hnew] at hafter

/-- The gain steps of what a use has rendered. -/
def steps (use : FaultUse) : List ℕ := use.samples.map (·.left.gainStep)

/-- A use of a ramp from `start` whose gain moves by single steps, and which is silent where it
    says so. -/
structure Sound (start : FaultRamp) (use : FaultUse) : Prop where
  coherent : use.ramp.fade.Coherent
  samples : ∀ sample ∈ use.samples, sample.left.fade.Coherent
  output : use.output = use.samples.map (·.left.lastOutput)
  gentle : (start.gainStep :: use.steps).IsChain Fade.Adjacent
  /-- The ramp is where its last sample left it. -/
  last : (start.gainStep :: use.steps).getLast? = some use.ramp.gainStep
  silent : ∀ sample ∈ use.samples, sample.found.state = .silent →
    sample.left.state = .silent ∧ sample.left.lastOutput.isZero = true
  /-- So is the sample that ends a fade-out, at the gain of step zero. -/
  ended : ∀ sample ∈ use.samples, sample.left.state = .silent → (sin .zero).isZero = true →
    sample.left.lastOutput.isZero = true

/-- The samples of one rendering are sound. -/
theorem rendering_sound {ramp : FaultRamp} (h : ramp.fade.Coherent) (sources : List F32) :
    Sound sin ramp {
      ramp := sources.foldl (FaultRamp.rendered sin) ramp
      output := (ramp.samples sin sources).map (·.left.lastOutput)
      samples := ramp.samples sin sources } := by
  induction sources generalizing ramp with
  | nil => exact ⟨h, nofun, rfl, .singleton _, rfl, nofun, nofun⟩
  | cons source rest ih =>
    obtain ⟨hleft, hadjacent⟩ := FaultRamp.rendered_coherent sin h source
    obtain ⟨hsilent, hended⟩ := FaultRamp.rendered_silent sin h source
    have hrest := ih hleft
    exact {
      coherent := hrest.coherent
      samples := List.forall_mem_cons.mpr ⟨hleft, hrest.samples⟩
      output := rfl
      gentle := .cons_cons hadjacent hrest.gentle
      last := (List.getLast?_cons_cons ..).trans hrest.last
      silent := List.forall_mem_cons.mpr ⟨hsilent, hrest.silent⟩
      ended := List.forall_mem_cons.mpr ⟨hended, hrest.ended⟩ }

/-- **A call within the boundary keeps a use sound.** -/
theorem Sound.step {start : FaultRamp} {use : FaultUse} (h : use.Sound sin start)
    {call : FaultCall} (hbounded : call.Bounded) : (use.step sin call).Sound sin start := by
  obtain ⟨hbegun, hstep⟩ := call.begun_coherent h.coherent
  have hmore := rendering_sound sin hbegun (call.sources use.ramp)
  rw [step_eq sin use hbounded]
  -- The call leaves the step where it was, so its steps go on from the last one.
  have hgentle := hmore.gentle
  have hlast := hmore.last
  rw [hstep] at hgentle hlast
  refine {
    coherent := hmore.coherent
    samples := List.forall_mem_append.mpr ⟨h.samples, hmore.samples⟩
    output := by rw [h.output, ← List.map_append]
    gentle := ?_
    last := ?_
    silent := List.forall_mem_append.mpr ⟨h.silent, hmore.silent⟩
    ended := List.forall_mem_append.mpr ⟨h.ended, hmore.ended⟩ }
  · -- the two chains meet at the step of the ramp
    show (start.gainStep :: (use.samples ++ _).map _).IsChain _
    rw [List.map_append, ← List.cons_append]
    refine List.isChain_append.mpr ⟨h.gentle, hgentle.tail, fun step hlast step' hfirst => ?_⟩
    rw [show List.getLast? (start.gainStep :: use.samples.map _) = _ from h.last] at hlast
    obtain rfl := Option.some.inj hlast
    exact hgentle.rel_head? hfirst
  · show (start.gainStep :: (use.samples ++ _).map _).getLast? = _
    rw [List.map_append, ← List.cons_append, List.getLast?_append]
    have hend := h.last
    unfold steps at hend hlast
    rw [hend]
    rw [List.getLast?_cons] at hlast
    cases hnew : (((call.begun use.ramp).samples sin (call.sources use.ramp)).map
      (·.left.gainStep)).getLast? with
    | none =>
      rw [hnew] at hlast
      exact hlast
    | some step =>
      rw [hnew] at hlast
      exact hlast

/-- Once as many samples as the ramp is long are rendered, the ramp rests in `state`. -/
def Lands (state : FaultRampState) (use : FaultUse) : Prop :=
  (faultRampSamples ≤ use.samples.length → use.ramp.state = state) ∧
    ∀ sample ∈ use.samples.drop (faultRampSamples - 1), sample.left.state = state

/-- What ends within the ramp's length lands. -/
theorem Along.lands {P : ℕ → Fade → Prop} {state : FaultRampState}
    (hstate : ∀ n fade, P n fade → faultRampSamples ≤ n → fade.state = state)
    {use : FaultUse} (h : use.Along P) : use.Lands state := by
  refine ⟨hstate _ _ h.1, fun sample hsample => ?_⟩
  obtain ⟨i, hi⟩ := List.mem_iff_getElem?.mp hsample
  rw [List.getElem?_drop] at hi
  refine hstate _ _ (h.2 _ sample hi) ?_
  have hbound : faultRampSamples = 240 := rfl
  omega

/-- Callbacks whose input is present render it, however it is cut. -/
theorem foldl_present {chunks : List (List F32)}
    (hchunks : ∀ chunk ∈ chunks, chunk.length ≤ maxCallbackFrames) (use : FaultUse) :
    (chunks.map FaultCall.present).foldl (step sin) use = {
      ramp := chunks.flatten.foldl (FaultRamp.rendered sin) use.ramp
      output := use.output ++
        (use.ramp.samples sin chunks.flatten).map (·.left.lastOutput)
      samples := use.samples ++ use.ramp.samples sin chunks.flatten } := by
  induction chunks generalizing use with
  | nil => simp [FaultRamp.samples]
  | cons chunk chunks ih =>
    obtain ⟨hchunk, hrest⟩ := List.forall_mem_cons.mp hchunks
    have hbounded : (FaultCall.present chunk).Bounded :=
      ⟨hchunk, fun samples hsamples => Option.some.inj hsamples ▸ rfl⟩
    rw [List.map_cons, List.foldl_cons, ih hrest, step_eq sin use hbounded, List.flatten_cons,
      List.foldl_append, FaultRamp.samples_append, List.map_append, ← List.append_assoc,
      ← List.append_assoc]
    rfl

end FaultUse

/-- **The step machine of the fault ramp.** In every use of a ramp that is new or reset, by calls
    within the boundary: the step fits the state, after every sample; the gain moves by single
    steps; what is rendered in silence is zero; a fade-out that no recovery turns ends within the
    ramp's length, and so does a fade-in that no failure turns; and callbacks whose input is
    present publish the same however it is cut. -/
theorem fault_steps (sin : F32 → F32) {start : FaultRamp}
    (hstart : start = .new ∨ ∃ ramp : FaultRamp, start = ramp.resetSilent)
    {calls : List FaultCall} (hcalls : ∀ call ∈ calls, call.Bounded) :
    let use := calls.foldl (FaultUse.step sin) { ramp := start }
    use.Sound sin start ∧
      (∀ later : List FaultCall, (∀ call ∈ later, call.Bounded ∧ call ≠ .beginRecovery) →
        use.ramp.state = .fadingOut →
        (later.foldl (FaultUse.step sin) { ramp := use.ramp }).Lands .silent) ∧
      (∀ later : List FaultCall, (∀ call ∈ later, call.Bounded ∧ ¬call.Fails) →
        use.ramp.state = .fadingIn →
        (later.foldl (FaultUse.step sin) { ramp := use.ramp }).Lands .passing) ∧
      ∀ chunks chunks' : List (List F32),
        (∀ chunk ∈ chunks ++ chunks', chunk.length ≤ maxCallbackFrames) →
        chunks.flatten = chunks'.flatten →
        (chunks.map FaultCall.present).foldl (FaultUse.step sin) use =
          (chunks'.map FaultCall.present).foldl (FaultUse.step sin) use := by
  intro use
  have hcoherent : start.fade.Coherent := by
    rcases hstart with rfl | ⟨ramp, rfl⟩
    · exact ⟨fun _ => rfl, nofun, Nat.le_refl _⟩
    · exact ramp.resetSilent_coherent
  have hsound : use.Sound sin start := by
    refine ((Lib.Run.of_foldl (FaultUse.step sin) _ calls).of_inputs
      (fun call hcall _ => hcalls call hcall)).invariant (FaultUse.Sound sin start)
      (FaultUse.rendering_sound sin hcoherent []) ?_
    rintro use call _ h hbounded rfl
    exact h.step sin hbounded
  refine ⟨hsound, fun later hlater hstate => ?_, fun later hlater hstate => ?_,
    fun chunks chunks' hchunks hsame => ?_⟩
  · -- a fade-out: the count begins at zero, and only a recovery would end it
    have hfallen : FaultUse.Along (fun n fade => fade.FallenBy n) { ramp := use.ramp } :=
      .start (.inr ⟨hstate, hsound.coherent.le, nofun⟩)
    exact (FaultUse.along sin (fun _ _ h => h.next)
      (fun _ _ _ hcall h => FaultCall.begun_fallenBy h hcall) hlater hfallen).lands
      fun _ _ h => h.silent
  · -- a fade-in, which only a failure would end
    have hrisen : FaultUse.Along (fun n fade => fade.RisenBy n) { ramp := use.ramp } :=
      .start (.inr ⟨hstate, Nat.zero_le _, nofun⟩)
    exact (FaultUse.along sin (fun _ _ h => h.next)
      (fun _ _ _ hcall h => FaultCall.begun_risenBy h hcall) hlater hrisen).lands
      fun _ _ h => h.passing
  · -- callbacks with audio render it sample by sample, so the cuts do not matter
    obtain ⟨hleft, hright⟩ := List.forall_mem_append.mp hchunks
    rw [FaultUse.foldl_present sin hleft, FaultUse.foldl_present sin hright, hsame]

/-- A fade that is turned half way, and an underflow. -/
theorem fault_steps_turned :
    (FaultUse.steps (([.beginFault, .process (some [.one, .one]) 2, .beginRecovery,
      .process none 3] : List FaultCall).foldl (FaultUse.step taylorSine)
        { ramp := .new })).IsChain Fade.Adjacent :=
  (fault_steps taylorSine (.inl rfl) (by decide)).1.gentle.tail

end Noire
