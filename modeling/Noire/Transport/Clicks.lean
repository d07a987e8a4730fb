import Noire.Transport.Missing
import Mathlib.Analysis.Real.Pi.Bounds
import Mathlib.Analysis.SpecialFunctions.Trigonometric.Bounds

namespace Noire

/-!
# Fades without clicks

`ClickDetector` over exact numbers, listening to a fault ramp that has audio.

* `ClickDetector` — it compares the steps between adjacent samples of a reference and of what is
  published; `observe_append`: the cuts into buffers do not matter;
* `Audition` — a ramp, and a detector of what it makes of its input;
* `Bounded.hearAll` — no step of the output exceeds that of the input by more than the peak of the
  input times the largest step of the gain;
* `sine` — the equal-power curve of the source; `fades_silent`: over it no click is counted below
  one and a half times full scale.

The detector compares two steps, that of the input and that of the output.  The output at a sample
is the input times the gain, so its step exceeds the input's by at most the peak of the input
times the difference of two gains, and adjacent steps of the ramp make this one step of the gain.
The bound is carried through all uses of the ramp: a turn changes the direction of the fade and
not its gain.  Over the equal-power curve one step of the gain is the sine of a small angle, which
is below the threshold of the detector for audio up to one and a half times full scale.
-/

/-! ## The detector

`ClickDetector`: what the output moves more than its reference does.
-/

/-- `ClickDetectorError`. -/
inductive ClickDetectorError
  | shapeMismatch
  deriving DecidableEq

/-- `ClickDetector`, over exact numbers. -/
structure ClickDetector (K : Type) where
  primed : Bool
  previousReference : K
  previousObserved : K
  maximumExcess : K
  clicks : ℕ

namespace ClickDetector

variable {K : Type} [CommRing K] [LinearOrder K]

/-- `ClickDetector::new`. -/
def new : ClickDetector K := ⟨false, 0, 0, 0, 0⟩

/-- The step of the observed sample beyond that of the reference. -/
def excess (detector : ClickDetector K) (reference observed : K) : K :=
  max (|observed - detector.previousObserved| - |reference - detector.previousReference|) 0

/-- One aligned pair of samples; exact numbers are finite.  The threshold is a hundredth of full
    scale. -/
def hear (detector : ClickDetector K) (reference observed : K) : ClickDetector K :=
  let excess := detector.excess reference observed
  { primed := true
    previousReference := reference
    previousObserved := observed
    maximumExcess :=
      if detector.primed then max detector.maximumExcess excess else detector.maximumExcess
    clicks := if detector.primed ∧ 1 < 100 * excess then detector.clicks + 1 else detector.clicks }

/-- The loop of `observe`. -/
def hearAll (detector : ClickDetector K) : List K → List K → ClickDetector K
  | reference :: references, observed :: rest =>
    (detector.hear reference observed).hearAll references rest
  | _, _ => detector

/-- `ClickDetector::observe`. -/
def observe (detector : ClickDetector K) (reference observed : List K) :
    Except ClickDetectorError Unit × ClickDetector K :=
  if reference.length ≠ observed.length then (.error .shapeMismatch, detector)
  else (.ok (), detector.hearAll reference observed)

theorem observe_of_length (detector : ClickDetector K) {reference observed : List K}
    (h : reference.length = observed.length) :
    (detector.observe reference observed).2 = detector.hearAll reference observed := by
  unfold observe
  rw [if_neg (not_not.mpr h)]

theorem hearAll_append (detector : ClickDetector K) {references observed : List K}
    (h : references.length = observed.length) (references' observed' : List K) :
    detector.hearAll (references ++ references') (observed ++ observed') =
      (detector.hearAll references observed).hearAll references' observed' := by
  induction references generalizing detector observed with
  | nil =>
    obtain rfl : observed = [] := List.length_eq_zero_iff.mp h.symm
    rfl
  | cons reference references ih =>
    cases observed with
    | nil => cases h
    | cons first observed => exact ih _ (Nat.succ.inj h)

/-- **Cuts into buffers do not matter.** -/
theorem observe_append (detector : ClickDetector K)
    {reference observed reference' observed' : List K}
    (h : reference.length = observed.length) (h' : reference'.length = observed'.length) :
    ((detector.observe reference observed).2.observe reference' observed').2 =
      (detector.observe (reference ++ reference') (observed ++ observed')).2 := by
  have hlength : (reference ++ reference').length = (observed ++ observed').length := by
    rw [List.length_append, List.length_append, h, h']
  rw [observe_of_length _ h, observe_of_length _ h', observe_of_length _ hlength,
    hearAll_append _ h]

end ClickDetector

/-! ## One sample

The inequality for two samples that follow each other, at adjacent steps.
-/

section Steps

variable {K : Type} [CommRing K] [LinearOrder K] [IsStrictOrderedRing K] (g : Gain K)

/-- Adjacent steps are one step of the gain apart. -/
theorem Gain.abs_sub_le_delta {step step' : ℕ} (h : Fade.Adjacent step step')
    (hle : step ≤ faultRampSamples) (hle' : step' ≤ faultRampSamples) :
    |g.gain step' - g.gain step| ≤ g.delta := by
  obtain ⟨hdown, hup⟩ := h
  rcases Nat.lt_trichotomy step step' with hlt | rfl | hlt
  · obtain rfl : step' = step + 1 := by omega
    rw [abs_of_nonneg (sub_nonneg.mpr (g.mono step hle'))]
    exact g.le_delta hle'
  · rw [sub_self, abs_zero]
    exact g.delta_nonneg
  · obtain rfl : step = step' + 1 := by omega
    rw [abs_sub_comm, abs_of_nonneg (sub_nonneg.mpr (g.mono step' hle))]
    exact g.le_delta hle

/-- **A sample** that follows another steps by no more than the audio, but for what the gain
    adds. -/
theorem Gain.abs_mul_sub_mul_le {step step' : ℕ} (h : Fade.Adjacent step step')
    (hle : step ≤ faultRampSamples) (hle' : step' ≤ faultRampSamples) {sample next peak : K}
    (hsample : |sample| ≤ peak) :
    |next * g.gain step' - sample * g.gain step| - |next - sample| ≤ peak * g.delta := by
  have hgain := g.gain_nonneg hle'
  have hone := g.gain_le_one hle'
  have hdelta := g.abs_sub_le_delta h hle hle'
  have hpeak : 0 ≤ peak := (abs_nonneg sample).trans hsample
  have hsplit : next * g.gain step' - sample * g.gain step =
      (next - sample) * g.gain step' + sample * (g.gain step' - g.gain step) := by ring
  have haudio : |(next - sample) * g.gain step'| ≤ |next - sample| := by
    rw [abs_mul, abs_of_nonneg hgain]
    exact mul_le_of_le_one_right (abs_nonneg _) hone
  have hfade : |sample * (g.gain step' - g.gain step)| ≤ peak * g.delta := by
    rw [abs_mul]
    exact mul_le_mul hsample hdelta (abs_nonneg _) hpeak
  rw [sub_le_iff_le_add, hsplit]
  calc |(next - sample) * g.gain step' + sample * (g.gain step' - g.gain step)|
      ≤ |(next - sample) * g.gain step'| + |sample * (g.gain step' - g.gain step)| := abs_add_le _ _
    _ ≤ peak * g.delta + |next - sample| := by rw [add_comm]; exact add_le_add hfade haudio

end Steps

/-! ## A ramp and its detector

The two over the same samples; the step of the gain bounds the excess.
-/

/-- A fault ramp, a detector that listens to it, and all that it has heard. -/
structure Audition (K : Type) where
  ramp : ExactRamp K
  detector : ClickDetector K
  reference : List K := []
  observed : List K := []

namespace Audition

variable {K : Type} [CommRing K] [LinearOrder K] (g : Gain K)

/-- A detector begins to listen. -/
def start (ramp : ExactRamp K) : Audition K := { ramp, detector := .new }

/-- A use of the ramp: of a callback, the detector hears the sources and what is made of them. -/
def step (l : Audition K) : ExactRamp.Call K → Audition K
  | .process input frames =>
    let rendered := l.ramp.process g input frames
    let reference := input.getD (.replicate frames l.ramp.lastOutput)
    { ramp := rendered.2.2
      detector := (l.detector.observe reference rendered.2.1).2
      reference := l.reference ++ reference
      observed := l.observed ++ rendered.2.1 }
  | call => { l with ramp := ExactRamp.apply g l.ramp call }

/-- The ramp is turned to or from silence, or has audio of at most this peak. -/
def Present (peak : K) : ExactRamp.Call K → Prop
  | .beginFault | .beginRecovery => True
  | .resetSilent | .process none _ => False
  | .process (some samples) frames =>
    samples.length = frames ∧ frames ≤ maxCallbackFrames ∧ ∀ sample ∈ samples, |sample| ≤ peak

/-- The runs of such uses. -/
abbrev Heard (peak : K) (ramp : ExactRamp K) (calls : List (ExactRamp.Call K)) (l : Audition K) :
    Prop :=
  Lib.Run (fun l call l' => step g l call = l') (fun _ call => Present peak call) (start ramp)
    calls l

/-- What holds of a ramp and its detector: what was heard last is the last sample at the gain of its
    step, and no step has exceeded the bound. -/
structure Bounded (peak : K) (ramp : ExactRamp K) (detector : ClickDetector K) : Prop where
  coherent : ramp.fade.Coherent
  last : detector.primed = true → |detector.previousReference| ≤ peak ∧
    detector.previousObserved = detector.previousReference * g.gain ramp.gainStep
  excess : detector.maximumExcess ≤ peak * g.delta
  clicks : 100 * (peak * g.delta) ≤ 1 → detector.clicks = 0

section
variable {g} {peak : K} {ramp : ExactRamp K} {detector : ClickDetector K}

/-- A ramp that is turned around keeps its gain. -/
theorem Bounded.turned (h : Bounded g peak ramp detector) {ramp' : ExactRamp K}
    (hcoherent : ramp'.fade.Coherent) (hstep : ramp'.gainStep = ramp.gainStep) :
    Bounded g peak ramp' detector :=
  ⟨hcoherent, fun hprimed => by rw [hstep]; exact h.last hprimed, h.excess, h.clicks⟩

variable [IsStrictOrderedRing K]

/-- **One sample.** -/
theorem Bounded.hear (h : Bounded g peak ramp detector) {source : K} (hsource : |source| ≤ peak) :
    Bounded g peak (ramp.renderSample g source).2
      (detector.hear source (ramp.renderSample g source).1) := by
  obtain ⟨hcoherent, -, hadjacent⟩ := h.coherent.next
  rw [← ramp.nextGain_fade g] at hcoherent hadjacent
  have hgain : (ramp.renderSample g source).1 =
      source * g.gain (ramp.nextGain g).2.gainStep :=
    congrArg (source * ·) (ExactRamp.nextGain_gain g h.coherent)
  have hpeak : 0 ≤ peak := (abs_nonneg source).trans hsource
  -- What exceeds the reference is the step of the gain at most, at the peak.
  have hexcess : detector.primed = true →
      detector.excess source (ramp.renderSample g source).1 ≤ peak * g.delta := by
    intro hprimed
    obtain ⟨hprevious, hobserved⟩ := h.last hprimed
    unfold ClickDetector.excess
    rw [hgain, hobserved]
    exact max_le (g.abs_mul_sub_mul_le hadjacent h.coherent.le hcoherent.le hprevious)
      (mul_nonneg hpeak g.delta_nonneg)
  refine ⟨hcoherent, fun _ => ⟨hsource, hgain⟩, ?_, fun hquiet => ?_⟩
  · show (if detector.primed then _ else _) ≤ _
    split
    · exact max_le h.excess (hexcess ‹_›)
    · exact h.excess
  · show (if _ then _ else _) = 0
    rw [if_neg]
    · exact h.clicks hquiet
    · rintro ⟨hprimed, hclick⟩
      have hle : 100 * detector.excess source (ramp.renderSample g source).1 ≤
          100 * (peak * g.delta) :=
        mul_le_mul_of_nonneg_left (hexcess hprimed) (by norm_num)
      exact absurd (hle.trans hquiet) (not_le.mpr hclick)

/-- The samples of a callback. -/
theorem Bounded.hearAll (h : Bounded g peak ramp detector) {sources : List K}
    (hsources : ∀ source ∈ sources, |source| ≤ peak) :
    Bounded g peak (ramp.renderAll g sources).2
      (detector.hearAll sources (ramp.renderAll g sources).1) := by
  induction sources generalizing ramp detector with
  | nil => exact h
  | cons source rest ih =>
    exact ih (h.hear (hsources source List.mem_cons_self))
      fun other hother => hsources other (List.mem_cons_of_mem _ hother)

end

end Audition

/-! ## Runs

The detector is given blocks, and hears them as one stream.
-/

namespace ExactRamp

variable {K : Type} {ramp : ExactRamp K}

theorem beginFault_coherent (h : ramp.fade.Coherent) : ramp.beginFault.fade.Coherent := by
  unfold beginFault
  split
  · exact h
  · exact ⟨nofun, nofun, h.le⟩

theorem beginRecovery_coherent (h : ramp.fade.Coherent) : ramp.beginRecovery.fade.Coherent := by
  unfold beginRecovery
  split
  · exact h
  · exact ⟨nofun, nofun, h.le⟩

theorem beginRecovery_gainStep (ramp : ExactRamp K) :
    ramp.beginRecovery.gainStep = ramp.gainStep := by
  unfold beginRecovery
  split <;> rfl

variable [CommRing K] [LinearOrder K] (g : Gain K)

theorem length_renderAll (ramp : ExactRamp K) (sources : List K) :
    (ramp.renderAll g sources).1.length = sources.length := by
  induction sources generalizing ramp with
  | nil => rfl
  | cons source rest ih => exact congrArg (· + 1) (ih _)

/-- Any uses of a new ramp, refused callbacks and missing audio among them, lead to this one. -/
def Used (ramp : ExactRamp K) : Prop :=
  ∃ calls, Lib.Run (fun ramp call after => apply g ramp call = after) Lib.Free new calls ramp

theorem Used.coherent (h : Used g ramp) : ramp.fade.Coherent := by
  obtain ⟨calls, run⟩ := h
  refine run.invariant (fun ramp => ramp.fade.Coherent) ⟨fun _ => rfl, nofun, Nat.le_refl _⟩
    fun ramp call after hcoherent _ hstep => ?_
  obtain rfl : apply g ramp call = after := hstep
  cases call with
  | beginFault => exact beginFault_coherent hcoherent
  | beginRecovery => exact beginRecovery_coherent hcoherent
  | resetSilent => exact ⟨nofun, fun _ => rfl, Nat.zero_le _⟩
  | process input frames =>
    show (ramp.process g input frames).2.2.fade.Coherent
    -- A refused block resets the ramp, the other is rendered step by step.
    by_cases hrefused : maxCallbackFrames < frames ∨ ∃ samples ∈ input, samples.length ≠ frames
    · rw [process_refused g ramp hrefused]
      exact ⟨nofun, fun _ => rfl, Nat.zero_le _⟩
    · rw [process_rendered g ramp (Nat.not_lt.mp fun hlarge => hrefused (.inl hlarge))
        fun samples hsamples => by_contra fun hne => hrefused (.inr ⟨samples, hsamples, hne⟩)]
      unfold rendering
      rw [renderAll_fade]
      refine (Fade.Coherent.steps ?_ _).1
      unfold begun
      split
      · exact beginFault_coherent hcoherent
      · exact hcoherent

end ExactRamp

namespace Audition

variable {K : Type} [CommRing K] [LinearOrder K] [IsStrictOrderedRing K] {g : Gain K} {peak : K}
  {ramp : ExactRamp K} {calls : List (ExactRamp.Call K)} {l : Audition K}

/-- What a ramp and its detector keep. -/
structure Kept (g : Gain K) (peak : K) (l : Audition K) : Prop where
  bounded : Bounded g peak l.ramp l.detector
  aligned : l.reference.length = l.observed.length
  whole : l.detector = (ClickDetector.new.observe l.reference l.observed).2

/-- **A use** of the ramp keeps it. -/
theorem Kept.step (h : Kept g peak l) {call : ExactRamp.Call K} (hcall : Present peak call) :
    Kept g peak (l.step g call) := by
  have hcoherent := h.bounded.coherent
  cases call with
  -- The turns of the ramp give no samples, and leave the gain where it is.
  | beginFault =>
    exact ⟨h.bounded.turned (ExactRamp.beginFault_coherent hcoherent)
      (ExactRamp.beginFault_kept l.ramp).1, h.aligned, h.whole⟩
  | beginRecovery =>
    exact ⟨h.bounded.turned (ExactRamp.beginRecovery_coherent hcoherent)
      (ExactRamp.beginRecovery_gainStep l.ramp), h.aligned, h.whole⟩
  | resetSilent => exact hcall.elim
  | process input frames => cases input with
    | none => exact hcall.elim
    | some samples =>
      -- The block is rendered and heard sample by sample.
      obtain ⟨hshape, hframes, hpeak⟩ := hcall
      have hprocess : (l.ramp.process g (some samples) frames).2 = l.ramp.renderAll g samples :=
        l.ramp.process_rendered g hframes fun _ hsame => by cases hsame; exact hshape
      have hlength : samples.length = (l.ramp.renderAll g samples).1.length :=
        (l.ramp.length_renderAll g samples).symm
      have hobserve := l.detector.observe_of_length hlength
      have hstep : l.step g (.process (some samples) frames) =
          { ramp := (l.ramp.renderAll g samples).2
            detector := l.detector.hearAll samples (l.ramp.renderAll g samples).1
            reference := l.reference ++ samples
            observed := l.observed ++ (l.ramp.renderAll g samples).1 } := by
        rw [← hobserve, ← hprocess]
        rfl
      rw [hstep]
      refine ⟨h.bounded.hearAll hpeak, ?_, ?_⟩
      · rw [List.length_append, List.length_append, h.aligned, hlength]
      · rw [← hobserve, h.whole]
        exact ClickDetector.new.observe_append h.aligned hlength

theorem Heard.kept (run : Heard g peak ramp calls l) (hramp : ramp.fade.Coherent)
    (hpeak : 0 ≤ peak) : Kept g peak l := by
  refine Lib.Run.invariant (Kept g peak) ⟨⟨hramp,
    fun hprimed => absurd hprimed Bool.false_ne_true, ?_, fun _ => rfl⟩, rfl, rfl⟩
    (fun l call after h hcall hstep => ?_) run
  · exact mul_nonneg hpeak g.delta_nonneg
  · obtain rfl : l.step g call = after := hstep
    exact h.step hcall

end Audition

/-! ## The equal-power curve

The curve is that of the source, over the reals.
-/

/-- The curve of `current_gain`. -/
noncomputable def Gain.sine : Gain ℝ where
  gain step := Real.sin (Real.pi / 2 * step / faultRampSamples)
  mono step hstep := by
    have hle : (step : ℝ) ≤ (step + 1 : ℕ) := by exact_mod_cast Nat.le_succ step
    have htop : ((step + 1 : ℕ) : ℝ) ≤ faultRampSamples := by exact_mod_cast hstep
    have hpos : (0 : ℝ) < faultRampSamples := by norm_num [faultRampSamples]
    have hpi := Real.pi_pos
    refine Real.sin_le_sin_of_le_of_le_pi_div_two ?_ ?_ ?_
    · have hangle : 0 ≤ Real.pi / 2 * step / faultRampSamples := by positivity
      linarith
    · rw [div_le_iff₀ hpos]
      exact mul_le_mul_of_nonneg_left htop (by positivity)
    · gcongr
  zero := by simp
  full := by
    have hne : ((faultRampSamples : ℕ) : ℝ) ≠ 0 := by norm_num [faultRampSamples]
    rw [mul_div_assoc, div_self hne, mul_one, Real.sin_pi_div_two]

/-- Its largest step. -/
theorem Gain.sine_delta : Gain.sine.delta ≤ Real.pi / 480 := by
  refine Finset.sup'_le _ _ fun step _ => ?_
  have hangle : Real.pi / 2 * (step + 1 : ℕ) / faultRampSamples -
      Real.pi / 2 * step / faultRampSamples = Real.pi / 480 := by
    rw [show faultRampSamples = 240 from rfl]
    push_cast
    ring
  have hstep := Real.abs_sin_sub_sin_le (Real.pi / 2 * (step + 1 : ℕ) / faultRampSamples)
    (Real.pi / 2 * step / faultRampSamples)
  rw [hangle, abs_of_pos (div_pos Real.pi_pos (by norm_num))] at hstep
  exact (le_abs_self _).trans hstep

open Audition in
/-- **Fades make no clicks.**  Over the equal-power curve, after any uses of a ramp: while it has
    audio, however it is turned to and from silence in between, and however the audio is cut into
    callbacks, a detector of its input and output hears what it would hear of them in one piece, no
    step beyond the input's of more than 1/152 of the peak, and no click if the peak is at most one
    and a half times full scale. -/
theorem fades_silent {ramp : ExactRamp ℝ} (hramp : ramp.Used Gain.sine) {peak : ℝ}
    (hpeak : 0 ≤ peak) {calls : List (ExactRamp.Call ℝ)} {l : Audition ℝ}
    (run : Heard Gain.sine peak ramp calls l) :
    l.detector = (ClickDetector.new.observe l.reference l.observed).2 ∧
      l.detector.maximumExcess ≤ peak * (Real.pi / 480) ∧
      (peak ≤ 3 / 2 → l.detector.clicks = 0) := by
  have hkept := run.kept (hramp.coherent _) hpeak
  have hbound : peak * Gain.sine.delta ≤ peak * (Real.pi / 480) :=
    mul_le_mul_of_nonneg_left Gain.sine_delta hpeak
  refine ⟨hkept.whole, hkept.bounded.excess.trans hbound, fun hscale => hkept.bounded.clicks ?_⟩
  have hpi := Real.pi_lt_d2
  have hfull : peak * (Real.pi / 480) ≤ 3 / 2 * (Real.pi / 480) :=
    mul_le_mul_of_nonneg_right hscale (by positivity)
  linarith

/-- Full scale is passed, turned to silence, and passed again. -/
def turned : List (ExactRamp.Call ℝ) :=
  [.process (some [1, -1]) 2, .beginFault, .process (some [1]) 1, .beginRecovery,
    .process (some [-1]) 1]

theorem fades_silent_turned :
    ∃ l, Audition.Heard Gain.sine 1 .new turned l ∧ l.detector.clicks = 0 := by
  have run : Audition.Heard Gain.sine 1 .new turned
      (turned.foldl (Audition.step Gain.sine) (.start .new)) := by
    refine (Lib.Run.of_foldl (Audition.step Gain.sine) _ turned).of_inputs fun call hcall _ => ?_
    simp only [turned, List.mem_cons, List.not_mem_nil, or_false] at hcall
    rcases hcall with rfl | rfl | rfl | rfl | rfl <;> simp [Audition.Present, maxCallbackFrames]
  exact ⟨_, run, (fades_silent ⟨[], .nil⟩ zero_le_one run).2.2 (by norm_num)⟩

end Noire
