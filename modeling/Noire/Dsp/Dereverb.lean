import Noire.Dsp.Arithmetic

namespace Noire

/-!
# Late reverberation

The reducer of late reverberation, over any arithmetic: the rounded one of the source, and the
exact one of an ordered field.

* `LateReverbReducer` — the reducer; `processSample` is one turn of its loop, and
  `LateReverbTurn` what is seen of it;
* `Bounded` — what holds of a reducer over exact numbers; `processSample_bounded` is one turn;
* `lateReverb_bounded` — so over every sequence of frames its controls stay within their
  bounds, nothing it publishes is limited, and speech passes as it is.

A sample goes through two estimators, a prediction and a mix, and each control moves a share of
the way towards a target within its bounds; so it stays there, whatever the signal is.  What the
estimator divides by is bounded from below, since the division is made only then.  The invariant
`Bounded` holds after every sample, and the bound on what is published follows from it, without
looking at how the controls came about.
-/

section Reducer

variable {α : Type} [Add α] [Sub α] [Mul α] [Div α] [Neg α] [NatCast α] [SampleOps α]

/-- `MAX_PREDICTION`. -/
def maxPrediction : α := ratio 72 100

/-- `MIN_CORRELATION`. -/
def minCorrelation : α := ratio 12 100

/-- `FULL_CORRELATION`. -/
def fullCorrelation : α := ratio 42 100

-- The literal is the datum nearest to `0.72`.
example : (maxPrediction : F32) = ⟨0x3F3851EC⟩ := by decide +kernel

/-- `LATE_DELAY_SAMPLES`. -/
def lateDelaySamples : ℕ := 1920

instance : NeZero lateDelaySamples := ⟨by decide⟩

/-! ## The reducer -/

/-- The coefficients that `smoothing_coefficient` gives for the reducer's three times. -/
structure LateReverbSmoothing (α : Type) where
  estimator : α
  speechBackoff : α
  nonSpeechEngage : α

/-- `LateReverbReducer`. -/
structure LateReverbReducer (α : Type) where
  history : Vector α lateDelaySamples
  position : Fin lateDelaySamples
  correlation : α
  referencePower : α
  prediction : α
  mix : α
  strength : α
  smoothing : LateReverbSmoothing α

/-- `LateReverbReport`. -/
structure LateReverbReport (α : Type) where
  prediction : α
  evidence : α
  mix : α
  sanitized : SanitizeReport := {}
  hardCeiling : ℕ := 0

/-- What is seen of one sample: what is published for it, the controls that it leaves, and what
    the estimator divided by, if it did. -/
structure LateReverbTurn (α : Type) where
  destination : α
  prediction : α
  evidence : α
  mix : α
  divisor : Option α

namespace LateReverbReducer

/-- The strength that a configuration asks for: `none` is one that is not finite. -/
def configured (strength : Option α) : α :=
  match strength with
  | some strength => SampleOps.clamp strength (Nat.cast 0) (Nat.cast 1)
  | none => Nat.cast 0

/-- `LateReverbReducer::new`. -/
def new (strength : Option α) (smoothing : LateReverbSmoothing α) : LateReverbReducer α where
  history := .replicate lateDelaySamples (Nat.cast 0)
  position := 0
  correlation := Nat.cast 0
  referencePower := Nat.cast 0
  prediction := Nat.cast 0
  mix := Nat.cast 0
  strength := configured strength
  smoothing

/-- One turn of the loop of `process_frame`. -/
def processSample (nonSpeech : α) (reducer : LateReverbReducer α) (report : LateReverbReport α)
    (source : α) : LateReverbTurn α × LateReverbReducer α × LateReverbReport α :=
  let (current, sanitized) := SampleOps.sanitize source report.sanitized
  let delayed := reducer.history[reducer.position]
  let history := reducer.history.set reducer.position current
  -- The position is a `Fin`: past the last place it is zero.
  let position := reducer.position + 1
  let update := (Nat.cast 1 - reducer.smoothing.estimator) * nonSpeech
  let correlation := reducer.correlation + update * (current * delayed - reducer.correlation)
  let referencePower :=
    reducer.referencePower + update * (delayed * delayed - reducer.referencePower)
  let audible := SampleOps.lt (ratio 1 (10 ^ 9)) referencePower
  let estimate :=
    if audible then SampleOps.clamp (correlation / referencePower) (Nat.cast 0) maxPrediction
    else Nat.cast 0
  let prediction := reducer.prediction + update * (estimate - reducer.prediction)
  let evidence := smoothstep minCorrelation fullCorrelation prediction
  let targetMix := reducer.strength * nonSpeech * evidence
  let coefficient :=
    if SampleOps.lt targetMix reducer.mix then reducer.smoothing.speechBackoff
    else reducer.smoothing.nonSpeechEngage
  let mix := targetMix + coefficient * (reducer.mix - targetMix)
  let predictedTail := prediction * delayed
  let requestedCancellation := mix * predictedTail
  let cancellation :=
    SampleOps.clamp requestedCancellation (current - Nat.cast 1) (current + Nat.cast 1)
  let mixed := current - cancellation
  let limited := SampleOps.clamp mixed (-Nat.cast 1) (Nat.cast 1)
  let hardCeiling := report.hardCeiling + if SampleOps.sameBits limited mixed then 0 else 1
  let (destination, sanitized) := SampleOps.sanitize limited sanitized
  ({ destination, prediction, evidence, mix
     divisor := if audible then some referencePower else none },
    { reducer with history, position, correlation, referencePower, prediction, mix },
    { report with evidence, sanitized, hardCeiling })

/-- The loop of `process_frame`. -/
def processSamples (nonSpeech : α) (reducer : LateReverbReducer α)
    (report : LateReverbReport α) :
    List α → List (LateReverbTurn α) × LateReverbReducer α × LateReverbReport α
  | [] => ([], reducer, report)
  | source :: rest =>
    let first := reducer.processSample nonSpeech report source
    let others := first.2.1.processSamples nonSpeech first.2.2 rest
    (first.1 :: others.1, others.2)

/-- How far a frame is from speech: a probability that is not finite counts as speech. -/
def nonSpeech (speechProbability : Option α) : α :=
  let speech :=
    match speechProbability with
    | some probability => smoothstep (ratio 18 100) (ratio 72 100) probability
    | none => Nat.cast 1
  Nat.cast 1 - speech

/-- `LateReverbReducer::process_frame`, with what is seen of every sample. -/
def processFrame (reducer : LateReverbReducer α) (input : List α)
    (speechProbability : Option α) :
    List (LateReverbTurn α) × LateReverbReducer α × LateReverbReport α :=
  let processed := reducer.processSamples (nonSpeech speechProbability)
    { prediction := Nat.cast 0, evidence := Nat.cast 0, mix := Nat.cast 0 } input
  (processed.1, processed.2.1,
    { processed.2.2 with prediction := processed.2.1.prediction, mix := processed.2.1.mix })

/-- Frames, one after another, each with the probability that it is speech. -/
def processFrames (reducer : LateReverbReducer α) :
    List (List α × Option α) → List (List (LateReverbTurn α) × LateReverbReport α)
  | [] => []
  | (input, speechProbability) :: frames =>
    let first := reducer.processFrame input speechProbability
    (first.1, first.2.2) :: first.2.1.processFrames frames

/-- Every sample is seen. -/
theorem length_processSamples (nonSpeech : α) (reducer : LateReverbReducer α)
    (report : LateReverbReport α) (input : List α) :
    (reducer.processSamples nonSpeech report input).1.length = input.length := by
  induction input generalizing reducer report with
  | nil => rfl
  | cons source rest ih => exact congrArg (· + 1) (ih _ _)

/-- Every sample of every frame is seen. -/
theorem length_processFrames (reducer : LateReverbReducer α) (frames : List (List α × Option α)) :
    (reducer.processFrames frames).map (·.1.length) = frames.map (·.1.length) := by
  induction frames generalizing reducer with
  | nil => rfl
  | cons frame frames ih => exact congrArg₂ List.cons (length_processSamples ..) (ih _)

end LateReverbReducer

end Reducer

/-! ## Exact numbers

In a field without rounding, clamping does nothing to what is already within its bounds, and the
smoothed values satisfy their recursion exactly.
-/

section Exact

variable {K : Type} [Field K] [LinearOrder K] [IsStrictOrderedRing K]

/-- Smoothing that moves, and does not jump. -/
structure LateReverbSmoothing.Proper (smoothing : LateReverbSmoothing K) : Prop where
  estimator : smoothing.estimator ∈ Set.Ioo 0 1
  speechBackoff : smoothing.speechBackoff ∈ Set.Ioo 0 1
  nonSpeechEngage : smoothing.nonSpeechEngage ∈ Set.Ioo 0 1

/-- A sample whose controls are within their bounds, and so is what is published for it. -/
structure LateReverbTurn.Bounded (strength : K) (turn : LateReverbTurn K) : Prop where
  prediction : turn.prediction ∈ Set.Icc 0 (18 / 25)
  mix : turn.mix ∈ Set.Icc 0 strength
  destination : turn.destination ∈ Set.Icc (-1) 1
  divisor : ∀ divisor ∈ turn.divisor, divisor ≠ 0

/-- A frame that counts as speech throughout. -/
def Spoken (speechProbability : Option K) : Prop :=
  ∀ probability ∈ speechProbability, 18 / 25 ≤ probability

theorem maxPrediction_exact : (maxPrediction : K) = 18 / 25 := by
  norm_num [maxPrediction, ratio]

namespace LateReverbReducer

theorem nonSpeech_mem (speechProbability : Option K) :
    nonSpeech speechProbability ∈ Set.Icc 0 1 := by
  unfold nonSpeech
  cases speechProbability with
  | none => simp
  | some probability =>
    obtain ⟨hnonneg, hle⟩ := smoothstep_mem (ratio 18 100) (ratio 72 100) probability
    rw [Nat.cast_one]
    constructor <;> linarith

/-- Speech is no less than speech. -/
theorem nonSpeech_of_spoken {speechProbability : Option K} (h : Spoken speechProbability) :
    nonSpeech speechProbability = 0 := by
  unfold nonSpeech
  cases speechProbability with
  | none => simp
  | some probability =>
    have hedges : (ratio 18 100 : K) < ratio 72 100 ∧ (ratio 72 100 : K) = 18 / 25 := by
      constructor <;> norm_num [ratio]
    have hfull : smoothstep (ratio 18 100) (ratio 72 100) probability = 1 :=
      smoothstep_full hedges.1 (hedges.2.le.trans (h probability rfl))
    dsimp only
    rw [hfull, Nat.cast_one, sub_self]

theorem configured_mem (strength : Option K) : configured strength ∈ Set.Icc 0 1 :=
  finiteUnitOf_mem strength

/-- What holds of a reducer over exact numbers. -/
structure Bounded (reducer : LateReverbReducer K) : Prop where
  smoothing : reducer.smoothing.Proper
  strength : reducer.strength ∈ Set.Icc 0 1
  prediction : reducer.prediction ∈ Set.Icc 0 maxPrediction
  mix : reducer.mix ∈ Set.Icc 0 reducer.strength

theorem new_bounded (strength : Option K) {smoothing : LateReverbSmoothing K}
    (h : smoothing.Proper) : (new strength smoothing).Bounded := by
  have hstrength := configured_mem strength
  have hmax : (0 : K) ≤ maxPrediction := by
    rw [maxPrediction_exact]
    norm_num
  refine ⟨h, hstrength, ?_, ?_⟩
  · exact ⟨(Nat.cast_zero (R := K)).ge, (Nat.cast_zero (R := K)).le.trans hmax⟩
  · exact ⟨(Nat.cast_zero (R := K)).ge, (Nat.cast_zero (R := K)).le.trans hstrength.1⟩

variable {reducer : LateReverbReducer K}

/-- The update of the estimators is a share of the way. -/
theorem Bounded.update (h : reducer.Bounded) {nonSpeech : K}
    (hnonSpeech : nonSpeech ∈ Set.Icc 0 1) :
    (Nat.cast 1 - reducer.smoothing.estimator) * nonSpeech ∈ Set.Icc 0 1 := by
  obtain ⟨hpos, hlt⟩ := h.smoothing.estimator
  rw [Nat.cast_one]
  exact Lib.mul_mem ⟨by linarith, by linarith⟩ hnonSpeech

/-- **One sample, over exact numbers**: the prediction goes a share of the way to an estimate within
    its bounds, the mix goes towards a target within its own, and what is requested of the
    cancellation changes the sample by at most full scale. -/
theorem processSample_exact (h : reducer.Bounded) (report : LateReverbReport K)
    (nonSpeech source : K) :
    ∃ estimate ∈ Set.Icc 0 maxPrediction, ∃ evidence ∈ Set.Icc 0 1,
      ∃ coefficient ∈ Set.Icc 0 1, ∃ requested,
      let turned := reducer.processSample nonSpeech report source
      let target := reducer.strength * nonSpeech * evidence
      turned.1.prediction = reducer.prediction +
          (Nat.cast 1 - reducer.smoothing.estimator) * nonSpeech *
            (estimate - reducer.prediction) ∧
        turned.1.mix = target + coefficient * (reducer.mix - target) ∧
        requested = turned.1.mix * (turned.1.prediction * reducer.history[reducer.position]) ∧
        turned.1.destination =
          source - min (source + 1) (max (source - 1) requested) ∧
        (∀ divisor ∈ turned.1.divisor, divisor ≠ 0) ∧
        turned.2.1.smoothing = reducer.smoothing ∧ turned.2.1.strength = reducer.strength ∧
        turned.2.1.prediction = turned.1.prediction ∧ turned.2.1.mix = turned.1.mix ∧
        turned.2.2.hardCeiling = report.hardCeiling := by
  have hmax : (0 : K) ≤ maxPrediction := by
    rw [maxPrediction_exact]
    norm_num
  -- What is cancelled is clamped around the sample, so that nothing is left for the ceiling.
  have hlimited : ∀ requested : K, min (Nat.cast 1) (max (-Nat.cast 1)
      (source - min (source + Nat.cast 1) (max (source - Nat.cast 1) requested))) =
      source - min (source + Nat.cast 1) (max (source - Nat.cast 1) requested) := by
    intro requested
    rw [Nat.cast_one]
    exact Lib.clamp_eq (Lib.sub_clamp_mem zero_le_one source requested)
  unfold processSample
  dsimp only [SampleOps.sanitize]
  refine ⟨_, ?_, _, smoothstep_mem _ _ _, _,
    Lib.ite_mem h.smoothing.speechBackoff h.smoothing.nonSpeechEngage, _, rfl, rfl, rfl, ?_, ?_,
    rfl, rfl, rfl, rfl, ?_⟩
  · -- the estimate is clamped, or zero where nothing is heard
    show (if _ then min maxPrediction (max (Nat.cast 0) _) else Nat.cast 0) ∈ _
    rw [Nat.cast_zero]
    split
    · exact Lib.clamp_mem hmax _
    · exact ⟨le_rfl, hmax⟩
  · exact (hlimited _).trans (by rw [Nat.cast_one])
  · -- a division is made only above a floor
    intro divisor hdivisor
    split at hdivisor
    · next haudible =>
      obtain rfl := Option.some.inj hdivisor
      have hlt : ratio 1 (10 ^ 9) < _ := of_decide_eq_true haudible
      have hfloor : (0 : K) < ratio 1 (10 ^ 9) := by norm_num [ratio]
      exact (hfloor.trans hlt).ne'
    · cases hdivisor
  · exact congrArg (report.hardCeiling + ·) (if_pos (decide_eq_true (hlimited _)))

/-- **One sample** keeps the controls within their bounds, and nothing is limited. -/
theorem processSample_bounded (h : reducer.Bounded) {nonSpeech : K}
    (hnonSpeech : nonSpeech ∈ Set.Icc 0 1) (report : LateReverbReport K) (source : K) :
    (reducer.processSample nonSpeech report source).1.Bounded reducer.strength ∧
      (reducer.processSample nonSpeech report source).2.1.Bounded ∧
      (reducer.processSample nonSpeech report source).2.1.strength = reducer.strength ∧
      (reducer.processSample nonSpeech report source).2.2.hardCeiling = report.hardCeiling := by
  obtain ⟨estimate, hestimate, evidence, hevidence, coefficient, hcoefficient, requested,
    hprediction, hmix, -, hdestination, hdivisor, hsmoothing, hstrength, hleft, hleft', hceiling⟩ :=
    processSample_exact h report nonSpeech source
  -- Both smoothed values are between their last one and their target.
  have hpredictionMem := Lib.lerp_mem h.prediction hestimate (h.update hnonSpeech)
  rw [← hprediction] at hpredictionMem
  have htarget : reducer.strength * nonSpeech * evidence ∈ Set.Icc 0 reducer.strength :=
    Lib.mul_mem (Lib.mul_mem ⟨h.strength.1, le_rfl⟩ hnonSpeech) hevidence
  have hmixMem := Lib.lerp_mem htarget h.mix hcoefficient
  rw [← hmix] at hmixMem
  refine ⟨⟨?_, hmixMem, ?_, hdivisor⟩, ⟨?_, ?_, ?_, ?_⟩, hstrength, hceiling⟩
  · rw [← maxPrediction_exact]
    exact hpredictionMem
  · rw [hdestination]
    exact Lib.sub_clamp_mem zero_le_one source requested
  · rw [hsmoothing]
    exact h.smoothing
  · rw [hstrength]
    exact h.strength
  · rw [hleft]
    exact hpredictionMem
  · rw [hleft', hstrength]
    exact hmixMem

/-- **One sample of speech** passes as it is, if nothing is being cancelled. -/
theorem processSample_spoken (h : reducer.Bounded) (hmix : reducer.mix = 0)
    (report : LateReverbReport K) {source : K} (hsource : source ∈ Set.Icc (-1) 1) :
    (reducer.processSample 0 report source).1.destination = source ∧
      (reducer.processSample 0 report source).2.1.mix = 0 := by
  obtain ⟨estimate, -, evidence, -, coefficient, -, requested, -, hmix', hrequested, hdestination,
    -, -, -, -, hleft, -⟩ := processSample_exact h report 0 source
  have hrest : (reducer.processSample 0 report source).1.mix = 0 := by
    rw [hmix', hmix]
    ring
  have hsilent : requested = 0 := by
    rw [hrequested, hrest, zero_mul]
  obtain ⟨hlow, hhigh⟩ := hsource
  refine ⟨?_, hleft.trans hrest⟩
  rw [hdestination, hsilent, Lib.clamp_eq ⟨by linarith, by linarith⟩, sub_zero]

/-! ## Frames

A frame is its samples at one target of the mix.
-/

/-- The samples of a frame. -/
theorem processSamples_bounded (h : reducer.Bounded) {nonSpeech : K}
    (hnonSpeech : nonSpeech ∈ Set.Icc 0 1) (report : LateReverbReport K) (input : List K) :
    (∀ turn ∈ (reducer.processSamples nonSpeech report input).1,
        turn.Bounded reducer.strength) ∧
      (reducer.processSamples nonSpeech report input).2.1.Bounded ∧
      (reducer.processSamples nonSpeech report input).2.1.strength = reducer.strength ∧
      (reducer.processSamples nonSpeech report input).2.2.hardCeiling = report.hardCeiling := by
  induction input generalizing reducer report with
  | nil => exact ⟨nofun, h, rfl, rfl⟩
  | cons source rest ih =>
    obtain ⟨hturn, hleft, hstrength, hceiling⟩ :=
      processSample_bounded h hnonSpeech report source
    obtain ⟨hturns, hend, hstrength', hceiling'⟩ := ih hleft
      (reducer.processSample nonSpeech report source).2.2
    rw [hstrength] at hturns hstrength'
    rw [hceiling] at hceiling'
    exact ⟨List.forall_mem_cons.mpr ⟨hturn, hturns⟩, hend, hstrength', hceiling'⟩

/-- The samples of a spoken frame. -/
theorem processSamples_spoken (h : reducer.Bounded) (hmix : reducer.mix = 0)
    (report : LateReverbReport K) {input : List K}
    (hinput : ∀ sample ∈ input, sample ∈ Set.Icc (-1) 1) :
    (reducer.processSamples 0 report input).1.map (·.destination) = input ∧
      (reducer.processSamples 0 report input).2.1.mix = 0 := by
  induction input generalizing reducer report with
  | nil => exact ⟨rfl, hmix⟩
  | cons source rest ih =>
    obtain ⟨hsource, hrest⟩ := List.forall_mem_cons.mp hinput
    obtain ⟨hdestination, hmix'⟩ := processSample_spoken h hmix report hsource
    obtain ⟨-, hleft, -, -⟩ := processSample_bounded h ⟨le_rfl, zero_le_one⟩ report source
    obtain ⟨hturns, hend⟩ := ih hleft hmix' (reducer.processSample 0 report source).2.2 hrest
    exact ⟨congrArg₂ List.cons hdestination hturns, hend⟩

/-- **One frame.** -/
theorem processFrame_bounded (h : reducer.Bounded) (input : List K)
    (speechProbability : Option K) :
    (∀ turn ∈ (reducer.processFrame input speechProbability).1,
        turn.Bounded reducer.strength) ∧
      (reducer.processFrame input speechProbability).2.1.Bounded ∧
      (reducer.processFrame input speechProbability).2.1.strength = reducer.strength ∧
      (reducer.processFrame input speechProbability).2.2.hardCeiling = 0 :=
  processSamples_bounded h (nonSpeech_mem speechProbability) _ input

/-- A frame that counts as speech. -/
theorem processFrame_spoken (h : reducer.Bounded) (hmix : reducer.mix = 0) {input : List K}
    (hinput : ∀ sample ∈ input, sample ∈ Set.Icc (-1) 1) {speechProbability : Option K}
    (hspoken : Spoken speechProbability) :
    (reducer.processFrame input speechProbability).1.map (·.destination) = input ∧
      (reducer.processFrame input speechProbability).2.1.mix = 0 := by
  unfold processFrame
  rw [nonSpeech_of_spoken hspoken]
  exact processSamples_spoken h hmix _ hinput

/-- **Every frame.** -/
theorem processFrames_bounded (h : reducer.Bounded) (frames : List (List K × Option K)) :
    ∀ frame ∈ reducer.processFrames frames, frame.2.hardCeiling = 0 ∧
      ∀ turn ∈ frame.1, turn.Bounded reducer.strength := by
  induction frames generalizing reducer with
  | nil => exact nofun
  | cons frame frames ih =>
    obtain ⟨hturns, hleft, hstrength, hceiling⟩ := processFrame_bounded h frame.1 frame.2
    have hrest := ih hleft
    rw [hstrength] at hrest
    exact List.forall_mem_cons.mpr ⟨⟨hceiling, hturns⟩, hrest⟩

/-- Frames that all count as speech. -/
theorem processFrames_spoken (h : reducer.Bounded) (hmix : reducer.mix = 0)
    {spoken : List (List K × Option K)}
    (hsamples : ∀ frame ∈ spoken, ∀ sample ∈ frame.1, sample ∈ Set.Icc (-1) 1)
    (hspoken : ∀ frame ∈ spoken, Spoken frame.2) (rest : List (List K × Option K)) :
    ((reducer.processFrames (spoken ++ rest)).take spoken.length).map
      (fun frame => frame.1.map (·.destination)) = spoken.map Prod.fst := by
  induction spoken generalizing reducer with
  | nil => rfl
  | cons frame spoken ih =>
    obtain ⟨hsample, hsamples'⟩ := List.forall_mem_cons.mp hsamples
    obtain ⟨hspeech, hspoken'⟩ := List.forall_mem_cons.mp hspoken
    obtain ⟨-, hleft, -, -⟩ := processFrame_bounded h frame.1 frame.2
    obtain ⟨hturns, hmix'⟩ := processFrame_spoken h hmix hsample hspeech
    exact congrArg₂ List.cons hturns (ih hleft hmix' hsamples' hspoken')

end LateReverbReducer

/-- **The reducer stays bounded.** For every strength, every proper smoothing, and every sequence
    of frames at most full scale with any probabilities: after every sample the prediction and the
    mix are within their bounds, the estimator has not divided by zero, and what is published is
    at most full scale, without the ceiling; and as long as every frame counts as speech, what is
    published is what came in. -/
theorem lateReverb_bounded {K : Type} [Field K] [LinearOrder K] [IsStrictOrderedRing K]
    (strength : Option K) {smoothing : LateReverbSmoothing K} (hsmoothing : smoothing.Proper)
    {frames : List (List K × Option K)}
    (hframes : ∀ frame ∈ frames, ∀ sample ∈ frame.1, sample ∈ Set.Icc (-1) 1) :
    let processed := (LateReverbReducer.new strength smoothing).processFrames frames
    processed.map (·.1.length) = frames.map (·.1.length) ∧
      (∀ frame ∈ processed, frame.2.hardCeiling = 0 ∧
        ∀ turn ∈ frame.1, turn.Bounded (LateReverbReducer.configured strength)) ∧
      ∀ spoken rest, frames = spoken ++ rest → (∀ frame ∈ spoken, Spoken frame.2) →
        (processed.take spoken.length).map (fun frame => frame.1.map (·.destination)) =
          spoken.map Prod.fst := by
  intro processed
  have hnew := LateReverbReducer.new_bounded strength hsmoothing
  refine ⟨LateReverbReducer.length_processFrames _ _,
    LateReverbReducer.processFrames_bounded hnew frames, fun spoken rest hsplit hspoken => ?_⟩
  subst hsplit
  exact LateReverbReducer.processFrames_spoken hnew Nat.cast_zero
    (fun frame hframe => hframes frame (List.mem_append_left _ hframe)) hspoken rest

/-- A spoken frame, a silent one, and one whose probability is not finite. -/
theorem lateReverb_bounded_rational :
    ((LateReverbReducer.new (some (7 / 20 : ℚ)) ⟨1 / 2, 1 / 3, 1 / 4⟩).processFrames
        [([1, -1], some 1), ([1 / 2], some 0), ([0], none)]).map (·.1.length) = [2, 1, 1] ∧
      ∀ frame ∈ (LateReverbReducer.new (some (7 / 20 : ℚ)) ⟨1 / 2, 1 / 3, 1 / 4⟩).processFrames
          [([1, -1], some 1), ([1 / 2], some 0), ([0], none)],
        frame.2.hardCeiling = 0 ∧ ∀ turn ∈ frame.1,
          turn.Bounded (LateReverbReducer.configured (some (7 / 20 : ℚ))) := by
  have hproper : LateReverbSmoothing.Proper (⟨1 / 2, 1 / 3, 1 / 4⟩ : LateReverbSmoothing ℚ) := by
    refine ⟨?_, ?_, ?_⟩ <;> norm_num
  obtain ⟨hlength, hbounded, -⟩ := lateReverb_bounded (some (7 / 20 : ℚ)) hproper
    (show ∀ frame ∈ ([([1, -1], some 1), ([1 / 2], some 0), ([0], none)] :
      List (List ℚ × Option ℚ)), ∀ sample ∈ frame.1, sample ∈ Set.Icc (-1) 1 by norm_num)
  exact ⟨hlength, hbounded⟩

end Exact

end Noire
