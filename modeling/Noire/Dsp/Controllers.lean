import Noire.Dsp.Arithmetic
import Noire.Lib.Hysteresis
import Noire.Lib.Run

namespace Noire

open Lib (Hysteresis)

/-!
# Controllers with hysteresis

The strengths that follow speech and the confidence-weighted blend, over any arithmetic.

* `updateFlag` — the flag of two of them, with the thresholds of each; `updateFlag_eq`: it is a
  flag with hysteresis;
* `SpeechPreservingStrength` and `AdaptiveSuppressionController` — the strengths, which share
  `speechFactor`, `movedFactor` and `effectiveStrength`; `ConfidenceWeightedBlend` — the blend;
* `SuppressionCall` and `BlendCall` — the calls on them;
* `Bounded` and `Sound` — what holds of each over exact numbers, with the frames since it was
  reset;
* `preserving_bounded` and `controllers_hold` — so over every sequence of calls what is computed
  stays within its bounds, and the flags follow their frames.

The code is written over any arithmetic, so that the machine's numbers and the exact ones run the
same definitions.  Over the exact ones every factor is a mix of two values within the bounds,
which keeps it there; this is `Lib/Smoothing.lean`.  The flags are counters with two thresholds,
which is `Lib/Hysteresis.lean`: `updateFlag_eq` shows that the code's flag is the library's, and
the history of the frames since a reset says when it is up.
-/

/-! ## The flag

Both controllers hold a flag by hysteresis, and count the frames that speak against it.
-/

section Source

variable {α : Type} [Add α] [Sub α] [Mul α] [Div α] [NatCast α] [SampleOps α] [ControlOps α]

/-- What `begin_frame` does with the flag of a controller. -/
def updateFlag (enter exit : α) (confirm : ℕ) (flag : Hysteresis) (value : α) : Hysteresis :=
  if ControlOps.le enter value then ⟨true, 0⟩
  else if flag.active && ControlOps.le value exit then
    let lows := min (flag.lows + 1) (2 ^ 8 - 1)
    if confirm ≤ lows then ⟨false, 0⟩ else ⟨flag.active, lows⟩
  else ⟨flag.active, 0⟩

/-! ## Strengths that follow speech -/

/-- `SPEECH_VAD_LOW`. -/
def speechVadLow : α := ratio 20 100

/-- `SPEECH_VAD_HIGH`. -/
def speechVadHigh : α := ratio 80 100

/-- `SPEECH_STRENGTH_RATIO`. -/
def speechStrengthRatio : α := ratio 55 100 / ratio 70 100

/-- `SPEECH_ENTER_PROBABILITY`. -/
def speechEnterProbability : α := ratio 65 100

/-- `SPEECH_EXIT_PROBABILITY`. -/
def speechExitProbability : α := ratio 25 100

-- The literals are the data nearest to `0.65` and, of the quotient, to `0.55 / 0.70`.
example : (speechEnterProbability : F32) = ⟨0x3F266666⟩ ∧
    (speechStrengthRatio : F32) = ⟨0x3F492493⟩ := by decide +kernel

/-- `NON_SPEECH_CONFIRM_FRAMES`. -/
def nonSpeechConfirmFrames : ℕ := 3

/-- The factor that a share of speech asks for. -/
def speechFactor (speech : α) : α :=
  Nat.cast 1 + (speechStrengthRatio - Nat.cast 1) * speech

/-- The factor after a sample: it moves towards its target, down by the attack and up by the
    release. -/
def movedFactor (attackCoefficient releaseCoefficient targetFactor factor : α) : α :=
  let coefficient :=
    if SampleOps.lt targetFactor factor then attackCoefficient else releaseCoefficient
  targetFactor + coefficient * (factor - targetFactor)

/-- What a factor makes of the strength that is requested: its ends are left alone. -/
def effectiveStrength (factor baseStrength : α) : α :=
  if ControlOps.le baseStrength (Nat.cast 0) || ControlOps.le (Nat.cast 1) baseStrength then
    baseStrength
  else baseStrength * factor

/-- A call on either strength. -/
inductive SuppressionCall (α : Type)
  | beginFrame (vadProbability : Option α)
  | next (baseStrength : Option α)
  | reset

/-- `SpeechPreservingStrength`. -/
structure SpeechPreservingStrength (α : Type) where
  factor : α
  targetFactor : α
  attackCoefficient : α
  releaseCoefficient : α

namespace SpeechPreservingStrength

/-- `SpeechPreservingStrength::new`, with the coefficients that `smoothing_coefficient` gives for
    its two times. -/
def new (attackCoefficient releaseCoefficient : α) : SpeechPreservingStrength α where
  factor := Nat.cast 1
  targetFactor := Nat.cast 1
  attackCoefficient
  releaseCoefficient

/-- `SpeechPreservingStrength::begin_frame`. -/
def beginFrame (controller : SpeechPreservingStrength α) (vadProbability : Option α) :
    SpeechPreservingStrength α :=
  let probability := finiteUnitOf vadProbability
  { controller with
    targetFactor := speechFactor (smoothstep speechVadLow speechVadHigh probability) }

/-- `SpeechPreservingStrength::next`. -/
def next (controller : SpeechPreservingStrength α) (baseStrength : Option α) :
    α × SpeechPreservingStrength α :=
  let factor := movedFactor controller.attackCoefficient controller.releaseCoefficient
    controller.targetFactor controller.factor
  (effectiveStrength factor (finiteUnitOf baseStrength), { controller with factor })

/-- `SpeechPreservingStrength::reset`. -/
def reset (controller : SpeechPreservingStrength α) : SpeechPreservingStrength α :=
  { controller with factor := Nat.cast 1, targetFactor := Nat.cast 1 }

/-- The strength after a call. -/
def make (controller : SpeechPreservingStrength α) :
    SuppressionCall α → SpeechPreservingStrength α
  | .beginFrame vadProbability => controller.beginFrame vadProbability
  | .next baseStrength => (controller.next baseStrength).2
  | .reset => controller.reset

end SpeechPreservingStrength

/-- `AdaptiveSuppressionController`. -/
structure AdaptiveSuppressionController (α : Type) where
  factor : α
  targetFactor : α
  attackCoefficient : α
  releaseCoefficient : α
  speechActive : Bool
  nonSpeechFrames : ℕ

namespace AdaptiveSuppressionController

/-- `AdaptiveSuppressionController::new`, with the coefficients that `smoothing_coefficient` gives
    for its two times. -/
def new (attackCoefficient releaseCoefficient : α) : AdaptiveSuppressionController α where
  factor := Nat.cast 1
  targetFactor := Nat.cast 1
  attackCoefficient
  releaseCoefficient
  speechActive := false
  nonSpeechFrames := 0

/-- The flag of the controller. -/
def flag (controller : AdaptiveSuppressionController α) : Hysteresis :=
  ⟨controller.speechActive, controller.nonSpeechFrames⟩

/-- `AdaptiveSuppressionController::begin_frame`. -/
def beginFrame (controller : AdaptiveSuppressionController α) (vadProbability : Option α) :
    AdaptiveSuppressionController α :=
  let probability := finiteUnitOf vadProbability
  let flag := updateFlag speechEnterProbability speechExitProbability nonSpeechConfirmFrames
    controller.flag probability
  let speech := smoothstep speechVadLow speechVadHigh probability
  let speech := if flag.active then ControlOps.max speech (ratio 25 100) else speech
  { controller with
    targetFactor := speechFactor speech
    speechActive := flag.active
    nonSpeechFrames := flag.lows }

/-- `AdaptiveSuppressionController::next`. -/
def next (controller : AdaptiveSuppressionController α) (baseStrength : Option α) :
    α × AdaptiveSuppressionController α :=
  let factor := movedFactor controller.attackCoefficient controller.releaseCoefficient
    controller.targetFactor controller.factor
  (effectiveStrength factor (finiteUnitOf baseStrength), { controller with factor })

/-- `AdaptiveSuppressionController::reset`. -/
def reset (controller : AdaptiveSuppressionController α) : AdaptiveSuppressionController α :=
  { controller with
    factor := Nat.cast 1
    targetFactor := Nat.cast 1
    speechActive := false
    nonSpeechFrames := 0 }

end AdaptiveSuppressionController

namespace SuppressionCall

/-- The controller after a call. -/
def make (controller : AdaptiveSuppressionController α) :
    SuppressionCall α → AdaptiveSuppressionController α
  | .beginFrame vadProbability => controller.beginFrame vadProbability
  | .next baseStrength => (controller.next baseStrength).2
  | .reset => controller.reset

/-- The frames since the last reset, with one more call. -/
def frames (frames : List (Option α)) : SuppressionCall α → List (Option α)
  | .beginFrame vadProbability => frames ++ [vadProbability]
  | .next _ => frames
  | .reset => []

end SuppressionCall

/-! ## The blend -/

/-- `PERSONALIZED_ENTER_PROBABILITY`. -/
def personalizedEnterProbability : α := ratio 80 100

/-- `PERSONALIZED_EXIT_PROBABILITY`. -/
def personalizedExitProbability : α := ratio 55 100

/-- `PERSONALIZED_EXIT_FRAMES`. -/
def personalizedExitFrames : ℕ := 3

/-- `ConfidenceWeightedBlend`. -/
structure ConfidenceWeightedBlend (α : Type) where
  mix : α
  targetMix : α
  personalizedActive : Bool
  lowConfidenceFrames : ℕ
  engageCoefficient : α
  fallbackCoefficient : α

namespace ConfidenceWeightedBlend

/-- `ConfidenceWeightedBlend::new`, with the coefficients that `smoothing_coefficient` gives for
    its two times. -/
def new (engageCoefficient fallbackCoefficient : α) : ConfidenceWeightedBlend α where
  mix := Nat.cast 0
  targetMix := Nat.cast 0
  personalizedActive := false
  lowConfidenceFrames := 0
  engageCoefficient
  fallbackCoefficient

/-- The flag of the blend. -/
def flag (blend : ConfidenceWeightedBlend α) : Hysteresis :=
  ⟨blend.personalizedActive, blend.lowConfidenceFrames⟩

/-- `ConfidenceWeightedBlend::begin_frame`. -/
def beginFrame (blend : ConfidenceWeightedBlend α) (confidence : Option α) :
    ConfidenceWeightedBlend α :=
  let confidence := finiteUnitOf confidence
  let flag := updateFlag personalizedEnterProbability personalizedExitProbability
    personalizedExitFrames blend.flag confidence
  { blend with
    targetMix :=
      if flag.active then
        smoothstep personalizedExitProbability personalizedEnterProbability confidence
      else Nat.cast 0
    personalizedActive := flag.active
    lowConfidenceFrames := flag.lows }

/-- `ConfidenceWeightedBlend::next`. -/
def next (blend : ConfidenceWeightedBlend α) : α × ConfidenceWeightedBlend α :=
  -- The other way round from the suppression: a rise is what is engaged.
  let coefficient :=
    if SampleOps.lt blend.mix blend.targetMix then blend.engageCoefficient
    else blend.fallbackCoefficient
  let mix := blend.targetMix + coefficient * (blend.mix - blend.targetMix)
  (mix, { blend with mix })

/-- `ConfidenceWeightedBlend::reset`. -/
def reset (blend : ConfidenceWeightedBlend α) : ConfidenceWeightedBlend α :=
  { blend with
    mix := Nat.cast 0
    targetMix := Nat.cast 0
    personalizedActive := false
    lowConfidenceFrames := 0 }

end ConfidenceWeightedBlend

/-- A call on the blend. -/
inductive BlendCall (α : Type)
  | beginFrame (confidence : Option α)
  | next
  | reset

namespace BlendCall

/-- The blend after a call. -/
def make (blend : ConfidenceWeightedBlend α) : BlendCall α → ConfidenceWeightedBlend α
  | .beginFrame confidence => blend.beginFrame confidence
  | .next => blend.next.2
  | .reset => blend.reset

/-- The frames since the last reset, with one more call. -/
def frames (frames : List (Option α)) : BlendCall α → List (Option α)
  | .beginFrame confidence => frames ++ [confidence]
  | .next => frames
  | .reset => []

end BlendCall

end Source

/-! ## Exact numbers -/

section Exact

variable {K : Type} [Field K] [LinearOrder K]

/-- A frame that reaches a threshold; one that is invalid counts as zero. -/
def Reaches (threshold : K) (frame : Option K) : Prop := threshold ≤ frame.getD 0

/-- A frame at or below a threshold. -/
def AtMost (threshold : K) (frame : Option K) : Prop := frame.getD 0 ≤ threshold

instance (threshold : K) : DecidablePred (Reaches threshold) :=
  fun _ => inferInstanceAs (Decidable (_ ≤ _))

instance (threshold : K) : DecidablePred (AtMost threshold) :=
  fun _ => inferInstanceAs (Decidable (_ ≤ _))

/-- A flag that follows its frames. -/
abbrev Follows (enter exit : K) (confirm : ℕ) (frames : List (Option K)) (flag : Hysteresis) :
    Prop :=
  Hysteresis.Tracks (Reaches enter) (AtMost exit) confirm frames flag

variable {enter exit : K} {confirm : ℕ} {frames : List (Option K)}

/-- A frame is heard to reach a threshold of the unit interval if it does. -/
theorem reaches_iff (hpos : 0 < enter) (hle : enter ≤ 1) (frame : Option K) :
    ControlOps.le enter (finiteUnitOf frame) = true ↔ Reaches enter frame := by
  refine decide_eq_true_iff.trans ?_
  cases frame with
  | none =>
    show enter ≤ Nat.cast 0 ↔ enter ≤ 0
    rw [Nat.cast_zero]
  | some value =>
    show enter ≤ min (Nat.cast 1) (max (Nat.cast 0) value) ↔ enter ≤ value
    rw [Nat.cast_zero, Nat.cast_one, le_min_iff, le_max_iff]
    exact ⟨fun h => h.2.resolve_left hpos.not_ge, fun h => ⟨hle, .inr h⟩⟩

theorem atMost_iff (hnonneg : 0 ≤ exit) (hlt : exit < 1) (frame : Option K) :
    ControlOps.le (finiteUnitOf frame) exit = true ↔ AtMost exit frame := by
  refine decide_eq_true_iff.trans ?_
  cases frame with
  | none =>
    show Nat.cast 0 ≤ exit ↔ 0 ≤ exit
    rw [Nat.cast_zero]
  | some value =>
    show min (Nat.cast 1) (max (Nat.cast 0) value) ≤ exit ↔ value ≤ exit
    rw [Nat.cast_zero, Nat.cast_one, min_le_iff, max_le_iff]
    exact ⟨fun h => (h.resolve_left hlt.not_ge).2, fun h => .inr ⟨hnonneg, h⟩⟩

/-- **The flag has hysteresis**, in the frames as they are given. -/
theorem updateFlag_eq (hnonneg : 0 ≤ exit) (hlt : exit < enter) (hle : enter ≤ 1)
    (hconfirm : confirm ≤ 2 ^ 8 - 1) (flag : Hysteresis) (frame : Option K) :
    updateFlag enter exit confirm flag (finiteUnitOf frame) =
      flag.step (Reaches enter) (AtMost exit) confirm frame := by
  unfold updateFlag Hysteresis.step
  have hlow : (flag.active && ControlOps.le (finiteUnitOf frame) exit) = true ↔
      flag.active = true ∧ AtMost exit frame := by
    rw [Bool.and_eq_true, atMost_iff hnonneg (hlt.trans_le hle)]
  have hlast : confirm ≤ min (flag.lows + 1) (2 ^ 8 - 1) ↔ confirm ≤ flag.lows + 1 := by
    rw [le_min_iff, and_iff_left hconfirm]
  simp only [reaches_iff (hnonneg.trans_lt hlt) hle, hlow, hlast]
  split
  · rfl
  · split
    · split
      · rfl
      next hmore => rw [min_eq_left (by omega)]
    · rfl

/-- One more frame. -/
theorem Follows.update {flag : Hysteresis} (h : Follows enter exit confirm frames flag)
    (hnonneg : 0 ≤ exit) (hlt : exit < enter) (hle : enter ≤ 1) (hconfirm : confirm ≤ 2 ^ 8 - 1)
    (frame : Option K) : Follows enter exit confirm (frames ++ [frame])
      (updateFlag enter exit confirm flag (finiteUnitOf frame)) := by
  rw [updateFlag_eq hnonneg hlt hle hconfirm]
  exact h.step (fun _ henter hexit => (hlt.trans_le henter).not_ge hexit) frame

variable [IsStrictOrderedRing K]

/-! ### Strengths that follow speech -/

theorem speechFactor_mem {speech : K} (h : speech ∈ Set.Icc 0 1) :
    speechFactor speech ∈ Set.Icc (55 / 70 : K) 1 := by
  have hratio : (speechStrengthRatio : K) = 55 / 70 := by
    norm_num [speechStrengthRatio, ratio]
  unfold speechFactor
  rw [hratio, Nat.cast_one, mul_comm]
  exact Lib.lerp_mem ⟨by norm_num, le_rfl⟩ ⟨le_rfl, by norm_num⟩ h

theorem movedFactor_mem {attack release target factor low high : K}
    (hattack : attack ∈ Set.Ioo 0 1) (hrelease : release ∈ Set.Ioo 0 1)
    (htarget : target ∈ Set.Icc low high) (hfactor : factor ∈ Set.Icc low high) :
    movedFactor attack release target factor ∈ Set.Icc low high :=
  Lib.lerp_mem htarget hfactor (Lib.ite_mem hattack hrelease)

/-- **No strength exceeds the one requested.** -/
theorem effectiveStrength_mem {factor : K} (h : factor ∈ Set.Icc (55 / 70) 1)
    (baseStrength : Option K) : effectiveStrength factor (finiteUnitOf baseStrength) ∈
      Set.Icc 0 (finiteUnitOf baseStrength) := by
  have hbase := finiteUnitOf_mem baseStrength
  unfold effectiveStrength
  split
  · exact ⟨hbase.1, le_rfl⟩
  · exact Lib.mul_mem ⟨hbase.1, le_rfl⟩ ⟨(show (0 : K) ≤ 55 / 70 by norm_num).trans h.1, h.2⟩

/-- A factor that is not reduced. -/
theorem fullFactor_mem : (Nat.cast 1 : K) ∈ Set.Icc (55 / 70) 1 := by
  rw [Nat.cast_one]
  constructor <;> norm_num

namespace SpeechPreservingStrength

/-- What holds of a strength. -/
structure Bounded (controller : SpeechPreservingStrength K) : Prop where
  attack : controller.attackCoefficient ∈ Set.Ioo 0 1
  release : controller.releaseCoefficient ∈ Set.Ioo 0 1
  factor : controller.factor ∈ Set.Icc (55 / 70) 1
  target : controller.targetFactor ∈ Set.Icc (55 / 70) 1

/-- One call keeps it. -/
theorem Bounded.make {controller : SpeechPreservingStrength K} (h : controller.Bounded)
    (call : SuppressionCall K) : (controller.make call).Bounded := by
  cases call with
  | beginFrame vadProbability =>
    exact ⟨h.attack, h.release, h.factor, speechFactor_mem (smoothstep_mem _ _ _)⟩
  | next baseStrength =>
    exact ⟨h.attack, h.release, movedFactor_mem h.attack h.release h.target h.factor, h.target⟩
  | reset => exact ⟨h.attack, h.release, fullFactor_mem, fullFactor_mem⟩

end SpeechPreservingStrength

namespace AdaptiveSuppressionController

/-- What holds of a controller, with the frames since it was reset. -/
structure Sound (frames : List (Option K)) (controller : AdaptiveSuppressionController K) :
    Prop where
  flag : Follows speechEnterProbability speechExitProbability nonSpeechConfirmFrames frames
    controller.flag
  attack : controller.attackCoefficient ∈ Set.Ioo 0 1
  release : controller.releaseCoefficient ∈ Set.Ioo 0 1
  factor : controller.factor ∈ Set.Icc (55 / 70) 1
  target : controller.targetFactor ∈ Set.Icc (55 / 70) 1

variable {controller : AdaptiveSuppressionController K}

theorem new_sound {attack release : K} (hattack : attack ∈ Set.Ioo 0 1)
    (hrelease : release ∈ Set.Ioo 0 1) : (new attack release).Sound [] :=
  ⟨.nil (by decide), hattack, hrelease, fullFactor_mem, fullFactor_mem⟩

theorem Sound.reset (h : controller.Sound frames) : controller.reset.Sound [] :=
  new_sound h.attack h.release

/-- **A frame** moves the target within its bounds. -/
theorem Sound.beginFrame (h : controller.Sound frames) (vadProbability : Option K) :
    (controller.beginFrame vadProbability).Sound (frames ++ [vadProbability]) := by
  refine ⟨?_, h.attack, h.release, h.factor, ?_⟩
  · refine h.flag.update ?_ ?_ ?_ (by decide) vadProbability
    all_goals norm_num [speechEnterProbability, speechExitProbability, ratio]
  · have hquarter : (ratio 25 100 : K) ∈ Set.Icc 0 1 := by
      constructor <;> norm_num [ratio]
    have hspeech := smoothstep_mem speechVadLow speechVadHigh (finiteUnitOf vadProbability)
    refine speechFactor_mem ?_
    split
    · exact ⟨hspeech.1.trans (le_max_left _ _), max_le hspeech.2 hquarter.2⟩
    · exact hspeech

/-- **A sample** moves the factor towards the target, and reduces what is requested. -/
theorem Sound.next (h : controller.Sound frames) (baseStrength : Option K) :
    (controller.next baseStrength).2.Sound frames ∧
      (controller.next baseStrength).1 ∈ Set.Icc 0 (finiteUnitOf baseStrength) := by
  have hfactor := movedFactor_mem h.attack h.release h.target h.factor
  exact ⟨⟨h.flag, h.attack, h.release, hfactor, h.target⟩, effectiveStrength_mem hfactor _⟩

/-- After every sequence of calls the controller is sound. -/
theorem sound_foldl {attack release : K} (hattack : attack ∈ Set.Ioo 0 1)
    (hrelease : release ∈ Set.Ioo 0 1) (calls : List (SuppressionCall K)) :
    (calls.foldl SuppressionCall.make (new attack release)).Sound
      (calls.foldl SuppressionCall.frames []) := by
  refine Lib.foldl_beside SuppressionCall.frames SuppressionCall.make Sound
    (new_sound hattack hrelease) (fun frames controller call h => ?_) calls
  cases call with
  | beginFrame vadProbability => exact h.beginFrame vadProbability
  | next baseStrength => exact (h.next baseStrength).1
  | reset => exact h.reset

end AdaptiveSuppressionController

/-! ### The blend -/

namespace ConfidenceWeightedBlend

/-- What holds of a blend, with the frames since it was reset. -/
structure Sound (frames : List (Option K)) (blend : ConfidenceWeightedBlend K) : Prop where
  flag : Follows personalizedEnterProbability personalizedExitProbability personalizedExitFrames
    frames blend.flag
  engage : blend.engageCoefficient ∈ Set.Ioo 0 1
  fallback : blend.fallbackCoefficient ∈ Set.Ioo 0 1
  mix : blend.mix ∈ Set.Icc 0 1
  target : blend.targetMix ∈ Set.Icc 0 1
  generic : blend.personalizedActive = false → blend.targetMix = 0

variable {blend : ConfidenceWeightedBlend K}

theorem new_sound {engage fallback : K} (hengage : engage ∈ Set.Ioo 0 1)
    (hfallback : fallback ∈ Set.Ioo 0 1) : (new engage fallback).Sound [] := by
  have hzero : (Nat.cast 0 : K) ∈ Set.Icc 0 1 := by
    rw [Nat.cast_zero]
    exact ⟨le_rfl, zero_le_one⟩
  exact ⟨.nil (by decide), hengage, hfallback, hzero, hzero, fun _ => Nat.cast_zero⟩

theorem Sound.reset (h : blend.Sound frames) : blend.reset.Sound [] :=
  new_sound h.engage h.fallback

/-- **A frame** moves the target, which is the generic path while the flag is down. -/
theorem Sound.beginFrame (h : blend.Sound frames) (confidence : Option K) :
    (blend.beginFrame confidence).Sound (frames ++ [confidence]) := by
  refine ⟨?_, h.engage, h.fallback, h.mix, ?_, fun hdown => ?_⟩
  · refine h.flag.update ?_ ?_ ?_ (by decide) confidence
    all_goals norm_num [personalizedEnterProbability, personalizedExitProbability, ratio]
  · show (if _ then _ else Nat.cast 0) ∈ _
    split
    · exact smoothstep_mem _ _ _
    · rw [Nat.cast_zero]
      exact ⟨le_rfl, zero_le_one⟩
  · show (if (blend.beginFrame confidence).personalizedActive = true then _ else Nat.cast 0) = 0
    rw [if_neg (Bool.eq_false_iff.mp hdown), Nat.cast_zero]

/-- **A sample** moves the mix towards the target. -/
theorem Sound.next (h : blend.Sound frames) : blend.next.2.Sound frames :=
  ⟨h.flag, h.engage, h.fallback, Lib.lerp_mem h.target h.mix (Lib.ite_mem h.engage h.fallback),
    h.target, h.generic⟩

/-- **While the flag is down** no call raises the mix. -/
theorem Sound.make_mix_le (h : blend.Sound frames) (hdown : blend.personalizedActive = false)
    (call : BlendCall K) : (call.make blend).mix ≤ blend.mix := by
  cases call with
  | beginFrame confidence => exact le_rfl
  | next =>
    show blend.targetMix + _ * (blend.mix - blend.targetMix) ≤ blend.mix
    rw [h.generic hdown, zero_add, sub_zero]
    exact mul_le_of_le_one_left h.mix.1 (Lib.ite_mem h.engage h.fallback).2
  | reset => exact (Nat.cast_zero (R := K)).le.trans h.mix.1

/-- After every sequence of calls the blend is sound. -/
theorem sound_foldl {engage fallback : K} (hengage : engage ∈ Set.Ioo 0 1)
    (hfallback : fallback ∈ Set.Ioo 0 1) (calls : List (BlendCall K)) :
    (calls.foldl BlendCall.make (new engage fallback)).Sound
      (calls.foldl BlendCall.frames []) := by
  refine Lib.foldl_beside BlendCall.frames BlendCall.make Sound
    (new_sound hengage hfallback) (fun frames blend call h => ?_) calls
  cases call with
  | beginFrame confidence => exact h.beginFrame confidence
  | next => exact h.next
  | reset => exact h.reset

end ConfidenceWeightedBlend

end Exact

/-- **Speech is preserved, within bounds.** Whatever the coefficients, and in every sequence of
    calls: the factor is within its bounds, and no strength exceeds the one requested. -/
theorem preserving_bounded {K : Type} [Field K] [LinearOrder K] [IsStrictOrderedRing K]
    {attack release : K} (hattack : attack ∈ Set.Ioo 0 1) (hrelease : release ∈ Set.Ioo 0 1)
    (calls : List (SuppressionCall K)) :
    let controller := calls.foldl SpeechPreservingStrength.make (.new attack release)
    controller.factor ∈ Set.Icc (55 / 70) 1 ∧
      ∀ requested, (controller.next requested).1 ∈ Set.Icc 0 (finiteUnitOf requested) := by
  intro controller
  have h : controller.Bounded := by
    refine (Lib.Run.of_foldl SpeechPreservingStrength.make _ calls).invariant
      SpeechPreservingStrength.Bounded ⟨hattack, hrelease, fullFactor_mem, fullFactor_mem⟩ ?_
    rintro controller call _ h - rfl
    exact h.make call
  exact ⟨h.factor, fun requested =>
    effectiveStrength_mem (movedFactor_mem h.attack h.release h.target h.factor) requested⟩

/-- **Controllers with hysteresis.** Whatever their coefficients, and in every sequence of calls on
    them: each flag is up exactly while, since the last reset, a frame reached the upper threshold
    and no three in a row after it were at or below the lower one, and fewer than three are ever
    counted; the suppression factor is within its bounds, so that no strength exceeds the one
    requested; and the mix is within the unit interval, and does not rise while its flag is
    down. -/
theorem controllers_hold {K : Type} [Field K] [LinearOrder K] [IsStrictOrderedRing K]
    {attack release engage fallback : K} (hattack : attack ∈ Set.Ioo 0 1)
    (hrelease : release ∈ Set.Ioo 0 1) (hengage : engage ∈ Set.Ioo 0 1)
    (hfallback : fallback ∈ Set.Ioo 0 1) :
    (∀ calls : List (SuppressionCall K),
      let controller := calls.foldl SuppressionCall.make (.new attack release)
      (controller.speechActive = true ↔
          Lib.Held (Reaches speechEnterProbability) (AtMost speechExitProbability) 3
            (calls.foldl SuppressionCall.frames [])) ∧
        controller.nonSpeechFrames < 3 ∧
        controller.factor ∈ Set.Icc (55 / 70) 1 ∧
        ∀ requested, (controller.next requested).1 ∈ Set.Icc 0 (finiteUnitOf requested) ∧
          ∀ strength ∈ requested, 0 ≤ strength → (controller.next requested).1 ≤ strength) ∧
    ∀ calls : List (BlendCall K),
      let blend := calls.foldl BlendCall.make (.new engage fallback)
      (blend.personalizedActive = true ↔
          Lib.Held (Reaches personalizedEnterProbability) (AtMost personalizedExitProbability) 3
            (calls.foldl BlendCall.frames [])) ∧
        blend.lowConfidenceFrames < 3 ∧
        blend.mix ∈ Set.Icc 0 1 ∧
        (blend.personalizedActive = false → ∀ call : BlendCall K,
          (call.make blend).mix ≤ blend.mix) := by
  refine ⟨fun calls => ?_, fun calls => ?_⟩
  · intro controller
    have h := AdaptiveSuppressionController.sound_foldl hattack hrelease calls
    refine ⟨h.flag.held, h.flag.lt, h.factor, fun requested => ?_⟩
    obtain ⟨-, hmem⟩ := h.next requested
    refine ⟨hmem, fun strength hstrength hnonneg => hmem.2.trans ?_⟩
    obtain rfl := Option.mem_def.mp hstrength
    -- The strength that is requested is first brought into the unit interval.
    show min (Nat.cast 1) (max (Nat.cast 0) strength) ≤ strength
    rw [Nat.cast_zero, max_eq_right hnonneg]
    exact min_le_right _ _
  · intro blend
    have h := ConfidenceWeightedBlend.sound_foldl hengage hfallback calls
    -- All of it is part of the invariant.
    exact ⟨h.flag.held, h.flag.lt, h.mix, h.make_mix_le⟩

/-- Speech, and three frames without. -/
theorem controllers_hold_speech :
    ((([.beginFrame (some (9 / 10)), .next (some (7 / 10)), .beginFrame none,
        .beginFrame (some (1 / 10)), .beginFrame (some 0)] : List (SuppressionCall ℚ)).foldl
      SuppressionCall.make (.new (1 / 2) (1 / 3))).speechActive = true ↔
        Lib.Held (Reaches speechEnterProbability) (AtMost speechExitProbability) 3
          [some (9 / 10 : ℚ), none, some (1 / 10), some 0]) :=
  ((controllers_hold (show (1 / 2 : ℚ) ∈ Set.Ioo 0 1 by constructor <;> norm_num)
    (show (1 / 3 : ℚ) ∈ Set.Ioo 0 1 by constructor <;> norm_num)
    (show (1 / 4 : ℚ) ∈ Set.Ioo 0 1 by constructor <;> norm_num)
    (show (1 / 5 : ℚ) ∈ Set.Ioo 0 1 by constructor <;> norm_num)).1 _).1

end Noire
