import Noire.Dsp.Arithmetic
import Noire.Dsp.Ramp
import Noire.Lib.Run

namespace Noire

open Lib (Binary32 glide)

/-!
# Strength over exact numbers

The ramp of the wet strength over any arithmetic; `setTarget_generic` and `next_generic`: over the
rounded one it is `StrengthRamp`.

* `StrengthRampOf.Gliding` — over exact numbers a ramp is in the midst of even steps from one
  value to another; `Gliding.setTarget` and `Gliding.next`: one call;
* `StrengthCall` — the calls of its users, one after another;
* `strength_glides` — so in every sequence of calls the strength stays within the unit interval,
  moves to its target by small steps, and rests there.

A ramp is described by where it set out, how many steps it makes, and how many it has made.  A new
target starts such a description from where the ramp is; a step counts one more, and after the
last the ramp is at its target.  Everything else is about points on a straight line.
-/

/-- `StrengthRamp`, over any arithmetic. -/
structure StrengthRampOf (α : Type) where
  current : α
  target : α
  step : α
  remaining : ℕ

namespace StrengthRampOf

section Source

variable {α : Type} [Add α] [Sub α] [Div α] [NatCast α] [SampleOps α]

/-- `StrengthRamp::new`. -/
def new (initial : Option α) : StrengthRampOf α :=
  let initial := finiteUnitOf initial
  { current := initial, target := initial, step := Nat.cast 0, remaining := 0 }

/-- `StrengthRamp::set_target`. -/
def setTarget (ramp : StrengthRampOf α) (target : Option α) (requestedSamples : ℕ) :
    StrengthRampOf α :=
  let target := finiteUnitOf target
  if SampleOps.sameBits target ramp.current then
    { ramp with target, step := Nat.cast 0, remaining := 0 }
  else
    let duration := max requestedSamples minStrengthRampSamples
    { ramp with
      target
      step := (target - ramp.current) / (duration : α)
      remaining := duration }

/-- `StrengthRamp::next`. -/
def next (ramp : StrengthRampOf α) : α × StrengthRampOf α :=
  if ramp.remaining = 0 then (ramp.current, ramp)
  else
    let remaining := ramp.remaining - 1
    let current := if remaining = 0 then ramp.target else ramp.current + ramp.step
    (current, { ramp with remaining, current })

end Source

end StrengthRampOf

/-! ## The rounded ramp

The machine's ramp is the generic one, at the machine's arithmetic.
-/

/-- `StrengthRamp`, as the ramp over rounded arithmetic. -/
def StrengthRamp.generic (ramp : StrengthRamp) : StrengthRampOf F32 :=
  ⟨ramp.current, ramp.target, ramp.step, ramp.remaining⟩

namespace StrengthRampOf

theorem finiteUnitOf_heard (value : F32) : finiteUnitOf (heard value) = finiteUnit value := by
  have hzero : (Nat.cast 0 : F32) = .zero := by decide
  have hone : (Nat.cast 1 : F32) = .one := by decide
  unfold finiteUnit heard
  split
  · show Binary32.clamp value (Nat.cast 0) (Nat.cast 1) = _
    rw [hzero, hone]
  · exact hzero

theorem new_generic (initial : F32) : (StrengthRamp.new initial).generic = new (heard initial) := by
  unfold new
  rw [finiteUnitOf_heard]
  rfl

theorem setTarget_generic (ramp : StrengthRamp) (target : F32) (requestedSamples : ℕ) :
    (ramp.setTarget target requestedSamples).generic =
      ramp.generic.setTarget (heard target) requestedSamples := by
  unfold setTarget StrengthRamp.setTarget
  rw [finiteUnitOf_heard]
  by_cases hbits : (finiteUnit target).bits = ramp.current.bits
  · have hsame : SampleOps.sameBits (finiteUnit target) ramp.generic.current = true :=
      decide_eq_true hbits
    rw [if_pos hbits, if_pos hsame]
    rfl
  · have hother : ¬SampleOps.sameBits (finiteUnit target) ramp.generic.current = true :=
      fun hsame => hbits (of_decide_eq_true hsame)
    rw [if_neg hbits, if_neg hother]
    rfl

theorem next_generic (ramp : StrengthRamp) :
    (ramp.next.1, ramp.next.2.generic) = ramp.generic.next := by
  unfold next StrengthRamp.next
  by_cases hrest : ramp.remaining = 0
  · rw [if_pos hrest, if_pos (show ramp.generic.remaining = 0 from hrest)]
    rfl
  · rw [if_neg hrest, if_neg (show ramp.generic.remaining ≠ 0 from hrest)]
    rfl

/-! ## Exact numbers -/

section Exact

variable {K : Type} [Field K] [LinearOrder K]

/-- After `k` of `n` even steps from `start` to the target. -/
structure Gliding (start : K) (n k : ℕ) (ramp : StrengthRampOf K) : Prop where
  current : ramp.current = glide start ramp.target n k
  remaining : ramp.remaining = n - k
  step : ramp.step = (ramp.target - start) / n

/-- How many steps a new target takes: none, if the ramp is there. -/
def length (ramp : StrengthRampOf K) (target : Option K) (requestedSamples : ℕ) : ℕ :=
  if finiteUnitOf target = ramp.current then 0 else max requestedSamples minStrengthRampSamples

variable {ramp : StrengthRampOf K} {start : K} {n k : ℕ}

/-- A new ramp rests. -/
theorem new_gliding (initial : Option K) :
    (new initial).Gliding (finiteUnitOf initial) 0 0 where
  current := (Lib.glide_zero _ _ _).symm
  remaining := rfl
  step := by
    show Nat.cast 0 = (finiteUnitOf initial - finiteUnitOf initial) / _
    rw [sub_self, zero_div, Nat.cast_zero]

/-- **A new target** is set out for from where the ramp is. -/
theorem setTarget_gliding (ramp : StrengthRampOf K) (target : Option K) (requestedSamples : ℕ) :
    (ramp.setTarget target requestedSamples).target = finiteUnitOf target ∧
      (ramp.setTarget target requestedSamples).current = ramp.current ∧
      (ramp.setTarget target requestedSamples).Gliding ramp.current
        (ramp.length target requestedSamples) 0 := by
  unfold setTarget length
  by_cases hsame : finiteUnitOf target = ramp.current
  · rw [if_pos (show SampleOps.sameBits _ _ = true from decide_eq_true hsame), if_pos hsame]
    refine ⟨rfl, rfl, (Lib.glide_zero _ _ _).symm, rfl, ?_⟩
    rw [hsame, sub_self, zero_div]
    exact Nat.cast_zero
  · rw [if_neg (show ¬SampleOps.sameBits _ _ = true from fun h => hsame (of_decide_eq_true h)),
      if_neg hsame]
    exact ⟨rfl, rfl, (Lib.glide_zero _ _ _).symm, rfl, rfl⟩

variable [IsStrictOrderedRing K]

/-- **The next value** is a step further. -/
theorem Gliding.next (h : ramp.Gliding start n k) :
    ramp.next.1 = ramp.next.2.current ∧ ramp.next.2.target = ramp.target ∧
      ramp.next.2.Gliding start n (k + 1) := by
  unfold StrengthRampOf.next
  by_cases hrest : ramp.remaining = 0
  · -- At rest nothing moves.
    have hle : n ≤ k := by
      have := h.remaining
      omega
    rw [if_pos hrest]
    refine ⟨rfl, rfl, ?_, ?_, h.step⟩
    · rw [Lib.glide_succ_of_le _ _ hle]
      exact h.current
    · rw [hrest]
      omega
  · rw [if_neg hrest]
    have hlt : k < n := by
      have := h.remaining
      omega
    refine ⟨rfl, rfl, ?_, ?_, h.step⟩
    · show (if ramp.remaining - 1 = 0 then ramp.target else ramp.current + ramp.step) = _
      split
      next hlast =>
        have hend : n ≤ k + 1 := by
          have := h.remaining
          omega
        exact (Lib.glide_of_le start ramp.target (by omega) hend).symm
      next hmore => rw [h.current, h.step, Lib.glide_succ start ramp.target hlt]
    · show ramp.remaining - 1 = _
      rw [h.remaining]
      omega

/-- What holds of every ramp: it is on its way within the unit interval, and not too fast. -/
structure Sound (start : K) (n k : ℕ) (ramp : StrengthRampOf K) : Prop where
  gliding : ramp.Gliding start n k
  startMem : start ∈ Set.Icc 0 1
  targetMem : ramp.target ∈ Set.Icc 0 1
  slow : start = ramp.target ∨ minStrengthRampSamples ≤ n

/-- Where a ramp is, it may be. -/
theorem Sound.current (h : ramp.Sound start n k) : ramp.current ∈ Set.Icc 0 1 := by
  rw [h.gliding.current]
  exact Lib.lerp_mem h.startMem h.targetMem (Lib.glide_share n k)

theorem new_sound (initial : Option K) : (new initial).Sound (finiteUnitOf initial) 0 0 where
  gliding := new_gliding initial
  startMem := finiteUnitOf_mem initial
  targetMem := finiteUnitOf_mem initial
  slow := .inl rfl

theorem Sound.setTarget (h : ramp.Sound start n k) (target : Option K) (requestedSamples : ℕ) :
    (ramp.setTarget target requestedSamples).Sound ramp.current
      (ramp.length target requestedSamples) 0 := by
  obtain ⟨htarget, -, hgliding⟩ := ramp.setTarget_gliding target requestedSamples
  refine ⟨hgliding, h.current, ?_, ?_⟩
  · rw [htarget]
    exact finiteUnitOf_mem target
  · rw [htarget]
    unfold length
    split
    next hsame => exact .inl hsame.symm
    next hother => exact .inr (le_max_right _ _)

theorem Sound.next (h : ramp.Sound start n k) : ramp.next.2.Sound start n (k + 1) := by
  obtain ⟨-, htarget, hgliding⟩ := h.gliding.next
  refine ⟨hgliding, h.startMem, ?_, ?_⟩
  · rw [htarget]
    exact h.targetMem
  · rw [htarget]
    exact h.slow

/-- **One call changes the strength little.** -/
theorem Sound.abs_next_sub_le (h : ramp.Sound start n k) :
    |ramp.next.2.current - ramp.current| ≤ 1 / minStrengthRampSamples := by
  obtain ⟨-, htarget, hgliding⟩ := h.gliding.next
  have hstep := Lib.abs_glide_sub_le start ramp.target n k
  rw [hgliding.current, h.gliding.current, htarget]
  refine hstep.trans ?_
  rcases h.slow with hsame | hslow
  · rw [hsame, sub_self, abs_zero, zero_div]
    positivity
  · have hunit : |ramp.target - start| ≤ 1 := by
      obtain ⟨hlow, hhigh⟩ := h.startMem
      obtain ⟨hlow', hhigh'⟩ := h.targetMem
      exact abs_le.mpr ⟨by linarith, by linarith⟩
    exact div_le_div₀ zero_le_one hunit (by norm_num [minStrengthRampSamples])
      (Nat.cast_le.mpr hslow)

end Exact

end StrengthRampOf

/-! ## Calls -/

/-- A call on a ramp. -/
inductive StrengthCall (α : Type)
  | setTarget (target : Option α) (requestedSamples : ℕ)
  | next

/-- A ramp after a call. -/
def StrengthCall.make {α : Type} [Add α] [Sub α] [Div α] [NatCast α] [SampleOps α]
    (ramp : StrengthRampOf α) : StrengthCall α → StrengthRampOf α
  | .setTarget target requestedSamples => ramp.setTarget target requestedSamples
  | .next => ramp.next.2

namespace StrengthRampOf

variable {K : Type} [Field K] [LinearOrder K] [IsStrictOrderedRing K]
variable {ramp : StrengthRampOf K} {start : K} {n k : ℕ}

/-- After every sequence of calls a ramp is sound. -/
theorem sound_foldl (initial : Option K) (calls : List (StrengthCall K)) :
    ∃ start n k, (calls.foldl StrengthCall.make (.new initial)).Sound start n k := by
  refine (Lib.Run.of_foldl StrengthCall.make _ calls).invariant (∃ start n k, Sound start n k ·)
    ⟨_, _, _, new_sound initial⟩ ?_
  rintro ramp call _ ⟨start, n, k, h⟩ - rfl
  cases call with
  | setTarget target requestedSamples => exact ⟨_, _, _, h.setTarget target requestedSamples⟩
  | next => exact ⟨_, _, _, h.next⟩

/-- As many steps further as there are calls of `next`. -/
theorem Sound.draw (h : ramp.Sound start n k) (draws : ℕ) :
    ((List.replicate draws .next).foldl StrengthCall.make ramp).target = ramp.target ∧
      ((List.replicate draws .next).foldl StrengthCall.make ramp).Sound start n (k + draws) := by
  induction draws with
  | zero => exact ⟨rfl, h⟩
  | succ draws ih =>
    rw [List.replicate_succ', List.foldl_append]
    exact ⟨ih.2.gliding.next.2.1.trans ih.1, ih.2.next⟩

end StrengthRampOf

/-- **Strength glides.** In every sequence of calls on a ramp, whatever it is asked for: the
    strength stays within the unit interval, and no call changes it by more than a step of the
    shortest transition.  Until it is given a target it rests; since the last target it is between
    where it was then and the target, every value between the one before and the target, and on
    the target, exactly, from the draw on that the transition was to take, or at once if it was
    there. -/
theorem strength_glides {K : Type} [Field K] [LinearOrder K] [IsStrictOrderedRing K]
    (initial : Option K) (calls : List (StrengthCall K)) :
    let ramp := calls.foldl StrengthCall.make (.new initial)
    ramp.current ∈ Set.Icc 0 1 ∧
      ramp.next.1 = ramp.next.2.current ∧
      (∀ call, |(StrengthCall.make ramp call).current - ramp.current| ≤
        1 / minStrengthRampSamples) ∧
      (∀ draws, calls = .replicate draws .next → ramp.current = finiteUnitOf initial) ∧
      ∀ before target requestedSamples draws,
        calls = before ++ .setTarget target requestedSamples :: .replicate draws .next →
        let start := (before.foldl StrengthCall.make (.new initial)).current
        let asked := finiteUnitOf target
        ramp.current ∈ Set.uIcc start asked ∧
          ramp.next.1 ∈ Set.uIcc ramp.current asked ∧
          (asked ≠ start → max requestedSamples minStrengthRampSamples ≤ draws →
            ramp.current = asked) ∧
          (asked = start → ramp.current = asked) := by
  intro ramp
  obtain ⟨start, n, k, h⟩ := StrengthRampOf.sound_foldl initial calls
  refine ⟨h.current, h.gliding.next.1, fun call => ?_, fun draws hcalls => ?_,
    fun before target requestedSamples draws hcalls => ?_⟩
  · cases call with
    | setTarget target requestedSamples =>
      -- A target leaves the current strength where it is.
      rw [StrengthCall.make, (ramp.setTarget_gliding target requestedSamples).2.1, sub_self,
        abs_zero]
      positivity
    | next => exact h.abs_next_sub_le
  · -- no target was ever set: the ramp rests where it began
    obtain ⟨htarget, hdrawn⟩ := (StrengthRampOf.new_sound initial).draw draws
    rw [← hcalls] at htarget hdrawn
    rw [hdrawn.gliding.current, htarget]
    exact Lib.glide_self _ _ _
  · intro start asked
    -- The calls up to the target lead to a ramp that sets out anew, and the draws are its steps.
    obtain ⟨start', n', k', hbefore⟩ := StrengthRampOf.sound_foldl initial before
    obtain ⟨htarget, hdrawn⟩ := (hbefore.setTarget target requestedSamples).draw draws
    have hramp : ramp = (List.replicate draws .next).foldl StrengthCall.make
        ((before.foldl StrengthCall.make (.new initial)).setTarget target requestedSamples) := by
      show calls.foldl _ _ = _
      rw [hcalls, List.foldl_append]
      rfl
    rw [(StrengthRampOf.setTarget_gliding _ target requestedSamples).1] at htarget
    rw [← hramp] at htarget hdrawn
    rw [Nat.zero_add] at hdrawn
    have hcurrent := hdrawn.gliding.current
    obtain ⟨hnext, htarget', hnext'⟩ := hdrawn.gliding.next
    rw [htarget] at hcurrent
    refine ⟨?_, ?_, fun hother hdraws => ?_, fun hsame => ?_⟩
    · have hmem := Lib.glide_mem_uIcc start asked
        (StrengthRampOf.length (before.foldl StrengthCall.make (.new initial)) target
          requestedSamples) (Nat.zero_le draws)
      rw [Lib.glide_zero] at hmem
      rw [hcurrent]
      exact hmem
    · -- the next draw is a step of the same glide
      rw [hnext, hnext'.current, htarget', htarget, hcurrent]
      exact Lib.glide_mem_uIcc _ _ _ (Nat.le_succ draws)
    · -- after the whole length the target is reached
      have hlength : StrengthRampOf.length (before.foldl StrengthCall.make (.new initial)) target
          requestedSamples = max requestedSamples minStrengthRampSamples := if_neg hother
      rw [hcurrent, hlength]
      exact Lib.glide_of_le _ _ (lt_of_lt_of_le (by decide) (le_max_right _ _)) hdraws
    · rw [hcurrent]
      -- A glide to where it stands does not move.
      show glide start asked _ _ = asked
      rw [hsame]
      exact Lib.glide_self _ _ _

/-- From zero to one in 20 ms, the shortest there is. -/
theorem strength_glides_up :
    ((.setTarget (some 1) 0 :: .replicate 960 .next : List (StrengthCall ℚ)).foldl
      StrengthCall.make (.new (some 0))).current = finiteUnitOf (some 1) :=
  ((strength_glides (some (0 : ℚ)) (.setTarget (some 1) 0 :: .replicate 960 .next)).2.2.2.2
    [] (some 1) 0 960 rfl).2.2.1 (by decide +kernel) (by decide)

end Noire
