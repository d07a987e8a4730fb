import Noire.Live.Latch

namespace Noire

/-!
# Deadline misses

The rolling window over sampled misses of the model's deadline: five slots, of which a policy
uses as many as it asks misses for, as a ring.

* `DeadlinePolicy.required` — the misses that a policy asks for;
* `Recorded` — which miss each slot holds, after any number of them;
* `Recorded.record` — one more miss, and `Recorded.answer`, what `record` answers to it;
* `DeadlineEvent` — what is done to the watchdog of a live sink, and the misses since it was
  last cleared;
* `record_iff_within` — whatever was done since a reset, `record` tells whether the last misses,
  as many as are required, lie within the policy's window.

Instants are in nanoseconds. `duration_since` is zero for an earlier instant that is later.

The ring has as many slots in use as the policy asks for, and the miss number `n` is in the slot
`n` modulo this number.  A new miss overwrites the one that is as many misses older as there are
slots, and the slot after it holds the oldest of the last ones, which is the one that `record`
compares.
-/

/-- The misses that a policy asks for: at least one, and as many as there are slots at most. -/
def DeadlinePolicy.required (policy : DeadlinePolicy) : ℕ := min (max policy.missesPerWindow 1) 5

theorem DeadlinePolicy.required_pos (policy : DeadlinePolicy) : 0 < policy.required :=
  Nat.lt_min.mpr ⟨Nat.lt_of_lt_of_le Nat.zero_lt_one (Nat.le_max_right ..), by decide⟩

theorem DeadlinePolicy.required_le (policy : DeadlinePolicy) : policy.required ≤ 5 :=
  Nat.min_le_right ..

namespace DeadlineWindow

/-- The window of a policy after some misses: the last of them, as many as are required, are each
    in the slot of their position. -/
structure Recorded (required : ℕ) (times : List ℕ) (w : DeadlineWindow) : Prop where
  length : w.misses.length = 5
  next : w.next = times.length % required
  count : w.count = min times.length required
  slot : ∀ (j : ℕ) (hj : j < times.length), times.length < j + required + 1 →
    w.misses[j % required]? = some (some times[j])

/-- A window as it is built. -/
theorem recorded_nil {required : ℕ} : Recorded required [] {} where
  length := rfl
  next := (Nat.zero_mod required).symm
  count := (Nat.zero_min required).symm
  slot := fun j hj => absurd hj (Nat.not_lt_zero j)

/-- Two of as many positions as there are slots in the ring do not share a slot. -/
theorem slot_ne {required i j : ℕ} (hlt : i < j) (hnear : j < i + required) :
    i % required ≠ j % required := by
  intro hsame
  have hdvd : required ∣ j - i :=
    Nat.dvd_of_mod_eq_zero (Nat.sub_mod_eq_zero_of_mod_eq hsame.symm)
  have hle := Nat.le_of_dvd (by omega) hdvd
  omega

/-- The window after one more miss, in the terms of the policy. -/
def after (w : DeadlineWindow) (now : ℕ) (policy : DeadlinePolicy) : DeadlineWindow where
  misses := w.misses.set w.next (some now)
  next := (w.next + 1) % policy.required
  count := min (saturatingAdd u64Max w.count 1) policy.required

/-- `record` answers from what it leaves. -/
theorem record_eq {w : DeadlineWindow} (hlength : w.misses.length = 5) (now : ℕ)
    (policy : DeadlinePolicy) :
    w.record now policy =
      (!decide ((w.after now policy).count < policy.required) &&
        ((w.after now policy).misses.getD (w.after now policy).next none).any
          fun oldest => now - oldest ≤ policy.window, w.after now policy) := by
  unfold record
  rw [hlength]
  change (if (w.after now policy).count < policy.required then (false, w.after now policy)
    else (_, w.after now policy)) = _
  by_cases hcount : (w.after now policy).count < policy.required
  · rw [if_pos hcount, decide_eq_true hcount]
    rfl
  · rw [if_neg hcount, decide_eq_false hcount]
    rfl

section Record

variable {policy : DeadlinePolicy} {times : List ℕ} {w : DeadlineWindow}
  (h : w.Recorded policy.required times) (now : ℕ)

include h

/-- **One more miss** goes to the slot of its position, which no other one of the last holds. -/
theorem Recorded.record : (w.record now policy).2.Recorded policy.required (times ++ [now]) := by
  have hpos := policy.required_pos
  have hle := policy.required_le
  have hlength : (times ++ [now]).length = times.length + 1 := by simp
  rw [record_eq h.length]
  dsimp only [after]
  refine ⟨?_, ?_, ?_, ?_⟩
  · rw [List.length_set, h.length]
  · rw [h.next, hlength, Nat.mod_add_mod]
  · have hfew : w.count < u64Max := by
      rw [h.count]
      exact Nat.lt_of_le_of_lt (Nat.min_le_right ..) (Nat.lt_of_le_of_lt hle (by decide))
    rw [saturatingAdd_one hfew, h.count, hlength]
    show min (min times.length policy.required + 1) policy.required = _
    omega
  · intro j hj hrecent
    rw [hlength] at hj hrecent
    -- The newest time is in its slot, and no recent one shares that slot.
    by_cases hlast : j = times.length
    · subst hlast
      have hmod := Nat.mod_lt times.length hpos
      rw [← h.next, List.getElem?_set_self (by rw [h.length, h.next]; omega),
        List.getElem_concat_length rfl]
    · have hbefore : j < times.length := by omega
      rw [List.getElem?_set_ne, List.getElem_append_left hbefore]
      · exact h.slot j hbefore (by omega)
      · rw [h.next]
        exact (slot_ne hbefore (by omega)).symm

/-- **What `record` answers**: whether there are as many misses as are required, and the oldest
    of the last ones is within the window. -/
theorem Recorded.answer : (w.record now policy).1 = true ↔
    policy.required ≤ times.length + 1 ∧
      ∃ oldest, (times ++ [now])[times.length + 1 - policy.required]? = some oldest ∧
        now - oldest ≤ policy.window := by
  have hpos := policy.required_pos
  have hafter := h.record now
  have hlength : (times ++ [now]).length = times.length + 1 := by simp
  rw [record_eq h.length] at hafter ⊢
  rw [Bool.and_eq_true, Bool.not_eq_true', decide_eq_false_iff_not, hafter.count, hafter.next,
    hlength]
  by_cases hfew : times.length + 1 < policy.required
  · exact iff_of_false (fun hall => hall.1 (by omega)) fun hall => absurd hall.1 (not_le.mpr hfew)
  -- The slot to be written next is that of the oldest of the last misses.
  have henough : policy.required ≤ times.length + 1 := not_lt.mp hfew
  have holdest : times.length + 1 - policy.required < (times ++ [now]).length := by omega
  rw [Nat.mod_eq_sub_mod henough, List.getD_eq_getElem?_getD,
    hafter.slot _ holdest (by omega), List.getElem?_eq_getElem holdest]
  simp [henough]

end Record

end DeadlineWindow

/-! ## The sink's watchdog -/

/-- What is done to the watchdog: another policy, a reset of the signal, or a miss. -/
inductive DeadlineEvent
  | setDeadlinePolicy (policy : DeadlinePolicy)
  | reset
  | record (now : ℕ)

namespace DeadlineEvent

variable {σ : Type}

/-- What an event does to a sink. -/
def step (t : TimedCaptureSink σ) : DeadlineEvent → TimedCaptureSink σ
  | .setDeadlinePolicy policy => t.setDeadlinePolicyDeactivated policy
  | .reset => t.resetSignalState
  | .record now => { t with deadlineWindow := (t.deadlineWindow.record now t.deadlinePolicy).2 }

/-- The misses since the window was last cleared. -/
def misses (times : List ℕ) : DeadlineEvent → List ℕ
  | .setDeadlinePolicy _ | .reset => []
  | .record now => times ++ [now]

/-- **In every run from a reset**, the window holds the misses since it was last cleared. -/
theorem recorded_foldl (t : TimedCaptureSink σ) (events : List DeadlineEvent) :
    (events.foldl step t.resetSignalState).deadlineWindow.Recorded
      (events.foldl step t.resetSignalState).deadlinePolicy.required
      (events.foldl misses []) := by
  refine Lib.foldl_beside misses step (fun times sink =>
    sink.deadlineWindow.Recorded sink.deadlinePolicy.required times)
    DeadlineWindow.recorded_nil ?_ events
  intro times sink event h
  cases event with
  | setDeadlinePolicy policy => exact DeadlineWindow.recorded_nil
  | reset => exact DeadlineWindow.recorded_nil
  | record now => exact h.record now

/-- **The window of a policy.** Whatever was done since a reset, a miss degrades the performance
    exactly when, with it, there are as many as the policy asks for since the window was last
    cleared, and the time since the first of the last ones is at most the policy's window. -/
theorem record_iff_within (t : TimedCaptureSink σ) (events : List DeadlineEvent) (now : ℕ) :
    let sink := events.foldl step t.resetSignalState
    let times := events.foldl misses [] ++ [now]
    let required := sink.deadlinePolicy.required
    (sink.deadlineWindow.record now sink.deadlinePolicy).1 = true ↔
      required ≤ times.length ∧
        ∃ oldest, times[times.length - required]? = some oldest ∧
          now - oldest ≤ sink.deadlinePolicy.window := by
  intro sink times required
  have hlength : times.length = (events.foldl misses []).length + 1 := by simp [times]
  rw [hlength]
  exact (recorded_foldl t events).answer now

end DeadlineEvent

end Noire
