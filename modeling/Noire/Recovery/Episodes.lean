import Noire.Lib.Run
import Noire.Recovery
import Mathlib.Data.List.Range

namespace Noire

/-!
# Recovery episodes

The recovery controller over any sequence of its calls, with a clock that never goes back.  An
episode begins with a fault reported to a healthy controller and lasts until the controller is
healthy again.

* `RecoveryRun` — a controller in use, and what its present episode has seen: the attempts, the
  failures, and the losses of the core that were reported since the last of them;
* `RecoveryRun.Lawful` — the accounts, the schedule and the identity of an episode;
* `Lawful.step` — every call keeps them;
* `recovery_lawful` — they hold in every run, with what a report and a poll may do.

The run adds to the controller what the laws speak of and it does not keep: when the failures of
the episode were, and when a loss of the core was reported that took it over.  `Lawful` is proved
call by call.  A report during an episode may bring the next attempt forward, once, and postpones
nothing; a failure schedules by its own number, and the exponent of the delay is capped where the
delay is, so that nothing overflows; a recovery or a stop ends the episode.
-/

/-- A call of the controller, with the reading of the clock it is made at. -/
inductive RecoveryCall
  | fault (fault : RecoveryFault) (nowMillis : ℕ)
  | poll (nowMillis : ℕ)
  | failed (nowMillis : ℕ)
  | recovered
  | stop

/-- The reading of the clock that a call is given. -/
def RecoveryCall.reading : RecoveryCall → Option ℕ
  | fault _ nowMillis => some nowMillis
  | poll nowMillis => some nowMillis
  | failed nowMillis => some nowMillis
  | recovered => none
  | stop => none

/-- A controller in use.  An episode has begun whenever a fault found the controller healthy. -/
structure RecoveryRun where
  controller : RecoveryController := {}
  /-- The latest reading of the clock. -/
  nowMillis : ℕ := 0
  episodes : ℕ := 0
  /-- The numbers of the attempts of the last episode. -/
  numbers : List ℕ := []
  /-- When attempts of the last episode failed. -/
  failedAt : List ℕ := []
  /-- When a loss of the core took the episode over, since the last failure or since the episode
      began. -/
  escalatedAt : List ℕ := []

/-- Whether a report during an episode takes it over. -/
def RecoveryController.escalates (r : RecoveryController) (fault : RecoveryFault) : Bool :=
  fault = .core && r.faultKind ≠ some .core

namespace RecoveryRun

/-- One call. -/
def step (run : RecoveryRun) : RecoveryCall → RecoveryRun
  | .fault fault nowMillis =>
    let controller := run.controller.fault fault nowMillis
    if run.controller.phase = .healthy then
      { controller, nowMillis, episodes := run.episodes + 1 }
    else
      { run with
        controller, nowMillis
        escalatedAt :=
          if run.controller.escalates fault then run.escalatedAt ++ [nowMillis]
          else run.escalatedAt }
  | .poll nowMillis =>
    let polled := run.controller.poll nowMillis
    { run with
      controller := polled.2, nowMillis
      numbers := run.numbers ++ (polled.1.map RecoveryAttempt.number).toList }
  | .failed nowMillis =>
    let controller := run.controller.failed nowMillis
    if run.controller.phase = .attempting then
      { run with controller, nowMillis, failedAt := run.failedAt ++ [nowMillis], escalatedAt := [] }
    else { run with controller, nowMillis }
  | .recovered => { run with controller := run.controller.recovered }
  | .stop => { run with controller := run.controller.stop }

/-- The clock does not go back, and no counter has reached its maximum. -/
structure Counted (run : RecoveryRun) (call : RecoveryCall) : Prop where
  clock : ∀ nowMillis ∈ call.reading, run.nowMillis ≤ nowMillis
  generation : run.controller.generation < u64Max
  attempt : run.controller.attempt < u32Max
  faults : run.controller.stats.faults < u64Max
  attempts : run.controller.stats.attempts < u64Max
  recoveries : run.controller.stats.recoveries < u64Max
  failures : run.controller.stats.failures < u64Max

/-- The delay after the failure number `k` of an episode. -/
def backoffDelay (k : ℕ) : ℕ := min (initialBackoffMs * 2 ^ (k - 1)) maxBackoffMs

/-- When the next attempt is due, after the last failure of the episode: after its delay, as far as
    the clock goes, or when a loss of the core took the episode over since. -/
def Scheduled (run : RecoveryRun) : Prop :=
  ∀ failure ∈ run.failedAt.getLast?,
    let due := saturatingAdd u64Max failure (backoffDelay run.failedAt.length)
    run.controller.dueMillis = due ∨
      ∃ loss ∈ run.escalatedAt, run.controller.dueMillis = min due loss

/-- What holds of a controller in use. -/
structure Lawful (run : RecoveryRun) : Prop where
  accounted : run.controller.stats.recoveries +
    (if run.controller.phase = .healthy then 0 else 1) ≤ run.controller.stats.faults
  attempted : run.controller.stats.failures +
    (if run.controller.phase = .attempting then 1 else 0) ≤ run.controller.stats.attempts
  due : run.controller.dueMillis ≤ run.nowMillis + maxBackoffMs
  numbered : run.numbers = List.range' 1 run.numbers.length
  attempt : run.controller.phase ≠ .healthy → run.numbers.length = run.controller.attempt
  unfinished : run.controller.phase ≠ .healthy →
    run.failedAt.length + (if run.controller.phase = .attempting then 1 else 0) =
      run.controller.attempt
  past : ∀ loss ∈ run.escalatedAt, loss ≤ run.nowMillis
  scheduled : run.controller.phase = .backoff → run.Scheduled
  generation : run.controller.generation = run.episodes

end RecoveryRun

/-! ## What each call changes

The methods of the controller in the terms of the laws.
-/

namespace RecoveryController

variable {r : RecoveryController}

/-- A report during an episode leaves everything but the fault and the due time, which it may only
    bring forward: to the reading, and only where it takes the episode over. -/
theorem fault_reported (h : r.phase ≠ .healthy) (f : RecoveryFault) (now : ℕ) :
    ∃ faultKind dueMillis, r.fault f now = { r with faultKind, dueMillis } ∧
      (dueMillis = r.dueMillis ∨ r.escalates f = true ∧ dueMillis = min r.dueMillis now) := by
  unfold fault
  rw [if_pos h]
  split
  · rename_i hcore
    exact ⟨_, _, rfl, .inr ⟨by simp [escalates, hcore.1, hcore.2], rfl⟩⟩
  · exact ⟨_, _, rfl, .inl rfl⟩

/-- A poll that starts an attempt finds it due, and counts it. -/
theorem poll_started {now : ℕ} {attempt : RecoveryAttempt} (h : (r.poll now).1 = some attempt) :
    (r.phase = .backoff ∧ r.dueMillis ≤ now) ∧
      attempt.number = saturatingAdd u32Max r.attempt 1 ∧
      (r.poll now).2 = { r with
        phase := .attempting
        attempt := attempt.number
        stats.attempts := saturatingAdd u64Max r.stats.attempts 1 } := by
  unfold poll at h ⊢
  split at h
  · cases h
  rename_i hdue
  rw [if_neg hdue]
  obtain ⟨hphase, hnow⟩ := not_or.mp hdue
  split at h
  · cases h
  · obtain rfl := Option.some.inj h
    exact ⟨⟨not_not.mp hphase, Nat.not_lt.mp hnow⟩, rfl, rfl⟩

/-- The delay of a failed attempt: the exponent is capped where the delay is at its cap. -/
theorem capped_delay (n : ℕ) :
    min (saturatingMul u64Max initialBackoffMs (2 ^ min (n - 1) 6)) maxBackoffMs =
      RecoveryRun.backoffDelay n := by
  have hinitial : initialBackoffMs = 25 := rfl
  have hmax : maxBackoffMs = 1000 := rfl
  have hroom : 25 * 2 ^ 6 ≤ u64Max := by decide
  unfold saturatingMul RecoveryRun.backoffDelay
  rw [hinitial, hmax]
  rcases le_total (n - 1) 6 with hle | hge
  · have hpow : 2 ^ (n - 1) ≤ 2 ^ 6 := Nat.pow_le_pow_right (by decide) hle
    rw [Nat.min_eq_left hle]
    omega
  · have hpow : 2 ^ 6 ≤ 2 ^ (n - 1) := Nat.pow_le_pow_right (by decide) hge
    rw [Nat.min_eq_right hge]
    omega

end RecoveryController

/-! ## Every call keeps the laws

A call out of its phase does nothing but move the clock on.
-/

namespace RecoveryRun

variable {run : RecoveryRun}

/-- A first fault begins an episode. -/
theorem Lawful.begun (h : run.Lawful) {f : RecoveryFault} {now : ℕ}
    (hcounted : run.Counted (.fault f now)) (hhealthy : run.controller.phase = .healthy) :
    (run.step (.fault f now)).Lawful := by
  have hstep : run.step (.fault f now) =
      { controller := run.controller.fault f now
        nowMillis := now
        episodes := run.episodes + 1 } := if_pos hhealthy
  -- The first fault opens the episode, due at once.
  have hfault : run.controller.fault f now =
      { run.controller with
        phase := .backoff
        faultKind := some f
        generation := saturatingAdd u64Max run.controller.generation 1
        attempt := 0
        dueMillis := now
        stats.faults := saturatingAdd u64Max run.controller.stats.faults 1 } :=
    if_neg (not_not.mpr hhealthy)
  have haccounted := h.accounted
  have hattempted := h.attempted
  have hgeneration := h.generation
  rw [if_pos hhealthy] at haccounted
  rw [hhealthy, if_neg (by decide)] at hattempted
  rw [hstep, hfault, saturatingAdd_one hcounted.generation, saturatingAdd_one hcounted.faults]
  refine ⟨?_, hattempted, Nat.le_add_right _ _, rfl, fun _ => rfl, fun _ => rfl, nofun, nofun,
    congrArg (· + 1) hgeneration⟩
  simp only [reduceCtorEq, if_false]
  omega

/-- A fault that is reported during an episode postpones nothing. -/
theorem Lawful.reported (h : run.Lawful) {f : RecoveryFault} {now : ℕ}
    (hcounted : run.Counted (.fault f now)) (hepisode : run.controller.phase ≠ .healthy) :
    (run.step (.fault f now)).Lawful := by
  have hclock : run.nowMillis ≤ now := hcounted.clock now rfl
  obtain ⟨faultKind, dueMillis, hfault, hdue⟩ :=
    RecoveryController.fault_reported hepisode f now
  have hstep : run.step (.fault f now) = { run with
      controller := run.controller.fault f now
      nowMillis := now
      escalatedAt :=
        if run.controller.escalates f then run.escalatedAt ++ [now] else run.escalatedAt } :=
    if_neg hepisode
  -- A fault brings the next attempt forward, if it does anything.
  have hearlier : dueMillis ≤ run.controller.dueMillis := by
    rcases hdue with rfl | ⟨-, rfl⟩
    · exact le_rfl
    · exact Nat.min_le_left _ _
  obtain ⟨losses, hlosses⟩ : ∃ losses, losses =
    if run.controller.escalates f then run.escalatedAt ++ [now] else run.escalatedAt := ⟨_, rfl⟩
  have hkept : ∀ loss ∈ run.escalatedAt, loss ∈ losses := fun loss hloss => by
    rw [hlosses]
    split
    · exact List.mem_append_left _ hloss
    · exact hloss
  rw [hstep, hfault, ← hlosses]
  refine ⟨h.accounted, h.attempted, ?_, h.numbered, h.attempt, h.unfinished, fun loss hloss => ?_,
    fun hbackoff failure hfailure => ?_, h.generation⟩
  · exact hearlier.trans (h.due.trans (Nat.add_le_add_right hclock _))
  · rw [hlosses] at hloss
    split at hloss
    · rcases List.mem_append.mp hloss with hold | hnew
      · exact (h.past loss hold).trans hclock
      · exact (List.mem_singleton.mp hnew).le
    · exact (h.past loss hloss).trans hclock
  · -- the attempt was scheduled by the failure, and this fault may bring it forward
    rcases h.scheduled hbackoff failure hfailure with hsame | ⟨loss, hloss, hsame⟩
    · rcases hdue with rfl | ⟨hescalates, rfl⟩
      · exact .inl hsame
      · refine .inr ⟨now, ?_, congrArg (min · now) hsame⟩
        rw [hlosses, if_pos hescalates]
        exact List.mem_append_right _ (List.mem_singleton_self now)
    · -- What was brought forward before is due by now.
      refine .inr ⟨loss, hkept loss hloss, ?_⟩
      have hpast := h.past loss hloss
      rcases hdue with rfl | ⟨-, rfl⟩
      · exact hsame
      · dsimp only
        rw [hsame]
        omega

/-- A fault does either. -/
theorem Lawful.fault (h : run.Lawful) {f : RecoveryFault} {now : ℕ}
    (hcounted : run.Counted (.fault f now)) : (run.step (.fault f now)).Lawful := by
  by_cases hhealthy : run.controller.phase = .healthy
  · exact h.begun hcounted hhealthy
  · exact h.reported hcounted hhealthy

/-- A poll starts the next attempt, or nothing. -/
theorem Lawful.poll (h : run.Lawful) {now : ℕ} (hcounted : run.Counted (.poll now)) :
    (run.step (.poll now)).Lawful := by
  have hclock : run.nowMillis ≤ now := hcounted.clock now rfl
  have hdue : run.controller.dueMillis ≤ now + maxBackoffMs :=
    h.due.trans (Nat.add_le_add_right hclock _)
  have hpast : ∀ loss ∈ run.escalatedAt, loss ≤ now := fun loss hloss =>
    (h.past loss hloss).trans hclock
  unfold RecoveryRun.step
  dsimp only
  cases hpoll : (run.controller.poll now).1 with
  -- No attempt begins: the controller is what it was.
  | none =>
    rw [RecoveryController.poll_none _ _ hpoll, Option.map_none, Option.toList_none,
      List.append_nil]
    exact ⟨h.accounted, h.attempted, hdue, h.numbered, h.attempt, h.unfinished, hpast, h.scheduled,
      h.generation⟩
  | some attempt =>
    -- An attempt begins, with the next number of its episode.
    obtain ⟨⟨hbackoff, -⟩, hnumber, hpolled⟩ := RecoveryController.poll_started hpoll
    have hepisode : run.controller.phase ≠ .healthy := by
      rw [hbackoff]
      decide
    have haccounted := h.accounted
    have hattempted := h.attempted
    have hattempt := h.attempt hepisode
    have hfailed := h.unfinished hepisode
    have hnext : attempt.number = run.controller.attempt + 1 :=
      hnumber.trans (saturatingAdd_one hcounted.attempt)
    rw [hbackoff, if_neg (by decide)] at haccounted hattempted hfailed
    rw [hpolled, saturatingAdd_one hcounted.attempts, Option.map_some, Option.toList_some, hnext,
      ← hattempt]
    refine ⟨haccounted, ?_, hdue, ?_, fun _ => ?_, fun _ => ?_, hpast, nofun, h.generation⟩
    · simp only [if_true]
      omega
    · rw [List.length_append, List.length_singleton, List.range'_concat, ← h.numbered]
      simp [Nat.add_comm]
    · exact List.length_append
    · simp only [if_true]
      omega

/-- A failure schedules the next attempt. -/
theorem Lawful.failed (h : run.Lawful) {now : ℕ} (hcounted : run.Counted (.failed now)) :
    (run.step (.failed now)).Lawful := by
  have hclock : run.nowMillis ≤ now := hcounted.clock now rfl
  by_cases hattempting : run.controller.phase = .attempting
  · have hstep : run.step (.failed now) = { run with
        controller := run.controller.failed now
        nowMillis := now
        failedAt := run.failedAt ++ [now]
        escalatedAt := [] } := if_pos hattempting
    -- The controller's exponent is capped, and the delay is the same without the cap.
    have hfailed : run.controller.failed now = { run.controller with
        phase := .backoff
        dueMillis := saturatingAdd u64Max now (backoffDelay run.controller.attempt)
        stats.failures := saturatingAdd u64Max run.controller.stats.failures 1 } := by
      rw [← RecoveryController.capped_delay]
      exact if_neg (not_not.mpr hattempting)
    have hepisode : run.controller.phase ≠ .healthy := by
      rw [hattempting]
      decide
    have haccounted := h.accounted
    have hattempted := h.attempted
    have hcount := h.unfinished hepisode
    rw [hattempting, if_neg (by decide)] at haccounted
    rw [hattempting, if_pos rfl] at hattempted hcount
    have hlength : (run.failedAt ++ [now]).length = run.controller.attempt :=
      List.length_append.trans hcount
    rw [hstep, hfailed, saturatingAdd_one hcounted.failures]
    refine ⟨haccounted, ?_, ?_, h.numbered, fun _ => h.attempt hepisode, fun _ => hlength, nofun,
      fun _ failure hfailure => .inl ?_, h.generation⟩
    · simp only [reduceCtorEq, if_false]
      omega
    · have hcapped : backoffDelay run.controller.attempt ≤ maxBackoffMs := Nat.min_le_right _ _
      unfold saturatingAdd
      dsimp only
      omega
    · have hfailure : failure ∈ (run.failedAt ++ [now]).getLast? := hfailure
      rw [List.getLast?_concat] at hfailure
      obtain rfl := Option.some.inj hfailure
      dsimp only
      rw [hlength]
  · -- no attempt is under way: the report is ignored
    have hstep : run.step (.failed now) =
        { run with controller := run.controller.failed now, nowMillis := now } :=
      if_neg hattempting
    have hsame : run.controller.failed now = run.controller := if_pos hattempting
    rw [hstep, hsame]
    exact ⟨h.accounted, h.attempted, h.due.trans (Nat.add_le_add_right hclock _), h.numbered,
      h.attempt, h.unfinished, fun loss hloss => (h.past loss hloss).trans hclock, h.scheduled,
      h.generation⟩

/-- A recovery ends the episode, and counts it. -/
theorem Lawful.recovered (h : run.Lawful) (hcounted : run.Counted .recovered) :
    (run.step .recovered).Lawful := by
  by_cases hhealthy : run.controller.phase = .healthy
  · have hsame : run.controller.recovered = run.controller := if_pos hhealthy
    have hstep : run.step .recovered = run := by
      unfold RecoveryRun.step
      rw [hsame]
    rw [hstep]
    exact h
  · -- an open episode is closed, and counted
    have hrecovered : run.controller.recovered = { run.controller with
        phase := .healthy
        faultKind := none
        attempt := 0
        dueMillis := 0
        stats.recoveries := saturatingAdd u64Max run.controller.stats.recoveries 1 } :=
      if_neg hhealthy
    have haccounted := h.accounted
    have hattempted := h.attempted
    rw [if_neg hhealthy] at haccounted
    unfold RecoveryRun.step
    dsimp only
    rw [hrecovered, saturatingAdd_one hcounted.recoveries]
    refine ⟨?_, ?_, Nat.zero_le _, h.numbered, nofun, nofun, h.past, nofun, h.generation⟩
    · simp only [if_true]
      omega
    · exact (Nat.le_add_right _ _).trans hattempted

/-- A stop ends the episode, and counts nothing. -/
theorem Lawful.stop (h : run.Lawful) : (run.step .stop).Lawful := by
  refine ⟨?_, ?_, Nat.zero_le _, h.numbered, ?_, ?_, h.past, nofun, h.generation⟩
  · exact (Nat.le_add_right _ _).trans h.accounted
  · exact (Nat.le_add_right _ _).trans h.attempted
  · exact fun hepisode => absurd rfl hepisode
  · exact fun hepisode => absurd rfl hepisode

/-- **One call** keeps the laws. -/
theorem Lawful.step (h : run.Lawful) {call : RecoveryCall} (hcounted : run.Counted call) :
    (run.step call).Lawful := by
  cases call with
  | fault f now => exact h.fault hcounted
  | poll now => exact h.poll hcounted
  | failed now => exact h.failed hcounted
  | recovered => exact h.recovered hcounted
  | stop => exact h.stop

end RecoveryRun

/-- **Recovery.** In every run of a controller whose clock never goes back and whose counters are
    below their maxima: recoveries, with the one under way, are covered by faults, and failures by
    attempts; nothing is due later than the longest delay from now; a report during an episode
    postpones nothing; an attempt is started from backoff only, and not before it is due; the
    attempts of an episode are numbered from one on; each failure schedules the next one after its
    delay, unless a loss of the core that takes the episode over brings it forward; and the
    generation counts the episodes. -/
theorem recovery_lawful {calls : List RecoveryCall} {run : RecoveryRun}
    (h : Lib.Run (fun run call run' => RecoveryRun.step run call = run') RecoveryRun.Counted {}
      calls run) :
    (run.controller.stats.recoveries + (if run.controller.phase = .healthy then 0 else 1) ≤
        run.controller.stats.faults ∧
      run.controller.stats.failures ≤ run.controller.stats.attempts) ∧
    run.controller.dueMillis ≤ run.nowMillis + maxBackoffMs ∧
    (run.controller.phase ≠ .healthy → ∀ fault nowMillis,
      (run.controller.fault fault nowMillis).dueMillis ≤ run.controller.dueMillis) ∧
    (∀ nowMillis attempt, (run.controller.poll nowMillis).1 = some attempt →
      run.controller.phase = .backoff ∧ run.controller.dueMillis ≤ nowMillis) ∧
    run.numbers = List.range' 1 run.numbers.length ∧
    (run.controller.phase = .backoff → run.Scheduled) ∧
    run.controller.generation = run.episodes := by
  -- The law is kept by each call, so every run is lawful.
  have hlawful : run.Lawful := by
    refine h.invariant RecoveryRun.Lawful ?_ fun run call run' hrun hcounted hstep => ?_
    · exact ⟨le_rfl, le_rfl, Nat.zero_le _, rfl, fun hepisode => absurd rfl hepisode,
        fun hepisode => absurd rfl hepisode, nofun, nofun, rfl⟩
    · rw [← hstep]
      exact hrun.step hcounted
  refine ⟨⟨hlawful.accounted, (Nat.le_add_right _ _).trans hlawful.attempted⟩, hlawful.due,
    fun hepisode fault now => ?_, fun now attempt hstarted => ?_, hlawful.numbered,
    hlawful.scheduled, hlawful.generation⟩
  · -- a fault within an episode never puts the attempt off
    obtain ⟨faultKind, dueMillis, hfault, hdue⟩ :=
      RecoveryController.fault_reported hepisode fault now
    rw [hfault]
    rcases hdue with rfl | ⟨-, rfl⟩
    · exact le_rfl
    · exact Nat.min_le_left _ _
  · exact (RecoveryController.poll_started hstarted).1

/-- A capture stream that is lost, an attempt that fails, and the core that is lost 10 ms later. -/
theorem recovery_lawful_escalated : ∃ run,
    Lib.Run (fun run call run' => RecoveryRun.step run call = run') RecoveryRun.Counted {}
      [.fault .captureStream 100, .poll 100, .failed 100, .fault .core 110] run ∧
    run.failedAt = [100] ∧ run.escalatedAt = [110] ∧ run.controller.phase = .backoff ∧
    run.Scheduled := by
  -- The counters are far from their ends.
  have hcounted : ∀ {run : RecoveryRun} {call : RecoveryCall},
      (∀ nowMillis ∈ call.reading, run.nowMillis ≤ nowMillis) →
      run.controller.generation < 2 ∧ run.controller.attempt < 2 ∧
        run.controller.stats.faults < 2 → run.controller.stats.attempts < 2 ∧
        run.controller.stats.recoveries < 2 ∧ run.controller.stats.failures < 2 →
      run.Counted call := fun hclock hsmall hsmall' =>
    have hroom : 2 ≤ u64Max := by decide
    have hroom' : 2 ≤ u32Max := by decide
    ⟨hclock, by omega, by omega, by omega, by omega, by omega, by omega⟩
  have hrun : Lib.Run (fun run call run' => RecoveryRun.step run call = run')
      RecoveryRun.Counted {} [.fault .captureStream 100, .poll 100, .failed 100, .fault .core 110]
      _ := .snoc (.snoc (.snoc (.snoc .nil
    (hcounted (by decide) (by decide) (by decide)) rfl)
    (hcounted (by decide) (by decide) (by decide)) rfl)
    (hcounted (by decide) (by decide) (by decide)) rfl)
    (hcounted (by decide) (by decide) (by decide)) rfl
  exact ⟨_, hrun, rfl, rfl, rfl, (recovery_lawful hrun).2.2.2.2.2.1 rfl⟩

end Noire
