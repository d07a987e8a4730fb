import Noire.Basic

namespace Noire

/-!
# Recovery scheduling

The capped-exponential controller that decides when the native owner rebuilds a graph it
lost.  It is `healthy`, waits in `backoff` for a due time, or is `attempting` a rebuild.

* `RecoveryController.fault` / `poll` / `failed` / `recovered` / `stop` — the five methods;
* `RecoveryController.Named` — outside `healthy` the fault of the episode is recorded.
-/

/-- First retry delay after an unsuccessful immediate recovery attempt. -/
def initialBackoffMs : ℕ := 25

/-- Maximum delay between recovery attempts. -/
def maxBackoffMs : ℕ := 1000

/-- Fault class that invalidated the current native graph generation. -/
inductive RecoveryFault
  | core
  | captureStream
  | sourceStream
  | inputUnavailable
  | defaultChanged
  deriving DecidableEq

/-- Low-rate recovery lifecycle owned by the native control thread. -/
inductive RecoveryPhase
  | healthy
  | backoff
  | attempting
  deriving DecidableEq

/-- One due reconstruction attempt. -/
structure RecoveryAttempt where
  generation : ℕ
  number : ℕ
  fault : RecoveryFault
  deriving DecidableEq

/-- Fixed-cardinality counters. -/
structure RecoveryStats where
  faults : ℕ := 0
  attempts : ℕ := 0
  recoveries : ℕ := 0
  failures : ℕ := 0
  deriving DecidableEq

/-- Pure capped-exponential recovery controller; `faultKind` is the fault of the present
    episode. -/
structure RecoveryController where
  phase : RecoveryPhase := .healthy
  faultKind : Option RecoveryFault := none
  generation : ℕ := 0
  attempt : ℕ := 0
  dueMillis : ℕ := 0
  stats : RecoveryStats := {}
  deriving DecidableEq

namespace RecoveryController

/-- Mark the current resources invalid and schedule an immediate attempt.  A report during
    an episode postpones nothing; a core fault takes the episode over. -/
def fault (r : RecoveryController) (fault : RecoveryFault) (nowMillis : ℕ) :
    RecoveryController :=
  if r.phase ≠ .healthy then
    -- Losing the core outranks the fault the episode started with.
    if fault = .core ∧ r.faultKind ≠ some .core then
      { r with faultKind := some .core, dueMillis := min r.dueMillis nowMillis }
    else r
  else
    { r with
      phase := .backoff
      faultKind := some fault
      generation := saturatingAdd u64Max r.generation 1
      attempt := 0
      dueMillis := nowMillis
      stats.faults := saturatingAdd u64Max r.stats.faults 1 }

/-- Start the next attempt if its deadline has arrived. -/
def poll (r : RecoveryController) (nowMillis : ℕ) :
    Option RecoveryAttempt × RecoveryController :=
  if r.phase ≠ .backoff ∨ nowMillis < r.dueMillis then (none, r)
  else match r.faultKind with
    | none => (none, r)
    | some fault =>
      let attempt := saturatingAdd u32Max r.attempt 1
      (some ⟨r.generation, attempt, fault⟩,
        { r with
          phase := .attempting
          attempt
          stats.attempts := saturatingAdd u64Max r.stats.attempts 1 })

/-- Record a failed attempt and schedule the next capped delay. -/
def failed (r : RecoveryController) (nowMillis : ℕ) : RecoveryController :=
  if r.phase ≠ .attempting then r
  else
    -- The delay doubles from the second failure on, up to its cap.
    let exponent := min (r.attempt - 1) 6
    let delay := min (saturatingMul u64Max initialBackoffMs (2 ^ exponent)) maxBackoffMs
    { r with
      phase := .backoff
      dueMillis := saturatingAdd u64Max nowMillis delay
      stats.failures := saturatingAdd u64Max r.stats.failures 1 }

/-- Mark the current generation healthy and reset episode-local scheduling. -/
def recovered (r : RecoveryController) : RecoveryController :=
  if r.phase = .healthy then r
  else
    { r with
      phase := .healthy
      faultKind := none
      attempt := 0
      dueMillis := 0
      stats.recoveries := saturatingAdd u64Max r.stats.recoveries 1 }

/-- Cancel recovery because processing intent was stopped. -/
def stop (r : RecoveryController) : RecoveryController :=
  { r with phase := .healthy, faultKind := none, attempt := 0, dueMillis := 0 }

/-! ## What each method does to the phase -/

variable (r : RecoveryController) (f : RecoveryFault) (now : ℕ)

/-- A reported fault always leaves the controller in an episode. -/
theorem fault_phase : (r.fault f now).phase ≠ .healthy := by
  unfold fault
  split
  · rename_i h
    split
    · exact h
    · exact h
  · exact RecoveryPhase.noConfusion

@[simp] theorem recovered_phase : r.recovered.phase = .healthy := by
  unfold recovered
  split
  · assumption
  · rfl

@[simp] theorem stop_phase : r.stop.phase = .healthy := rfl

/-- An attempt starts from `backoff` only, and leaves the recorded fault as it is. -/
theorem poll_some {attempt : RecoveryAttempt} (h : (r.poll now).1 = some attempt) :
    (r.poll now).2.phase = .attempting ∧ (r.poll now).2.faultKind = some attempt.fault := by
  unfold poll at h ⊢
  split at h
  · cases h
  rename_i hdue
  rw [if_neg hdue]
  split at h
  · cases h
  · rename_i fault hfault
    obtain rfl := Option.some.inj h
    exact ⟨rfl, hfault⟩

/-- A poll that starts no attempt changes nothing. -/
theorem poll_none (h : (r.poll now).1 = none) : (r.poll now).2 = r := by
  unfold poll at h ⊢
  split
  · rfl
  · rename_i hdue
    cases hfault : r.faultKind with
    | none => rfl
    | some fault =>
      rw [if_neg hdue, hfault] at h
      cases h

/-- A failed attempt goes back to `backoff` with its fault. -/
theorem failed_attempting (h : r.phase = .attempting) :
    (r.failed now).phase = .backoff ∧ (r.failed now).faultKind = r.faultKind := by
  unfold failed
  rw [if_neg (not_not.mpr h)]
  exact ⟨rfl, rfl⟩

/-! ## The fault of an episode -/

/-- Outside `healthy`, the fault of the episode is recorded. -/
def Named (r : RecoveryController) : Prop := r.phase ≠ .healthy → r.faultKind.isSome

variable {r}

theorem named_of_healthy (h : r.phase = .healthy) : r.Named := fun hne => absurd h hne

theorem Named.fault (h : r.Named) : (r.fault f now).Named := by
  intro _
  unfold RecoveryController.fault
  split
  · rename_i hphase
    split
    · rfl
    · exact h hphase
  · rfl

end RecoveryController

end Noire
