import Noire.Native.Supervision
import Noire.Native.Tracking

namespace Noire

/-!
# A lost graph is back within a second

The owner retries with a backoff, and nothing but its own ticks makes an attempt.  A command, a
second fault or a slow attempt between two ticks must not push the next attempt out of reach.

* `RecoveryController.Advances` — what the calls up to a reading of the clock may do to the
  schedule: an attempt that is due is never put off, except by an attempt that failed;
* `Owner.Advances` — the same of the owner, whose clock never goes back;
* `run_advances` — every run of the loop advances its owner;
* `recovery_prompt` — a tick a full backoff after any moment of a run leaves every intended
  graph present, or an attempt to rebuild it failed since then.

The difficulty is that the next attempt is scheduled in many places and by readings of the clock
that differ.  `Advances` is a relation between two controllers that covers all of them: a wait at
the end is one from the beginning that nothing put off, or one that is over at the reading `now`,
or one after an attempt that failed, and then of at most the largest backoff.  It composes
(`Advances.trans`), so a run is one advance.  If no attempt failed, then the wait that was there
at first is over at the reading of the later tick.  That tick makes the attempt, unless it finds
the graph present.
-/

/-! ## The schedule

Each method of the controller advances it.  A method that sees a healthy controller has nothing to
put off.
-/

namespace RecoveryController

/-- A failed attempt was counted between the two controllers, or the counter is at its
    maximum. -/
def Failed (r r' : RecoveryController) : Prop :=
  r.stats.failures < r'.stats.failures ∨ u64Max ≤ r'.stats.failures

/-- What calls with readings up to `nowMillis` make of a controller between two attempts. -/
structure Advances (r r' : RecoveryController) (nowMillis : ℕ) : Prop where
  idle : r.phase ≠ .attempting → r'.phase ≠ .attempting
  counted : r.stats.failures ≤ r'.stats.failures ∨ u64Max ≤ r'.stats.failures
  /-- A wait is an old one that nothing put off, one that is over, or one after a failure. -/
  due : r'.phase = .backoff →
    (r.phase = .backoff ∧ r'.dueMillis ≤ r.dueMillis) ∨ r'.dueMillis ≤ nowMillis ∨
      (r.Failed r' ∧ r'.dueMillis ≤ nowMillis + maxBackoffMs)

variable {r r' r'' : RecoveryController} {now now' : ℕ}

theorem Advances.refl (r : RecoveryController) (now : ℕ) : r.Advances r now where
  idle := id
  counted := .inl (le_refl _)
  due := fun h => .inl ⟨h, le_refl _⟩

/-- Calls up to a reading are calls up to any later one. -/
theorem Advances.later (h : r.Advances r' now) (hle : now ≤ now') : r.Advances r' now' where
  idle := h.idle
  counted := h.counted
  due := fun hphase => by
    rcases h.due hphase with hold | hover | ⟨hfailed, hdue⟩
    · exact .inl hold
    · exact .inr (.inl (hover.trans hle))
    · exact .inr (.inr ⟨hfailed, by omega⟩)

theorem Failed.trans_counted (h : r.Failed r')
    (hcounted : r'.stats.failures ≤ r''.stats.failures ∨ u64Max ≤ r''.stats.failures) :
    r.Failed r'' := by
  unfold Failed at h ⊢
  omega

theorem Advances.trans (h : r.Advances r' now) (h' : r'.Advances r'' now') (hle : now ≤ now') :
    r.Advances r'' now' where
  idle := fun hidle => h'.idle (h.idle hidle)
  counted := by
    have hfirst := h.counted
    have hsecond := h'.counted
    omega
  due := fun hphase => by
    -- An old wait of the second half is judged by the first half.
    rcases h'.due hphase with ⟨hold, hle'⟩ | hover | ⟨hfailed, hdue⟩
    · rcases (h.later hle).due hold with ⟨holder, hle''⟩ | hover | ⟨hfailed, hdue⟩
      · exact .inl ⟨holder, hle'.trans hle''⟩
      · exact .inr (.inl (hle'.trans hover))
      · exact .inr (.inr ⟨hfailed.trans_counted h'.counted, hle'.trans hdue⟩)
    · exact .inr (.inl hover)
    · refine .inr (.inr ⟨?_, hdue⟩)
      have hcounted := h.counted
      unfold Failed at hfailed ⊢
      omega

/-- A healthy controller waits for nothing. -/
theorem advances_of_healthy (hphase : r'.phase = .healthy)
    (hcounted : r.stats.failures ≤ r'.stats.failures ∨ u64Max ≤ r'.stats.failures) :
    r.Advances r' now where
  idle := fun _ => by rw [hphase]; exact RecoveryPhase.noConfusion
  counted := hcounted
  due := fun h => by cases hphase.symm.trans h

@[simp] theorem recovered_failures (r : RecoveryController) :
    r.recovered.stats.failures = r.stats.failures := by
  unfold recovered
  split <;> rfl

theorem advances_recovered (r : RecoveryController) (now : ℕ) : r.Advances r.recovered now :=
  advances_of_healthy (recovered_phase r) (.inl (recovered_failures r).ge)

theorem advances_stop (r : RecoveryController) (now : ℕ) : r.Advances r.stop now :=
  advances_of_healthy rfl (.inl (le_refl _))

/-- A reported fault schedules at once, or brings the present wait forward. -/
theorem advances_fault (r : RecoveryController) (f : RecoveryFault) (now : ℕ) :
    r.Advances (r.fault f now) now := by
  unfold fault
  split
  · split
    · exact ⟨id, .inl (le_refl _), fun h => .inl ⟨h, min_le_left _ _⟩⟩
    · exact .refl r now
  · exact ⟨fun _ => RecoveryPhase.noConfusion, .inl (le_refl _), fun _ => .inr (.inl (le_refl _))⟩

@[simp] theorem poll_failures (r : RecoveryController) (now : ℕ) :
    (r.poll now).2.stats.failures = r.stats.failures := by
  unfold poll
  split
  · rfl
  · split <;> rfl

/-- A failed attempt is counted, and the next one waits for at most the largest backoff. -/
theorem failed_of_attempting (now : ℕ) (h : r.phase = .attempting) :
    r.Failed (r.failed now) ∧ (r.failed now).dueMillis ≤ now + maxBackoffMs := by
  unfold Failed failed
  rw [if_neg (not_not.mpr h)]
  simp only [saturatingAdd]
  omega

/-- An attempt that failed. -/
theorem failed_of_poll {attempt : RecoveryAttempt} (h : (r.poll now).1 = some attempt) :
    r.Failed ((r.poll now).2.failed now) := by
  have hfailed := (failed_of_attempting now (poll_some r now h).1).1
  unfold Failed at hfailed ⊢
  rwa [poll_failures] at hfailed

theorem advances_attempt_recovered : r.Advances (r.poll now).2.recovered now' :=
  advances_of_healthy (recovered_phase _)
    (.inl (by rw [recovered_failures, poll_failures]))

theorem advances_attempt_failed {attempt : RecoveryAttempt}
    (h : (r.poll now).1 = some attempt) : r.Advances ((r.poll now).2.failed now) now := by
  have hstarted := (poll_some r now h).1
  have hfailed := failed_of_poll h
  refine ⟨fun _ => ?_, hfailed.imp_left le_of_lt, fun _ => .inr (.inr ⟨hfailed, ?_⟩)⟩
  · rw [(failed_attempting _ now hstarted).1]
    exact RecoveryPhase.noConfusion
  · exact (failed_of_attempting now hstarted).2

/-- A named controller whose wait is over starts an attempt. -/
theorem poll_of_due (hnamed : r.Named) (hphase : r.phase = .backoff)
    (hdue : r.dueMillis ≤ now) : ∃ attempt, (r.poll now).1 = some attempt := by
  obtain ⟨fault, hfault⟩ := Option.isSome_iff_exists.mp
    (hnamed (by rw [hphase]; exact RecoveryPhase.noConfusion))
  unfold poll
  rw [if_neg (not_or.mpr ⟨not_not.mpr hphase, hdue.not_gt⟩), hfault]
  exact ⟨_, rfl⟩

end RecoveryController

/-! ## The owner

The relation on the owner adds its clock to that on the controller: an owner advances by a reading
of the clock that lies between its clock before and its clock after.
-/

/-- What steps up to the reading `now` of the clock make of an owner: its clock does not go back,
    and its schedule advances. -/
structure Owner.Advances (o o' : Owner) (now : ℕ) : Prop where
  origin : o'.recoveryOrigin = o.recoveryOrigin
  after : o.audio.clock ≤ now
  before : now ≤ o'.audio.clock
  schedule : o.recovery.Advances o'.recovery (elapsedMillis o.recoveryOrigin now)

theorem Owner.Advances.trans {o o' o'' : Owner} {now now' : ℕ} (h : o.Advances o' now)
    (h' : o'.Advances o'' now') : o.Advances o'' now' where
  origin := h'.origin.trans h.origin
  after := h.after.trans (h.before.trans h'.after)
  before := h'.before
  schedule := by
    have hschedule := h'.schedule
    rw [h.origin] at hschedule
    exact h.schedule.trans hschedule (elapsedMillis_mono _ (h.before.trans h'.after))

/-- Steps up to a reading are steps up to the end of the last of them. -/
theorem Owner.Advances.whole {o o' : Owner} {now : ℕ} (h : o.Advances o' now) :
    o.Advances o' o'.audio.clock where
  origin := h.origin
  after := h.after.trans h.before
  before := le_refl _
  schedule := h.schedule.later (elapsedMillis_mono _ h.before)

/-- What leaves the schedule alone advances the owner, if the clock does not go back. -/
theorem advances_of_unscheduled {o o' : Owner} (hrecovery : o'.recovery = o.recovery)
    (horigin : o'.recoveryOrigin = o.recoveryOrigin) (hclock : o.audio.clock ≤ o'.audio.clock) :
    o.Advances o' o'.audio.clock :=
  ⟨horigin, hclock, le_refl _, by rw [hrecovery]; exact .refl _ _⟩

theorem wait_advances (o : Owner) (elapsed : ℕ) :
    o.Advances (o.wait elapsed) (o.wait elapsed).audio.clock :=
  advances_of_unscheduled rfl rfl (Nat.le_add_right _ _)

/-- The first stage reports a fault at the reading of its tick, if any. -/
theorem serviceCore_advances (o : Owner) (env : TickEnv) :
    o.Advances (serviceCore o env) (o.tickNow env) := by
  have hclock := serviceCore_clock o env
  have hafter : o.audio.clock ≤ o.tickNow env := Nat.le_add_right _ _
  suffices h : (serviceCore o env).recoveryOrigin = o.recoveryOrigin ∧
      o.recovery.Advances (serviceCore o env).recovery
        (elapsedMillis o.recoveryOrigin (o.tickNow env)) from
    ⟨h.1, hafter, hclock, h.2⟩
  unfold serviceCore
  dsimp only
  split
  · exact ⟨rfl, .refl _ _⟩
  · split
    · exact ⟨rfl, RecoveryController.advances_fault _ _ _⟩
    · exact ⟨rfl, .refl _ _⟩

/-! ## The clock of an attempt

An attempt takes time wherever it waits for PipeWire.  All that is needed is that the clock does
not go back.
-/

theorem ensureConnection_clock (a : Audio) (env : AttemptEnv) :
    a.clock ≤ (ensureConnection a env).2.clock := by
  unfold ensureConnection
  dsimp only
  split
  · exact le_refl _
  · split
    · exact Nat.le_add_right _ _
    · exact Nat.le_add_right _ _

section
variable [UnicodeCase]

theorem resolvedRegistry_clock (a : Audio) (env : AttemptEnv) :
    a.clock ≤ (resolvedRegistry a env).2.clock := by
  have hensured := ensureConnection_clock a env
  unfold resolvedRegistry
  split
  · rename_i heq
    rwa [heq] at hensured
  · rename_i heq
    rw [heq] at hensured
    dsimp only
    rw [registrySnapshotNow_clock]
    exact hensured.trans (dispatch_clock_le _ env.refreshed)

theorem lookUp_clock (a : Audio) (env : AttemptEnv) (nodeName : String) :
    a.clock ≤ (a.lookUp env nodeName).2.clock := by
  unfold Audio.lookUp
  dsimp only
  rw [registrySnapshotNow_clock]
  exact dispatch_clock_le a env.connecting

theorem connectWithLatency_clock (a : Audio) (env : AttemptEnv) (nodeName : String) :
    a.clock ≤ (connectWithLatency a env nodeName).2.clock := by
  have hlook := lookUp_clock a env nodeName
  unfold connectWithLatency
  split
  · exact le_refl _
  · dsimp only
    -- The node is gone, the capture failed, the source failed, or both streams connected.
    split
    · exact hlook
    · exact hlook.trans (dispatch_clock_le _ env.connected)
    · exact hlook.trans (dispatch_clock_le _ env.connected)
    · exact hlook.trans (dispatch_clock_le
        { (a.lookUp env nodeName).2 with graph := some (LiveGraph.connected nodeName) }
        env.connected)

theorem rebuildGraph_clock (a : Audio) (config : Config) (env : AttemptEnv) :
    a.clock ≤ (rebuildGraph a config env).2.clock := by
  have hregistry := resolvedRegistry_clock { a with graph := none } env
  unfold rebuildGraph
  split
  · rename_i heq
    rwa [heq] at hregistry
  · rename_i a₁ heq
    rw [heq] at hregistry
    split
    · exact hregistry
    · exact hregistry
    · rename_i selected _ _
      -- The two calls that wait, one after the other.
      have hconnect := connectWithLatency_clock a₁ env selected.nodeName
      split
      · rename_i heq'
        rw [heq'] at hconnect
        exact hregistry.trans hconnect
      · rename_i heq'
        rw [heq'] at hconnect
        exact hregistry.trans hconnect

theorem controlGraph_clock (a : Audio) (previousObservation : Option EngineObservation)
    (config : Config) (meter rebuilt : Bool) (label : String) (env : AttemptEnv) :
    (controlGraph a previousObservation config meter rebuilt label env).2.clock = a.clock := by
  unfold controlGraph
  split
  · rfl
  · split
    · rfl
    · cases rebuilt with
      | true => exact registrySnapshotNow_clock _
      | false => rfl

theorem stoppedObservation_clock (a : Audio) (previous : Option Config)
    (previousObservation : Option EngineObservation) (config : Config) (env : AttemptEnv) :
    a.clock ≤ (stoppedObservation a previous previousObservation config env).2.clock := by
  have hregistry := resolvedRegistry_clock a env
  unfold stoppedObservation
  dsimp only
  split
  · exact le_refl _
  · unfold freshLabel
    split
    · rename_i heq
      rwa [heq] at hregistry
    · rename_i heq
      rwa [heq] at hregistry

/-- The clock does not go back in an attempt, however it ends. -/
theorem applyNative_clock (a : Audio) (previous : Option Config)
    (previousObservation : Option EngineObservation) (config : Config) (meter : Bool)
    (env : AttemptEnv) :
    a.clock ≤ (applyNative a previous previousObservation config meter env).2.clock := by
  unfold applyNative
  split
  · exact stoppedObservation_clock { a with graph := none } previous previousObservation config env
  · split
    · have hrebuild := rebuildGraph_clock a config env
      split
      · rename_i heq
        rwa [heq] at hrebuild
      · rename_i heq
        rw [heq] at hrebuild
        rw [controlGraph_clock]
        exact hrebuild
    · rw [controlGraph_clock]

/-! ## Commands

A command ends an episode by its success, or opens one by the fault of a first configuration.  The
attempts that it makes itself take time, and leave the schedule alone.
-/

theorem handleApply_advances (o : Owner) (config : Config) (env : CommandEnv) :
    o.Advances (handleApply o config env).2 (handleApply o config env).2.audio.clock := by
  have hfirst := applyNative_clock o.audio o.applied o.observation config o.meterMonitoring
    env.first
  rcases hresult : handleApply o config env with ⟨reply, o'⟩
  cases handleApply_applied hresult with
  | accepted first =>
    rw [first] at hfirst
    refine ⟨rfl, hfirst, le_refl _, ?_⟩
    dsimp only
    -- A graph ends the episode; a configuration that wants none has none to recover.
    split
    · exact RecoveryController.advances_recovered _ _
    · exact RecoveryController.advances_stop _ _
  | restored first intent second =>
    rename_i error audio previous observation audio'
    have hsecond := applyNative_clock audio none o.observation previous o.meterMonitoring
      env.restore
    rw [first] at hfirst
    rw [second] at hsecond
    exact ⟨rfl, hfirst.trans hsecond, le_refl _, RecoveryController.advances_recovered _ _⟩
  | abandoned first intent second =>
    rename_i error audio previous error' audio'
    have hsecond := applyNative_clock audio none o.observation previous o.meterMonitoring
      env.restore
    rw [first] at hfirst
    rw [second] at hsecond
    -- The schedule does not hear of a restore that failed.
    exact advances_of_unscheduled rfl rfl (hfirst.trans hsecond)
  | retained first intent active =>
    rw [first] at hfirst
    -- The fault is reported at a reading of its own, after the attempt.
    exact ⟨rfl, hfirst.trans (Nat.le_add_right _ _), le_refl _,
      RecoveryController.advances_fault _ _ _⟩
  | rejected first intent inactive =>
    rw [first] at hfirst
    exact advances_of_unscheduled rfl rfl hfirst

theorem handleInputs_advances (o : Owner) (env : CommandEnv) :
    o.Advances (handleInputs o env).2 (handleInputs o env).2.audio.clock := by
  have hclock := resolvedRegistry_clock o.audio env.first
  unfold handleInputs
  split
  · rename_i heq
    rw [heq] at hclock
    exact advances_of_unscheduled rfl rfl hclock
  · rename_i heq
    rw [heq] at hclock
    exact advances_of_unscheduled rfl rfl hclock

theorem handleSetMeterMonitoring_advances (o : Owner) (enabled : Bool) (env : CommandEnv) :
    o.Advances (handleSetMeterMonitoring o enabled env).2
      (handleSetMeterMonitoring o enabled env).2.audio.clock := by
  unfold handleSetMeterMonitoring
  split
  · exact advances_of_unscheduled rfl rfl (le_refl _)
  · rename_i config _
    have hclock := applyNative_clock o.audio (some config) o.observation config enabled env.first
    split
    · rename_i heq
      rw [heq] at hclock
      exact advances_of_unscheduled rfl rfl hclock
    · rename_i heq
      rw [heq] at hclock
      exact advances_of_unscheduled rfl rfl hclock

theorem handle_advances (o : Owner) (command : NativeCommand) (env : CommandEnv) :
    o.Advances (handle o command env).2 (handle o command env).2.audio.clock := by
  cases command with
  | apply config => exact handleApply_advances o config env
  | inputs => exact handleInputs_advances o env
  | observe => exact advances_of_unscheduled rfl rfl (le_refl _)
  | setMeterMonitoring enabled => exact handleSetMeterMonitoring_advances o enabled env

/-! ## The tick

A tick reads the clock once, at its beginning, and schedules by this reading also after an attempt
that took longer.
-/

/-- The second stage reports a fault at the reading of its tick, if any. -/
theorem serviceGraph_advances (o : Owner) (env : TickEnv) (now : ℕ) :
    (serviceGraph o env now).recoveryOrigin = o.recoveryOrigin ∧
      o.audio.clock ≤ (serviceGraph o env now).audio.clock ∧
      o.recovery.Advances (serviceGraph o env now).recovery
        (elapsedMillis o.recoveryOrigin now) := by
  have hclock := (published_cases o env).1
  obtain ⟨clock, connection, observation, hpublished, -⟩ := published_eq o env
  rw [hpublished] at hclock
  unfold serviceGraph
  dsimp only
  rw [hpublished]
  split
  · split
    -- A health issue, a lost input or a failed demand poll is reported at this reading.
    · exact ⟨rfl, hclock, RecoveryController.advances_fault _ _ _⟩
    · split
      · exact ⟨rfl, hclock, .refl _ _⟩
      · exact ⟨rfl, hclock, .refl _ _⟩
  · exact ⟨rfl, hclock, .refl _ _⟩

/-- The first two stages of a tick advance the owner up to the reading of the tick. -/
theorem serviceStages_advance (o : Owner) (env : TickEnv) :
    o.Advances (serviceGraph (serviceCore o env) env (o.tickNow env)) (o.tickNow env) := by
  have hcore := serviceCore_advances o env
  obtain ⟨horigin, hclock, hschedule⟩ :=
    serviceGraph_advances (serviceCore o env) env (o.tickNow env)
  rw [hcore.origin] at hschedule
  exact ⟨horigin.trans hcore.origin, hcore.after, hcore.before.trans hclock,
    hcore.schedule.trans hschedule (le_refl _)⟩

/-- The third stage schedules by the reading of its tick, which its attempt leaves behind. -/
theorem serviceRecovery_advances {o : Owner} {now : ℕ} (env : TickEnv)
    (hnow : now ≤ o.audio.clock) :
    o.Advances (serviceRecovery o env now) (serviceRecovery o env now).audio.clock := by
  rcases serviceRecovery_cases o env now with
    ⟨-, heq⟩ | heq | ⟨config, attempt, -, -, hpoll, hattempt⟩
  · rw [heq]
    exact ⟨rfl, le_refl _, le_refl _, RecoveryController.advances_stop _ _⟩
  · rw [heq]
    exact advances_of_unscheduled rfl rfl (le_refl _)
  · have hclock := applyNative_clock o.audio none o.observation config o.meterMonitoring
      env.attempt
    rcases hattempt with ⟨observation, audio, hok, -, heq⟩ | ⟨error, audio, herror, heq⟩
    · rw [hok] at hclock
      rw [heq]
      exact ⟨rfl, hclock, le_refl _, RecoveryController.advances_attempt_recovered⟩
    · rw [herror] at hclock
      rw [heq]
      -- The next wait is counted from the start of the tick, not from the end of the attempt.
      exact ⟨rfl, hclock, le_refl _, (RecoveryController.advances_attempt_failed hpoll).later
        (elapsedMillis_mono _ (hnow.trans hclock))⟩

theorem serviceNative_advances (o : Owner) (env : TickEnv) :
    o.Advances (serviceNative o env) (serviceNative o env).audio.clock := by
  have hstages := serviceStages_advance o env
  exact hstages.trans (serviceRecovery_advances env hstages.before)

/-- A graph that is intended and absent after the third stage was so before it. -/
theorem serviceRecovery_absent {o : Owner} {env : TickEnv} {now : ℕ}
    (hwanted : (serviceRecovery o env now).Intended)
    (hgraph : (serviceRecovery o env now).audio.graph = none) :
    o.Intended ∧ o.audio.graph = none := by
  rcases serviceRecovery_cases o env now with
    ⟨hunwanted, heq⟩ | heq | ⟨config, attempt, happlied, hnone, -, hattempt⟩
  · rw [heq] at hwanted
    obtain ⟨config, happlied, hwanted⟩ := hwanted
    exact absurd hwanted (hunwanted config happlied)
  · rw [heq] at hwanted hgraph
    exact ⟨hwanted, hgraph⟩
  · refine ⟨?_, hnone⟩
    rcases hattempt with ⟨observation, audio, -, -, heq⟩ | ⟨error, audio, -, heq⟩
    · rw [heq] at hwanted
      exact hwanted
    · rw [heq] at hwanted
      exact hwanted

/-- An attempt that is due is made, and rebuilds the graph or fails. -/
theorem serviceRecovery_attempts {o : Owner} {env : TickEnv} {now : ℕ} {attempt : RecoveryAttempt}
    (hwanted : o.Intended) (hnone : o.audio.graph = none)
    (hpoll : (o.recovery.poll (elapsedMillis o.recoveryOrigin now)).1 = some attempt)
    (hgraph : (serviceRecovery o env now).audio.graph = none) :
    o.recovery.Failed (serviceRecovery o env now).recovery := by
  obtain ⟨config, happlied, hwants⟩ := hwanted
  have hfilter : (o.applied.filter fun config => config.active || o.meterMonitoring) =
      some config := Option.filter_eq_some_iff.mpr ⟨happlied, by simpa using hwants⟩
  have hfailed := RecoveryController.failed_of_poll hpoll
  unfold serviceRecovery at hgraph ⊢
  rcases hpolled : o.recovery.poll (elapsedMillis o.recoveryOrigin now) with ⟨_, recovery⟩
  rw [hpolled] at hpoll hfailed
  obtain rfl := hpoll
  simp only [hfilter, hnone, Option.isSome_none, Bool.false_eq_true, if_false, hpolled]
    at hgraph ⊢
  split at hgraph
  · -- a successful attempt leaves the wanted graph
    rename_i hattempt
    have hsome := (applyNative_ok hattempt).mpr hwants
    rw [hgraph] at hsome
    cases hsome
  · exact hfailed

/-! ## Runs

The invariant of `Native/Supervision.lean` says that an intended graph that is absent is being
recovered; here it is used at the later tick.
-/

theorem iterate_advances {o o' : Owner} {it : Iteration} (h : iterate o it = some o') :
    o.Advances o' o'.audio.clock := by
  have hwaited := wait_advances o it.elapsed
  rcases iterate_cases h with ⟨-, rfl⟩ | ⟨o₁, -, rfl, rfl | ⟨command, -, rfl⟩⟩
  · exact hwaited
  · exact hwaited.trans (serviceNative_advances _ it.tick)
  · exact (hwaited.trans (handle_advances _ command it.env)).trans
      (serviceNative_advances _ it.tick)

/-- **Every run advances its owner**, whatever its commands are. -/
theorem run_advances {C : Owner → Iteration → Prop} {o o' : Owner} {is : List Iteration}
    (run : Lib.Run (fun o it o' => iterate o it = some o') C o is o') :
    o.Advances o' o'.audio.clock :=
  Lib.Run.invariant (fun o' => o.Advances o' o'.audio.clock)
    (advances_of_unscheduled rfl rfl (le_refl _))
    (fun _ _ _ h _ hstep => h.trans (iterate_advances hstep)) run

/-- In every run an attempt waits for at most the largest backoff. -/
theorem run_waits {C : Owner → Iteration → Prop} {clock : ℕ} {is : List Iteration} {o : Owner}
    (run : NativeRun C clock is o) :
    o.recoveryOrigin = clock ∧ o.recovery.phase ≠ .attempting ∧
      (o.recovery.phase = .backoff →
        o.recovery.dueMillis ≤ elapsedMillis clock o.audio.clock + maxBackoffMs) := by
  have h := run_advances run
  refine ⟨h.origin, h.schedule.idle RecoveryPhase.noConfusion, fun hphase => ?_⟩
  rcases h.schedule.due hphase with ⟨hstart, -⟩ | hover | ⟨-, hdue⟩
  · cases hstart
  · exact hover.trans (Nat.le_add_right _ _)
  · exact hdue

/-- An iteration whose command abandons no configuration. -/
abbrev KeepsIntent : Owner → Iteration → Prop := OnCommand fun o c env => ¬Abandons o c env

theorem run_supervised {o o' : Owner} {is : List Iteration} (h : o.Supervised)
    (run : Lib.Run (fun o it o' => iterate o it = some o') KeepsIntent o is o') :
    o'.Supervised :=
  Lib.Run.invariant Owner.Supervised h (fun _ _ _ h hkept hstep =>
    iterate_keeps Owner.Supervised (fun _ _ h => h.of_kept rfl rfl rfl id id)
      (fun _ _ _ h hkept => handle_supervised h hkept)
      (fun _ env h => serviceNative_supervised h env) h hkept hstep) run

/-- What the owner is when a tick starts has waited, and carried a command out, if any. -/
theorem beforeTick_advances {o o₁ : Owner} {it : Iteration} (h : o.beforeTick it = some o₁) :
    o.Advances o₁ o₁.audio.clock := by
  have hwaited := wait_advances o it.elapsed
  unfold Owner.beforeTick at h
  split at h
  · rename_i command _
    cases h
    exact hwaited.trans (handle_advances _ command it.env)
  · cases h
    exact hwaited
  · cases h
  · cases h
  · cases h

theorem beforeTick_supervised {o o₁ : Owner} {it : Iteration} (hsupervised : o.Supervised)
    (hkept : KeepsIntent o it) (h : o.beforeTick it = some o₁) : o₁.Supervised := by
  have hwaited : (o.wait it.elapsed).Supervised := hsupervised.of_kept rfl rfl rfl id id
  unfold Owner.beforeTick at h
  split at h
  · rename_i command hreceived
    cases h
    exact handle_supervised hwaited (hkept command hreceived)
  · cases h
    exact hwaited
  · cases h
  · cases h
  · cases h

/-- **A lost graph is back within a second.** In every run without an abandoned configuration,
    take any moment and any later tick that reads the clock a full backoff after it.  If no
    attempt to rebuild failed in between, the tick leaves every intended graph present. -/
theorem recovery_prompt {clock : ℕ} {is is' : List Iteration} {o o₁ o₂ : Owner} {it : Iteration}
    (run : NativeRun KeepsIntent clock is o)
    (continued : Lib.Run (fun o it o' => iterate o it = some o') KeepsIntent o is' o₁)
    (hkept : KeepsIntent o₁ it) (hbefore : o₁.beforeTick it = some o₂)
    (hwindow : elapsedMillis clock o.audio.clock + maxBackoffMs ≤
      elapsedMillis clock (o₂.tickNow it.tick))
    (hwanted : (serviceNative o₂ it.tick).Intended) (hcounter : o.recovery.stats.failures < u64Max)
    (hunfailed : (serviceNative o₂ it.tick).recovery.stats.failures = o.recovery.stats.failures) :
    (serviceNative o₂ it.tick).audio.graph.isSome := by
  obtain ⟨horigin, hidle, hwaits⟩ := run_waits run
  -- The state between the stages that lose a graph and the one that recovers it.
  obtain ⟨o₃, ho₃⟩ : ∃ o₃, o₃ = serviceGraph (serviceCore o₂ it.tick) it.tick
    (o₂.tickNow it.tick) := ⟨_, rfl⟩
  have hsupervised : o₃.Supervised := by
    rw [ho₃]
    exact serviceGraph_supervised (serviceCore_supervised (beforeTick_supervised
      (run_supervised (run_supervised (start_supervised clock) run) continued) hkept hbefore) _) _ _
  have hadvanced : o.Advances o₃ (o₂.tickNow it.tick) := by
    rw [ho₃]
    exact ((run_advances continued).trans (beforeTick_advances hbefore)).trans
      (serviceStages_advance o₂ it.tick)
  have hlast := (serviceRecovery_advances it.tick hadvanced.before).schedule.counted
  have hended : serviceNative o₂ it.tick = serviceRecovery o₃ it.tick (o₂.tickNow it.tick) := by
    rw [ho₃]
    rfl
  rw [hended] at hwanted hunfailed ⊢
  -- Without a graph the tick would have tried, as its wait is over, and would have counted.
  by_contra hno
  have hgraph := Option.not_isSome_iff_eq_none.mp hno
  obtain ⟨hwanted₃, hgraph₃⟩ := serviceRecovery_absent hwanted hgraph
  have hsame : o₃.recoveryOrigin = clock := hadvanced.origin.trans horigin
  have hphase : o₃.recovery.phase = .backoff := by
    have hscheduled := (hsupervised.recovering hwanted₃ hgraph₃).scheduled
    have hidle₃ := hadvanced.schedule.idle hidle
    cases hphase : o₃.recovery.phase with
    | healthy => exact absurd hphase hscheduled
    | backoff => rfl
    | attempting => exact absurd hphase hidle₃
  have hschedule := hadvanced.schedule
  rw [horigin] at hschedule
  -- The wait is the one of the start of the window, or began in it: either way it is over.
  have hdue : o₃.recovery.dueMillis ≤ elapsedMillis clock (o₂.tickNow it.tick) := by
    rcases hschedule.due hphase with ⟨hold, hle⟩ | hover | ⟨hfailed, -⟩
    · exact hle.trans ((hwaits hold).trans hwindow)
    · exact hover
    · have hfailed' := hfailed.trans_counted hlast
      unfold RecoveryController.Failed at hfailed'
      omega
  obtain ⟨attempt, hpoll⟩ := RecoveryController.poll_of_due hsupervised.named hphase hdue
  rw [← hsame] at hpoll
  have hfailed := serviceRecovery_attempts hwanted₃ hgraph₃ hpoll hgraph
  have hcounted := hschedule.counted
  unfold RecoveryController.Failed at hfailed
  omega

end

/-- PipeWire is down when the daemon starts, and is back with a microphone when a tick runs a
    second later. -/
theorem recovery_prompt_reconnected :
    letI := asciiCase
    ∃ o o' : Owner, o.audio.graph = none ∧ o.recovery.stats.failures = 1 ∧
      o'.applied = some { active := true } ∧ o'.audio.graph.isSome := by
  let _ := asciiCase
  let down : AttemptEnv := { connect := .error "no server" }
  let tick : TickEnv :=
    { elapsed := fromMillis 1000, attempt := { refreshed := microphonePresent } }
  -- One iteration in which every attempt fails.
  obtain ⟨o, run, hend⟩ := NativeRun.of_iterate (C := KeepsIntent) 0
    { received := .command (.apply { active := true }) false
      env := { first := down }
      tick := { attempt := down } }
    (fun o =>
      o.audio.graph.isNone && o.recovery.stats.failures = 1 && o.audio.clock = 0 &&
        (serviceNative (o.wait 0) tick).applied = some { active := true } &&
        (serviceNative (o.wait 0) tick).recovery.stats.failures = 1)
    (by rintro command - ⟨_, _, _, _, -, hprevious, -⟩; cases hprevious) (by decide)
  simp only [Bool.and_eq_true, decide_eq_true_eq, Option.isNone_iff_eq_none] at hend
  obtain ⟨⟨⟨⟨hgraph, hfailures⟩, hclock⟩, happlied⟩, hunfailed⟩ := hend
  have hkept : KeepsIntent o { tick } := by
    intro command hreceived
    cases hreceived
  have hprompt := recovery_prompt run .nil hkept rfl
  refine ⟨o, _, hgraph, hfailures, happlied, hprompt ?_ ⟨_, happlied, .inl rfl⟩ ?_
    (hunfailed.trans hfailures.symm)⟩
  · simp only [Owner.tickNow, Owner.wait, hclock]
    decide
  · rw [hfailures]
    decide

end Noire
