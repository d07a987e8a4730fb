import Noire.Control.Agreement
import Noire.Control.Calls
import Noire.Store.Rejected

namespace Noire

/-!
# The transaction law

Every change of the configuration is guarded by the revision it was made on, saved before it
is adopted, and counted by the revision.

* `Operation.expected` — the revision an operation is made on;
* `Lawful` — what an operation may do, whatever its calls return;
* `Changing.changes` — every path that changes the configuration;
* `Performs.counts` — a step that changes the configuration raises the revision, and was made
  on the revision it changes;
* `transaction_law` — every operation of a reachable daemon is lawful; over any run, two
  snapshots of one revision have one configuration, and no change undoes one its client did
  not know of.

The law of one operation is proved along the paths of `Changing`: each call that fails leaves the
configuration, and the path that adopts has saved before.  `Lawful` says it with the calls that
were made, so that it covers every way in which they may be answered.

Over a run the revision is a counter.  A step that changes the configuration raises it, one that
does not may raise it, and none lowers it; so two moments with one revision have nothing between
them that changed the configuration.  The last revision of the counter is the exception, and is
excluded where it matters.
-/

open Lib

namespace Daemon

/-! ## Guarded operations

What the ten operations have in common: another revision than the current one is a conflict before
any call, what is accepted is valid and saved, and what is rejected changes no configuration.
-/

/-- The revision an operation is guarded by. -/
def Operation.expected : Operation → Option ℕ
  | .retry expected => some expected
  | operation => operation.change.map Prod.fst

/-- The error after which the engine may not be what the configuration says. -/
def isRollback : ControlError → Bool
  | .persistenceRollback _ _ => true
  | _ => false

/-- What an operation of `d` may do, with the calls it made: it returned `result` and left
    `d'`. -/
structure Lawful (d : Daemon Unit) (operation : Operation) (env : ControlEnv) (calls : Calls)
    (result : Except ControlError Snapshot) (d' : Daemon Unit) : Prop where
  /-- An operation on another revision is a conflict, and makes no call. -/
  conflict : ∀ expected, operation.expected = some expected → expected ≠ d.revision →
    calls = [] ∧ result = .error (.conflict expected d.revision) ∧ d' = d
  /-- A change that is accepted was made already, or is valid, saved and counted. -/
  accepted : ∀ expected update snapshot, operation.change = some (expected, update) →
    result = .ok snapshot →
      (d' = d ∧ update d.config = d.config) ∨
        (d'.config = update d.config ∧ (update d.config).validate = .ok () ∧
          ⟨.save (update d.config), .ok ()⟩ ∈ calls ∧ d'.revision = d.revision + 1)
  /-- What is rejected changes no configuration, and is counted only if it left the engine
      behind. -/
  rejected : ∀ error, result = .error error →
    d'.config = d.config ∧ d'.revision = if isRollback error then d.revision + 1 else d.revision
  /-- What is returned is the snapshot of what is left. -/
  returned : ∀ snapshot, result = .ok snapshot → snapshot = d'.snapshot env

variable {d d' : Daemon Unit} {env : ControlEnv} {calls : Calls}
  {result : Except ControlError Snapshot} {expected : ℕ} {update : Config → Config}

/-- The next revision of one that is not the last. -/
theorem nextRevision_of_lt {revision : ℕ} (h : revision < u64Max) :
    nextRevision revision = revision + 1 := by
  unfold nextRevision saturatingAdd
  omega

/-! ## Transactions

`Changes` is what the five paths have in common.
-/

/-- What a change made on `expected` may do. -/
structure Changes (d : Daemon Unit) (expected : ℕ) (update : Config → Config) (env : ControlEnv)
    (calls : Calls) (result : Except ControlError Snapshot) (d' : Daemon Unit) : Prop where
  conflict : expected ≠ d.revision →
    calls = [] ∧ result = .error (.conflict expected d.revision) ∧ d' = d
  accepted : ∀ snapshot, result = .ok snapshot →
    (d' = d ∧ update d.config = d.config) ∨
      (d'.config = update d.config ∧ (update d.config).validate = .ok () ∧
        ⟨.save (update d.config), .ok ()⟩ ∈ calls ∧ d'.revision = nextRevision d.revision)
  rejected : ∀ error, result = .error error → d'.config = d.config ∧
    d'.revision = if isRollback error then nextRevision d.revision else d.revision
  returned : ∀ snapshot, result = .ok snapshot → snapshot = d'.snapshot env

/-- A change that is refused, and not as one that left the engine behind. -/
theorem Changes.of_refused {error : ControlError} (hconflict : expected = d.revision)
    (herror : isRollback error = false) (hconfig : d'.config = d.config)
    (hrevision : d'.revision = d.revision) :
    Changes d expected update env calls (.error error) d' := by
  refine ⟨fun hne => absurd hconflict hne, (fun _ h => by cases h), fun error' h => ?_,
    (fun _ h => by cases h)⟩
  obtain rfl := Except.error.inj h
  exact ⟨hconfig, by rw [if_neg (by simp [herror]), hrevision]⟩

/-- A change on another revision. -/
theorem Changes.of_conflict (d : Daemon Unit) (expected : ℕ) (update : Config → Config)
    (env : ControlEnv) :
    Changes d expected update env [] (.error (.conflict expected d.revision)) d := by
  refine ⟨fun _ => ⟨rfl, rfl, rfl⟩, (fun _ h => by cases h), fun error h => ?_,
    (fun _ h => by cases h)⟩
  obtain rfl := Except.error.inj h
  exact ⟨rfl, by rw [if_neg (by simp [isRollback])]⟩

/-- A change that was made already. -/
theorem Changes.of_same (hconflict : expected = d.revision) (hsame : update d.config = d.config) :
    Changes d expected update env calls (.ok (d.snapshot env)) d := by
  refine ⟨fun hne => absurd hconflict hne, fun snapshot _ => .inl ⟨rfl, hsame⟩,
    (fun _ h => by cases h),
    fun snapshot h => ?_⟩
  cases h
  rfl

/-- A change that is valid, saved and adopted. -/
theorem Changes.of_adopted (hconflict : expected = d.revision)
    (hvalid : (update d.config).validate = .ok ())
    (hsaved : (⟨.save (update d.config), .ok ()⟩ : (call : DaemonCall) × call.Answer) ∈ calls)
    (hconfig : d'.config = update d.config) (hrevision : d'.revision = nextRevision d.revision) :
    Changes d expected update env calls (.ok (d'.snapshot env)) d' := by
  refine ⟨fun hne => absurd hconflict hne,
    fun snapshot _ => .inr ⟨hconfig, hvalid, hsaved, hrevision⟩, (fun _ h => by cases h),
    fun snapshot h => ?_⟩
  cases h
  rfl

/-- **Every path of a change**, whatever its calls return. -/
theorem Changing.changes {p : DaemonProg (Except ControlError Snapshot × Daemon Unit)}
    (hp : Changing d expected update env p) (hvalid : d.config.Valid)
    (h : p.Returns calls (result, d')) : Changes d expected update env calls result d' := by
  cases hp with
  | conflict _ =>
    obtain ⟨rfl, heq⟩ := h.of_pure
    cases heq
    exact .of_conflict d expected update env
  | readOnly hrevision =>
    obtain ⟨rfl, heq⟩ := h.of_pure
    cases heq
    exact .of_refused hrevision rfl rfl rfl
  | invalid hrevision _ =>
    obtain ⟨rfl, heq⟩ := h.of_pure
    cases heq
    exact .of_refused hrevision rfl rfl rfl
  | made hrevision hsame =>
    obtain ⟨rfl, heq⟩ := h.of_pure
    cases heq
    exact .of_same hrevision hsame
  | applied hrevision _ hcandidate =>
    -- The engine applies the candidate, the store saves it, and only then it is adopted.
    obtain ⟨applied, rest₁, rfl, h₁⟩ := h.of_call
    rcases applied with error | observation
    · obtain ⟨rfl, heq⟩ := h₁.of_pure
      cases heq
      exact .of_refused hrevision rfl rfl rfl
    obtain ⟨saved, rest₂, rfl, h₂⟩ := h₁.of_call
    rcases saved with persistence | _
    · -- not saved: the engine is given the previous configuration again
      obtain ⟨restored, rest₃, rfl, h₃⟩ := h₂.of_call
      rcases restored with rollback | restored
      · obtain ⟨rfl, heq⟩ := h₃.of_pure
        cases heq
        refine ⟨fun hne => absurd hrevision hne, (fun _ h => by cases h), fun error herror => ?_,
          (fun _ h => by cases h)⟩
        obtain rfl := Except.error.inj herror
        exact ⟨rfl, by rw [if_pos (show isRollback _ = true from rfl)]⟩
      · obtain ⟨rfl, heq⟩ := h₃.of_pure
        cases heq
        exact .of_refused hrevision rfl rfl rfl
    · obtain ⟨rfl, heq⟩ := h₂.of_pure
      cases heq
      exact .of_adopted hrevision hcandidate (by simp) rfl rfl
  | saved hrevision _ hpreference =>
    have hcandidate := (Config.validate_ok_iff _).mpr (hpreference.valid hvalid)
    obtain ⟨saved, rest₁, rfl, h₁⟩ := h.of_call
    rcases saved with persistence | _
    · obtain ⟨rfl, heq⟩ := h₁.of_pure
      cases heq
      exact .of_refused hrevision rfl rfl rfl
    · obtain ⟨rfl, heq⟩ := h₁.of_pure
      cases heq
      exact .of_adopted hrevision hcandidate (by simp) rfl rfl
  | managed hrevision _ hpreference enabled =>
    have hcandidate := (Config.validate_ok_iff _).mpr (hpreference.valid hvalid)
    obtain ⟨managed, rest₁, rfl, h₁⟩ := h.of_call
    rcases managed with manager | _
    · obtain ⟨rfl, heq⟩ := h₁.of_pure
      cases heq
      exact .of_refused hrevision rfl rfl rfl
    obtain ⟨saved, rest₂, rfl, h₂⟩ := h₁.of_call
    rcases saved with error | _
    · -- not saved: the launch manager is told the previous setting
      obtain ⟨rollback, rest₃, rfl, h₃⟩ := h₂.of_call
      obtain ⟨rfl, heq⟩ := h₃.of_pure
      cases heq
      exact .of_refused hrevision rfl rfl rfl
    · obtain ⟨rfl, heq⟩ := h₂.of_pure
      cases heq
      exact .of_adopted hrevision hcandidate (by simp) rfl rfl

/-! ## Any operation

The operations that ask for no change are taken one by one.
-/

/-- **An operation that changes the configuration**, whatever its calls return. -/
theorem calls_changes {operation : Operation} {reply : Reply} (hvalid : d.config.Valid)
    (hchange : operation.change = some (expected, update))
    (h : (operation.calls d env).Returns calls (reply, d')) :
    ∃ result, reply = .snapshot result ∧ Changes d expected update env calls result d' := by
  obtain ⟨p, hcalls, hp⟩ := Operation.calls_changing d env hchange
  rw [hcalls] at h
  obtain ⟨⟨result, d₁⟩, hreturns, heq⟩ := h.of_map
  cases heq
  exact ⟨result, rfl, hp.changes hvalid hreturns⟩

/-- What a retry may do. -/
theorem retryCalls_cases (h : (retryCalls d expected env).Returns calls (result, d')) :
    (expected ≠ d.revision ∧ calls = [] ∧ result = .error (.conflict expected d.revision) ∧
        d' = d) ∨
      (expected = d.revision ∧ d'.config = d.config ∧
        ((∃ error, result = .error (.audio error) ∧ d'.revision = d.revision) ∨
          (result = .ok (d'.snapshot env) ∧ d'.revision = nextRevision d.revision))) := by
  unfold retryCalls at h
  split at h
  · rename_i hne
    obtain ⟨rfl, heq⟩ := h.of_pure
    cases heq
    exact .inl ⟨hne, rfl, rfl, rfl⟩
  · rename_i hrevision
    obtain ⟨retried, rest, rfl, h₁⟩ := h.of_call
    rcases retried with error | observation
    · obtain ⟨rfl, heq⟩ := h₁.of_pure
      cases heq
      exact .inr ⟨not_not.mp hrevision, rfl, .inl ⟨error, rfl, rfl⟩⟩
    · obtain ⟨rfl, heq⟩ := h₁.of_pure
      cases heq
      exact .inr ⟨not_not.mp hrevision, rfl, .inr ⟨rfl, rfl⟩⟩

/-- An operation that asks for no change makes none. -/
theorem calls_keeps {operation : Operation} {reply : Reply}
    (hchange : operation.change = none)
    (h : (operation.calls d env).Returns calls (reply, d')) :
    d'.config = d.config ∧ (d'.revision = d.revision ∨ d'.revision = nextRevision d.revision) := by
  cases operation with
  | start _ | stop _ | selectInput _ _ | setSuppressionEnabled _ _ | setStrength _ _
  | setLatencyProfile _ _ | setFailMode _ _ | setStartWithNoiseReduction _ _
  | setLaunchAtLogin _ _ => cases hchange
  -- Meters and the list of inputs are no part of what is counted.
  | setMeterMonitoring enabled =>
    obtain ⟨⟨result, d₁⟩, hreturns, heq⟩ := h.of_map
    cases heq
    obtain ⟨metered, rest, rfl, h₁⟩ := hreturns.of_call
    rcases metered with error | _
    · obtain ⟨rfl, heq⟩ := h₁.of_pure
      cases heq
      exact ⟨rfl, .inl rfl⟩
    · obtain ⟨rfl, heq⟩ := h₁.of_pure
      cases heq
      exact ⟨rfl, .inl rfl⟩
  -- A retry or a refresh may count, and neither changes the configuration.
  | retry expected =>
    obtain ⟨⟨result, d₁⟩, hreturns, heq⟩ := h.of_map
    cases heq
    rcases retryCalls_cases hreturns with ⟨-, -, -, rfl⟩ | ⟨-, hconfig, ⟨_, -, hsame⟩ | ⟨-, hnext⟩⟩
    · exact ⟨rfl, .inl rfl⟩
    · exact ⟨hconfig, .inl hsame⟩
    · exact ⟨hconfig, .inr hnext⟩
  | refreshObservation =>
    obtain ⟨⟨result, d₁⟩, hreturns, heq⟩ := h.of_map
    cases heq
    obtain ⟨observed, rest, rfl, h₁⟩ := hreturns.of_call
    obtain ⟨rfl, heq⟩ := h₁.of_pure
    obtain ⟨hconfig, hrevision⟩ := adopted_keeps d observed env
    rcases announced_cases d.observation (adopted d observed env) with ⟨-, hcase⟩ | ⟨-, hcase⟩
    · cases heq.trans hcase
      exact ⟨hconfig, .inl hrevision⟩
    · cases heq.trans hcase
      exact ⟨hconfig, .inr (congrArg nextRevision hrevision)⟩
  | inputs =>
    obtain ⟨⟨result, d₁⟩, hreturns, heq⟩ := h.of_map
    cases heq
    obtain ⟨listed, rest, rfl, h₁⟩ := hreturns.of_call
    rcases listed with error | next
    · obtain ⟨rfl, heq⟩ := h₁.of_pure
      cases heq
      exact ⟨rfl, .inl rfl⟩
    · obtain ⟨rfl, heq⟩ := h₁.of_pure
      cases heq
      exact ⟨rfl, .inl rfl⟩

/-- The revision a change is made on guards it. -/
theorem Operation.expected_of_change {operation : Operation}
    (h : operation.change = some (expected, update)) : operation.expected = some expected := by
  cases operation with
  | retry _ => cases h
  | _ => exact congrArg (Option.map Prod.fst) h

/-- **The law of an operation.** -/
theorem calls_lawful {operation : Operation} (hvalid : d.config.Valid)
    (hrevision : d.revision < u64Max)
    (h : (operation.calls d env).Returns calls (.snapshot result, d')) :
    Lawful d operation env calls result d' := by
  have hnext := nextRevision_of_lt hrevision
  cases hchange : operation.change with
  | some change =>
    obtain ⟨expected, update⟩ := change
    obtain ⟨result', hreply, hlaw⟩ := calls_changes hvalid hchange h
    obtain rfl : result = result' := Reply.snapshot.inj hreply
    have hexpected := Operation.expected_of_change hchange
    refine ⟨fun expected' h' hne => ?_, fun expected' update' snapshot h' hok => ?_,
      fun error herror => ?_, hlaw.returned⟩
    · obtain rfl := Option.some.inj (hexpected.symm.trans h')
      exact hlaw.conflict hne
    · obtain ⟨rfl, rfl⟩ := Prod.mk.inj (Option.some.inj (hchange.symm.trans h'))
      rw [← hnext]
      exact hlaw.accepted snapshot hok
    · rw [← hnext]
      exact hlaw.rejected error herror
  | none =>
    cases operation with
    | retry expected =>
      obtain ⟨⟨result', d₁⟩, hreturns, heq⟩ := h.of_map
      cases heq
      rcases retryCalls_cases hreturns with ⟨hne, rfl, rfl, rfl⟩ | ⟨hsame, hconfig, hcases⟩
      · -- a retry on another revision is refused before any call
        refine ⟨fun expected' h' _ => ?_, fun _ _ _ h' => ?_, fun error herror => ?_,
          fun _ h' => ?_⟩
        · obtain rfl := Option.some.inj h'
          exact ⟨rfl, rfl, rfl⟩
        · cases h'
        · obtain rfl := Except.error.inj herror
          exact ⟨rfl, (if_neg (by simp [isRollback])).symm⟩
        · cases h'
      · refine ⟨fun expected' h' hne => ?_, fun _ _ _ h' => ?_, fun error herror => ?_,
          fun snapshot hok => ?_⟩
        · obtain rfl := Option.some.inj h'
          exact absurd hsame hne
        · cases h'
        · -- one that fails keeps the revision
          rcases hcases with ⟨_, rfl, hkept⟩ | ⟨rfl, -⟩
          · obtain rfl := Except.error.inj herror
            exact ⟨hconfig, hkept.trans (if_neg (by simp [isRollback])).symm⟩
          · cases herror
        · rcases hcases with ⟨_, rfl, -⟩ | ⟨rfl, -⟩
          · cases hok
          · exact (Except.ok.inj hok).symm
    | start _ | stop _ | selectInput _ _ | setSuppressionEnabled _ _ | setStrength _ _
    | setLatencyProfile _ _ | setFailMode _ _ | setStartWithNoiseReduction _ _
    | setLaunchAtLogin _ _ => cases hchange
    | setMeterMonitoring _ | refreshObservation | inputs =>
      -- these do not return a snapshot
      obtain ⟨_, -, heq⟩ := h.of_map
      cases heq

/-! ## Runs

What holds of each operation is added up along a run: the revision does not fall, and rises with
every change of the configuration.
-/

/-- A step of the daemon: an operation, whatever its calls return. -/
def Performs (d : Daemon Unit) (step : Operation × ControlEnv) (d' : Daemon Unit) : Prop :=
  ∃ calls reply, (step.1.calls d step.2).Returns calls (reply, d')

/-- A daemon just started, with what a store gave it to start with. -/
def Starts (d : Daemon Unit) : Prop :=
  ∃ toml path fs loaded env calls, load toml path fs = .ok loaded ∧
    (newCalls loaded env).Returns calls d

/-- A daemon that some run leads to. -/
def Reachable (d : Daemon Unit) : Prop :=
  ∃ start steps, Starts start ∧ Run Performs Free start steps d

/-- A load gives a valid configuration. -/
theorem load_valid {toml : Toml} {path : Place → String} {fs : Fs} {loaded : LoadOutcome}
    (h : load toml path fs = .ok loaded) : loaded.config.Valid := by
  have hdefault : ({} : Config).Valid := (Config.validate_ok_iff _).mp Config.validate_default
  unfold load at h
  split at h
  · cases h
    exact hdefault
  · cases h
  · split at h
    · rename_i hdecode
      cases h
      exact decode_wellFormed hdecode
    · cases h
      exact hdefault
    · split at h
      · rename_i config hbackup
        cases h
        -- the backup was decoded too
        obtain ⟨backup, -, hdecode⟩ := Option.bind_eq_some_iff.mp hbackup
        cases hok : decodeAndMigrate toml backup with
        | error error =>
          rw [hok] at hdecode
          cases hdecode
        | ok config' =>
          rw [hok] at hdecode
          cases hdecode
          exact decode_wellFormed hok
      · cases h
        exact hdefault

/-- What a step keeps and counts: a valid configuration stays valid; the revision does not
    fall; and a change of the configuration was made on the revision it changes, and raises
    it, unless it is the last. -/
theorem Performs.counts {step : Operation × ControlEnv} (hvalid : d.config.Valid)
    (hrevision : d.revision ≤ u64Max) (h : Performs d step d') :
    d'.config.Valid ∧ d.revision ≤ d'.revision ∧ d'.revision ≤ u64Max ∧
      (d'.config ≠ d.config → step.1.expected = some d.revision ∧
        d'.revision = nextRevision d.revision) := by
  obtain ⟨operation, env⟩ := step
  obtain ⟨calls, reply, h⟩ := h
  have hnext : d.revision ≤ nextRevision d.revision ∧ nextRevision d.revision ≤ u64Max := by
    unfold nextRevision saturatingAdd
    omega
  cases hchange : operation.change with
  | none =>
    obtain ⟨hconfig, hcases⟩ := calls_keeps hchange h
    rw [hconfig]
    exact ⟨hvalid, by omega, by omega, fun hne => absurd rfl hne⟩
  | some change =>
    obtain ⟨expected, update⟩ := change
    obtain ⟨result, -, hlaw⟩ := calls_changes hvalid hchange h
    by_cases hconflict : expected = d.revision
    · have hexpected : operation.expected = some d.revision :=
        hconflict ▸ Operation.expected_of_change hchange
      cases result with
      | error error =>
        -- A rejection keeps the configuration, and counts only a rollback.
        obtain ⟨hconfig, hcounted⟩ := hlaw.rejected error rfl
        rw [hconfig]
        refine ⟨hvalid, ?_, ?_, fun hne => absurd rfl hne⟩
        · split at hcounted <;> omega
        · split at hcounted <;> omega
      | ok snapshot =>
        rcases hlaw.accepted snapshot rfl with ⟨rfl, -⟩ | ⟨hconfig, hvalid', -, hcounted⟩
        · exact ⟨hvalid, Nat.le_refl _, hrevision, fun hne => absurd rfl hne⟩
        · rw [hconfig]
          exact ⟨(Config.validate_ok_iff _).mp hvalid', by omega, by omega,
            fun _ => ⟨hexpected, hcounted⟩⟩
    · -- a conflict leaves the daemon as it is
      obtain ⟨-, -, rfl⟩ := hlaw.conflict hconflict
      exact ⟨hvalid, Nat.le_refl _, hrevision, fun hne => absurd rfl hne⟩

/-- A daemon just started is valid and at the first revision. -/
theorem Starts.valid (h : Starts d) : d.config.Valid ∧ d.revision = 1 := by
  obtain ⟨toml, path, fs, loaded, env, calls, hload, hreturns⟩ := h
  have hvalid := load_valid hload
  obtain ⟨applied, rest, rfl, h⟩ := hreturns.of_call
  obtain ⟨rfl, rfl⟩ := h.of_pure
  exact ⟨⟨hvalid.schema, hvalid.selected, hvalid.followDefault, hvalid.strength⟩, rfl⟩

/-- A reachable daemon is valid, and its revision a `u64`. -/
theorem Reachable.valid (h : Reachable d) : d.config.Valid ∧ d.revision ≤ u64Max := by
  obtain ⟨start, steps, hstarts, run⟩ := h
  refine run.invariant (fun d => d.config.Valid ∧ d.revision ≤ u64Max) ?_ ?_
  · obtain ⟨hvalid, hrevision⟩ := hstarts.valid
    exact ⟨hvalid, by rw [hrevision]; decide⟩
  · intro d step d' ⟨hvalid, hrevision⟩ _ hstep
    obtain ⟨hvalid', -, hrevision', -⟩ := hstep.counts hvalid hrevision
    exact ⟨hvalid', hrevision'⟩

/-- **A run counts.** From a reachable daemon the revision does not fall, and where it is the
    same, and not the last, so is the configuration. -/
theorem run_counts {steps : List (Operation × ControlEnv)} (h : Reachable d)
    (run : Run Performs Free d steps d') :
    d'.config.Valid ∧ d'.revision ≤ u64Max ∧ d.revision ≤ d'.revision ∧
      (d'.revision < u64Max → d'.revision = d.revision → d'.config = d.config) := by
  refine run.invariant (fun d' => d'.config.Valid ∧ d'.revision ≤ u64Max ∧
    d.revision ≤ d'.revision ∧
      (d'.revision < u64Max → d'.revision = d.revision → d'.config = d.config)) ?_ ?_
  · exact ⟨h.valid.1, h.valid.2, Nat.le_refl _, fun _ _ => rfl⟩
  · intro t step u ⟨hvalid, hmax, hle, hsame⟩ _ hstep
    obtain ⟨hvalid', hle', hmax', hcounted⟩ := hstep.counts hvalid hmax
    refine ⟨hvalid', hmax', Nat.le_trans hle hle', fun hlt heq => ?_⟩
    -- between equal revisions the step cannot have counted
    by_cases hconfig : u.config = t.config
    · rw [hconfig]
      exact hsame (by omega) (by omega)
    · obtain ⟨-, hnext⟩ := hcounted hconfig
      have := nextRevision_of_lt (show t.revision < u64Max by omega)
      omega

/-- **Transaction law.** Every operation of a reachable daemon is lawful, whatever its calls
    return.  Along a run, two snapshots of one revision have one configuration; and a change
    is made on the revision it changes, so it undoes no change its client did not know of. -/
theorem transaction_law :
    (∀ d, Reachable d → d.revision < u64Max → ∀ (operation : Operation) env calls result d',
      (operation.calls d env).Returns calls (.snapshot result, d') →
        Lawful d operation env calls result d') ∧
    (∀ d steps d' env env', Reachable d → Run Performs Free d steps d' → d'.revision < u64Max →
      (d.snapshot env).revision = (d'.snapshot env').revision → d.config = d'.config) ∧
    (∀ d steps d' step d'', Reachable d → Run Performs Free d steps d' → Performs d' step d'' →
      d''.config ≠ d'.config →
        ∃ expected, step.1.expected = some expected ∧ expected = d'.revision ∧
          d.revision ≤ expected) := by
  refine ⟨fun d hreachable hlt operation env calls result d' h =>
    calls_lawful hreachable.valid.1 hlt h, ?_, ?_⟩
  · intro d steps d' env env' hreachable run hlt hsame
    exact ((run_counts hreachable run).2.2.2 hlt hsame.symm).symm
  · intro d steps d' step d'' hreachable run hstep hne
    obtain ⟨hvalid, hmax, hle, -⟩ := run_counts hreachable run
    obtain ⟨-, -, -, hcounted⟩ := hstep.counts hvalid hmax
    exact ⟨d'.revision, (hcounted hne).1, rfl, hle⟩

/-- A daemon without files is started, and its engine and store accept the change. -/
theorem transaction_law_start :
    ∃ d calls snapshot d', Reachable d ∧
      ((Operation.start 1).calls d {}).Returns calls (.snapshot (.ok snapshot), d') ∧
        Lawful d (.start 1) {} calls (.ok snapshot) d' := by
  let d := new (countingEngine 2) (0, {}) firstLoad {}
  obtain ⟨starting, hstarting⟩ :=
    Prog.Returns.of_run _ (newCalls_run (countingEngine 2) (0, {}) firstLoad {})
  have hload : load launchToml (fun _ => "") (fun _ => none) = .ok firstLoad := rfl
  have hreachable : Reachable d.detached :=
    ⟨_, [], ⟨_, _, _, firstLoad, {}, starting, hload, hstarting⟩, .nil⟩
  obtain ⟨calls, hcalls⟩ := Prog.Returns.of_run _
    (Prog.run_map_of _ (Prod.map Reply.snapshot id) (startCalls_run (countingEngine 2) d 1 {}))
  exact ⟨_, calls, _, _, hreachable, hcalls,
    transaction_law.1 _ hreachable (by decide) _ _ _ _ _ hcalls⟩

end Daemon

end Noire
