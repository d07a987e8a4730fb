import Noire.Control.Calls
import Noire.Control.Service

namespace Noire

/-!
# Changes are announced

A client that reacts only to signals must hear of every revision the daemon reaches: whatever a
call raises, it announces before it completes.

* `Unannounced` — a hold of the daemon that raises a revision its method says nothing of: the
  devices found by `get_snapshot`, everything found by `diagnostics`, and a rollback that fails;
* `Notifies` — a program announces what its holds raise, but for those; `Notifies.bind` and its
  siblings follow the program's own shape;
* `program_notifies` — every call does;
* `revisions_announced` — so in every run without an unannounced hold, the revisions a completed
  call raised were signalled, and when no call is in flight, so are those of the daemon;
* `revisions_unannounced` — a run with one, which no later tick makes up for.

What a call owes is a list of signals, the ones that its holds of the daemon have made due.  A
hold adds to the list by comparing the daemon before and after; a signal removes all that it
covers, since a client that is told of a revision knows of every earlier one.  A method announces
if it returns with an empty list, and this is proved of the program alone, before any
interleaving: `Notifies` quantifies over the daemon that each hold finds.

Over a run, a hold by one call changes the daemon under the others.  This does no harm, because what
a call owes does not depend on the daemon; and whoever raised a revision owes it (`Accounted`).
-/

open Lib

/-- The transaction a request is, unless it has nothing to do: only the two switches look whether
    they have. -/
def DaemonRequest.transaction (config : Config) (request : DaemonRequest) :
    Option (ℕ × (Config → Config)) :=
  match request with
  | .start _ => if config.active then none else request.operation.transaction
  | .stop _ => if config.active then request.operation.transaction else none
  | _ => request.operation.transaction

namespace Daemon

variable {ε : Type} (engine : AudioEngine ε)

/-- A refresh finds other devices. -/
def Relists (d : Daemon ε) : Prop :=
  ∃ observation, (engine.observe d.observation d.engine).1 = .ok observation ∧
    observation.devices ≠ d.devices ∧ d.deviceRevision < u64Max

/-- A refresh finds another public state. -/
def Republishes (d : Daemon ε) (env : ControlEnv) : Prop :=
  publiclyChanged d.observation
      (adopted d (engine.observe d.observation d.engine).1 env).observation = true ∧
    d.revision < u64Max

/-- A transaction is applied, cannot be saved, and cannot be rolled back. -/
def RollsBack (d : Daemon ε) (expected : ℕ) (update : Config → Config) (env : ControlEnv) : Prop :=
  expected = d.revision ∧ d.writable = true ∧ (update d.config).validate = .ok () ∧
    (engine.apply (update d.config) d.engine).1.isOk = true ∧ env.save.isOk = false ∧
    (engine.apply d.config (engine.apply (update d.config) d.engine).2).1.isOk = false ∧
    d.revision < u64Max

/-- A hold of the daemon raises a revision, and its method does not announce it. -/
def Unannounced (d : Daemon ε) : Locked → Prop
  | .snapshot _ => Relists engine d
  | .diagnostics env => Relists engine d ∨ Republishes engine d env
  | .request request env =>
    ∃ expected update, request.transaction d.config = some (expected, update) ∧
      RollsBack engine d expected update env
  | _ => False

end Daemon

/-! ## What a hold raises

The ten requests and the two reads come down to three cases: a snapshot of what is left, a refusal
that leaves the revisions, and a rollback.
-/

/-- The signal tells of the revision another signal tells of. -/
def Signal.covers : Signal → Signal → Bool
  | .stateChanged revision, .stateChanged wanted => wanted ≤ revision
  | .devicesChanged revision, .devicesChanged wanted => wanted ≤ revision
  | _, _ => false

/-- An operation that neither holds the daemon nor emits. -/
def ServiceOp.isQuiet : ServiceOp → Bool
  | .locked _ | .emit _ => false
  | _ => true

namespace NoireService

open Daemon (hold)

variable {ε : Type} {engine : AudioEngine ε} {d d' : Daemon ε}

/-- A signal of a revision tells of every earlier one. -/
theorem covers_stateChanged {signal : Signal} {r r' : ℕ}
    (h : signal.covers (.stateChanged r) = true) (hle : r' ≤ r) :
    signal.covers (.stateChanged r') = true := by
  cases signal with
  | stateChanged sent =>
    simp only [Signal.covers, decide_eq_true_eq] at h ⊢
    omega
  | devicesChanged | errorRaised | metersChanged => cases h

/-- A signal of the devices' revision tells of every earlier one. -/
theorem covers_devicesChanged {signal : Signal} {r r' : ℕ}
    (h : signal.covers (.devicesChanged r) = true) (hle : r' ≤ r) :
    signal.covers (.devicesChanged r') = true := by
  cases signal with
  | devicesChanged sent =>
    simp only [Signal.covers, decide_eq_true_eq] at h ⊢
    omega
  | stateChanged | errorRaised | metersChanged => cases h

/-- Nothing is raised where nothing changes. -/
theorem raises_of_le (hrevision : d'.revision ≤ d.revision)
    (hdevices : d'.deviceRevision ≤ d.deviceRevision) : raises d d' = [] := by
  unfold raises
  rw [if_neg (by omega), if_neg (by omega)]
  rfl

/-- Only the state is raised. -/
theorem raises_state (hdevices : d'.deviceRevision ≤ d.deviceRevision) :
    ∀ wanted ∈ raises d d', (Signal.stateChanged d'.revision).covers wanted = true := by
  unfold raises
  rw [if_neg (by omega : ¬d.deviceRevision < d'.deviceRevision), List.append_nil]
  split
  · simp [Signal.covers]
  · simp

/-- Only the devices are raised. -/
theorem raises_devices (hrevision : d'.revision ≤ d.revision) :
    ∀ wanted ∈ raises d d', (Signal.devicesChanged d'.deviceRevision).covers wanted = true := by
  unfold raises
  rw [if_neg (by omega : ¬d.revision < d'.revision), List.nil_append]
  split
  · simp [Signal.covers]
  · simp

/-- The next revision is no less, unless the last one is reached. -/
theorem nextRevision_le {revision : ℕ} (h : ¬revision < u64Max) :
    Daemon.nextRevision revision ≤ revision := by
  unfold Daemon.nextRevision saturatingAdd
  omega

/-- What a refresh makes of the revisions. -/
theorem refreshObservation_raises (engine : AudioEngine ε) (d : Daemon ε) (env : ControlEnv) :
    ((Daemon.refreshObservation engine d env).1 = false →
        (Daemon.refreshObservation engine d env).2.revision = d.revision) ∧
      (¬Daemon.Republishes engine d env →
        (Daemon.refreshObservation engine d env).2.revision ≤ d.revision) ∧
      (¬Daemon.Relists engine d →
        (Daemon.refreshObservation engine d env).2.deviceRevision ≤ d.deviceRevision) := by
  rw [Daemon.refreshObservation_eq]
  -- The devices' revision rises for other devices only, and stays where it is the last.
  have hdevices : ¬Daemon.Relists engine d →
      (Daemon.adopted { d with engine := (engine.observe d.observation d.engine).2 }
        (engine.observe d.observation d.engine).1 env).deviceRevision ≤ d.deviceRevision := by
    intro hsame
    rcases hresult : (engine.observe d.observation d.engine).1 with error | observation
    · exact Nat.le_refl _
    · by_cases hchanged : observation.devices = d.devices
      · simp [Daemon.adopted, hchanged]
      · have hmax : ¬d.deviceRevision < u64Max := fun hlt =>
          hsame ⟨observation, hresult, hchanged, hlt⟩
        simpa [Daemon.adopted, hchanged] using nextRevision_le hmax
  -- What is observed does not depend on the engine that is left.
  have hobservation :
      (Daemon.adopted { d with engine := (engine.observe d.observation d.engine).2 }
        (engine.observe d.observation d.engine).1 env).observation =
      (Daemon.adopted d (engine.observe d.observation d.engine).1 env).observation := by
    cases (engine.observe d.observation d.engine).1 <;> rfl
  have hrevision := (Daemon.adopted_keeps
    { d with engine := (engine.observe d.observation d.engine).2 }
    (engine.observe d.observation d.engine).1 env).2
  rcases Daemon.announced_cases d.observation
    (Daemon.adopted { d with engine := (engine.observe d.observation d.engine).2 }
      (engine.observe d.observation d.engine).1 env) with ⟨-, hcase⟩ | ⟨hchanged, hcase⟩
  · -- nothing public has changed
    rw [hcase]
    exact ⟨fun _ => hrevision, fun _ => Nat.le_of_eq hrevision, hdevices⟩
  · rw [hcase]
    refine ⟨nofun, fun hsame => ?_, hdevices⟩
    rw [hobservation] at hchanged
    have hmax : ¬d.revision < u64Max := fun hlt => hsame ⟨hchanged, hlt⟩
    dsimp only
    rw [hrevision]
    exact nextRevision_le hmax

/-- An answer whose snapshot is of the revision it leaves, or an error that raises none. -/
structure Told (d : Daemon ε) (answer : Except ControlError Snapshot × Daemon ε) : Prop where
  devices : answer.2.deviceRevision = d.deviceRevision
  revision : (∃ snapshot, answer.1 = .ok snapshot ∧ snapshot.revision = answer.2.revision) ∨
    (∃ error, answer.1 = .error error) ∧ answer.2.revision ≤ d.revision

/-- A snapshot of what is left. -/
theorem Told.adopted {env : ControlEnv} (h : d'.deviceRevision = d.deviceRevision) :
    Told d (.ok (d'.snapshot env), d') := ⟨h, .inl ⟨_, rfl, rfl⟩⟩

/-- An error that leaves the revisions. -/
theorem Told.refused (error : ControlError) (hdevices : d'.deviceRevision = d.deviceRevision)
    (hrevision : d'.revision ≤ d.revision) : Told d (.error error, d') :=
  ⟨hdevices, .inr ⟨⟨error, rfl⟩, hrevision⟩⟩

/-- An error that leaves the daemon. -/
theorem Told.rejected (error : ControlError) : Told d (.error error, d) :=
  .refused error rfl (Nat.le_refl _)

/-- A transaction that is rolled back where it is not saved. -/
theorem mutate_told (engine : AudioEngine ε) (d : Daemon ε) (expected : ℕ)
    (update : Config → Config) (env : ControlEnv)
    (hkept : ¬Daemon.RollsBack engine d expected update env) :
    Told d (Daemon.mutate engine d expected update env) := by
  unfold Daemon.mutate
  split
  · exact .rejected _
  rename_i hrevision
  split
  · exact .rejected _
  rename_i hwritable
  dsimp only
  split
  · exact .rejected _
  rename_i hvalid
  split
  · exact .refused _ rfl (Nat.le_refl _)
  rename_i observation e happly
  split
  · rename_i persistence hsave
    split
    · exact .refused _ rfl (Nat.le_refl _)
    · -- the rollback fails: only the last revision is not raised
      rename_i rollback e' hrollback
      have hmax : ¬d.revision < u64Max := fun hlt => hkept
        ⟨not_not.mp hrevision, by simpa using hwritable, hvalid, by rw [happly]; rfl,
          by rw [hsave]; rfl, by rw [happly, hrollback]; rfl, hlt⟩
      exact .refused _ rfl (nextRevision_le hmax)
  · exact .adopted rfl

/-- A switch returns what a transaction does, where it has something to do. -/
theorem Told.activates {active : Bool} {expected : ℕ} {env : ControlEnv}
    {answer : Except ControlError Snapshot × Daemon ε}
    (h : Daemon.Activates engine d active expected env answer)
    (hmutate : (d.config.active = !active) →
      Told d (Daemon.mutate engine d expected ({ · with active }) env)) : Told d answer := by
  cases h with
  | conflict _ => exact .rejected _
  | already _ => exact .adopted rfl
  | transaction hactive => exact hmutate hactive

/-- A preference that is saved is told by the snapshot returned. -/
theorem Told.prefers {candidate : Config} {saves : Prop} {env : ControlEnv}
    {answer : Except ControlError Snapshot × Daemon ε}
    (h : Daemon.Prefers d candidate saves env answer) : Told d answer := by
  cases h with
  | refused error => exact .rejected error
  | already => exact .adopted rfl
  | saved _ hsaved => exact .adopted (hsaved ▸ rfl)

/-- **A request** raises the revision of the snapshot it returns, or none. -/
theorem request_told (engine : AudioEngine ε) (d : Daemon ε) (request : DaemonRequest)
    (env : ControlEnv) (hkept : ¬Daemon.Unannounced engine d (.request request env)) :
    Told d (Daemon.request engine d request env) := by
  -- A transaction tells of what it does, as long as it does not roll back unseen.
  have hmutate : ∀ expected update, request.transaction d.config = some (expected, update) →
      Told d (Daemon.mutate engine d expected update env) := fun expected update h =>
    mutate_told engine d expected update env fun hrolls => hkept ⟨expected, update, h, hrolls⟩
  cases request with
  | start expected =>
    exact .activates (Daemon.start_activates engine d expected env) fun hactive =>
      hmutate _ _ (if_neg (by simp [hactive]))
  | stop expected =>
    exact .activates (Daemon.stop_activates engine d expected env) fun hactive =>
      hmutate _ _ (if_pos hactive)
  | selectInput _ _ => exact hmutate _ _ rfl
  | setSuppressionEnabled _ _ => exact hmutate _ _ rfl
  | setStrength _ _ => exact hmutate _ _ rfl
  | setLatencyProfile _ _ => exact hmutate _ _ rfl
  | setFailMode _ _ => exact hmutate _ _ rfl
  -- The preferences and the retry raise the revision whenever they change something.
  | setStartWithNoiseReduction enabled expected =>
    exact .prefers (Daemon.setStartWithNoiseReduction_prefers d expected env enabled)
  | setLaunchAtLogin enabled expected =>
    exact .prefers (Daemon.setLaunchAtLogin_prefers d expected env enabled)
  | retry expected =>
    simp only [Daemon.request, Daemon.retry]
    split
    · exact .rejected _
    split
    · exact .adopted rfl
    · exact .refused _ rfl (Nat.le_refl _)

/-! ## Programs that announce

`Notifies` is a weakest precondition with the owed signals as its state; `Quiet` is the common case
of a program that owes nothing of its own.
-/

/-- From the notifications `owed`, the program emits a signal for each that its holds of the
    daemon add, but for those of an unannounced hold, or returns with the rest as `Q` has it. -/
def Notifies (engine : AudioEngine ε) {α : Type} :
    ServiceProg α → List Signal → (α → List Signal → Prop) → Prop
  | .pure a, owed, Q => Q a owed
  | .op (.emit signal) next, owed, Q =>
    Notifies engine (next ()) (owed.filter (!signal.covers ·)) Q
  | .op (.locked hold) next, owed, Q =>
    ∀ d : Daemon ε, ¬Daemon.Unannounced engine d hold →
      Notifies engine (next (d.hold engine hold).1) (owed ++ raises d (d.hold engine hold).2) Q
  | .op _ next, owed, Q => ∀ r, Notifies engine (next r) owed Q
  | .stuck, _, _ => True

variable {α β : Type} {owed : List Signal}

/-- **Sequencing rule.** -/
theorem Notifies.bind {p : ServiceProg α} {f : α → ServiceProg β} {Q : β → List Signal → Prop}
    (h : Notifies engine p owed fun a owed => Notifies engine (f a) owed Q) :
    Notifies engine (p >>= f) owed Q := by
  induction p generalizing owed with
  | pure a => exact h
  | op o next ih =>
    cases o with
    | emit signal => exact ih () h
    | locked hold => exact fun d hd => ih _ (h d hd)
    | shouldEmit | lockSubscribers | unlockSubscribers | subscribers | insertSubscriber
    | removeSubscriber | noSubscribers | loadMonitoring | storeMonitoring =>
      exact fun r => ih r (h r)
  | stuck => trivial

/-- **A hold** of the daemon adds what it raises. -/
theorem Notifies.locked {hold : Locked} {f : hold.Result → ServiceProg β}
    {Q : β → List Signal → Prop}
    (h : ∀ d : Daemon ε, ¬Daemon.Unannounced engine d hold →
      Notifies engine (f (d.hold engine hold).1) (owed ++ raises d (d.hold engine hold).2) Q) :
    Notifies engine (locked hold >>= f) owed Q := h

/-- A program after which nothing more is owed than before. -/
def Quiet (engine : AudioEngine ε) (p : ServiceProg α) : Prop :=
  ∀ owed (Q : α → List Signal → Prop), (∀ a, Q a owed) → Notifies engine p owed Q

theorem Quiet.pure (a : α) : Quiet engine (Pure.pure a : ServiceProg α) := fun _ _ h => h a

theorem Quiet.bind {p : ServiceProg α} {f : α → ServiceProg β} (hp : Quiet engine p)
    (hf : ∀ a, Quiet engine (f a)) : Quiet engine (p >>= f) :=
  fun owed Q h => .bind (hp owed _ fun a => hf a owed Q h)

/-- A hold that raises nothing. -/
theorem Quiet.locked {hold : Locked}
    (h : ∀ d : Daemon ε, ¬Daemon.Unannounced engine d hold →
      raises d (d.hold engine hold).2 = []) : Quiet engine (locked hold) := by
  intro owed Q hQ d hd
  rw [h d hd, List.append_nil]
  exact hQ _

/-- The other operations are quiet. -/
theorem Quiet.call {o : ServiceOp} (ho : o.isQuiet = true) :
    Quiet engine (Prog.call o : ServiceProg o.Res) := by
  intro owed Q hQ
  cases o with
  | emit | locked => cases ho
  | shouldEmit | lockSubscribers | unlockSubscribers | subscribers | insertSubscriber
  | removeSubscriber | noSubscribers | loadMonitoring | storeMonitoring => exact hQ

theorem Quiet.ifThen {p : ServiceProg Unit} (condition : Bool) (hp : Quiet engine p) :
    Quiet engine (ifThen condition p) := by
  cases condition with
  | false => exact .pure ()
  | true => exact hp

theorem Quiet.andThen {p : ServiceProg Bool} (first : Bool) (hp : Quiet engine p) :
    Quiet engine (andThen first p) := by
  cases first with
  | false => exact .pure _
  | true => exact hp

/-- A signal that no revision calls for. -/
theorem Quiet.emit {signal : Signal} (h : ∀ wanted, signal.covers wanted = false) :
    Quiet engine (emit signal) := by
  intro owed Q hQ
  change Q () (owed.filter (!signal.covers ·))
  rw [List.filter_eq_self.mpr fun wanted _ => by simp [h wanted]]
  exact hQ ()

/-- Asking for meters raises nothing. -/
theorem setMeterMonitoring_quiet (enabled : Bool) :
    Quiet engine (locked (.setMeterMonitoring enabled)) := by
  refine .locked fun d _ => ?_
  simp only [hold, Daemon.setMeterMonitoring]
  split
  · exact raises_of_le (Nat.le_refl _) (Nat.le_refl _)
  · exact raises_of_le (Nat.le_refl _) (Nat.le_refl _)

/-- Copying the subscribers. -/
theorem copySubscribers_quiet : Quiet engine copySubscribers :=
  (Quiet.call rfl).bind fun _ => (Quiet.call rfl).bind fun _ => (Quiet.call rfl).bind fun _ =>
    .pure _

/-- Removing subscribers. -/
theorem removeSubscribers_quiet (removed : List String) :
    Quiet engine (removeSubscribers removed) := by
  induction removed with
  | nil => exact .pure ()
  | cons subscriber rest ih => exact (Quiet.call rfl).bind fun _ => ih

/-- Pruning, once the bus has answered. -/
theorem pruned_quiet (removed : List String) : Quiet engine (pruned removed) := by
  refine (Quiet.call rfl).bind fun _ => (removeSubscribers_quiet removed).bind fun _ =>
    (Quiet.call rfl).bind fun idle => (Quiet.andThen idle (.call rfl)).bind fun stopping => ?_
  refine (Quiet.andThen stopping ?_).bind fun stopped =>
    (Quiet.ifThen stopped (.call rfl)).bind fun _ => .call rfl
  exact (setMeterMonitoring_quiet false).bind fun _ => .pure _

/-- `prune_meter_subscribers`. -/
theorem pruneMeterSubscribers_quiet (bus : Bus) : Quiet engine (pruneMeterSubscribers bus) := by
  refine copySubscribers_quiet.bind fun subscribers => ?_
  split
  · exact pruned_quiet _
  split
  · exact pruned_quiet _
  · exact .pure ()

/-- The meters tell of no revision. -/
theorem metersChanged_quiet (bus : Bus) (metrics : Metrics) (subscribers : List String) :
    Quiet engine (metersChanged bus metrics subscribers) := by
  induction subscribers with
  | nil => exact .pure ()
  | cons subscriber rest ih =>
    exact (Quiet.ifThen _ (.emit fun wanted => by cases wanted <;> rfl)).bind fun _ => ih

/-- `subscribe_meters`. -/
theorem subscribeMeters_quiet (sender : Option String) :
    Quiet engine (subscribeMeters sender) := by
  unfold subscribeMeters
  split
  · exact .pure _
  refine (Quiet.call rfl).bind fun _ => (Quiet.call rfl).bind fun inserted =>
    (Quiet.andThen inserted (.call rfl)).bind fun monitoring => ?_
  split
  · refine (setMeterMonitoring_quiet true).bind fun result => ?_
    split
    · exact (Quiet.call rfl).bind fun _ => (Quiet.call rfl).bind fun _ => .pure _
    · exact (Quiet.call rfl).bind fun _ => (Quiet.call rfl).bind fun _ => .pure _
  · exact (Quiet.call rfl).bind fun _ => .pure _

/-- `unsubscribe_meters`. -/
theorem unsubscribeMeters_quiet (sender : Option String) :
    Quiet engine (unsubscribeMeters sender) := by
  unfold unsubscribeMeters
  split
  · exact .pure _
  refine (Quiet.call rfl).bind fun _ => (Quiet.call rfl).bind fun removed =>
    (Quiet.andThen removed (.call rfl)).bind fun lastSubscriber =>
    (Quiet.andThen lastSubscriber (.call rfl)).bind fun stopping => ?_
  split
  · refine (setMeterMonitoring_quiet false).bind fun result => ?_
    split
    · exact (Quiet.call rfl).bind fun _ => (Quiet.call rfl).bind fun _ => .pure _
    · exact (Quiet.call rfl).bind fun _ => (Quiet.call rfl).bind fun _ => .pure _
  · exact (Quiet.call rfl).bind fun _ => .pure _

/-! ## Every call announces

One lemma for each shape of method; the requests share theirs.
-/

/-- The notifications that a signal of the state leaves. -/
theorem raises_but_state :
    (raises d d').filter (!(Signal.stateChanged d'.revision).covers ·) =
      if d.deviceRevision < d'.deviceRevision then [.devicesChanged d'.deviceRevision] else [] := by
  unfold raises
  split <;> split <;> simp [Signal.covers]

/-- A signal of all that was raised leaves nothing. -/
theorem filter_covered {signal : Signal} {owed : List Signal}
    (h : ∀ wanted ∈ owed, signal.covers wanted = true) :
    owed.filter (!signal.covers ·) = [] :=
  List.filter_eq_nil_iff.mpr fun wanted hwanted => by simp [h wanted hwanted]

/-- `get_snapshot`: without other devices, it announces what it finds. -/
theorem getSnapshot_notifies (env : ServiceEnv) :
    Notifies engine (getSnapshot env) [] fun _ owed => owed = [] := by
  refine .locked fun d hd => ?_
  obtain ⟨hsame, -, hdevices⟩ := refreshObservation_raises engine d env.control
  have hdevices := hdevices hd
  rw [List.nil_append]
  simp only [hold]
  generalize Daemon.refreshObservation engine d env.control = refreshed at hsame hdevices ⊢
  obtain ⟨changed, d'⟩ := refreshed
  cases changed with
  | false => exact raises_of_le (Nat.le_of_eq (hsame rfl)) hdevices
  | true => exact filter_covered (raises_state hdevices)

/-- `list_inputs` announces the devices it finds. -/
theorem listInputs_notifies : Notifies engine listInputs [] fun _ owed => owed = [] := by
  refine .locked fun d _ => ?_
  rw [List.nil_append]
  simp only [hold, Daemon.inputs]
  rcases engine.inputs d.engine with ⟨error | next, e⟩
  · exact raises_of_le (Nat.le_refl _) (Nat.le_refl _)
  dsimp only
  generalize hlisted : ({ d with
    engine := e
    devices := if next ≠ d.devices then next else d.devices
    deviceRevision := if next ≠ d.devices then Daemon.nextRevision d.deviceRevision
      else d.deviceRevision
    observation := { d.observation with devices := next } } : Daemon ε) = d'
  have hrevision : d'.revision ≤ d.revision := by rw [← hlisted]
  have hdevices : d'.deviceRevision = if next ≠ d.devices then Daemon.nextRevision d.deviceRevision
      else d.deviceRevision := by rw [← hlisted]
  rw [← hdevices]
  -- The list is the same, or its revision has risen and is signalled.
  by_cases hsame : d'.deviceRevision = d.deviceRevision
  · have hfalse : decide (d'.deviceRevision ≠ d.deviceRevision) = false := by simpa using hsame
    rw [hfalse]
    exact raises_of_le hrevision (Nat.le_of_eq hsame)
  · have htrue : decide (d'.deviceRevision ≠ d.deviceRevision) = true := by simpa using hsame
    rw [htrue]
    exact filter_covered (raises_devices hrevision)

/-- A request announces the revision it raises. -/
theorem request_notifies (request : DaemonRequest) (env : ServiceEnv) :
    Notifies engine (NoireService.request request env) [] fun _ owed => owed = [] := by
  refine .locked fun d hd => ?_
  rw [List.nil_append]
  obtain ⟨hdevices, htold⟩ := request_told engine d request env.control hd
  simp only [hold]
  rcases hanswer : Daemon.request engine d request env.control with ⟨result, d'⟩
  rw [hanswer] at hdevices htold
  obtain ⟨snapshot, rfl, hrevision⟩ | ⟨⟨error, rfl⟩, hrevision⟩ := htold
  · change (raises d d').filter (!(Signal.stateChanged snapshot.revision).covers ·) = []
    rw [hrevision]
    exact filter_covered (raises_state (Nat.le_of_eq hdevices))
  · -- an error is told as such
    rw [raises_of_le hrevision (Nat.le_of_eq hdevices)]
    have hquiet : Quiet engine (publish (.error error) env) :=
      (Quiet.call rfl).bind fun emitting =>
        (Quiet.ifThen emitting (.emit fun wanted => by cases wanted <;> rfl)).bind fun _ =>
          .pure _
    exact hquiet [] _ fun _ => rfl

/-- What a refresh raises of the state is announced by a signal where it reports a change. -/
theorem ifThen_state {changed : Bool} {Q : Unit → List Signal → Prop}
    (hsame : changed = false → d'.revision = d.revision)
    (hQ : Q () (if d.deviceRevision < d'.deviceRevision then [.devicesChanged d'.deviceRevision]
      else [])) :
    Notifies engine (ifThen changed (emit (.stateChanged d'.revision))) (raises d d') Q := by
  cases changed with
  | false =>
    have hraises : raises d d' = if d.deviceRevision < d'.deviceRevision then
        [.devicesChanged d'.deviceRevision] else [] := by
      unfold raises
      rw [if_neg (by rw [hsame rfl]; omega), List.nil_append]
    change Q () (raises d d')
    rw [hraises]
    exact hQ
  | true =>
    change Q () ((raises d d').filter (!(Signal.stateChanged d'.revision).covers ·))
    rw [raises_but_state]
    exact hQ

/-- A tick of the monitor announces what it finds. -/
theorem monitorTick_notifies (pruneTick : ℕ) (env : ServiceEnv) :
    Notifies engine (monitorTick pruneTick env) [] fun _ owed => owed = [] := by
  have hrest : ∀ metrics, Quiet engine (do
      ifThen (10 ≤ (pruneTick + 1) % 256) (pruneMeterSubscribers env.bus)
      let subscribers ← copySubscribers
      metersChanged env.bus metrics subscribers
      pure (if 10 ≤ (pruneTick + 1) % 256 then 0 else (pruneTick + 1) % 256)) := fun metrics =>
    (Quiet.ifThen _ (pruneMeterSubscribers_quiet env.bus)).bind fun _ =>
      copySubscribers_quiet.bind fun subscribers =>
        (metersChanged_quiet env.bus metrics subscribers).bind fun _ => .pure _
  refine .locked fun d _ => ?_
  rw [List.nil_append]
  obtain ⟨hsame, -, -⟩ := refreshObservation_raises engine d env.control
  simp only [hold]
  generalize Daemon.refreshObservation engine d env.control = refreshed at hsame ⊢
  obtain ⟨stateChanged, d'⟩ := refreshed
  -- After the first signal, if any, only the devices may be owed.
  refine .bind (ifThen_state hsame (.bind ?_))
  dsimp only
  by_cases hdevices : d.deviceRevision = d'.deviceRevision
  · have hfalse : decide (d.deviceRevision ≠ d'.deviceRevision) = false := by simpa using hdevices
    rw [if_neg (by omega), hfalse]
    exact hrest _ [] _ fun _ => rfl
  · have htrue : decide (d.deviceRevision ≠ d'.deviceRevision) = true := by simpa using hdevices
    rw [htrue]
    change Notifies engine _ (List.filter (!(Signal.devicesChanged d'.deviceRevision).covers ·) _) _
    rw [filter_covered (by split <;> simp [Signal.covers])]
    exact hrest _ [] _ fun _ => rfl

/-- A hold that, unless it is unannounced, raises nothing, is announced. -/
theorem Notifies.of_quiet {α : Type} {p : ServiceProg α} (h : Quiet engine p) :
    Notifies engine (p >>= fun _ => pure ()) [] fun _ owed => owed = [] :=
  h.bind (fun _ => .pure ()) [] _ fun _ => rfl

/-- **Every call** announces what its holds of the daemon raise. -/
theorem program_notifies (call : ServiceCall) :
    Notifies engine call.program [] fun _ owed => owed = [] := by
  have hreads : ∀ hold : Locked, (∀ d : Daemon ε, (d.hold engine hold).2 = d) →
      Quiet engine (locked hold) := fun hold h => .locked fun d _ => by
    rw [h d]
    exact raises_of_le (Nat.le_refl _) (Nat.le_refl _)
  -- One case for each method: it announces, or is quiet, or holds the daemon as `Unannounced` says.
  cases call with
  | monitorTick pruneTick env => exact .bind (monitorTick_notifies pruneTick env)
  | pruneMeterSubscribers bus => exact pruneMeterSubscribers_quiet bus [] _ fun _ => rfl
  | getSnapshot env => exact .bind (getSnapshot_notifies env)
  | listInputs => exact .bind listInputs_notifies
  | start expected env => exact .bind (request_notifies _ env)
  | stop expected env => exact .bind (request_notifies _ env)
  | getStartWithNoiseReduction => exact .of_quiet (hreads _ fun _ => rfl)
  | setStartWithNoiseReduction enabled expected env => exact .bind (request_notifies _ env)
  | selectInput stableId expected env => exact .bind (request_notifies _ env)
  | setSuppressionEnabled enabled expected env => exact .bind (request_notifies _ env)
  | setStrength strength expected env => exact .bind (request_notifies _ env)
  | setLatencyProfile profile expected env =>
    refine .bind ?_
    simp only [setLatencyProfile]
    split
    · exact request_notifies _ env
    · exact request_notifies _ env
    · exact Quiet.pure _ [] _ fun _ => rfl
  | setFailMode mode expected env =>
    refine .bind ?_
    simp only [setFailMode]
    split
    · exact request_notifies _ env
    · exact request_notifies _ env
    · exact Quiet.pure _ [] _ fun _ => rfl
  | retry expected env => exact .bind (request_notifies _ env)
  | setLaunchAtLogin enabled expected env => exact .bind (request_notifies _ env)
  | diagnostics env =>
    -- the report refreshes, and says nothing of what that raises
    refine .of_quiet (.locked fun d hd => ?_)
    obtain ⟨-, hrevision, hdevices⟩ := refreshObservation_raises engine d env.control
    exact raises_of_le (hrevision fun h => hd (.inr h)) (hdevices fun h => hd (.inl h))
  | subscribeMeters sender => exact .of_quiet (subscribeMeters_quiet sender)
  | unsubscribeMeters sender => exact .of_quiet (unsubscribeMeters_quiet sender)
  | stateRevision => exact .of_quiet (hreads _ fun _ => rfl)
  | deviceRevision => exact .of_quiet (hreads _ fun _ => rfl)

/-! ## Runs

Every task pays what its hold of the lock has raised, and the books say who owes it.
-/

/-- The step holds the daemon, if at all, so that its method announces what that raises. -/
def Announced (engine : AudioEngine ε)
    (p : Pool ServiceOp.Res ServiceCall (NoireService ε)) (event : Pool.Event ServiceCall) :
    Prop :=
  ∀ i call hold next done, event = .advance i →
    p.tasks[i]? = some ⟨call, .op (.locked hold) next, done⟩ →
      ¬Daemon.Unannounced engine p.shared.daemon hold

/-- The service has signalled at least what a signal tells. -/
def Signalled (s : NoireService ε) (wanted : Signal) : Prop :=
  ∃ signal ∈ s.signals, signal.covers wanted = true

/-- What call number `i` raised is signalled, or will be by what it has left. -/
def Pending (engine : AudioEngine ε) (i : ℕ) (task : Pool.Task ServiceOp.Res ServiceCall)
    (s : NoireService ε) : Prop :=
  ∃ owed, Notifies engine task.rest owed (fun _ owed => owed = []) ∧
    ∀ wanted, (i, wanted) ∈ s.raised → Signalled s wanted ∨ wanted ∈ owed

/-- The revisions of the daemon are those it started with, or one of the `n` calls raised
    them. -/
structure Accounted (d : Daemon ε) (n : ℕ) (s : NoireService ε) : Prop where
  started : ∀ i wanted, (i, wanted) ∈ s.raised → i < n
  revision : d.revision < s.daemon.revision →
    ∃ i r, (i, Signal.stateChanged r) ∈ s.raised ∧ s.daemon.revision ≤ r
  deviceRevision : d.deviceRevision < s.daemon.deviceRevision →
    ∃ i r, (i, Signal.devicesChanged r) ∈ s.raised ∧ s.daemon.deviceRevision ≤ r

/-- What a hold raises accounts for the revisions it leaves. -/
theorem Accounted.locked {n i : ℕ} {s : NoireService ε} (hi : i < n) (h : Accounted d n s)
    (call : ServiceCall) (hold : Locked) :
    Accounted d n (exec engine i call (.locked hold) s).2 := by
  obtain ⟨hstarted, hrevision, hdevices⟩ := h
  simp only [exec]
  generalize (Daemon.hold engine s.daemon hold).2 = d'
  refine ⟨fun j wanted hj => ?_, fun hlt => ?_, fun hlt => ?_⟩
  · rcases List.mem_append.mp hj with hj | hj
    · exact hstarted j wanted hj
    · obtain ⟨_, -, heq⟩ := List.mem_map.mp hj
      obtain ⟨rfl, -⟩ := Prod.mk.inj heq
      exact hi
  · -- the hold raises the revision itself, or it was raised before
    by_cases hraised : s.daemon.revision < d'.revision
    · refine ⟨i, d'.revision, List.mem_append_right _ (List.mem_map.mpr ⟨_, ?_, rfl⟩),
        Nat.le_refl _⟩
      unfold raises
      rw [if_pos hraised]
      exact List.mem_append_left _ List.mem_cons_self
    · obtain ⟨j, r, hj, hr⟩ := hrevision (by dsimp only at hlt; omega)
      exact ⟨j, r, List.mem_append_left _ hj, by dsimp only; omega⟩
  · -- and so with that of the devices
    by_cases hraised : s.daemon.deviceRevision < d'.deviceRevision
    · refine ⟨i, d'.deviceRevision, List.mem_append_right _ (List.mem_map.mpr ⟨_, ?_, rfl⟩),
        Nat.le_refl _⟩
      unfold raises
      rw [if_pos hraised]
      exact List.mem_append_right _ List.mem_cons_self
    · obtain ⟨j, r, hj, hr⟩ := hdevices (by dsimp only at hlt; omega)
      exact ⟨j, r, List.mem_append_left _ hj, by dsimp only; omega⟩

/-- An operation that leaves the signals and what was raised, leaves what is pending. -/
theorem Pending.of_same {i : ℕ} {task : Pool.Task ServiceOp.Res ServiceCall}
    {s s' : NoireService ε} (h : Pending engine i task s) (hsignals : s'.signals = s.signals)
    (hraised : s'.raised = s.raised) : Pending engine i task s' := by
  obtain ⟨owed, hnotifies, hwanted⟩ := h
  refine ⟨owed, hnotifies, fun wanted hw => ?_⟩
  unfold Signalled
  rw [hsignals]
  exact hwanted wanted (hraised ▸ hw)

/-- **An operation** of an announced step leaves its own task pending, and the others. -/
theorem Pending.step {i : ℕ} {call : ServiceCall} {o : ServiceOp}
    {next : o.Res → ServiceProg Unit} {done : List ((o : ServiceOp) × o.Res)}
    {s : NoireService ε} (h : Pending engine i ⟨call, .op o next, done⟩ s)
    (hannounced : ∀ hold, o = .locked hold → ¬Daemon.Unannounced engine s.daemon hold)
    (done' : List ((o : ServiceOp) × o.Res)) :
    Pending engine i ⟨call, next (exec engine i call o s).1, done'⟩
        (exec engine i call o s).2 ∧
      ∀ j task, j ≠ i → Pending engine j task s →
        Pending engine j task (exec engine i call o s).2 := by
  obtain ⟨owed, hnotifies, hwanted⟩ := h
  cases o with
  -- What the hold raises is owed by this task, and no other.
  | locked hold =>
    refine ⟨⟨_, hnotifies s.daemon (hannounced hold rfl), fun wanted hw => ?_⟩,
      fun j task hj ⟨owed', hnotifies', hwanted'⟩ => ⟨owed', hnotifies', fun wanted hw => ?_⟩⟩
    · rcases List.mem_append.mp hw with hw | hw
      · exact (hwanted wanted hw).imp_right (List.mem_append_left _)
      · obtain ⟨_, hraised, heq⟩ := List.mem_map.mp hw
        obtain ⟨-, rfl⟩ := Prod.mk.inj heq
        exact .inr (List.mem_append_right _ hraised)
    · rcases List.mem_append.mp hw with hw | hw
      · exact hwanted' wanted hw
      · obtain ⟨_, -, heq⟩ := List.mem_map.mp hw
        exact absurd (Prod.mk.inj heq).1.symm hj
  | emit signal =>
    -- What was signalled stays signalled, for every task.
    have hkept : ∀ wanted, Signalled s wanted →
        Signalled (exec engine i call (.emit signal) s).2 wanted :=
      fun wanted ⟨sent, hsent, hcovers⟩ => ⟨sent, List.mem_append_left _ hsent, hcovers⟩
    refine ⟨⟨_, hnotifies, fun wanted hw => ?_⟩,
      fun j task _ ⟨owed', hnotifies', hwanted'⟩ => ⟨owed', hnotifies', fun wanted hw =>
        (hwanted' wanted hw).imp_left (hkept wanted)⟩⟩
    rcases hwanted wanted hw with hsignalled | howed
    · exact .inl (hkept wanted hsignalled)
    · -- either the signal tells of it, or it is owed still
      cases hcovers : signal.covers wanted with
      | true => exact .inl ⟨signal, List.mem_append_right _ List.mem_cons_self, hcovers⟩
      | false => exact .inr (List.mem_filter.mpr ⟨howed, by simp [hcovers]⟩)
  | shouldEmit | lockSubscribers | unlockSubscribers | subscribers | insertSubscriber
  | removeSubscriber | noSubscribers | loadMonitoring | storeMonitoring =>
    exact ⟨Pending.of_same ⟨owed, hnotifies _, hwanted⟩ rfl rfl,
      fun j task _ h => h.of_same rfl rfl⟩

/-- In a run of announced steps, every call is pending. -/
theorem run_pending {events : List (Pool.Event ServiceCall)}
    {p : Pool ServiceOp.Res ServiceCall (NoireService ε)}
    (run : Served engine (Announced engine) d events p) :
    p.Holds (Accounted d) (Pending engine) := by
  refine Pool.Runs.keeps (fun p call _ hJ => ?_)
    (fun p i call o next done htask hC _ hJ hT => ?_) run (.idle ?_)
  · -- a started call has raised nothing
    refine ⟨⟨fun i wanted hi => Nat.lt_succ_of_lt (hJ.started i wanted hi), hJ.revision,
      hJ.deviceRevision⟩, [], program_notifies call, fun wanted hw => ?_⟩
    exact absurd (hJ.started _ _ hw) (Nat.lt_irrefl _)
  · have hi : i < p.tasks.length := (List.getElem?_eq_some_iff.mp htask).1
    obtain ⟨hown, hothers⟩ := hT.step
      (fun hold ho => by subst ho; exact hC i call hold next done rfl htask)
      (done ++ [⟨o, (exec engine i call o p.shared).1⟩])
    refine ⟨?_, hown, hothers⟩
    cases o with
    | locked hold => exact hJ.locked hi call hold
    | emit | shouldEmit | lockSubscribers | unlockSubscribers | subscribers | insertSubscriber
    | removeSubscriber | noSubscribers | loadMonitoring | storeMonitoring =>
      exact ⟨hJ.started, hJ.revision, hJ.deviceRevision⟩
  · exact ⟨fun _ _ h => (List.not_mem_nil h).elim, fun h => absurd h (Nat.lt_irrefl _),
      fun h => absurd h (Nat.lt_irrefl _)⟩

/-- A completed call owes nothing. -/
theorem Pending.completed {i : ℕ} {task : Pool.Task ServiceOp.Res ServiceCall}
    {s : NoireService ε} (h : Pending engine i task s) (hcompleted : task.completed = true)
    {wanted : Signal} (hw : (i, wanted) ∈ s.raised) : Signalled s wanted := by
  obtain ⟨owed, hnotifies, hwanted⟩ := h
  unfold Pool.Task.completed at hcompleted
  split at hcompleted
  · rename_i a hrest
    rw [hrest] at hnotifies
    obtain rfl : owed = [] := hnotifies
    exact (hwanted wanted hw).resolve_right List.not_mem_nil
  · cases hcompleted

/-- **Changes are announced.** In every run of calls and ticks without an unannounced hold, what
    a completed call raised is signalled; and when every call has completed, so are the revisions
    of the daemon, unless they are those it started with. -/
theorem revisions_announced {events : List (Pool.Event ServiceCall)}
    {p : Pool ServiceOp.Res ServiceCall (NoireService ε)}
    (run : Served engine (Announced engine) d events p) :
    (∀ i task, p.tasks[i]? = some task → task.completed = true →
        ∀ wanted, (i, wanted) ∈ p.shared.raised → Signalled p.shared wanted) ∧
      ((∀ task ∈ p.tasks, task.completed = true) →
        (d.revision < p.shared.daemon.revision →
          Signalled p.shared (.stateChanged p.shared.daemon.revision)) ∧
        (d.deviceRevision < p.shared.daemon.deviceRevision →
          Signalled p.shared (.devicesChanged p.shared.daemon.deviceRevision))) := by
  obtain ⟨hJ, hT⟩ := run_pending run
  have hcompleted : ∀ i task, p.tasks[i]? = some task → task.completed = true →
      ∀ wanted, (i, wanted) ∈ p.shared.raised → Signalled p.shared wanted :=
    fun i task htask hdone wanted hw => (hT i task htask).completed hdone hw
  refine ⟨hcompleted, fun hall => ?_⟩
  -- What was raised was raised by a task, and all of them are completed.
  have hraised : ∀ i wanted, (i, wanted) ∈ p.shared.raised → Signalled p.shared wanted := by
    intro i wanted hw
    have htask := List.getElem?_eq_getElem (hJ.started i wanted hw)
    exact hcompleted i _ htask (hall _ (List.getElem_mem _)) wanted hw
  constructor
  · intro hlt
    obtain ⟨i, r, hr, hle⟩ := hJ.revision hlt
    obtain ⟨signal, hsent, hcovers⟩ := hraised i _ hr
    exact ⟨signal, hsent, covers_stateChanged hcovers hle⟩
  · intro hlt
    obtain ⟨i, r, hr, hle⟩ := hJ.deviceRevision hlt
    obtain ⟨signal, hsent, hcovers⟩ := hraised i _ hr
    exact ⟨signal, hsent, covers_devicesChanged hcovers hle⟩

/-! ## A microphone is plugged in

The list of inputs is the first to see it, and signals it.
-/

/-- A microphone. -/
def microphone : InputDescriptor := ⟨"usb", "USB Microphone", true, "available"⟩

/-- An engine that finds a microphone. -/
def pluggedEngine : AudioEngine Unit where
  apply := fun _ e => (.ok {}, e)
  retry := fun _ e => (.ok {}, e)
  observe := fun _ e => (.ok { devices := [microphone] }, e)
  setMeterMonitoring := fun _ e => (.ok (), e)
  inputs := fun e => (.ok [microphone], e)

/-- A daemon from before the microphone was plugged in. -/
def unplugged : Daemon Unit where
  config := {}
  writable := true
  revision := 1
  deviceRevision := 0
  devices := []
  engine := ()
  observation := {}
  lastError := none

/-- A client that lists the inputs makes the daemon find the microphone, and is told so. -/
theorem revisions_announced_list :
    ∃ p : Pool ServiceOp.Res ServiceCall (NoireService Unit),
      p.shared.daemon.deviceRevision = 1 ∧
        Signalled p.shared (.devicesChanged p.shared.daemon.deviceRevision) := by
  have hstart : Served pluggedEngine (Announced pluggedEngine) unplugged
      ([] ++ [.start .listInputs]) _ := .snoc .nil (fun _ _ _ _ _ h => by cases h) rfl
  -- The lock is taken once, and then the one signal is sent.
  have hhold : Served pluggedEngine (Announced pluggedEngine) unplugged
      ([] ++ [.start .listInputs] ++ [.advance 0]) _ := .snoc hstart (by
        rintro i call hold next done ⟨⟩ htask
        cases htask
        exact id) rfl
  have hemit : Served pluggedEngine (Announced pluggedEngine) unplugged
      ([] ++ [.start .listInputs] ++ [.advance 0] ++ [.advance 0]) _ := .snoc hhold (by
        rintro i call hold next done ⟨⟩ htask
        cases htask) rfl
  refine ⟨_, ?_, ((revisions_announced hemit).2 ?_).2 ?_⟩
  · rfl
  · intro task htask
    obtain rfl := List.mem_singleton.mp htask
    rfl
  · decide

/-- **A change goes unannounced.** A client that asks for a snapshot makes the daemon find the
    microphone.  The devices' revision rises and no signal tells of it; nor does the next tick
    of the monitor, which finds the devices as the daemon has them. -/
theorem revisions_unannounced :
    ¬∀ (ε : Type) (engine : AudioEngine ε) (d : Daemon ε) (events : List (Pool.Event ServiceCall))
        (p : Pool ServiceOp.Res ServiceCall (NoireService ε)),
      Served engine Free d events p →
      (∀ i task, p.tasks[i]? = some task → task.completed = true →
          ∀ wanted, (i, wanted) ∈ p.shared.raised → Signalled p.shared wanted) ∧
        ((∀ task ∈ p.tasks, task.completed = true) →
          (d.revision < p.shared.daemon.revision →
            Signalled p.shared (.stateChanged p.shared.daemon.revision)) ∧
          (d.deviceRevision < p.shared.daemon.deviceRevision →
            Signalled p.shared (.devicesChanged p.shared.daemon.deviceRevision))) := by
  intro h
  let events : List (Pool.Event ServiceCall) :=
    [.start (.getSnapshot {}), .advance 0,
      .start (.monitorTick 0 {}), .advance 1, .advance 1, .advance 1, .advance 1]
  obtain ⟨p, hp, hcompleted, hdevices, hsignals⟩ :
      ∃ p, events.foldlM (Pool.step (system pluggedEngine)) ⟨new unplugged, []⟩ = some p ∧
        p.tasks.all (·.completed) = true ∧ p.shared.daemon.deviceRevision = 1 ∧
        p.shared.signals = [] := ⟨_, rfl, rfl, rfl, rfl⟩
  have run : Served pluggedEngine Free unplugged events p :=
    Run.of_foldlM _ (fun _ _ _ hstep => ⟨trivial, hstep⟩) hp
  obtain ⟨signal, hsent, -⟩ := ((h _ _ _ _ _ run).2
    fun task htask => List.all_eq_true.mp hcompleted task htask).2 (by rw [hdevices]; decide)
  rw [hsignals] at hsent
  cases hsent

end NoireService

end Noire
