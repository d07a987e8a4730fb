import Noire.Control.Public
import Noire.Native.Request

namespace Noire

/-!
# The errors of the owner thread

An error whose code is in the catalog is shown to clients in the words of the catalog.  Whatever
the native library answers, every error of the owner thread is one.

* `Listed` — a code that is in the catalog;
* `handle_listed` / `serviceNative_listed` — what a command is answered with, and what is observed
  after it and after a tick;
* `System.Catalogued` — what is answered and what has returned; `System.Catalogued.step`.

Codes are literals of the source, so each place that makes an error is checked against the catalog
once; the rest is to follow where an error goes.  It may be answered, kept as the fault of the
observation, or both, and the error of an observation can come back in a later answer.
-/

/-- The code is in the catalog. -/
def Listed (code : String) : Prop := code ∈ errorCatalog.map (·.code)

/-- An error that is listed, or a value that meets `P`. -/
def ListedOr {α : Type} (P : α → Prop) : Except EngineError α → Prop
  | .ok a => P a
  | .error error => Listed error.code

/-- Its fault is listed. -/
def EngineObservation.Listed (observation : EngineObservation) : Prop :=
  ∀ fault ∈ observation.fault, Noire.Listed fault.code

/-- What the owner has observed last is listed. -/
def Owner.Listed (o : Owner) : Prop := ∀ observation ∈ o.observation, observation.Listed

/-- It answers this command, and what it shows of an error is listed. -/
def Reply.Listed (reply : Reply) (command : NativeCommand) : Prop :=
  match reply, command with
  | .observation result, .apply _ | .observation result, .observe =>
    ListedOr EngineObservation.Listed result
  | .inputs result, .inputs => ListedOr (fun _ => True) result
  | .unit result, .setMeterMonitoring _ => ListedOr (fun _ => True) result
  | _, _ => False

/-- A command fails with a listed error. -/
theorem fail_listed (command : NativeCommand) {error : EngineError} (h : Listed error.code) :
    (command.fail error).Listed command := by
  cases command with
  | apply _ => exact h
  | inputs => exact h
  | observe => exact h
  | setMeterMonitoring _ => exact h

/-! ## Observations

The tables of `native.rs`: the error of each fault, and of each failed state of the live path.
-/

/-- An observation without a fault is listed. -/
theorem listed_of_none {observation : EngineObservation} (h : observation.fault = none) :
    observation.Listed := by
  intro fault hfault
  rw [h] at hfault
  cases hfault

theorem recoveryError_listed (fault : RecoveryFault) : Listed (recoveryError fault).code := by
  cases fault <;> simp [recoveryError, Listed, errorCatalog]

theorem liveStateError_listed (state : LiveState) :
    ∀ error ∈ liveStateError state, Listed error.code := by
  cases state <;> simp [liveStateError, Listed, errorCatalog]

theorem observeGraph_listed (telemetry : GraphTelemetry) (label version : String)
    (active enabled : Bool) (devices : List InputDescriptor) :
    ({ observeGraph telemetry label version active enabled with devices } :
      EngineObservation).Listed := by
  intro fault hfault
  cases active with
  | false => cases hfault
  | true => exact liveStateError_listed _ fault hfault

theorem markDegraded_listed (observation : Option EngineObservation) (fault : RecoveryFault) :
    ∀ next ∈ markDegraded observation fault, next.Listed := by
  rintro next ⟨⟩ error ⟨⟩
  exact recoveryError_listed fault

/-- Only the fault matters. -/
theorem EngineObservation.Listed.of_fault {observation observation' : EngineObservation}
    (h : observation.Listed) (hfault : observation'.fault = observation.fault) :
    observation'.Listed := by
  unfold Listed
  rw [hfault]
  exact h

/-! ## The system

Three places hold an error on its way to a client: the cached observation, the reply that is ready
to be sent, and the reply of a request.
-/

/-- What it was sent, and what its caller took, is listed. -/
structure Request.Listed (r : Request) : Prop where
  reply : ∀ reply ∈ r.reply, reply.Listed r.command
  answered : ∀ reply, r.caller = .answered reply → reply.Listed r.command

/-- **What a request returns** is listed. -/
theorem Request.Listed.returned {r : Request} (h : r.Listed) {reply : Reply}
    (hreturned : r.returned = some reply) : reply.Listed r.command := by
  unfold Request.returned at hreturned
  split at hreturned
  · cases hreturned
  · cases hreturned
  · cases hreturned
  · rename_i hcaller
    exact Option.some.inj hreturned ▸ h.answered _ hcaller
  all_goals
    obtain rfl := Option.some.inj hreturned
    refine fail_listed _ ?_
    simp [timeoutError, stoppedError, busyError, Noire.Listed, errorCatalog]

/-- Everything that is observed, answered or returned is listed. -/
structure System.Catalogued (s : System) : Prop where
  owner : s.owner.Listed
  executed : ∀ id reply, s.position = .executed id reply →
    ∃ r, s.requests[id]? = some r ∧ reply.Listed r.command
  requests : ∀ r ∈ s.requests, r.Listed

namespace System.Catalogued

variable {s s' : System}

theorem start (clock : ℕ) : (System.start clock).Catalogued :=
  ⟨fun _ hmem => absurd hmem (Option.not_mem_none _),
    fun _ _ hposition => Position.noConfusion hposition, fun _ hmem => absurd hmem List.not_mem_nil⟩

/-- One request is changed, and its command is not. -/
theorem update (h : s.Catalogued) {id : ℕ} {f : Request → Request}
    (hcommand : ∀ r, (f r).command = r.command)
    (hlisted : ∀ r, s.requests[id]? = some r → r.Listed → (f r).Listed) :
    (s.update id f).Catalogued where
  owner := h.owner
  executed := by
    intro id' reply hposition
    obtain ⟨r, found, hreply⟩ := h.executed id' reply hposition
    -- The request that is executed keeps its command, whether it is this one or not.
    by_cases hid : id = id'
    · subst hid
      refine ⟨f r, ?_, (hcommand r).symm ▸ hreply⟩
      simp only [System.update, List.getElem?_modify_eq, found]
      rfl
    · refine ⟨r, ?_, hreply⟩
      simpa only [System.update, List.getElem?_modify_ne _ _ hid] using found
  requests := by
    intro r hr
    obtain ⟨id', hid'⟩ := List.mem_iff_getElem?.mp hr
    by_cases hid : id = id'
    · subst hid
      simp only [System.update, List.getElem?_modify_eq] at hid'
      obtain ⟨r', found, rfl⟩ := Option.map_eq_some_iff.mp hid'
      exact hlisted r' found (h.requests r' (List.mem_of_getElem? found))
    · simp only [System.update, List.getElem?_modify_ne _ _ hid] at hid'
      exact h.requests r (List.mem_of_getElem? hid')

/-- Only the owner moves, and has nothing to answer then. -/
theorem move (h : s.Catalogued) (howner : s'.owner.Listed) (hrequests : s'.requests = s.requests)
    (hexecuted : ∀ id reply, s'.position ≠ .executed id reply) : s'.Catalogued :=
  ⟨howner, fun id reply hposition => absurd hposition (hexecuted id reply), hrequests ▸ h.requests⟩

/-- A new request has not been answered. -/
theorem call (h : s.Catalogued) (command : NativeCommand) : (s.call command).Catalogued := by
  have hnew : ∀ (caller : Caller) (queue : List Message),
      (∀ reply, caller ≠ .answered reply) →
      ({ s with
        requests := s.requests ++ [{ command, caller }]
        queue } : System).Catalogued := by
    intro caller queue hcaller
    refine ⟨h.owner, fun id reply hposition => ?_, fun r hr => ?_⟩
    · obtain ⟨r, found, hreply⟩ := h.executed id reply hposition
      exact ⟨r, (List.getElem?_append_left (List.getElem?_eq_some_iff.mp found).1).trans found,
        hreply⟩
    · -- a new request has no reply, and no answer yet
      rcases List.mem_append.mp hr with hr | hr
      · exact h.requests r hr
      · obtain rfl := List.mem_singleton.mp hr
        exact ⟨fun _ hreply => absurd hreply (Option.not_mem_none _),
          fun reply heq => absurd heq (hcaller reply)⟩
  unfold System.call
  split
  · exact hnew .stopped s.queue fun _ => Caller.noConfusion
  · split
    · exact hnew .busy s.queue fun _ => Caller.noConfusion
    · exact hnew .waiting _ fun _ => Caller.noConfusion

end System.Catalogued

/-! ## Attempts

Each step of an attempt either makes an error of its own or hands on that of the step before.
-/

theorem ensureConnection_listed (a : Audio) (env : AttemptEnv) :
    ListedOr (fun _ => True) (ensureConnection a env).1 := by
  unfold ensureConnection
  split
  · trivial
  · dsimp only
    split
    · simp [ListedOr, Listed, errorCatalog]
    · trivial

section
variable [UnicodeCase]

theorem resolvedRegistry_listed (a : Audio) (env : AttemptEnv) :
    ListedOr (fun _ => True) (resolvedRegistry a env).1 := by
  have hconnection := ensureConnection_listed a env
  unfold resolvedRegistry
  split
  · rename_i hfails
    rw [hfails] at hconnection
    exact hconnection
  · trivial

/-- A rebuild fails with a listed error. -/
theorem rebuildGraph_listed (a : Audio) (config : Config) (env : AttemptEnv) :
    ListedOr (fun _ => True) (rebuildGraph a config env).1 := by
  have hregistry := resolvedRegistry_listed { a with graph := none } env
  unfold rebuildGraph
  split
  · rename_i hfails
    rw [hfails] at hregistry
    exact hregistry
  · split
    · simp [ListedOr, Listed, errorCatalog]
    · simp [ListedOr, Listed, errorCatalog, modelInitializationFailed]
    · split
      · simp [ListedOr, Listed, errorCatalog]
      · trivial

/-- The end of an attempt fails with a listed error, or what it observes is listed. -/
theorem controlGraph_listed (a : Audio) (previousObservation : Option EngineObservation)
    (config : Config) (meter rebuilt : Bool) (label : String) (env : AttemptEnv) :
    ListedOr EngineObservation.Listed
      (controlGraph a previousObservation config meter rebuilt label env).1 := by
  unfold controlGraph
  split
  · simp [ListedOr, Listed, errorCatalog]
  · split
    · simp [ListedOr, Listed, errorCatalog]
    · dsimp only
      split
      · exact observeGraph_listed _ _ _ _ _ _
      · exact observeGraph_listed _ _ _ _ _ _

/-- **An attempt** fails with a listed error, or what it observes is listed. -/
theorem applyNative_listed (a : Audio) (previous : Option Config)
    (previousObservation : Option EngineObservation) (config : Config) (meter : Bool)
    (env : AttemptEnv) :
    ListedOr EngineObservation.Listed
      (applyNative a previous previousObservation config meter env).1 := by
  unfold applyNative
  split
  · -- a stopped engine has no fault
    exact listed_of_none rfl
  · split
    · have hrebuild := rebuildGraph_listed a config env
      split
      · rename_i hfails
        rw [hfails] at hrebuild
        exact hrebuild
      · exact controlGraph_listed ..
    · exact controlGraph_listed ..

/-- An attempt that succeeds observes what is listed. -/
theorem applyNative_observed {a a' : Audio} {previous : Option Config}
    {previousObservation : Option EngineObservation} {config : Config} {meter : Bool}
    {env : AttemptEnv} {result : Except EngineError EngineObservation}
    (h : applyNative a previous previousObservation config meter env = (result, a')) :
    ListedOr EngineObservation.Listed result := by
  have hlisted := applyNative_listed a previous previousObservation config meter env
  rwa [h] at hlisted

/-! ## Commands and ticks

What a command is answered with is the error of an attempt; what is observed after it may be the
same error.
-/

/-- **A command** is answered with what is listed, and leaves it observed. -/
theorem handle_listed {o : Owner} (h : o.Listed) (command : NativeCommand) (env : CommandEnv) :
    (handle o command env).1.Listed command ∧ (handle o command env).2.Listed := by
  cases command with
  | apply config =>
    rcases hresult : handle o (.apply config) env with ⟨reply, o'⟩
    -- Whatever is answered or observed comes from one of the two attempts.
    cases handleApply_applied hresult with
    | accepted first =>
      have hobserved := applyNative_observed first
      exact ⟨hobserved, fun observation hmem => Option.some.inj hmem ▸ hobserved⟩
    | restored first intent second =>
      have hobserved := applyNative_observed second
      exact ⟨applyNative_observed first, fun observation hmem => Option.some.inj hmem ▸ hobserved⟩
    | abandoned first intent second => exact ⟨applyNative_observed first, h⟩
    | retained first intent active =>
      have herror := applyNative_observed first
      refine ⟨herror, fun observation hmem fault hfault => ?_⟩
      obtain rfl := Option.some.inj hmem
      obtain rfl := Option.some.inj hfault
      exact herror
    | rejected first intent inactive => exact ⟨applyNative_observed first, h⟩
  | inputs =>
    have hregistry := resolvedRegistry_listed o.audio env.first
    simp only [handle, handleInputs]
    split
    · rename_i hfails
      rw [hfails] at hregistry
      exact ⟨hregistry, h⟩
    · refine ⟨trivial, fun observation hmem => ?_⟩
      obtain rfl := Option.some.inj hmem
      cases hobserved : o.observation with
      | none => exact listed_of_none rfl
      | some previous => exact h previous hobserved
  | observe =>
    -- A graph is observed anew; without one the last observation is repeated.
    obtain ⟨observation, heq, hobserved⟩ : ∃ observation, handleObserve o env =
        (.observation (.ok observation), { o with observation := some observation }) ∧
          observation.Listed := by
      refine ⟨_, rfl, ?_⟩
      split
      · exact observeGraph_listed _ _ _ _ _ _
      · cases hprevious : o.observation with
        | none => exact listed_of_none rfl
        | some previous => exact h previous hprevious
    show (handleObserve o env).1.Listed _ ∧ (handleObserve o env).2.Listed
    rw [heq]
    exact ⟨hobserved, fun observation hmem => Option.some.inj hmem ▸ hobserved⟩
  | setMeterMonitoring enabled =>
    simp only [handle, handleSetMeterMonitoring]
    split
    · exact ⟨trivial, h⟩
    · split
      · rename_i hattempt
        have hobserved := applyNative_observed hattempt
        exact ⟨trivial, fun observation hmem => Option.some.inj hmem ▸ hobserved⟩
      · rename_i hattempt
        exact ⟨applyNative_observed hattempt, h⟩

/-- A due publication changes the devices that are observed, and no fault. -/
theorem Owner.Listed.published {o : Owner} (h : o.Listed) (env : TickEnv) :
    (o.published env).Listed := by
  unfold Owner.published registrySnapshotIfDue
  split
  · exact h
  · simp only [Owner.publishDevices]
    split
    · exact h
    · intro observation hmem
      obtain ⟨previous, hprevious, rfl⟩ := Option.mem_map.mp hmem
      exact EngineObservation.Listed.of_fault (h previous hprevious) rfl

/-- **A tick** leaves what is listed observed. -/
theorem serviceNative_listed {o : Owner} (h : o.Listed) (env : TickEnv) :
    (serviceNative o env).Listed := by
  -- The three parts of a tick in their order.
  have hcore : (serviceCore o env).Listed := by
    rcases serviceCore_cases o env with ⟨clock, heq, -⟩ | heq | ⟨audio, nowMillis, heq, -⟩
    · rw [heq]
      exact h
    · rw [heq]
      exact h
    · rw [heq]
      exact markDegraded_listed o.observation .core
  have hgraph : ∀ {o : Owner} (now), o.Listed → (serviceGraph o env now).Listed := by
    intro o now h
    rcases serviceGraph_cases o env now with
      ⟨-, heq⟩ | ⟨fault, nowMillis, heq⟩ | ⟨g, config, g', g'', reset, -, -, -, -, heq⟩
    · rw [heq]
      exact h.published env
    · rw [heq]
      exact markDegraded_listed _ fault
    · rw [heq]
      exact h.published env
  have hrecovery : ∀ {o : Owner} (now), o.Listed → (serviceRecovery o env now).Listed := by
    intro o now h
    rcases serviceRecovery_cases o env now with
      ⟨-, heq⟩ | heq | ⟨config, attempt, -, -, -, ⟨_, _, hattempt, -, heq⟩ | ⟨_, _, -, heq⟩⟩
    · rw [heq]
      exact h
    · rw [heq]
      exact h
    · rw [heq]
      have hobserved := applyNative_observed hattempt
      exact fun observation hmem => Option.some.inj hmem ▸ hobserved
    · rw [heq]
      exact markDegraded_listed _ _
  exact hrecovery _ (hgraph _ hcore)

/-! ## Steps

The steps of the callers and of the channel move what is there, and make none.
-/

/-- **Every step** keeps it. -/
theorem System.Catalogued.step {s s' : System} (h : s.Catalogued) {a : System.Action}
    (hstep : System.Stepped s a s') : s'.Catalogued := by
  cases hstep with
  -- The steps of a caller hand on what the owner has sent.
  | call command => exact h.call command
  | takeReply found waits replied =>
    refine h.update (fun _ => rfl) fun r hr hlisted => ⟨hlisted.reply, ?_⟩
    obtain rfl := Option.some.inj (found.symm.trans hr)
    rintro _ ⟨⟩
    exact hlisted.reply _ replied
  | timeOut _ _ _ =>
    exact h.update (fun _ => rfl) fun _ _ hlisted => ⟨hlisted.reply, fun _ => Caller.noConfusion⟩
  | disconnect _ _ _ _ =>
    exact h.update (fun _ => rfl) fun _ _ hlisted => ⟨hlisted.reply, fun _ => Caller.noConfusion⟩
  | timedOut _ _ =>
    exact h.update (fun _ => rfl) fun _ _ hlisted => ⟨hlisted.reply, fun _ => Caller.noConfusion⟩
  | stopped _ _ =>
    exact h.update (fun _ => rfl) fun _ _ hlisted => ⟨hlisted.reply, fun _ => Caller.noConfusion⟩
  -- Those of the owner touch no request, the execution and the reply apart.
  | drop => exact ⟨h.owner, h.executed, h.requests⟩
  | receive elapsed idle =>
    unfold System.receive
    split
    · exact h.move h.owner rfl fun _ _ => Position.noConfusion
    · exact h.move h.owner rfl fun _ _ => Position.noConfusion
    · split
      · exact h.move h.owner rfl fun _ _ => Position.noConfusion
      · exact h.move h.owner rfl fun _ _ => Position.noConfusion
  | skip _ _ _ => exact h.move h.owner rfl fun _ _ => Position.noConfusion
  | accept _ _ _ => exact h.move h.owner rfl fun _ _ => Position.noConfusion
  | @execute id r env holds found =>
    obtain ⟨hreply, howner⟩ := handle_listed h.owner r.command env
    refine ⟨howner, fun id' reply hposition => ?_, h.requests⟩
    obtain ⟨rfl, rfl⟩ := Position.executed.inj hposition
    exact ⟨r, found, hreply⟩
  | @send id reply holds =>
    obtain ⟨r, found, hreply⟩ := h.executed id reply holds
    -- The reply is sent to the request that was executed.
    have hmoved : ({ s with position := .ticking } : System).Catalogued :=
      h.move h.owner rfl fun _ _ => Position.noConfusion
    refine hmoved.update (fun _ => rfl) fun r' hr' hlisted => ⟨?_, hlisted.answered⟩
    obtain rfl := Option.some.inj (found.symm.trans hr')
    rintro _ ⟨⟩
    exact hreply
  | tick env ticks =>
    exact h.move (serviceNative_listed h.owner env) rfl fun _ _ => Position.noConfusion

end

end Noire
