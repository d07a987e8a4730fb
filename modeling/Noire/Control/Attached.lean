import Noire.Control.Calls
import Noire.Control.Service
import Noire.Lib.Discipline
import Noire.Native.Catalogue

namespace Noire

/-!
# The daemon on its native engine

The daemon and the owner thread as one system: what the daemon calls of its engine is a request to
the owner thread, which goes on with its ticks meanwhile and in between.

* `Requested` — a request, from its call to its return;
* `Attached` — the daemon and the native system; `Attached.Steps`: an operation of the daemon, with
  the requests that it makes;
* `ErrorInfo.Published` — error details in the words of the catalog;
* `Operation.calls_listed` — an operation whose engine answers with listed errors shows no others;
* `errors_catalogued` — and the owner thread answers so, in every run of the two.

Two facts are chained.  The owner thread answers with codes of the catalog only
(`Native/Catalogue.lean`); and an operation whose engine answers so shows no other error, because
the daemon takes an error of the engine over as it is and gives its own errors codes of the
catalog.  The second fact is about programs and their calls, so it is proved along the paths of a
change, with the answers of the store and the launch manager left open.
-/

open Lib

/-! ## In the words of the catalog

An error of the owner thread goes to the daemon as code and text; a client is shown the entry of
its code.
-/

/-- A listed code is found. -/
theorem errorCatalogEntry_listed {code : String} (h : Listed code) :
    ∃ entry ∈ errorCatalog, entry.code = code ∧ errorCatalogEntry code = some entry := by
  obtain ⟨entry, hentry, rfl⟩ := List.mem_map.mp h
  exact ⟨entry, hentry, rfl, errorCatalogEntry_of_mem entry hentry⟩

/-- The details are those of an entry of the catalog. -/
def ErrorInfo.Published (info : ErrorInfo) : Prop :=
  ∃ entry ∈ errorCatalog, info.code = entry.code ∧ info.message = entry.cause ∧
    info.recovery = entry.recovery ∧ info.retryable = entry.retryable

theorem errorInfo_published {error : EngineError} (h : Listed error.code) (unixMillis : ℕ) :
    (errorInfo error unixMillis).Published := by
  obtain ⟨entry, hentry, -, hfound⟩ := errorCatalogEntry_listed h
  unfold errorInfo
  rw [hfound]
  exact ⟨entry, hentry, rfl, rfl, rfl, rfl⟩

theorem catalogErrorInfo_published {code : String} (h : Listed code) (component : String)
    (unixMillis : ℕ) : (catalogErrorInfo code component unixMillis).Published := by
  obtain ⟨entry, hentry, -, hfound⟩ := errorCatalogEntry_listed h
  unfold catalogErrorInfo
  rw [hfound]
  exact ⟨entry, hentry, rfl, rfl, rfl, rfl⟩

/-- Only an error of the engine has a code of its own. -/
def ControlError.Listed : ControlError → Prop
  | .audio error => Noire.Listed error.code
  | _ => True

/-- What clients are told of an error is an entry of the catalog. -/
theorem publicError_published {error : ControlError} (h : error.Listed) (unixMillis : ℕ) :
    (publicError error unixMillis).2.Published := by
  have hlisted : Listed (publicError error unixMillis).2.code := by
    cases error with
    | audio engine => exact h
    | _ => simp [publicError, Listed, errorCatalog]
  obtain ⟨entry, hentry, hcode, hfound⟩ := errorCatalogEntry_listed hlisted
  refine ⟨entry, hentry, hcode.symm, ?_⟩
  cases error <;> simp only [publicError] at hfound ⊢ <;> rw [hfound] <;> exact ⟨rfl, rfl, rfl⟩

/-! ## What the daemon shows

Each operation keeps a shown error listed; the calls of the engine are answered by the native
model.
-/

/-- The last error is told in the words of the catalog. -/
def Daemon.Told {ε : Type} (d : Daemon ε) : Prop := ∀ info ∈ d.lastError, info.Published

/-- What a client is shown of a result: a snapshot, or an error. -/
def shownResult {α : Type} (P : α → Prop) : Except ControlError α → Prop
  | .ok a => P a
  | .error error => ∀ unixMillis, (publicError error unixMillis).2.Published

/-- The error of a snapshot, if it has one, is told in the words of the catalog. -/
def Snapshot.Told (snapshot : Snapshot) : Prop :=
  snapshot.hasError = true → snapshot.lastError.Published

/-- Every error in a reply is told in the words of the catalog. -/
def Daemon.Reply.Told : Daemon.Reply → Prop
  | .snapshot result => shownResult Snapshot.Told result
  | .inputs result => shownResult (fun _ => True) result
  | .unit result => shownResult (fun _ => True) result
  | .changed _ => True

/-- What the engine answers is listed. -/
def DaemonCall.Listed : (call : DaemonCall) → call.Answer → Prop
  | apply _, answer => ListedOr EngineObservation.Listed answer
  | retry _, answer => ListedOr EngineObservation.Listed answer
  | observe _, answer => ListedOr EngineObservation.Listed answer
  | setMeterMonitoring _, answer => ListedOr (fun _ => True) answer
  | inputs, answer => ListedOr (fun _ => True) answer
  | save _, _ => True
  | setEnabled _, _ => True

/-- Every call is allowed, and answered with what is listed. -/
def listing : Discipline DaemonCall.Answer Unit where
  allowed _ _ := True
  possible call answer _ := call.Listed answer
  next _ _ s := s
  idle _ := True

namespace Daemon

variable {d : Daemon Unit} {env : ControlEnv} {expected : ℕ}

theorem Told.snapshot (h : d.Told) (env : ControlEnv) : (d.snapshot env).Told := by
  intro herror
  obtain ⟨info, hinfo⟩ := Option.isSome_iff_exists.mp herror
  show (d.lastError.getD {}).Published
  rw [hinfo]
  exact h info hinfo

/-- An error of the engine is the last error, told so. -/
theorem told_error {error : EngineError} (h : Noire.Listed error.code) (unixMillis : ℕ) :
    ∀ info ∈ some (errorInfo error unixMillis), info.Published := by
  rintro info ⟨⟩
  exact errorInfo_published h unixMillis

/-- A refused operation shows its error so. -/
theorem shown_error {α : Type} {P : α → Prop} {error : ControlError} (h : error.Listed) :
    shownResult P (.error error) := publicError_published h

/-- A daemon without an error tells none. -/
theorem told_none (h : d.lastError = none) : d.Told := by
  intro info hinfo
  rw [h] at hinfo
  cases hinfo

/-- What a transaction returns is told in the words of the catalog, and so is what it leaves. -/
def ResultTold (result : Except ControlError Snapshot × Daemon Unit) (_ : Unit) : Prop :=
  shownResult Snapshot.Told result.1 ∧ result.2.Told

/-- **Every path of a change** shows errors in the words of the catalog only. -/
theorem Changing.listed {update : Config → Config}
    {p : DaemonProg (Except ControlError Snapshot × Daemon Unit)}
    (hp : Changing d expected update env p) (h : d.Told) : p.Obeys listing ResultTold () := by
  cases hp with
  | conflict _ => exact ⟨shown_error trivial, h⟩
  | readOnly _ => exact ⟨shown_error trivial, h⟩
  | invalid _ _ => exact ⟨shown_error trivial, h⟩
  | made _ _ => exact ⟨h.snapshot env, h⟩
  | applied _ _ _ =>
    refine Prog.Obeys.call trivial fun applied happlied => ?_
    -- A refused candidate shows the error of the engine, which is listed.
    cases applied with
    | error error => exact ⟨shown_error happlied, told_error happlied _⟩
    | ok observation =>
      refine Prog.Obeys.call trivial fun saved _ => ?_
      cases saved with
      | ok _ => exact ⟨(told_none rfl).snapshot env, told_none rfl⟩
      | error persistence =>
        -- the previous configuration is applied again
        refine Prog.Obeys.call trivial fun restored hrestored => ?_
        cases restored with
        | ok restored => exact ⟨shown_error trivial, h⟩
        | error rollback => exact ⟨shown_error trivial, told_error hrestored _⟩
  | saved _ _ _ =>
    refine Prog.Obeys.call trivial fun saved _ => ?_
    cases saved with
    | ok _ => exact ⟨(told_none rfl).snapshot env, told_none rfl⟩
    | error persistence => exact ⟨shown_error trivial, h⟩
  | managed _ _ _ _ =>
    refine Prog.Obeys.call trivial fun managed _ => ?_
    -- The launch manager and the store have errors of the daemon's own.
    cases managed with
    | error manager => exact ⟨shown_error trivial, h⟩
    | ok _ =>
      refine Prog.Obeys.call trivial fun saved _ => ?_
      cases saved with
      | ok _ => exact ⟨(told_none rfl).snapshot env, told_none rfl⟩
      | error error => exact Prog.Obeys.call trivial fun _ _ => ⟨shown_error trivial, h⟩

theorem retryCalls_listed (h : d.Told) :
    (retryCalls d expected env).Obeys listing ResultTold () := by
  refine Prog.Obeys.ite (fun _ => ⟨shown_error trivial, h⟩) fun _ => ?_
  refine Prog.Obeys.call trivial fun retried hretried => ?_
  cases retried with
  | ok observation => exact ⟨(told_none rfl).snapshot env, told_none rfl⟩
  | error error => exact ⟨shown_error hretried, told_error hretried _⟩

/-- What is adopted of a listed answer tells its error so. -/
theorem adopted_told (h : d.Told) {result : Except EngineError EngineObservation}
    (hresult : ListedOr EngineObservation.Listed result) : (adopted d result env).Told := by
  cases result with
  | error error => exact told_error hresult _
  | ok observation =>
    show ∀ info ∈ observedError d.lastError observation env.unixMillis, info.Published
    unfold observedError
    split
    · rename_i fault hfault
      exact told_error (hresult fault hfault) _
    · split
      · exact fun _ hmem => absurd hmem (Option.not_mem_none _)
      · exact h

/-- **Every operation** shows errors in the words of the catalog only. -/
theorem Operation.calls_listed (operation : Operation) (env : ControlEnv) (h : d.Told) :
    (operation.calls d env).Obeys listing (fun result _ => result.1.Told ∧ result.2.Told) () := by
  cases hchange : operation.change with
  | some change =>
    obtain ⟨p, heq, hp⟩ := Operation.calls_changing d env hchange
    rw [heq]
    exact Prog.Obeys.map (hp.listed h)
  | none =>
  cases operation with
  | start _ | stop _ | selectInput _ _ | setSuppressionEnabled _ _ | setStrength _ _
  | setLatencyProfile _ _ | setFailMode _ _ | setStartWithNoiseReduction _ _
  | setLaunchAtLogin _ _ => cases hchange
  -- The others ask for no change: each makes one call of the engine.
  | retry expected => exact Prog.Obeys.map (retryCalls_listed h)
  | setMeterMonitoring enabled =>
    refine Prog.Obeys.map (Prog.Obeys.call trivial fun metered hmetered => ?_)
    cases metered with
    | error error =>
      have hlisted : (ControlError.audio error).Listed := hmetered
      exact ⟨publicError_published hlisted, h⟩
    | ok _ => exact ⟨trivial, h⟩
  | refreshObservation =>
    refine Prog.Obeys.map (Prog.Obeys.call trivial fun observed hobserved => ⟨trivial, ?_⟩)
    -- What a refresh tells is what it has adopted, counted or not.
    have hadopted : (adopted d observed env).Told := adopted_told h hobserved
    rcases announced_cases d.observation (adopted d observed env) with ⟨-, heq⟩ | ⟨-, heq⟩
    · show (announced d.observation (adopted d observed env)).2.Told
      rw [heq]
      exact hadopted
    · show (announced d.observation (adopted d observed env)).2.Told
      rw [heq]
      exact hadopted
  | inputs =>
    refine Prog.Obeys.map (Prog.Obeys.call trivial fun listed hlisted => ?_)
    cases listed with
    | error error =>
      have herror : (ControlError.audio error).Listed := hlisted
      exact ⟨publicError_published herror, h⟩
    | ok _ => exact ⟨trivial, h⟩

/-- A new daemon tells its first error so. -/
theorem newCalls_listed (loaded : LoadOutcome) (env : ControlEnv) :
    (newCalls loaded env).Obeys listing (fun d _ => d.Told) () := by
  refine Prog.Obeys.call trivial fun applied happlied => ?_
  cases applied with
  | error error => exact told_error happlied _
  | ok observation =>
    intro info hinfo
    obtain ⟨_, -, rfl⟩ := Option.map_eq_some_iff.mp hinfo
    refine catalogErrorInfo_published ?_ "config" env.unixMillis
    split <;> simp [Noire.Listed, errorCatalog]

end Daemon

/-! ## One system

A call of the engine is a request with its own steps of the owner thread, and `Answered` strings
the requests of an operation together.
-/

namespace DaemonCall

/-- What a call of the engine sends to the owner thread; `retry` is `apply`, as in the trait. -/
def command : DaemonCall → Option NativeCommand
  | apply config | retry config => some (.apply config)
  | observe _ => some .observe
  | setMeterMonitoring enabled => some (.setMeterMonitoring enabled)
  | inputs => some .inputs
  | save _ | setEnabled _ => none

/-- The call returns what the request returned. -/
def Returned : (call : DaemonCall) → call.Answer → Reply → Prop
  | apply _, answer, reply => reply = .observation answer
  | retry _, answer, reply => reply = .observation answer
  | observe _, answer, reply => reply = .observation answer
  | setMeterMonitoring _, answer, reply => reply = .unit answer
  | inputs, answer, reply => reply = .inputs answer
  | save _, _, _ => False
  | setEnabled _, _, _ => False

end DaemonCall

/-- What a listed reply returns to the daemon is listed. -/
theorem DaemonCall.Returned.listed {call : DaemonCall} {command : NativeCommand} {reply : Reply}
    {answer : call.Answer} (h : call.Returned answer reply) (hsends : call.command = some command)
    (hreply : reply.Listed command) : call.Listed answer := by
  cases call with
  | apply _ | retry _ | observe _ | setMeterMonitoring _ | inputs =>
    obtain rfl := Option.some.inj hsends
    cases h
    exact hreply
  | save _ | setEnabled _ => cases hsends

section

variable [UnicodeCase]

/-- Steps of the native system that meet `C`. -/
def NativeSteps (C : System → System.Action → Prop) (s s' : System) : Prop :=
  ∃ as, Run (fun s a s' => s.step a = some s') C s as s'

/-- A request: one command is sent, and its caller returns with the reply, while the owner thread
    makes any steps. -/
structure Requested (C : System → System.Action → Prop) (command : NativeCommand) (s : System)
    (reply : Reply) (s' : System) : Prop where
  steps : NativeSteps C s s'
  length : s'.requests.length = s.requests.length + 1
  returned : ∃ r, s'.requests[s.requests.length]? = some r ∧ r.command = command ∧
    r.returned = some reply

/-- Calls of the daemon: those of the engine are requests, one after the other, and what the store
    and the launch manager answer is open. -/
inductive Answered (C : System → System.Action → Prop) : System → Calls → System → Prop
  | done {s s' : System} (steps : NativeSteps C s s')
      (length : s'.requests.length = s.requests.length) : Answered C s [] s'
  | engine {s s₁ s' : System} {call : DaemonCall} {command : NativeCommand} {reply : Reply}
      {answer : call.Answer} {calls : Calls} (sends : call.command = some command)
      (requested : Requested C command s reply s₁) (returned : call.Returned answer reply)
      (more : Answered C s₁ calls s') : Answered C s (⟨call, answer⟩ :: calls) s'
  | other {s s' : System} {call : DaemonCall} {answer : call.Answer} {calls : Calls}
      (sends : call.command = none) (more : Answered C s calls s') :
      Answered C s (⟨call, answer⟩ :: calls) s'

/-- The daemon, and the native system behind its engine. -/
structure Attached where
  daemon : Daemon Unit
  system : System

namespace Attached

/-- An operation, what it meets outside, and what it returns. -/
structure Step where
  operation : Daemon.Operation
  env : ControlEnv
  reply : Daemon.Reply

/-- `Daemon::new` on a native engine whose thread has just started. -/
def Started (C : System → System.Action → Prop) (clock : ℕ) (loaded : LoadOutcome)
    (env : ControlEnv) (a : Attached) : Prop :=
  ∃ calls, (Daemon.newCalls loaded env).Returns calls a.daemon ∧
    Answered C (System.start clock) calls a.system

/-- An operation of the daemon. -/
def Steps (C : System → System.Action → Prop) (a : Attached) (step : Step) (a' : Attached) : Prop :=
  ∃ calls, (step.operation.calls a.daemon step.env).Returns calls (step.reply, a'.daemon) ∧
    Answered C a.system calls a'.system

end Attached

/-! ## Runs

A run of the daemon over the native engine: what the engine answers is what the owner thread has
returned.
-/

variable {C : System → System.Action → Prop} {s s' : System}

theorem NativeSteps.catalogued (h : NativeSteps C s s') (hs : s.Catalogued) : s'.Catalogued := by
  obtain ⟨as, run⟩ := h
  exact run.invariant System.Catalogued hs fun _ _ _ h _ hstep => h.step (System.step_stepped hstep)

/-- **The native engine** answers with what is listed. -/
theorem Answered.listed {calls : Calls} (h : Answered C s calls s') (hs : s.Catalogued) :
    s'.Catalogued ∧ listing.Along listing.possible () calls := by
  induction h with
  | done steps _ => exact ⟨steps.catalogued hs, trivial⟩
  | engine sends requested returned more ih =>
    have hmid := requested.steps.catalogued hs
    obtain ⟨r, found, rfl, hreturned⟩ := requested.returned
    obtain ⟨hend, halong⟩ := ih hmid
    have hreply := (hmid.requests r (List.mem_of_getElem? found)).returned hreturned
    exact ⟨hend, returned.listed sends hreply, halong⟩
  | @other _ _ call answer _ sends more ih =>
    obtain ⟨hend, halong⟩ := ih hs
    refine ⟨hend, ?_, halong⟩
    cases call with
    | save _ | setEnabled _ => exact trivial
    | apply _ | retry _ | observe _ | setMeterMonitoring _ | inputs => cases sends

/-- The two as they are between operations. -/
structure Attached.Told (a : Attached) : Prop where
  system : a.system.Catalogued
  daemon : a.daemon.Told

theorem Attached.Started.told {clock : ℕ} {loaded : LoadOutcome} {env : ControlEnv} {a : Attached}
    (h : Attached.Started C clock loaded env a) : a.Told := by
  obtain ⟨calls, hreturns, hanswered⟩ := h
  obtain ⟨hsystem, halong⟩ := hanswered.listed (.start clock)
  exact ⟨hsystem, ((Daemon.newCalls_listed loaded env).performs hreturns.performs halong).2⟩

/-- **An operation** of the daemon on its native engine. -/
theorem Attached.Told.step {a a' : Attached} {step : Attached.Step} (h : a.Told)
    (hstep : Attached.Steps C a step a') : a'.Told ∧ step.reply.Told := by
  obtain ⟨calls, hreturns, hanswered⟩ := hstep
  obtain ⟨hsystem, halong⟩ := hanswered.listed h.system
  obtain ⟨hreply, hdaemon⟩ := ((Daemon.Operation.calls_listed step.operation step.env
    h.daemon).performs hreturns.performs halong).2
  exact ⟨⟨hsystem, hdaemon⟩, hreply⟩

/-- **Clients read the catalog.** Whatever the native library, the store and the launch manager
    answer, and however the owner thread and its callers interleave, the last error of a daemon on
    its native engine is told in the words of the catalog, and so is all that clients are signalled
    of an error that one of its operations has returned. -/
theorem errors_catalogued {clock : ℕ} {loaded : LoadOutcome} {env : ControlEnv} {a₀ a : Attached}
    {steps : List Attached.Step} (hstarted : Attached.Started Free clock loaded env a₀)
    (run : Run (Attached.Steps Free) Free a₀ steps a) :
    a.daemon.Told ∧ ∀ step ∈ steps, step.reply.Told := by
  have h : a.Told ∧ ∀ step ∈ steps, step.reply.Told := by
    induction run with
    | nil => exact ⟨hstarted.told, fun _ hmem => absurd hmem List.not_mem_nil⟩
    | snoc _ _ hstep ih =>
      obtain ⟨hnext, hreply⟩ := ih.1.step hstep
      refine ⟨hnext, fun step hmem => ?_⟩
      rcases List.mem_append.mp hmem with hmem | hmem
      · exact ih.2 step hmem
      · exact List.mem_singleton.mp hmem ▸ hreply
  exact ⟨h.1.daemon, h.2⟩

end

/-! ## An engine that cannot connect

The owner thread refuses the first configuration, and the reason comes from the catalog.
-/

/-- The error of a result. -/
def failure {α : Type} : Except EngineError α → Option EngineError
  | .ok _ => none
  | .error error => some error

/-- The error in a reply. -/
def Reply.failure : Reply → Option EngineError
  | .observation result => Noire.failure result
  | .inputs result => Noire.failure result
  | .unit result => Noire.failure result

/-- An `Apply` command that fails. -/
theorem reply_of_failure {config : Config} {reply : Reply} {error : EngineError}
    (h : reply.Listed (.apply config)) (hfailure : reply.failure = some error) :
    reply = .observation (.error error) := by
  cases reply with
  | observation result =>
    cases result with
    | ok _ => cases hfailure
    | error _ => exact congrArg (Reply.observation ∘ Except.error) (Option.some.inj hfailure)
  | inputs _ => cases h
  | unit _ => cases h

/-- What is loaded by a daemon that is to start with noise reduction. -/
def resumedLoad : LoadOutcome where
  config := { startWithNoiseReduction := true }
  source := .primary
  warning := none
  writable := true

/-- The configuration that it applies. -/
def resumedConfig : Config := { startWithNoiseReduction := true, active := true }

/-- The owner thread cannot connect, and says why. -/
def unconnected : List System.Action :=
  [.call (.apply resumedConfig), .receive 0, .check,
    .execute { first := { connect := .error "no such file or directory" } }, .send, .takeReply 0]

/-- A daemon whose engine cannot connect, and a client whose revision is long gone. -/
theorem errors_catalogued_unconnected :
    letI := asciiCase
    ∃ a₀ a steps, Attached.Started Free 0 resumedLoad {} a₀ ∧
      Run (Attached.Steps Free) Free a₀ steps a ∧ steps.length = 1 ∧
      a.daemon.lastError.map (·.code) = some "pipewire-unavailable" ∧
      a.daemon.Told ∧ ∀ step ∈ steps, step.reply.Told := by
  let _ := asciiCase
  obtain ⟨s, run, hend⟩ := SystemRun.of_compute (C := Free) 0 unconnected
    (fun s => s.requests.length = 1 && (s.requests[0]?).any fun r =>
      r.command = .apply resumedConfig && r.returned.any fun reply =>
        reply.failure.any (·.code = "pipewire-unavailable")) (by decide)
  simp only [Bool.and_eq_true, decide_eq_true_eq, Option.any_eq_true] at hend
  obtain ⟨hlength, r, found, hcommand, reply, hreturned, error, hfailure, hcode⟩ := hend
  have hlisted := ((NativeSteps.catalogued ⟨_, run⟩ (.start 0)).requests r
    (List.mem_of_getElem? found)).returned hreturned
  have hlate := reply_of_failure (hcommand ▸ hlisted) hfailure
  -- the request of the new daemon, and nothing else
  obtain ⟨d, hreturns, hlast, hrevision⟩ : ∃ d, (Daemon.newCalls resumedLoad {}).Returns
      [⟨.apply resumedConfig, .error error⟩] d ∧
      d.lastError = some (errorInfo error 0) ∧ d.revision = 1 :=
    ⟨_, .op (.pure _), rfl, rfl⟩
  have hanswered : Answered Free (System.start 0) [⟨.apply resumedConfig, .error error⟩] s :=
    .engine rfl ⟨⟨_, run⟩, hlength, r, found, hcommand, hreturned⟩ hlate (.done ⟨[], .nil⟩ rfl)
  have hstarted : Attached.Started Free 0 resumedLoad {} ⟨d, s⟩ := ⟨_, hreturns, hanswered⟩
  -- a conflict makes no request
  have hstop : Attached.Steps Free ⟨d, s⟩
      ⟨.stop 9, {}, .snapshot (.error (.conflict 9 d.revision))⟩ ⟨d, s⟩ := by
    refine ⟨[], ?_, .done ⟨[], .nil⟩ rfl⟩
    have hcalls : Daemon.stopCalls d 9 {} = pure (.error (.conflict 9 d.revision), d) := by
      unfold Daemon.stopCalls
      rw [if_pos (by rw [hrevision]; decide)]
    show (Prod.map Daemon.Reply.snapshot id <$> Daemon.stopCalls d 9 {}).Returns [] _
    rw [hcalls]
    exact .pure _
  have hrun := Run.single (C := Free) trivial hstop
  refine ⟨_, _, _, hstarted, hrun, rfl, ?_, errors_catalogued hstarted hrun⟩
  rw [hlast]
  have hmem : Listed error.code := by simp [hcode, Listed, errorCatalog]
  obtain ⟨entry, -, hentry, hfound⟩ := errorCatalogEntry_listed hmem
  show some (errorInfo error 0).code = _
  unfold errorInfo
  rw [hfound]
  exact congrArg some (hentry.trans hcode)

end Noire
