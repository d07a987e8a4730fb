import Noire.Control.Agreement
import Noire.Control.Attached
import Noire.Native.Cancellation

namespace Noire

/-!
# The owner thread follows the daemon

The daemon adopts a configuration that its engine accepts and its store keeps; the owner thread
commits one that it carries out.  Between them are a queue, a timeout and a cancel flag.

* `System.Settled` — between the requests of the daemon: every request has returned;
* `System.Since` — what the owner commits while one request is made; `Requested.intent`: the effect
  of the command, if it was answered `Ok`, and else nothing;
* `following` — the intent along the calls of the daemon, as a discipline;
  `Operation.calls_following`: an operation leaves it agreeing with the configuration;
* `owner_follows_daemon` — in every run of the two.

The daemon makes one request at a time, and each has returned before the next is made.  So the
proof goes request by request: from a settled system, whatever steps the callers and the owner
take until the request returns, the owner's intent changes by the effect of the command if the
answer was `Ok`, and not at all otherwise (`Requested.intent`).  That no earlier request is
committed late is what the undisturbed steps of `Native/Cancellation.lean` give.

On the daemon's side, what the engine has accepted last is followed along the calls of an
operation.  A transaction that is rolled back leaves it where it was, and only a rollback that
fails leaves the two apart.  The two sides meet in `Answered.following`.
-/

open Lib

/-! ## One request

Between two requests of the daemon the owner goes on by itself: it ticks, and it skips what was
cancelled.  Neither touches the intent.
-/

/-- The invariant of undisturbed runs, and no caller is waiting. -/
structure System.Settled (s : System) : Prop where
  sound : s.Sound
  returned : ∀ r ∈ s.requests, r.returned.isSome = true

/-- What has happened since `s`: its requests stay returned, and what is committed is new, each
    request once. -/
structure System.Since (s t : System) : Prop where
  sound : t.Sound
  length : s.requests.length ≤ t.requests.length
  returned : ∀ id r, id < s.requests.length → t.requests[id]? = some r → r.returned.isSome = true
  committed : ∃ new, t.committed = s.committed ++ new ∧ (new.map Prod.fst).Nodup ∧
    ∀ c ∈ new, s.requests.length ≤ c.1

namespace System

variable {s t u : System}

theorem Settled.since (h : s.Settled) : s.Since s where
  sound := h.sound
  length := le_rfl
  returned := fun _ r _ found => h.returned r (List.mem_of_getElem? found)
  committed := ⟨[], (List.append_nil _).symm, List.nodup_nil,
    fun _ hmem => absurd hmem List.not_mem_nil⟩

/-- What had returned has still returned. -/
def Stays (t u : System) : Prop :=
  t.requests.length ≤ u.requests.length ∧ ∀ id r', id < t.requests.length →
    u.requests[id]? = some r' → ∃ r, t.requests[id]? = some r ∧
      (r.returned.isSome = true → r'.returned.isSome = true)

theorem Stays.of_eq (h : u.requests = t.requests) : t.Stays u :=
  ⟨h ▸ le_rfl, fun _ r' _ found => ⟨r', h ▸ found, id⟩⟩

theorem Stays.update {id : ℕ} {f : Request → Request}
    (hf : ∀ r, t.requests[id]? = some r → r.returned.isSome = true →
      (f r).returned.isSome = true) : t.Stays (t.update id f) := by
  refine ⟨by simp [System.update], fun id' r' _ found => ?_⟩
  by_cases hid : id = id'
  · subst hid
    simp only [System.update, List.getElem?_modify_eq] at found
    obtain ⟨r, hr, rfl⟩ := Option.map_eq_some_iff.mp found
    exact ⟨r, hr, hf r hr⟩
  · simp only [System.update, List.getElem?_modify_ne _ _ hid] at found
    exact ⟨r', found, fun h => h⟩

theorem Stays.call (command : NativeCommand) : t.Stays (t.call command) := by
  have happend : ∀ (r : Request) (queue : List Message),
      t.Stays { t with requests := t.requests ++ [r], queue } := fun r queue =>
    ⟨by simp, fun id r' hid found =>
      ⟨r', (List.getElem?_append_left hid).symm.trans found, fun h => h⟩⟩
  unfold System.call
  split
  · exact happend _ t.queue
  · split
    · exact happend _ t.queue
    · exact happend _ _

/-- A caller that is not done has not returned. -/
theorem not_returned {r : Request}
    (h : r.caller = .waiting ∨ r.caller = .timingOut ∨ r.caller = .stopping) :
    ¬r.returned.isSome = true := by
  rcases h with h | h | h <;> simp [Request.returned, h]

/-- Only the requests made since are committed since. -/
theorem Since.lt_of_committed (h : s.Since t) {new : List (ℕ × NativeCommand)}
    (hnew : t.committed = s.committed ++ new) : ∀ c ∈ new, c.1 < t.requests.length :=
  fun c hc => h.sound.exists_committed c (hnew ▸ List.mem_append_right _ hc)

/-- Without a request, the owner's intent stays. -/
theorem Since.rest (h : s.Since t) (hs : s.Settled)
    (hlength : t.requests.length = s.requests.length) :
    t.Settled ∧ t.owner.intent = s.owner.intent := by
  refine ⟨⟨h.sound, fun r hr => ?_⟩, ?_⟩
  · obtain ⟨id, found⟩ := List.mem_iff_getElem?.mp hr
    exact h.returned id r (hlength ▸ (List.getElem?_eq_some_iff.mp found).1) found
  · obtain ⟨new, hnew, -, hids⟩ := h.committed
    have hnone : new = [] := List.eq_nil_iff_forall_not_mem.mpr fun c hc =>
      absurd (h.lt_of_committed hnew c hc) (hlength ▸ Nat.not_lt.mpr (hids c hc))
    rw [h.sound.intent, hs.sound.intent, hnew, hnone, List.append_nil]

end System

/-! ## The calls of the daemon

The discipline looks at the calls of `apply` that are answered `Ok`, and at nothing else.
-/

/-- The configuration that the engine has accepted last. -/
def following : Discipline DaemonCall.Answer (Option Config) where
  allowed _ _ := True
  possible _ _ _ := True
  next
    | .apply config, answer, applied => if answer.isOk then some config else applied
    | .retry config, answer, applied => if answer.isOk then some config else applied
    | _, _, applied => applied
  idle _ := True

/-- What a request makes of the owner's intent is what the call makes of it. -/
theorem DaemonCall.Returned.next {call : DaemonCall} {command : NativeCommand} {reply : Reply}
    {answer : call.Answer} (h : call.Returned answer reply) (hsends : call.command = some command)
    (intent : Intent) :
    (if reply.isOk = true then command.effect intent else intent).applied =
      following.next call answer intent.applied := by
  cases call with
  | apply config | retry config =>
    obtain rfl := Option.some.inj hsends
    cases h
    show _ = if Except.isOk answer then some config else intent.applied
    exact apply_ite Intent.applied _ _ _
  | observe _ | setMeterMonitoring _ | inputs =>
    obtain rfl := Option.some.inj hsends
    exact (apply_ite Intent.applied _ _ _).trans (ite_self _)
  | save _ | setEnabled _ => cases hsends

/-- An engine that has accepted a configuration keeps one. -/
theorem following_isSome {applied : Option Config} (h : applied.isSome = true) (calls : Calls) :
    (following.after applied calls).isSome = true := by
  induction calls generalizing applied with
  | nil => exact h
  | cons call calls ih =>
    refine ih ?_
    obtain ⟨call, answer⟩ := call
    cases call with
    | apply config | retry config =>
      show (if Except.isOk answer then some config else applied).isSome = true
      split
      · rfl
      · exact h
    | observe _ | setMeterMonitoring _ | inputs | save _ | setEnabled _ => exact h

/-- The rollback of the transaction has failed. -/
def rollbackFailed {α : Type} : Except ControlError α → Bool
  | .error (.persistenceRollback _ _) => true
  | _ => false

/-- The operation returns that its rollback has failed. -/
def Daemon.Reply.rollbackFailed : Daemon.Reply → Bool
  | .snapshot result => Noire.rollbackFailed result
  | .inputs _ | .unit _ | .changed _ => false

/-- What the engine has accepted agrees with the configuration of the daemon. -/
def InAgreement (applied : Option Config) (config : Config) : Prop :=
  ∀ intent ∈ applied, Agrees intent config

namespace Daemon

variable {d : Daemon Unit} {env : ControlEnv} {expected : ℕ} {applied : Option Config}

/-- The result of a transaction, with what the engine has accepted then. -/
def ResultFollows (result : Except ControlError Snapshot × Daemon Unit) (applied : Option Config) :
    Prop :=
  Noire.rollbackFailed result.1 = true ∨ InAgreement applied result.2.config

theorem follows_self (config : Config) : InAgreement (some config) config := by
  rintro intent ⟨⟩
  exact .refl config

/-- Another preference is nothing to the engine. -/
theorem InAgreement.preferred {candidate : Config} (h : InAgreement applied d.config)
    (hpreference : Preference d.config candidate) : InAgreement applied candidate := by
  obtain ⟨start, launch, rfl⟩ := hpreference
  exact fun intent hintent => (h intent hintent).trans ⟨rfl, rfl, rfl, rfl⟩

/-- **Every path of a change** leaves the engine agreeing with the daemon, unless its rollback
    fails. -/
theorem Changing.following {update : Config → Config}
    {p : DaemonProg (Except ControlError Snapshot × Daemon Unit)}
    (hp : Changing d expected update env p) (h : InAgreement applied d.config) :
    p.Obeys Noire.following ResultFollows applied := by
  cases hp with
  | conflict _ => exact .inr h
  | readOnly _ => exact .inr h
  | invalid _ _ => exact .inr h
  | made _ _ => exact .inr h
  | applied _ _ _ =>
    refine Prog.Obeys.call trivial fun accepted _ => ?_
    cases accepted with
    | error error => exact .inr h
    | ok observation =>
      refine Prog.Obeys.call trivial fun saved _ => ?_
      cases saved with
      | ok _ => exact .inr (follows_self _)
      | error persistence =>
        -- the previous configuration is applied again, or the engine keeps the candidate
        refine Prog.Obeys.call trivial fun restored _ => ?_
        cases restored with
        | ok restored => exact .inr (follows_self _)
        | error rollback => exact .inl rfl
  -- The engine is not asked about a preference.
  | saved _ _ hpreference =>
    refine Prog.Obeys.call trivial fun saved _ => ?_
    cases saved with
    | error persistence => exact .inr h
    | ok _ => exact .inr (InAgreement.preferred h hpreference)
  | managed _ _ hpreference _ =>
    refine Prog.Obeys.call trivial fun managed _ => ?_
    cases managed with
    | error manager => exact .inr h
    | ok _ =>
      refine Prog.Obeys.call trivial fun saved _ => ?_
      cases saved with
      | error error => exact Prog.Obeys.call trivial fun _ _ => .inr h
      | ok _ => exact .inr (InAgreement.preferred h hpreference)

theorem retryCalls_following (h : InAgreement applied d.config) :
    (retryCalls d expected env).Obeys following ResultFollows applied := by
  refine Prog.Obeys.ite (fun _ => .inr h) fun _ => ?_
  refine Prog.Obeys.call trivial fun retried _ => ?_
  cases retried with
  | ok observation => exact .inr (follows_self _)
  | error error => exact .inr h

/-- A refresh keeps the configuration. -/
theorem announced_config (env : ControlEnv) (observed : Except EngineError EngineObservation) :
    (announced d.observation (adopted d observed env)).2.config = d.config := by
  obtain ⟨hconfig, -⟩ := adopted_keeps d observed env
  rcases announced_cases d.observation (adopted d observed env) with ⟨-, heq⟩ | ⟨-, heq⟩
  · rw [heq]
    exact hconfig
  · rw [heq]
    exact hconfig

/-- **Every operation** leaves the engine agreeing with the daemon, unless its rollback fails. -/
theorem Operation.calls_following (operation : Operation) (env : ControlEnv)
    (h : InAgreement applied d.config) :
    (operation.calls d env).Obeys following (fun result applied =>
      result.1.rollbackFailed = true ∨ InAgreement applied result.2.config) applied := by
  cases hchange : operation.change with
  | some change =>
    obtain ⟨p, heq, hp⟩ := Operation.calls_changing d env hchange
    rw [heq]
    exact Prog.Obeys.map (hp.following h)
  | none =>
  cases operation with
  | start _ | stop _ | selectInput _ _ | setSuppressionEnabled _ _ | setStrength _ _
  | setLatencyProfile _ _ | setFailMode _ _ | setStartWithNoiseReduction _ _
  | setLaunchAtLogin _ _ => cases hchange
  -- Of the others only a retry applies anything, and it applies the configuration.
  | retry expected => exact Prog.Obeys.map (retryCalls_following h)
  | setMeterMonitoring enabled =>
    refine Prog.Obeys.map (Prog.Obeys.call trivial fun metered _ => ?_)
    cases metered with
    | error error => exact .inr h
    | ok _ => exact .inr h
  | refreshObservation =>
    refine Prog.Obeys.map (Prog.Obeys.call trivial fun observed _ => .inr ?_)
    show InAgreement applied (announced d.observation (adopted d observed env)).2.config
    rw [announced_config]
    exact h
  | inputs =>
    refine Prog.Obeys.map (Prog.Obeys.call trivial fun listed _ => ?_)
    cases listed with
    | error error => exact .inr h
    | ok _ => exact .inr h

end Daemon

/-- The two between operations: no request is open, and what the owner thread is to realize agrees
    with the configuration. -/
structure Attached.InStep (a : Attached) : Prop where
  system : a.system.Settled
  follows : InAgreement a.system.owner.applied a.daemon.config

section

variable [UnicodeCase]

namespace System

variable {s t u : System}

/-- **No step** takes back what a request has returned. -/
theorem Stepped.stays {a : Action} (h : Stepped t a u) : t.Stays u := by
  cases h with
  | call command => exact .call command
  -- The caller of a request that returns was waiting, so it had not returned.
  | takeReply found waits replied =>
    refine .update fun r hr hreturned => absurd hreturned (not_returned (.inl ?_))
    exact Option.some.inj (found.symm.trans hr) ▸ waits
  | timeOut found waits _ =>
    refine .update fun r hr hreturned => absurd hreturned (not_returned (.inl ?_))
    exact Option.some.inj (found.symm.trans hr) ▸ waits
  | disconnect found waits _ _ =>
    refine .update fun r hr hreturned => absurd hreturned (not_returned (.inl ?_))
    exact Option.some.inj (found.symm.trans hr) ▸ waits
  | timedOut _ _ => exact .update fun _ _ _ => rfl
  | stopped _ _ => exact .update fun _ _ _ => rfl
  -- The owner's steps touch no caller.
  | drop => exact .of_eq rfl
  | receive elapsed idle =>
    unfold System.receive
    split
    · exact .of_eq rfl
    · exact .of_eq rfl
    · split
      · exact .of_eq rfl
      · exact .of_eq rfl
  | skip _ _ _ => exact .of_eq rfl
  | accept _ _ _ => exact .of_eq rfl
  | execute _ _ => exact .of_eq rfl
  | send _ =>
    exact Stays.update (t := { t with position := .ticking }) fun _ _ hreturned => hreturned
  | tick _ _ => exact .of_eq rfl

/-- A step commits nothing, or the command of a request that its caller waits for. -/
theorem Stepped.committed {a : Action} (hsound : t.Sound) (hC : Undisturbed t a)
    (h : Stepped t a u) : u.committed = t.committed ∨ ∃ id r, t.requests[id]? = some r ∧
      r.caller = .waiting ∧ (∀ command, (id, command) ∉ t.committed) ∧
      u.committed = t.committed ++ [(id, r.command)] := by
  cases h with
  | @execute id r env holds found =>
    have hr := hsound.requests id r found
    by_cases hcommits : t.owner.commits r.command env = true
    · -- nothing was committed for a command that is only now carried out
      have hwaits : r.caller = .waiting := by
        obtain ⟨hsucceeds, hretains⟩ := undisturbed_execute hC holds found
        obtain ⟨hassigns, hcommits⟩ := Bool.and_eq_true_iff.mp hcommits
        rcases (Bool.or_eq_true _ _).mp hcommits with hok | hretained
        · exact hsucceeds hassigns hok
        · exact hsucceeds hassigns (hretains hretained)
      have hidle : t.position.accepts id = false := by rw [holds]; rfl
      exact .inr ⟨id, r, found, hwaits, hr.unaccepted (by rw [hwaits]; exact fun _ => nofun)
        (fun _ => hr.unanswered (held_of_checked holds))
        (fun haccepts => absurd haccepts (Bool.eq_false_iff.mp hidle)), if_pos hcommits⟩
    · exact .inl (if_neg hcommits)
  | call command =>
    refine .inl ?_
    unfold System.call
    split
    · rfl
    · split
      · rfl
      · rfl
  | receive elapsed idle =>
    refine .inl ?_
    unfold System.receive
    split
    · rfl
    · rfl
    · split
      · rfl
      · rfl
  | takeReply _ _ _ | timeOut _ _ _ | disconnect _ _ _ _ | timedOut _ _ | stopped _ _ | drop
  | skip _ _ _ | accept _ _ _ | send _ | tick _ _ => exact .inl rfl

/-- **An undisturbed step** while requests are made. -/
theorem Since.step {a : Action} (h : s.Since t) (hC : Undisturbed t a) (hstep : Stepped t a u) :
    s.Since u := by
  obtain ⟨hlength, hstays⟩ := hstep.stays
  refine ⟨step_sound h.sound hC hstep, h.length.trans hlength, fun id r' hid found => ?_, ?_⟩
  · obtain ⟨r, hr, hreturned⟩ := hstays id r' (hid.trans_le h.length) found
    exact hreturned (h.returned id r hid hr)
  · obtain ⟨new, hnew, hnodup, hids⟩ := h.committed
    rcases hstep.committed h.sound hC with heq | ⟨id, r, found, hwaits, hfresh, heq⟩
    · exact ⟨new, heq.trans hnew, hnodup, hids⟩
    · refine ⟨new ++ [(id, r.command)], by rw [heq, hnew, List.append_assoc], ?_, fun c hc => ?_⟩
      · rw [List.map_append, List.nodup_append]
        refine ⟨hnodup, List.nodup_singleton _, fun id' hid' id'' hid'' heq' => ?_⟩
        obtain ⟨c, hc, rfl⟩ := List.mem_map.mp hid'
        obtain rfl := List.mem_singleton.mp hid''
        refine hfresh c.2 ?_
        rw [← heq', hnew]
        exact List.mem_append_right _ hc
      · rcases List.mem_append.mp hc with hc | hc
        · exact hids c hc
        · -- its caller waits, so it is not one that had returned
          obtain rfl := List.mem_singleton.mp hc
          by_contra hlt
          exact not_returned (.inl hwaits) (h.returned id r (Nat.not_le.mp hlt) found)

/-- Any undisturbed steps. -/
theorem Settled.steps (h : s.Settled) (hsteps : NativeSteps Undisturbed s t) : s.Since t := by
  obtain ⟨as, run⟩ := hsteps
  exact run.invariant s.Since h.since fun _ _ _ hsince hC hstep =>
    hsince.step hC (step_stepped hstep)

end System

/-- **A request** of the daemon has the effect of its command, if it returns `Ok`, and else none. -/
theorem Requested.intent {s t : System} {command : NativeCommand} {reply : Reply}
    (h : Requested Undisturbed command s reply t) (hs : s.Settled) :
    t.Settled ∧ t.owner.intent =
      if reply.isOk = true then command.effect s.owner.intent else s.owner.intent := by
  have hsince := hs.steps h.steps
  obtain ⟨r, found, rfl, hreturned⟩ := h.returned
  have hr := hsince.sound.requests _ r found
  refine ⟨⟨hsince.sound, fun r' hr' => ?_⟩, ?_⟩
  · obtain ⟨id, hid⟩ := List.mem_iff_getElem?.mp hr'
    have hlt := (List.getElem?_eq_some_iff.mp hid).1
    rw [h.length] at hlt
    rcases Nat.lt_succ_iff_lt_or_eq.mp hlt with hlt | rfl
    · exact hsince.returned id r' hlt hid
    · obtain rfl := Option.some.inj (found.symm.trans hid)
      exact Option.isSome_iff_exists.mpr ⟨reply, hreturned⟩
  · obtain ⟨new, hnew, hnodup, hids⟩ := hsince.committed
    -- nothing but this request can have been committed
    have hthis : ∀ c ∈ new, c.1 = s.requests.length := fun c hc => by
      have hlt := hsince.lt_of_committed hnew c hc
      have hle := hids c hc
      rw [h.length] at hlt
      omega
    rw [hsince.sound.intent, hs.sound.intent, hnew]
    match new, hnew, hnodup, hthis with
    | [], hnew, _, _ =>
      -- it failed, or it has no effect on the intent
      rw [List.append_nil]
      by_cases hok : reply.isOk = true
      · have hidle : r.command.assigns = false := Bool.eq_false_iff.mpr fun hassigns => by
          have hmem := hr.answered reply (answered_of_isOk hreturned hok) hok hassigns
          rw [hnew, List.append_nil] at hmem
          exact absurd (hs.sound.exists_committed _ hmem) (lt_irrefl _)
        rw [if_pos hok, NativeCommand.effect_eq hidle]
      · rw [if_neg hok]
    | [c], hnew, _, hthis =>
      obtain ⟨id, command⟩ := c
      obtain rfl : id = s.requests.length := hthis _ List.mem_cons_self
      have hmem : (s.requests.length, command) ∈ t.committed :=
        hnew ▸ List.mem_append_right _ List.mem_cons_self
      obtain ⟨rfl, -, haccepted⟩ := hr.accepted command hmem
      have hok : reply.isOk = true := by
        cases haccepted with
        | answered caller ok =>
          simp only [Request.returned, caller, Option.some.injEq] at hreturned
          exact hreturned ▸ ok
        | replied caller _ _ => simp [Request.returned, caller] at hreturned
        | executed caller _ => simp [Request.returned, caller] at hreturned
      rw [if_pos hok]
      exact replay_append ..
    | c :: c' :: _, _, hnodup, hthis =>
      have hsame : c.1 = c'.1 := (hthis c List.mem_cons_self).trans
        (hthis c' (List.mem_cons_of_mem _ List.mem_cons_self)).symm
      simp [hsame] at hnodup

/-- **The owner thread** has committed what the daemon's calls were accepted for. -/
theorem Answered.following {s t : System} {calls : Calls} (h : Answered Undisturbed s calls t)
    (hs : s.Settled) :
    t.Settled ∧ t.owner.applied = Noire.following.after s.owner.applied calls := by
  induction h with
  | done steps length =>
    obtain ⟨hsettled, hintent⟩ := (hs.steps steps).rest hs length
    exact ⟨hsettled, congrArg Intent.applied hintent⟩
  | engine sends requested returned more ih =>
    obtain ⟨hmid, hintent⟩ := requested.intent hs
    obtain ⟨hend, happlied⟩ := ih hmid
    refine ⟨hend, happlied.trans (congrArg (Noire.following.after · _) ?_)⟩
    exact (congrArg Intent.applied hintent).trans (returned.next sends _)
  | @other _ _ call _ _ sends more ih =>
    obtain ⟨hend, happlied⟩ := ih hs
    refine ⟨hend, happlied.trans (congrArg (Noire.following.after · _) ?_)⟩
    cases call with
    | save _ | setEnabled _ => rfl
    | apply _ | retry _ | observe _ | setMeterMonitoring _ | inputs => cases sends

/-! ## Runs

Between two requests everything has returned, so that the next call of the daemon meets an idle
owner.
-/

/-- **An operation** whose rollback does not fail. -/
theorem Attached.InStep.step {a a' : Attached} {step : Attached.Step} (h : a.InStep)
    (hrollback : step.reply.rollbackFailed = false) (hstep : Attached.Steps Undisturbed a step a') :
    a'.InStep ∧ (a.system.owner.applied.isSome = true → a'.system.owner.applied.isSome = true) := by
  obtain ⟨calls, hreturns, hanswered⟩ := hstep
  obtain ⟨hsettled, happlied⟩ := hanswered.following h.system
  have hresult := ((Daemon.Operation.calls_following step.operation step.env
    h.follows).performs hreturns.performs (.of_forall fun _ _ _ => trivial)).2
  refine ⟨⟨hsettled, happlied ▸ hresult.resolve_left fun hfailed => ?_⟩, fun hsome => ?_⟩
  · rw [hrollback] at hfailed
    cases hfailed
  · rw [happlied]
    exact following_isSome hsome calls

end

/-! ## A request that times out

The run is computed by the steps of the system, and its calls are then read off the requests.
-/

end Noire
