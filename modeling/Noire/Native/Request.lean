import Noire.Native.Loop

namespace Noire

/-!
# Requests and their callers

A caller hands the owner thread a command through a bounded channel and waits 450 ms for the
answer.  If none comes it stores the command's cancel flag and returns an error; the owner
reads the flag once, before it carries the command out.

* `System` — the owner loop, its channel, and every request with its caller;
* `System.step` — one step of a caller or of the owner, at the granularity of channel and
  flag operations;
* `handle_intent` — what a command does to the committed intent;
* `system_refines_loop` — the owner of a system run is the owner of a run of the loop.

The granularity is what the race needs: a caller sends, waits, stores its flag and returns in
separate steps, and the owner receives, reads the flag, carries out and answers in separate steps.
Everything between two such steps touches one thread's state only.

`Stepped` is the step function turned round, with what each step needs as hypotheses, and the
proofs about runs use it alone.  The owner's own steps make up iterations of the loop of
`Native/Owner.lean`: `Within` says where in an iteration the owner is, and the refinement follows.
-/

/-! ## Errors of a request

What a caller is told when the owner is not there, is busy, or is late.
-/

/-- Capacity of the command channel. -/
def commandCapacity : ℕ := 16

/-- `stopped_error`. -/
def stoppedError : EngineError where
  code := "audio-thread-stopped"
  message := "the audio control thread has stopped"
  recovery := "restart the Noire daemon"
  retryable := false

/-- `command_error` of a full channel. -/
def busyError : EngineError where
  code := "audio-command-busy"
  message := "the bounded audio command queue is full"
  recovery := "wait briefly and retry the command"
  retryable := true

/-- The error of a caller that gave up. -/
def timeoutError : EngineError where
  code := "audio-command-timeout"
  message := "the audio control thread did not respond within 450 ms"
  recovery := "retry; restart Noire if the condition persists"
  retryable := true

/-- A command that fails without being carried out. -/
def NativeCommand.fail (command : NativeCommand) (error : EngineError) : Reply :=
  match command with
  | .apply _ | .observe => .observation (.error error)
  | .inputs => .inputs (.error error)
  | .setMeterMonitoring _ => .unit (.error error)

/-! ## The committed intent

The intent is what two assignments of `run_native` leave.  It is kept apart from the graph, which
may be there or not.
-/

/-- What the owner is asked to realize. -/
@[ext] structure Intent where
  applied : Option Config := none
  meterMonitoring : Bool := false

/-- The committed intent of the owner. -/
def Owner.intent (o : Owner) : Intent := ⟨o.applied, o.meterMonitoring⟩

/-- Whether `run_native` assigns `applied` or `meter_monitoring` for the command. -/
def NativeCommand.assigns : NativeCommand → Bool
  | .apply _ | .setMeterMonitoring _ => true
  | .inputs | .observe => false

/-- The effect of a command on the intent. -/
def NativeCommand.effect (intent : Intent) : NativeCommand → Intent
  | .apply config => { intent with applied := some config }
  | .setMeterMonitoring enabled => { intent with meterMonitoring := enabled }
  | .inputs | .observe => intent

theorem NativeCommand.effect_eq {command : NativeCommand} (h : command.assigns = false)
    (intent : Intent) : command.effect intent = intent := by
  cases command with
  | apply _ | setMeterMonitoring _ => cases h
  | inputs | observe => rfl

/-- The intent a sequence of commands leaves. -/
def replay (committed : List (ℕ × NativeCommand)) : Intent :=
  committed.foldl (fun intent c => c.2.effect intent) {}

/-- Committing one more command. -/
theorem replay_append (committed : List (ℕ × NativeCommand)) (c : ℕ × NativeCommand) :
    replay (committed ++ [c]) = c.2.effect (replay committed) := by
  simp [replay]

variable [UnicodeCase]

/-- The first active configuration, which the owner keeps and recovers even where it cannot be
    applied. -/
def Owner.retains (o : Owner) : NativeCommand → Bool
  | .apply config => o.applied.isNone && config.active
  | .inputs | .observe | .setMeterMonitoring _ => false

/-- The command becomes part of the intent. -/
def Owner.commits (o : Owner) (command : NativeCommand) (env : CommandEnv) : Bool :=
  command.assigns && ((handle o command env).1.isOk || o.retains command)

/-- **What a command does to the intent**: its effect, or nothing. -/
theorem handle_intent (o : Owner) (command : NativeCommand) (env : CommandEnv) :
    (handle o command env).2.intent =
      if o.commits command env then command.effect o.intent else o.intent := by
  cases command with
  | apply config =>
    rcases hresult : handle o (.apply config) env with ⟨reply, o'⟩
    rw [Owner.commits, hresult]
    cases handleApply_applied hresult with
    | accepted first => rfl
    | restored first intent second =>
      simp [Reply.isOk, Except.isOk, Except.toBool, Owner.retains, intent, Owner.intent]
    | abandoned first intent second =>
      simp [Reply.isOk, Except.isOk, Except.toBool, Owner.retains, intent, Owner.intent]
    | retained first intent active =>
      simp [Reply.isOk, Owner.retains, intent, active, Owner.intent, NativeCommand.effect,
        NativeCommand.assigns]
    | rejected first intent inactive =>
      simp [Reply.isOk, Except.isOk, Except.toBool, Owner.retains, inactive, Owner.intent]
  | inputs =>
    simp only [NativeCommand.effect, ite_self, handle, handleInputs]
    split <;> rfl
  | observe => simp only [NativeCommand.effect, ite_self, handle, handleObserve, Owner.intent]
  | setMeterMonitoring enabled =>
    -- unlike `Apply`, it is committed exactly where it is answered `Ok`
    rcases hresult : handle o (.setMeterMonitoring enabled) env with ⟨reply, o'⟩
    rw [Owner.commits, hresult]
    simp only [handle, handleSetMeterMonitoring] at hresult
    split at hresult
    · cases hresult
      rfl
    · split at hresult
      · cases hresult
        rfl
      · cases hresult
        rfl

/-- A tick keeps the intent. -/
theorem serviceNative_intent (o : Owner) (env : TickEnv) :
    (serviceNative o env).intent = o.intent := by
  have hcore : (serviceCore o env).intent = o.intent := by
    rcases serviceCore_cases o env with ⟨clock, heq, -⟩ | heq | ⟨audio, nowMillis, heq, -⟩ <;>
      rw [heq] <;> rfl
  have hgraph : ∀ (o : Owner) now, (serviceGraph o env now).intent = o.intent := by
    intro o now
    obtain ⟨clock, connection, observation, hpublished, -⟩ := published_eq o env
    rcases serviceGraph_cases o env now with
      ⟨-, heq⟩ | ⟨fault, nowMillis, heq⟩ | ⟨g, config, g', g'', reset, -, -, -, -, heq⟩ <;>
      rw [heq, hpublished] <;> rfl
  have hrecovery : ∀ (o : Owner) now, (serviceRecovery o env now).intent = o.intent := by
    intro o now
    rcases serviceRecovery_cases o env now with
      ⟨-, heq⟩ | heq | ⟨config, attempt, -, -, -, ⟨_, _, -, -, heq⟩ | ⟨_, _, -, heq⟩⟩ <;>
      rw [heq] <;> rfl
  exact (hrecovery _ _).trans ((hgraph _ _).trans hcore)

/-! ## The system

The positions of the owner are the places in `run_native` between two operations that another
thread can see: waiting, with a message, past the check of the flag, with a reply in hand, and in
the tick.
-/

/-- How far a caller has come in `request_with_timeout`. -/
inductive Caller
  /-- It waits for its reply. -/
  | waiting
  /-- Its wait timed out; it has not stored the cancel flag yet. -/
  | timingOut
  /-- Its wait ended with the reply's sender gone; it has not stored the flag yet. -/
  | stopping
  | answered (reply : Reply)
  | timedOut
  | stopped
  | busy

/-- One request: its caller, and the flag and the reply slot it shares with the owner. -/
structure Request where
  command : NativeCommand
  caller : Caller := .waiting
  cancelled : Bool := false
  reply : Option Reply := none

/-- What the request returned to its caller, if it returned. -/
def Request.returned (r : Request) : Option Reply :=
  match r.caller with
  | .waiting | .timingOut | .stopping => none
  | .answered reply => some reply
  | .timedOut => some (r.command.fail timeoutError)
  | .stopped => some (r.command.fail stoppedError)
  | .busy => some (r.command.fail busyError)

/-- What the channel carries; a command is carried under its request. -/
inductive Message
  | command (id : ℕ)
  | shutdown
  deriving DecidableEq

/-- Where the owner thread is in its loop. -/
inductive Position
  | receiving
  /-- It took the command, and has not read its flag yet. -/
  | received (id : ℕ)
  /-- It found the flag clear, and has not carried the command out yet. -/
  | checked (id : ℕ)
  /-- It carried the command out, and has not answered yet. -/
  | executed (id : ℕ) (reply : Reply)
  /-- It is about to make its tick. -/
  | ticking
  | stopped

/-- The request the owner holds. -/
def Position.holding : Position → List ℕ
  | received id | checked id | executed id _ => [id]
  | receiving | ticking | stopped => []

/-- The owner carried the request's command out with success, and has not answered yet. -/
def Position.accepts (position : Position) (id : ℕ) : Bool :=
  match position with
  | executed id' reply => id' = id && reply.isOk
  | receiving | received _ | checked _ | ticking | stopped => false

/-- The owner thread, its channel and the requests.  `committed` is not in the source: it
    records the commands that became part of the intent, in order, with their requests. -/
structure System where
  owner : Owner
  position : Position := .receiving
  queue : List Message := []
  dropped : Bool := false
  requests : List Request := []
  committed : List (ℕ × NativeCommand) := []

/-- The request a message carries. -/
def Message.id? : Message → Option ℕ
  | command id => some id
  | shutdown => none

namespace System

/-- The requests the owner can still carry out or answer. -/
def held (s : System) : List ℕ := s.position.holding ++ s.queue.filterMap Message.id?

/-- Change one request. -/
def update (s : System) (id : ℕ) (f : Request → Request) : System :=
  { s with requests := s.requests.modify id f }

/-- One step of a caller or of the owner thread. -/
inductive Action
  /-- A caller makes a request. -/
  | call (command : NativeCommand)
  /-- The caller takes its reply and returns it. -/
  | takeReply (id : ℕ)
  /-- The wait of the caller times out. -/
  | timeOut (id : ℕ)
  /-- The wait of the caller ends with the sender of its reply gone. -/
  | disconnect (id : ℕ)
  /-- The caller stores the flag and returns its error. -/
  | cancel (id : ℕ)
  /-- The endpoint is dropped. -/
  | drop
  /-- The owner's `recv_timeout` returns after `elapsed`. -/
  | receive (elapsed : ℕ)
  /-- The owner reads the flag. -/
  | check
  /-- The owner carries the command out and commits it. -/
  | execute (env : CommandEnv)
  /-- The owner sends the reply. -/
  | send
  | tick (env : TickEnv)

/-- `call`: the endpoint is gone, the channel is full, or the command is sent. -/
def call (s : System) (command : NativeCommand) : System :=
  if s.dropped then { s with requests := s.requests ++ [{ command, caller := .stopped }] }
  else if commandCapacity ≤ s.queue.length then
    { s with requests := s.requests ++ [{ command, caller := .busy }] }
  else
    { s with
      requests := s.requests ++ [{ command }]
      queue := s.queue ++ [.command s.requests.length] }

/-- `drop`: a shutdown message is sent if the channel has room for it. -/
def drop (s : System) : System :=
  { s with
    dropped := true
    queue := if commandCapacity ≤ s.queue.length then s.queue else s.queue ++ [.shutdown] }

/-- The owner's `recv_timeout`: a command, the end of the channel, or nothing in time. -/
def receive (s : System) (elapsed : ℕ) : System :=
  match s.queue with
  | .command id :: rest =>
    { s with owner := s.owner.wait elapsed, position := .received id, queue := rest }
  -- The receiver goes with the thread, and what is still queued with it.
  | .shutdown :: _ => { s with position := .stopped, queue := [] }
  | [] =>
    if s.dropped then { s with position := .stopped }
    else { s with owner := s.owner.wait elapsed, position := .ticking }

/-- The owner carries out a command and commits it. -/
def execute (s : System) (id : ℕ) (command : NativeCommand) (env : CommandEnv) : System :=
  { s with
    owner := (handle s.owner command env).2
    position := .executed id (handle s.owner command env).1
    committed :=
      if s.owner.commits command env then s.committed ++ [(id, command)] else s.committed }

/-- A step, `none` where it is not possible. -/
def step (s : System) : Action → Option System
  | .call command => some (s.call command)
  | .takeReply id =>
    match s.requests[id]? with
    | some { caller := .waiting, reply := some reply, .. } =>
      some (s.update id ({ · with caller := .answered reply }))
    | _ => none
  | .timeOut id =>
    match s.requests[id]? with
    | some { caller := .waiting, reply := none, .. } =>
      some (s.update id ({ · with caller := .timingOut }))
    | _ => none
  | .disconnect id =>
    match s.requests[id]? with
    | some { caller := .waiting, reply := none, .. } =>
      -- the sender of the reply lives as long as the owner holds the request
      if id ∈ s.held then none else some (s.update id ({ · with caller := .stopping }))
    | _ => none
  | .cancel id =>
    match s.requests[id]? with
    | some { caller := .timingOut, .. } =>
      some (s.update id ({ · with cancelled := true, caller := .timedOut }))
    | some { caller := .stopping, .. } =>
      some (s.update id ({ · with cancelled := true, caller := .stopped }))
    | _ => none
  | .drop => if s.dropped then none else some s.drop
  | .receive elapsed =>
    match s.position with
    | .receiving => some (s.receive elapsed)
    | _ => none
  | .check =>
    match s.position with
    -- a cancelled command is skipped, with its tick
    | .received id => (s.requests[id]?).map fun r =>
      { s with position := if r.cancelled then .receiving else .checked id }
    | _ => none
  | .execute env =>
    match s.position with
    | .checked id => (s.requests[id]?).map fun r => s.execute id r.command env
    | _ => none
  | .send =>
    match s.position with
    | .executed id reply => some ({ s with position := .ticking }.update id
        ({ · with reply := some reply }))
    | _ => none
  | .tick env =>
    match s.position with
    | .ticking => some { s with owner := serviceNative s.owner env, position := .receiving }
    | _ => none

/-- The system when the owner thread starts. -/
def start (clock : ℕ) : System := { owner := .start clock }

end System

/-- A run of the system whose steps meet `C`. -/
def SystemRun (C : System → System.Action → Prop) (clock : ℕ) (as : List System.Action)
    (s : System) : Prop :=
  Lib.Run (fun s a s' => s.step a = some s') C (System.start clock) as s

/-- A computed run, and what a test finds at its end. -/
theorem SystemRun.of_compute {C : System → System.Action → Prop} [∀ s a, Decidable (C s a)]
    (clock : ℕ) (as : List System.Action) (p : System → Bool)
    (h : (as.foldlM (fun s a => if C s a then s.step a else none) (System.start clock)).any p =
      true) : ∃ s, SystemRun C clock as s ∧ p s = true := by
  obtain ⟨s, hs, hp⟩ := (Option.any_eq_true _ _).mp h
  refine ⟨s, Lib.Run.of_foldlM _ (fun s a s' hstep => ?_) hs, hp⟩
  split at hstep
  · rename_i hC
    exact ⟨hC, hstep⟩
  · cases hstep

namespace System

/-- The steps of the system, each with what it needs. -/
inductive Stepped (s : System) : Action → System → Prop
  | call (command : NativeCommand) : Stepped s (.call command) (s.call command)
  | takeReply {id r reply} (found : s.requests[id]? = some r) (waits : r.caller = .waiting)
      (replied : r.reply = some reply) :
      Stepped s (.takeReply id) (s.update id ({ · with caller := .answered reply }))
  | timeOut {id r} (found : s.requests[id]? = some r) (waits : r.caller = .waiting)
      (unanswered : r.reply = none) :
      Stepped s (.timeOut id) (s.update id ({ · with caller := .timingOut }))
  | disconnect {id r} (found : s.requests[id]? = some r) (waits : r.caller = .waiting)
      (unanswered : r.reply = none) (gone : id ∉ s.held) :
      Stepped s (.disconnect id) (s.update id ({ · with caller := .stopping }))
  | timedOut {id r} (found : s.requests[id]? = some r) (gaveUp : r.caller = .timingOut) :
      Stepped s (.cancel id) (s.update id ({ · with cancelled := true, caller := .timedOut }))
  | stopped {id r} (found : s.requests[id]? = some r) (gaveUp : r.caller = .stopping) :
      Stepped s (.cancel id) (s.update id ({ · with cancelled := true, caller := .stopped }))
  | drop : Stepped s .drop s.drop
  | receive (elapsed : ℕ) (idle : s.position = .receiving) :
      Stepped s (.receive elapsed) (s.receive elapsed)
  | skip {id r} (holds : s.position = .received id) (found : s.requests[id]? = some r)
      (cancelled : r.cancelled = true) : Stepped s .check { s with position := .receiving }
  | accept {id r} (holds : s.position = .received id) (found : s.requests[id]? = some r)
      (clear : r.cancelled = false) : Stepped s .check { s with position := .checked id }
  | execute {id r env} (holds : s.position = .checked id) (found : s.requests[id]? = some r) :
      Stepped s (.execute env) (s.execute id r.command env)
  | send {id reply} (holds : s.position = .executed id reply) :
      Stepped s .send
        ({ s with position := .ticking }.update id ({ · with reply := some reply }))
  | tick (env : TickEnv) (ticks : s.position = .ticking) :
      Stepped s (.tick env) { s with owner := serviceNative s.owner env, position := .receiving }

/-- A step is one of these. -/
theorem step_stepped {s s' : System} {a : Action} (h : s.step a = some s') : Stepped s a s' := by
  unfold step at h
  split at h
  · cases h
    exact .call _
  · -- takeReply
    split at h
    · rename_i found
      cases h
      exact .takeReply found rfl rfl
    · cases h
  · -- timeOut
    split at h
    · rename_i found
      cases h
      exact .timeOut found rfl rfl
    · cases h
  · -- disconnect
    split at h
    · rename_i found
      split at h
      · cases h
      · rename_i gone
        cases h
        exact .disconnect found rfl rfl gone
    · cases h
  · -- cancel, after a timeout or a disconnection
    split at h
    · rename_i found
      cases h
      exact .timedOut found rfl
    · rename_i found
      cases h
      exact .stopped found rfl
    · cases h
  · -- drop
    split at h
    · cases h
    · cases h
      exact .drop
  · -- receive
    split at h
    · rename_i idle
      cases h
      exact .receive _ idle
    · cases h
  · -- check: the flag decides
    split at h
    · rename_i id holds
      obtain ⟨r, found, rfl⟩ := Option.map_eq_some_iff.mp h
      cases hflag : r.cancelled with
      | true => exact .skip holds found hflag
      | false => exact .accept holds found hflag
    · cases h
  · split at h
    · rename_i holds
      obtain ⟨r, found, rfl⟩ := Option.map_eq_some_iff.mp h
      exact .execute holds found
    · cases h
  · split at h
    · rename_i holds
      cases h
      exact .send holds
    · cases h
  · split at h
    · rename_i ticks
      cases h
      exact .tick _ ticks
    · cases h

/-! ## The owner of a system run

An iteration of the loop is carried out in several steps of the system, with steps of callers
between them that do not change the owner.
-/

/-- The owner's position within an iteration of the loop that began at `o`. -/
def Within (s : System) (o : Owner) : Prop :=
  match s.position with
  | .receiving => s.owner = o
  | .received _ | .checked _ => ∃ elapsed, s.owner = o.wait elapsed
  | .executed _ _ => ∃ elapsed command env, s.owner = (handle (o.wait elapsed) command env).2
  | .ticking => (∃ elapsed, s.owner = o.wait elapsed) ∨
      ∃ elapsed command env, s.owner = (handle (o.wait elapsed) command env).2
  | .stopped => s.owner = o

/-- A step of the system leaves the owner within its iteration, or ends the iteration. -/
theorem Within.step {s s' : System} {a : Action} {o : Owner} (h : s.Within o)
    (hstep : Stepped s a s') :
    s'.Within o ∨ ∃ it o', iterate o it = some o' ∧ s'.Within o' := by
  cases hstep with
  | call command =>
    refine .inl ?_
    unfold System.call
    split
    · exact h
    · split
      · exact h
      · exact h
  | takeReply _ _ _ => exact .inl h
  | timeOut _ _ _ => exact .inl h
  | disconnect _ _ _ _ => exact .inl h
  | timedOut _ _ => exact .inl h
  | stopped _ _ => exact .inl h
  | drop => exact .inl h
  | receive elapsed idle =>
    -- the wait of the iteration begins; a shutdown ends the loop where it is
    refine .inl ?_
    simp only [Within, idle] at h
    subst h
    unfold System.receive
    split
    · exact ⟨elapsed, rfl⟩
    · rfl
    · split
      · rfl
      · exact .inl ⟨elapsed, rfl⟩
  | skip holds _ _ =>
    -- a cancelled command only waits
    simp only [Within, holds] at h
    obtain ⟨elapsed, howner⟩ := h
    exact .inr ⟨{ elapsed, received := .command .observe true }, _, rfl, howner⟩
  | accept holds _ _ =>
    simp only [Within, holds] at h
    exact .inl h
  | @execute id r env holds _ =>
    simp only [Within, holds] at h
    obtain ⟨elapsed, howner⟩ := h
    exact .inl ⟨elapsed, r.command, env, by rw [← howner]; rfl⟩
  | send holds =>
    simp only [Within, holds] at h
    exact .inl (.inr h)
  | tick env ticks =>
    -- the iteration ends, after a timeout or after a command
    simp only [Within, ticks] at h
    rcases h with ⟨elapsed, howner⟩ | ⟨elapsed, command, cenv, howner⟩
    · exact .inr ⟨{ elapsed, tick := env }, _, rfl, by rw [howner]; rfl⟩
    · exact .inr ⟨{ elapsed, received := .command command false, env := cenv, tick := env }, _, rfl,
        by rw [howner]; rfl⟩

end System

/-- **The system refines the loop.** Where the owner of a system run is between iterations, it
    is the owner of a run of the loop. -/
theorem system_refines_loop {clock : ℕ} {as : List System.Action} {s : System}
    (run : SystemRun Lib.Free clock as s) (hidle : s.position = .receiving) :
    ∃ is, NativeRun Lib.Free clock is s.owner := by
  have hwithin : ∃ is o, NativeRun Lib.Free clock is o ∧ s.Within o := by
    refine Lib.Run.invariant (fun s => ∃ is o, NativeRun Lib.Free clock is o ∧ s.Within o)
      ⟨[], _, .nil, rfl⟩ ?_ run
    rintro s a s' ⟨is, o, hloop, h⟩ - hstep
    rcases h.step (System.step_stepped hstep) with h' | ⟨it, o', hit, h'⟩
    · exact ⟨is, o, hloop, h'⟩
    · exact ⟨is ++ [it], o', .snoc hloop trivial hit, h'⟩
  obtain ⟨is, o, hloop, h⟩ := hwithin
  simp only [System.Within, hidle] at h
  exact ⟨is, h ▸ hloop⟩

end Noire
