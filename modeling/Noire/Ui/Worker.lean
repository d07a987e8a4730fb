import Noire.Control.Service
import Noire.Lib.Discipline
import Noire.Registry.Node

namespace Noire.Ui

/-!
# The worker behind the user interface

The thread that talks to the daemon for a window or the tray: it takes one request at a time,
makes the calls it needs, and sends one response.  What the bus, the daemon and the channels do
is what the operations of its program return.

* `execute`, `serveConnection`, `workerLoop` — the program, after `client.rs`; its loops take
  their number of rounds as `fuel`;
* `answering` — the discipline of an answered request: a completing response goes to the request
  that was received last, once and in time, and nothing is waited for before;
* `workerLoop_obeys` — the worker keeps it;
* `worker_answers` — so every request has its response, in order, and a refresh completes nothing.

The discipline runs beside the program with one piece of state: the request that is owed a
response, and how many operations may still come before it.  So the three promises of a worker
are one obligation at each operation: a wait needs that nothing is owed, a completing response
needs that its request is owed and may have it, and every other operation costs one of what is
left.  `execute` is a bounded number of calls, which is what the budget counts.

The loops are taken by induction on their fuel.  Running out of it is allowed, since a worker
that goes on for longer is one with more fuel; what is proved is that no round leaves a request
behind.  The state of the discipline after a run is then computed from what was received and what
was completed, and `worker_answers` reads it off.
-/

open Lib (Prog Discipline)

/-! ## Messages

`worker.rs`: what the window and the tray ask for, and what the worker responds.
-/

/-- `Request`. -/
inductive Request
  | refresh
  | setActive (active : Bool)
  | setStartWithNoiseReduction (enabled : Bool)
  | selectInput (stableId : String)
  | setSuppressionEnabled (enabled : Bool)
  | setStrength (strength : F64)
  | setLatencyProfile (profile : String)
  | setFailMode (mode : String)
  | retry
  | diagnostics
  | shutdown
  deriving DecidableEq

/-- `UserError`. -/
structure UserError where
  code : String
  cause : String
  recovery : String
  retryable : Bool
  deriving DecidableEq

/-- `Response`. -/
inductive Response
  | state (snapshot : Snapshot) (inputs : List InputDescriptor)
    (startWithNoiseReduction refresh requestComplete : Bool)
  | rejected (error : UserError) (recovered : Option (Snapshot × List InputDescriptor))
    (requestComplete : Bool)
  | diagnostics (report : DiagnosticReport)
  | meters (metrics : Metrics)

/-- `communication_error`. -/
def communicationError (code cause recovery : String) : UserError := ⟨code, cause, recovery, true⟩

/-- `daemon_unavailable`. -/
def daemonUnavailable : UserError :=
  communicationError "daemon-unavailable" "The Noire background service is unavailable."
    "Start or restart the Noire user service, then retry."

/-- `rejected`. -/
def rejected (error : UserError) (requestComplete : Bool) : Response :=
  .rejected error none requestComplete

/-- `mutation_error_copy`, and `mutation_error` on the text of an error. -/
def mutationErrorCopy (technical : String) : UserError :=
  if containsStr technical ".Conflict" then
    ⟨"conflict", "Another control changed Noire first.",
      "Current daemon settings were restored; retry your change.", true⟩
  else if containsStr technical ".InvalidArgument" then
    ⟨"invalid-argument", "That setting was not valid.",
      "Correct the value and retry; current daemon settings were restored.", false⟩
  else if containsStr technical ".RollbackFailed" then
    ⟨"config-rollback-failed",
      "Noire could not restore the previous audio state after saving the setting failed.",
      "Restart Noire, then check configuration permissions and free storage.", false⟩
  else if containsStr technical ".Persistence" then
    ⟨"config-persistence", "Noire could not save the setting.",
      "Check configuration storage, permissions, and free space, then retry.", true⟩
  else if containsStr technical ".LaunchManager" then
    ⟨"launch-manager-unavailable",
      "The user service manager could not change launch-at-login.",
      "Check the user systemd session, then retry.", true⟩
  else if containsStr technical ".Busy" then
    ⟨"audio-command-busy", "The audio engine is busy.", "Wait briefly, then retry.", true⟩
  else if containsStr technical ".Unavailable" then
    ⟨"audio-unavailable", "Audio processing is unavailable.",
      "Check the microphone and PipeWire session, then retry.", true⟩
  else
    ⟨"daemon-request-failed", "Noire could not apply that change.",
      "Current daemon settings were restored; restart Noire if it happens again.", false⟩

/-- `with_completion`. -/
def withCompletion (response : Response) (requestComplete : Bool) : Response :=
  match response with
  | .state snapshot inputs start refresh _ => .state snapshot inputs start refresh requestComplete
  | .rejected error recovered _ => .rejected error recovered requestComplete
  | other => other

/-- A rejection with nothing recovered: the daemon is gone. -/
def Response.disconnected : Response → Bool
  | .rejected _ none _ => true
  | _ => false

/-! ## Operations

A program is a tree of operations, and each operation says what it may return.  Nothing is assumed
about the answers: the bus may fail at any stage, and a channel may be closed at any response.
-/

/-- A method of the daemon that changes it, at the revision that was read. -/
inductive Mutation
  | start (revision : ℕ)
  | stop (revision : ℕ)
  | setStartWithNoiseReduction (enabled : Bool) (revision : ℕ)
  | selectInput (stableId : String) (revision : ℕ)
  | setSuppressionEnabled (enabled : Bool) (revision : ℕ)
  | setStrength (strength : F64) (revision : ℕ)
  | setLatencyProfile (profile : String) (revision : ℕ)
  | setFailMode (mode : String) (revision : ℕ)
  | retry (revision : ℕ)

/-- The method that a request calls; three requests call none. -/
def Request.mutation (revision : ℕ) : Request → Option Mutation
  | .setActive true => some (.start revision)
  | .setActive false => some (.stop revision)
  | .setStartWithNoiseReduction enabled => some (.setStartWithNoiseReduction enabled revision)
  | .selectInput stableId => some (.selectInput stableId revision)
  | .setSuppressionEnabled enabled => some (.setSuppressionEnabled enabled revision)
  | .setStrength strength => some (.setStrength strength revision)
  | .setLatencyProfile profile => some (.setLatencyProfile profile revision)
  | .setFailMode mode => some (.setFailMode mode revision)
  | .retry => some (.retry revision)
  | .refresh | .diagnostics | .shutdown => none

/-- What is set up on a connection before it is used. -/
inductive Stage
  | proxy
  | receiveStateChanged
  | receiveDevicesChanged
  | receiveMetersChanged
  | receiveOwnerChanged
  | subscribeMeters

/-- What ends the wait for a reconnection. -/
inductive Wakeup
  | request (request : Option Request)
  | elapsed

/-- What the `select` of a served connection finds: a request, or what a stream of signals yields.
    The meters are looked at only with a subscription; one whose arguments cannot be read has
    none. -/
inductive Selected
  | request (request : Option Request)
  | stateChanged (signal : Bool)
  | devicesChanged (signal : Bool)
  | metersChanged (signal : Option (Option Metrics))
  | ownerChanged (owner : Option (Option String))

/-- The operations of the worker. -/
inductive WorkerOp
  | recv
  | sleep (millis : ℕ)
  | session
  | establish (stage : Stage)
  | select (meters : Bool)
  | getSnapshot
  | mutate (mutation : Mutation)
  | listInputs
  | getStartWithNoiseReduction
  | diagnostics
  | unsubscribeMeters
  | send (response : Response)
  | trySend (response : Response)

/-- What they return; a call that fails returns nothing, or its error's text where that is read. -/
def WorkerOp.Res : WorkerOp → Type
  | .recv => Option Request
  | .sleep _ => Wakeup
  | .session | .establish _ => Bool
  | .select _ => Selected
  | .getSnapshot | .mutate _ => Except String Snapshot
  | .listInputs => Option (List InputDescriptor)
  | .getStartWithNoiseReduction => Option Bool
  | .diagnostics => Option DiagnosticReport
  | .unsubscribeMeters => Unit
  -- Whether somebody still listens; `trySend` drops a response that finds the channel full.
  | .send _ | .trySend _ => Bool

/-- A program of the worker. -/
abbrev WorkerProg := Prog WorkerOp.Res

/-- One operation. -/
def perform (o : WorkerOp) : WorkerProg o.Res := Prog.call o

/-! ## The program

The worker as a program over its channels and its connection, in the order of the source.
-/

/-- `recover`. -/
def recover : WorkerProg (Option (Snapshot × List InputDescriptor)) := do
  let read : Except String Snapshot ← perform .getSnapshot
  match read with
  | .error _ => return none
  | .ok snapshot =>
    let listed : Option (List InputDescriptor) ← perform .listInputs
    return listed.map fun inputs => (snapshot, inputs)

/-- The end of `execute`, on the result of the request. -/
def conclude (isRefresh : Bool) (result : Except String Snapshot) : WorkerProg Response := do
  match result with
  | .ok snapshot =>
    let listed : Option (List InputDescriptor) ← perform .listInputs
    match listed with
    | some inputs =>
      let start : Option Bool ← perform .getStartWithNoiseReduction
      return .state snapshot inputs (start.getD false) isRefresh false
    | none =>
      return .rejected (communicationError "daemon-state-incomplete"
        "Noire could not load all daemon settings."
        "Restart the Noire controller and background service, then retry.")
        (some (snapshot, [])) false
  | .error technical =>
    let recovered ← recover
    return .rejected
      (if isRefresh && recovered.isNone then daemonUnavailable else mutationErrorCopy technical)
      recovered false

/-- The middle of `execute`, for a request that changes the daemon. -/
def mutate (mutation : Request) : WorkerProg Response := do
  let read : Except String Snapshot ← perform .getSnapshot
  match read with
  | .error _ =>
    return rejected (communicationError "daemon-state-unavailable"
      "Noire could not read current daemon state."
      "Start or restart the Noire user service, then retry.") false
  | .ok snapshot =>
    match mutation.mutation snapshot.revision with
    | some method =>
      let result : Except String Snapshot ← perform (.mutate method)
      conclude false result
    | none =>
      return rejected ⟨"ui-invalid-request", "Noire created an invalid internal request.",
        "Restart Noire; report the problem if it happens again.", false⟩ false

/-- `execute`. -/
def execute (request : Request) : WorkerProg Response := do
  match request with
  | .diagnostics =>
    let read : Option DiagnosticReport ← perform .diagnostics
    match read with
    | some report => return .diagnostics report
    | none =>
      let recovered ← recover
      return .rejected (communicationError "diagnostics-unavailable"
        "Noire could not read the diagnostic report."
        "Retry; restart the Noire user service if the problem persists.") recovered false
  | .refresh =>
    let read : Except String Snapshot ← perform .getSnapshot
    conclude true read
  | mutation => mutate mutation

/-- `refresh`. -/
def refresh : WorkerProg Response := do
  return withCompletion (← execute .refresh) false

/-- Send a response; whether somebody still listens. -/
def send (response : Response) : WorkerProg Bool := perform (.send response)

/-- Set up a connection, one stage after the other; the first that fails ends it. -/
def establish : List Stage → WorkerProg Bool
  | [] => return true
  | stage :: stages => do
    let ok : Bool ← perform (.establish stage)
    if ok then establish stages else return false

/-- The stages of a connection. -/
def stages (subscribeToMeters : Bool) : List Stage :=
  [.proxy, .receiveStateChanged, .receiveDevicesChanged, .receiveMetersChanged,
    .receiveOwnerChanged] ++ if subscribeToMeters then [.subscribeMeters] else []

/-- The end of a served connection, on request or with the channel. -/
def unsubscribe (subscribeToMeters : Bool) : WorkerProg Unit :=
  if subscribeToMeters then perform .unsubscribeMeters else return ()

/-- The loop of `serve_connection`: whether the worker returns. -/
def serve (subscribeToMeters : Bool) : ℕ → WorkerProg Bool
  | 0 => .stuck
  | fuel + 1 => do
    let selected : Selected ← perform (.select subscribeToMeters)
    match selected with
    | .request none | .request (some .shutdown) =>
      unsubscribe subscribeToMeters
      return true
    | .request (some request) =>
      let response ← execute request
      if !(← send (withCompletion response true)) then return true
      else if response.disconnected then return false
      else serve subscribeToMeters fuel
    | .stateChanged signal | .devicesChanged signal =>
      if !signal then return false
      else if !(← send (← refresh)) then return true
      else serve subscribeToMeters fuel
    | .metersChanged none => return false
    | .metersChanged (some none) => serve subscribeToMeters fuel
    | .metersChanged (some (some metrics)) =>
      let listening : Bool ← perform (.trySend (.meters metrics))
      if !listening then return true else serve subscribeToMeters fuel
    | .ownerChanged (some (some _)) =>
      if !(← send (← refresh)) then return true else serve subscribeToMeters fuel
    | .ownerChanged _ =>
      let _ ← send (rejected daemonUnavailable false)
      return false

/-- `serve_connection`: whether the worker returns, and whether the connection was used. -/
def serveConnection (subscribeToMeters : Bool) (fuel : ℕ) (request : Request)
    (requestComplete : Bool) : WorkerProg (Bool × Bool) := do
  if !(← establish (stages subscribeToMeters)) then
    let _ ← send (rejected daemonUnavailable requestComplete)
    return (false, false)
  else
    let response ← execute request
    if !(← send (withCompletion response requestComplete)) then return (true, false)
    else if response.disconnected then return (false, false)
    else return (← serve subscribeToMeters fuel, true)

/-- `INITIAL_RECONNECT_BACKOFF`, in milliseconds. -/
def initialReconnectBackoff : ℕ := 250

/-- `MAX_RECONNECT_BACKOFF`, in milliseconds. -/
def maxReconnectBackoff : ℕ := 4000

/-- `next_backoff`. -/
def nextBackoff (current : ℕ) : ℕ := min (2 * current) maxReconnectBackoff

/-- `next_reconnect`. -/
def nextReconnect (delay : ℕ) : WorkerProg (Option (Request × Bool)) := do
  let wakeup : Wakeup ← perform (.sleep delay)
  match wakeup with
  | .request request => return request.map fun request => (request, true)
  | .elapsed => return some (.refresh, false)

/-- A round of `worker_loop` up to its wait: whether the worker returns, and whether a connection
    was used. -/
def connect (subscribeToMeters : Bool) (fuel : ℕ) (request : Request) (requestComplete : Bool) :
    WorkerProg (Bool × Bool) := do
  let connected : Bool ← perform .session
  if connected then serveConnection subscribeToMeters fuel request requestComplete
  else
    let listening ← send (rejected (communicationError "session-bus-unavailable"
      "The desktop session bus is unavailable." "Log in again, then retry.") requestComplete)
    return (!listening, false)

/-- The loop of `worker_loop`. -/
def connectLoop (subscribeToMeters : Bool) (fuel : ℕ) (request : Request) (requestComplete : Bool)
    (backoff : ℕ) : WorkerProg Unit := do
  if request = .shutdown then return ()
  else
    let (returns, established) ← connect subscribeToMeters fuel request requestComplete
    if returns then return ()
    else
      let backoff := if established then initialReconnectBackoff else backoff
      -- The fuel is for the waits: no request is left behind for the lack of it.
      match fuel with
      | 0 => .stuck
      | fuel + 1 =>
        match ← nextReconnect backoff with
        | none => return ()
        | some (request, requestComplete) =>
          connectLoop subscribeToMeters fuel request requestComplete (nextBackoff backoff)

/-- `worker_loop`. -/
def workerLoop (subscribeToMeters : Bool) (fuel : ℕ) : WorkerProg Unit := do
  let received : Option Request ← perform .recv
  match received with
  | none => return ()
  | some request => connectLoop subscribeToMeters fuel request true initialReconnectBackoff

/-! ## The discipline of an answered request

`Owed` is the state: no request, or one with what is left of its budget.  The rules for an
operation are stated once for each kind of operation, and the proofs about the program use these
and never unfold the discipline.
-/

/-- The response completes a request. -/
def Response.completing : Response → Bool
  | .state _ _ _ _ requestComplete => requestComplete
  | .rejected _ _ requestComplete => requestComplete
  | .diagnostics _ => true
  | .meters _ => false

/-- The response is one that the request may have. -/
def Request.Suits (request : Request) : Response → Prop
  | .state _ _ _ isRefresh _ => request ≠ .diagnostics ∧ (isRefresh = true ↔ request = .refresh)
  | .rejected .. => True
  | .diagnostics _ => request = .diagnostics
  | .meters _ => False

/-- The request among what an operation returns; a shutdown wants no response. -/
def WorkerOp.receipt : (o : WorkerOp) → o.Res → Option Request
  | .recv, (request : Option Request) => request.filter (· ≠ .shutdown)
  | .sleep _, (.request request : Wakeup) => request.filter (· ≠ .shutdown)
  | .select _, (.request request : Selected) => request.filter (· ≠ .shutdown)
  | _, _ => none

/-- The operations that wait for a request, or for anything else to happen. -/
def WorkerOp.waits : WorkerOp → Bool
  | .recv | .sleep _ | .select _ => true
  | _ => false

/-- The completing response that an operation sends. -/
def WorkerOp.completion : WorkerOp → Option Response
  | .send response | .trySend response => if response.completing then some response else none
  | _ => none

/-- The most operations that come between a request and its response. -/
def answerBudget : ℕ := 11

/-- An owed response, with the operations that are left until it. -/
abbrev Owed := Option (Request × ℕ)

/-- Nothing is waited for while a response is owed; a completing response is one that the owed
    request may have; and the operations before it are counted. -/
def answering : Discipline WorkerOp.Res Owed where
  allowed o owed :=
    match o.waits, o.completion with
    | true, _ => owed = none
    | false, some response => ∃ request left, owed = some (request, left) ∧ request.Suits response
    | false, none => ∀ request left, owed = some (request, left) → 0 < left
  possible _ _ _ := True
  next o r owed :=
    match o.receipt r with
    | some request => some (request, answerBudget)
    | none =>
      if o.completion.isSome then none
      else owed.map fun (request, left) => (request, left - 1)
  idle owed := owed = none

section Answering

variable {o : WorkerOp} {owed : Owed} {response : Response}

/-- What is waited for is no completing response. -/
theorem WorkerOp.completion_of_waits (h : o.waits = true) : o.completion = none := by
  cases o <;> first | rfl | cases h

/-- What is not waited for is no request. -/
theorem WorkerOp.receipt_of_not_waits (h : o.waits = false) (r : o.Res) : o.receipt r = none := by
  cases o <;> first | rfl | cases h

theorem WorkerOp.waits_of_completion (h : o.completion = some response) : o.waits = false := by
  cases o <;> first | rfl | cases h

theorem allowed_waiting (h : o.waits = true) : answering.allowed o owed ↔ owed = none := by
  show (match o.waits, o.completion with | true, _ => _ | false, some _ => _ | false, none => _) ↔ _
  rw [h]

theorem allowed_completing (h : o.completion = some response) : answering.allowed o owed ↔
    ∃ request left, owed = some (request, left) ∧ request.Suits response := by
  show (match o.waits, o.completion with | true, _ => _ | false, some _ => _ | false, none => _) ↔ _
  rw [o.waits_of_completion h, h]

theorem allowed_quiet (h : o.waits = false) (hquiet : o.completion = none) :
    answering.allowed o owed ↔ ∀ request left, owed = some (request, left) → 0 < left := by
  show (match o.waits, o.completion with | true, _ => _ | false, some _ => _ | false, none => _) ↔ _
  rw [h, hquiet]

theorem next_waiting (h : o.waits = true) (r : o.Res) :
    answering.next o r none = (o.receipt r).map (·, answerBudget) := by
  show (match o.receipt r with | some _ => _ | none => if o.completion.isSome then _ else _) = _
  rw [o.completion_of_waits h]
  cases o.receipt r <;> rfl

theorem next_completing (h : o.completion = some response) (r : o.Res) :
    answering.next o r owed = none := by
  show (match o.receipt r with | some _ => _ | none => if o.completion.isSome then _ else _) = _
  rw [o.receipt_of_not_waits (o.waits_of_completion h), h]
  rfl

theorem next_quiet (h : o.waits = false) (hquiet : o.completion = none) (r : o.Res) :
    answering.next o r owed = owed.map fun (request, left) => (request, left - 1) := by
  show (match o.receipt r with | some _ => _ | none => if o.completion.isSome then _ else _) = _
  rw [o.receipt_of_not_waits h, hquiet]
  rfl

end Answering

/-- A response to this request is owed, or none is, with so many operations left at least. -/
structure Left (left : ℕ) (request : Option Request) (owed : Owed) : Prop where
  request : owed.map Prod.fst = request
  left : ∀ request' left', owed = some (request', left') → left ≤ left'

theorem Left.none (left : ℕ) : Left left none none := ⟨rfl, nofun⟩

theorem Left.asked (request : Request) (left : ℕ) :
    Left left (some request) (some (request, left)) :=
  ⟨rfl, fun _ _ heq => by cases heq; exact Nat.le_refl left⟩

theorem Left.eq_none {left : ℕ} {owed : Owed} (h : Left left .none owed) : owed = .none :=
  Option.map_eq_none_iff.mp h.request

theorem Left.eq_some {left : ℕ} {request : Request} {owed : Owed}
    (h : Left left (some request) owed) :
    ∃ left', owed = some (request, left') ∧ left ≤ left' := by
  obtain ⟨⟨request', left'⟩, howed, rfl⟩ := Option.map_eq_some_iff.mp h.request
  exact ⟨left', howed, h.left _ _ howed⟩

theorem Left.mono {left left' : ℕ} {request : Option Request} {owed : Owed}
    (h : Left left request owed) (hle : left' ≤ left) : Left left' request owed :=
  ⟨h.request, fun request' left'' howed => Nat.le_trans hle (h.left request' left'' howed)⟩

/-! ## The program keeps it

One lemma for each function of the program, from the calls up to the loop.  The postcondition `Q`
is left to the caller, so that a function is proved once for both of its uses: inside a served
connection, and as the first request of a new one.
-/

section Rules

variable {α : Type} {Q : α → Owed → Prop} {owed : Owed} {request : Option Request} {left : ℕ}

/-- An operation that neither waits nor completes takes one of those that are left. -/
theorem obeys_quiet {o : WorkerOp} {f : o.Res → WorkerProg α} (hwaits : o.waits = false)
    (hquiet : o.completion = none) (howed : Left (left + 1) request owed)
    (h : ∀ r owed', Left left request owed' → (f r).Obeys answering Q owed') :
    (perform o >>= f).Obeys answering Q owed := by
  refine .call ((allowed_quiet hwaits hquiet).mpr fun request' left' heq => ?_) fun r _ => ?_
  · exact Nat.lt_of_lt_of_le (Nat.succ_pos left) (howed.left _ _ heq)
  · rw [next_quiet hwaits hquiet]
    refine h r _ ⟨?_, fun request' left' heq => ?_⟩
    · rw [← howed.request]
      cases owed <;> rfl
    · cases owed with
      | none => cases heq
      | some entry =>
        have hleft := howed.left entry.1 entry.2 rfl
        cases heq
        omega

/-- A response to what is owed, or to nothing, settles it. -/
theorem obeys_send {asked : Request} {complete : Bool} {response : Response}
    {f : Bool → WorkerProg α} (howed : Left left (if complete then some asked else none) owed)
    (hrefresh : complete = false → asked = .refresh) (hsuits : asked.Suits response)
    (h : ∀ r, (f r).Obeys answering Q none) :
    (send (withCompletion response complete) >>= f).Obeys answering Q owed := by
  cases complete with
  -- The response completes the request, whichever it is.
  | true =>
    obtain ⟨left', rfl, -⟩ := howed.eq_some
    have hcompletion : (WorkerOp.send (withCompletion response true)).completion =
        some (withCompletion response true) := by
      cases response with
      | meters metrics => cases hsuits
      | _ => rfl
    have hsuits' : asked.Suits (withCompletion response true) := by
      cases response <;> exact hsuits
    refine .call ((allowed_completing hcompletion).mpr ⟨asked, left', rfl, hsuits'⟩) fun r _ => ?_
    rw [next_completing hcompletion]
    exact h r
  -- A refresh of its own completes none.
  | false =>
    obtain rfl := howed.eq_none
    obtain rfl := hrefresh rfl
    have hcompletion : (WorkerOp.send (withCompletion response false)).completion = none := by
      cases response with
      | diagnostics report => cases hsuits
      | _ => rfl
    refine .call ((allowed_quiet rfl hcompletion).mpr nofun) fun r _ => ?_
    rw [next_quiet rfl hcompletion]
    exact h r

/-- What is waited for is waited for while nothing is owed. -/
theorem obeys_wait {o : WorkerOp} {f : o.Res → WorkerProg α} (hwaits : o.waits = true)
    (h : ∀ r, (f r).Obeys answering Q ((o.receipt r).map (·, answerBudget))) :
    (perform o >>= f).Obeys answering Q none := by
  refine .call ((allowed_waiting hwaits).mpr rfl) fun r _ => ?_
  rw [next_waiting hwaits]
  exact h r

end Rules

/-- Any request may be rejected. -/
theorem suits_rejected (request : Request) (error : UserError)
    (recovered : Option (Snapshot × List InputDescriptor)) (requestComplete : Bool) :
    request.Suits (.rejected error recovered requestComplete) := trivial

/-- `recover` takes two operations at most. -/
theorem recover_obeys {owed : Owed} {request : Option Request} {left : ℕ}
    (h : Left (left + 2) request owed) :
    recover.Obeys answering (fun _ owed => Left left request owed) owed := by
  refine obeys_quiet rfl rfl h fun read owed' h' => ?_
  cases read with
  | error technical => exact h'.mono (Nat.le_succ left)
  | ok snapshot => exact obeys_quiet rfl rfl h' fun listed owed'' h'' => h''

/-- The end of `execute` does, too, and its response suits the requests that it is the end of. -/
theorem conclude_obeys {owed : Owed} {request : Option Request} {left : ℕ} {asked : Request}
    {isRefresh : Bool} (hrefresh : isRefresh = true ↔ asked = .refresh)
    (hdiagnostics : asked ≠ .diagnostics) (result : Except String Snapshot)
    (h : Left (left + 2) request owed) :
    (conclude isRefresh result).Obeys answering
      (fun response owed => Left left request owed ∧ asked.Suits response) owed := by
  cases result with
  | ok snapshot =>
    refine obeys_quiet rfl rfl h fun listed owed' h' => ?_
    cases listed with
    | some inputs =>
      exact obeys_quiet rfl rfl h' fun start owed'' h'' => ⟨h'', hdiagnostics, hrefresh⟩
    | none => exact ⟨h'.mono (Nat.le_succ left), suits_rejected ..⟩
  | error technical =>
    exact .bind ((recover_obeys h).mono fun recovered owed' h' => ⟨h', suits_rejected ..⟩)

/-- A request that changes the daemon takes four. -/
theorem mutate_obeys {owed : Owed} {request : Option Request} {left : ℕ} {mutation : Request}
    (hrefresh : mutation ≠ .refresh) (hdiagnostics : mutation ≠ .diagnostics)
    (h : Left (left + 4) request owed) :
    (mutate mutation).Obeys answering
      (fun response owed => Left left request owed ∧ mutation.Suits response) owed := by
  refine obeys_quiet rfl rfl h fun read owed' h' => ?_
  cases read with
  | error technical => exact ⟨h'.mono (by omega), suits_rejected ..⟩
  | ok snapshot =>
    dsimp only
    split
    · exact obeys_quiet rfl rfl h' fun result owed'' h'' =>
        conclude_obeys (by simpa using hrefresh) hdiagnostics result h''
    · exact ⟨h'.mono (by omega), suits_rejected ..⟩

/-- The requests that `execute` hands on. -/
theorem execute_mutation {request : Request} (hrefresh : request ≠ .refresh)
    (hdiagnostics : request ≠ .diagnostics) : execute request = mutate request := by
  cases request <;> first | rfl | exact absurd rfl hrefresh | exact absurd rfl hdiagnostics

/-- `execute` takes four operations at most, and its response suits the request. -/
theorem execute_obeys {owed : Owed} {request : Option Request} {left : ℕ} (asked : Request)
    (h : Left (left + 4) request owed) :
    (execute asked).Obeys answering
      (fun response owed => Left left request owed ∧ asked.Suits response) owed := by
  by_cases hdiagnostics : asked = .diagnostics
  · subst hdiagnostics
    refine obeys_quiet rfl rfl (h.mono (by omega : left + 3 ≤ left + 4)) fun read owed' h' => ?_
    cases read with
    | some report => exact ⟨h'.mono (by omega), (rfl : Request.diagnostics = .diagnostics)⟩
    | none =>
      exact .bind ((recover_obeys h').mono fun recovered owed'' h'' => ⟨h'', suits_rejected ..⟩)
  by_cases hrefresh : asked = .refresh
  · subst hrefresh
    refine obeys_quiet rfl rfl (h.mono (by omega : left + 3 ≤ left + 4)) fun read owed' h' => ?_
    exact conclude_obeys (by simp) hdiagnostics read h'
  · rw [execute_mutation hrefresh hdiagnostics]
    exact mutate_obeys hrefresh hdiagnostics h

/-- Setting up takes an operation a stage. -/
theorem establish_obeys (stages : List Stage) {owed : Owed} {request : Option Request} {left : ℕ}
    (h : Left (left + stages.length) request owed) :
    (establish stages).Obeys answering (fun _ owed => Left left request owed) owed := by
  induction stages generalizing owed with
  | nil => exact h
  | cons stage stages ih =>
    refine obeys_quiet rfl rfl h fun ok owed' h' => ?_
    cases ok with
    | true => exact ih h'
    | false => exact h'.mono (Nat.le_add_right left stages.length)

/-- Nothing is owed while the subscription ends. -/
theorem unsubscribe_obeys (subscribeToMeters : Bool) {left : ℕ} {owed : Owed}
    (h : Left (left + 1) none owed) :
    (unsubscribe subscribeToMeters).Obeys answering (fun _ owed => Left left none owed) owed := by
  cases subscribeToMeters with
  | true => exact obeys_quiet rfl rfl h fun _ _ h' => h'
  | false => exact h.mono (Nat.le_succ left)

section Serving

variable {α : Type} {Q : α → Owed → Prop}

/-- A request is executed, and its response sent. -/
theorem obeys_answer {asked : Request} {complete : Bool} {left : ℕ} {owed : Owed}
    {f : Response → Bool → WorkerProg α}
    (howed : Left (left + 4) (if complete then some asked else none) owed)
    (hrefresh : complete = false → asked = .refresh)
    (h : ∀ response r, (f response r).Obeys answering Q none) :
    (execute asked >>= fun response =>
      send (withCompletion response complete) >>= f response).Obeys answering Q owed :=
  .bind ((execute_obeys asked howed).mono fun response _ ⟨hleft, hsuits⟩ =>
    obeys_send hleft hrefresh hsuits (h response))

/-- A refresh of the worker's own completes nothing. -/
theorem obeys_refresh {f : Bool → WorkerProg α} (h : ∀ r, (f r).Obeys answering Q none) :
    (refresh >>= fun response => send response >>= f).Obeys answering Q none :=
  have hexecute := execute_obeys .refresh (Left.none 4)
  .bind (.bind (hexecute.mono fun _ owed ⟨hleft, hsuits⟩ =>
    have howed : Left 0 (if false = true then some Request.refresh else none) owed := hleft
    obeys_send howed (fun _ => rfl) hsuits h))

/-- That the daemon is gone answers whatever is owed. -/
theorem obeys_rejected {asked : Request} {complete : Bool} {left : ℕ} {owed : Owed}
    {error : UserError} {f : Bool → WorkerProg α}
    (howed : Left left (if complete then some asked else none) owed)
    (hrefresh : complete = false → asked = .refresh) (h : ∀ r, (f r).Obeys answering Q none) :
    (send (rejected error complete) >>= f).Obeys answering Q owed :=
  have hsuits : asked.Suits (rejected error complete) := suits_rejected ..
  obeys_send howed hrefresh hsuits h

end Serving

/-- A served connection owes nothing when it is left. -/
theorem serve_obeys (subscribeToMeters : Bool) (fuel : ℕ) :
    (serve subscribeToMeters fuel).Obeys answering (fun _ owed => owed = none) none := by
  induction fuel with
  | zero => rfl
  | succ fuel ih =>
    refine obeys_wait rfl fun selected => ?_
    -- What a signal leads to, and what goes on after a response.
    have hgo : ∀ r : Bool, ((if !r then pure true else serve subscribeToMeters fuel) :
        WorkerProg Bool).Obeys answering (fun _ owed => owed = none) none := fun _ =>
      .ite (fun _ => rfl) fun _ => ih
    have hrefresh : (refresh >>= fun response => send response >>= fun r =>
        if !r then pure true else serve subscribeToMeters fuel).Obeys answering
          (fun _ owed => owed = none) none := obeys_refresh hgo
    have hsignal : ∀ signal : Bool, ((if !signal then pure false else
        refresh >>= fun response => send response >>= fun r =>
          if !r then pure true else serve subscribeToMeters fuel) :
        WorkerProg Bool).Obeys answering (fun _ owed => owed = none) none := fun _ =>
      .ite (fun _ => rfl) fun _ => hrefresh
    have hanswer : ∀ request : Request, (execute request >>= fun response =>
        send (withCompletion response true) >>= fun r =>
          if !r then pure true else if response.disconnected then pure false
          else serve subscribeToMeters fuel).Obeys answering (fun _ owed => owed = none)
            (some (request, answerBudget)) := fun request =>
      obeys_answer ((Left.asked request answerBudget).mono (by decide : 0 + 4 ≤ answerBudget)) nofun
        fun response r => .ite (fun _ => rfl) fun _ => .ite (fun _ => rfl) fun _ => ih
    -- Each branch of the select is one of these.
    cases selected with
    | stateChanged signal => exact hsignal signal
    | devicesChanged signal => exact hsignal signal
    | metersChanged signal =>
      match signal with
      | none => rfl
      | some none => exact ih
      | some (some metrics) =>
        exact obeys_quiet rfl rfl (Left.none 1) fun r owed' h' => by
          rw [h'.eq_none]
          exact hgo r
    | ownerChanged owner =>
      match owner with
      | some (some _) => exact hrefresh
      | none | some none =>
        have howed : Left 0 (if false = true then some Request.refresh else none) none :=
          Left.none 0
        exact obeys_rejected howed (fun _ => rfl) fun _ => rfl
    | request request =>
      match request with
      | none | some .shutdown =>
        exact .bind ((unsubscribe_obeys subscribeToMeters (Left.none 1)).mono
          fun _ _ h' => h'.eq_none)
      | some .refresh | some (.setActive _) | some (.setStartWithNoiseReduction _)
      | some (.selectInput _) | some (.setSuppressionEnabled _) | some (.setStrength _)
      | some (.setLatencyProfile _) | some (.setFailMode _) | some .retry | some .diagnostics =>
        exact hanswer _

/-- A connection answers the request that it was made for, however it fails. -/
theorem serveConnection_obeys (subscribeToMeters : Bool) (fuel : ℕ) {request : Request}
    {requestComplete : Bool} {owed : Owed}
    (howed : Left 10 (if requestComplete then some request else none) owed)
    (hrefresh : requestComplete = false → request = .refresh) :
    (serveConnection subscribeToMeters fuel request requestComplete).Obeys answering
      (fun _ owed => owed = none) owed := by
  have hstages : 4 + (stages subscribeToMeters).length ≤ 10 := by
    cases subscribeToMeters <;> decide
  refine .bind ((establish_obeys _ (howed.mono hstages)).mono fun established owed' h' => ?_)
  cases established with
  | false => exact obeys_rejected h' hrefresh fun _ => rfl
  | true =>
    refine obeys_answer (show Left (0 + 4) _ _ from h') hrefresh fun response r => ?_
    refine .ite (fun _ => rfl) fun _ => .ite (fun _ => rfl) fun _ => ?_
    exact .bind ((serve_obeys subscribeToMeters fuel).mono fun _ _ h => h)

/-- So does a session bus that is not there. -/
theorem connect_obeys (subscribeToMeters : Bool) (fuel : ℕ) {request : Request}
    {requestComplete : Bool} {owed : Owed}
    (howed : Left answerBudget (if requestComplete then some request else none) owed)
    (hrefresh : requestComplete = false → request = .refresh) :
    (connect subscribeToMeters fuel request requestComplete).Obeys answering
      (fun _ owed => owed = none) owed := by
  refine obeys_quiet rfl rfl howed fun connected owed' h' => ?_
  cases connected with
  | true => exact serveConnection_obeys subscribeToMeters fuel h' hrefresh
  | false => exact obeys_rejected h' hrefresh fun _ => rfl

/-- A request to connect for, with what is owed for it; a shutdown is owed nothing. -/
structure Awaiting (request : Request) (requestComplete : Bool) (owed : Owed) : Prop where
  shutdown : request = .shutdown → owed = none
  owed : request ≠ .shutdown →
    Left answerBudget (if requestComplete then some request else none) owed
  refresh : requestComplete = false → request = .refresh

/-- What is received is owed a response. -/
theorem Awaiting.received (request : Request) :
    Awaiting request true (((some request).filter (· ≠ .shutdown)).map (·, answerBudget)) where
  shutdown hrequest := by simp [Option.filter, hrequest]
  owed hrequest := by
    have hreceived : (some request).filter (· ≠ .shutdown) = some request := by
      simp [Option.filter, hrequest]
    rw [hreceived]
    exact Left.asked request answerBudget
  refresh := nofun

/-- The wait for a reconnection ends with a request, or with a refresh that nobody asked for. -/
theorem nextReconnect_obeys (delay : ℕ) :
    (nextReconnect delay).Obeys answering
      (fun next owed => match next with
        | none => owed = none
        | some (request, requestComplete) => Awaiting request requestComplete owed) none := by
  refine obeys_wait rfl fun wakeup => ?_
  cases wakeup with
  | request request =>
    cases request with
    | none => rfl
    | some request => exact Awaiting.received request
  | elapsed => exact ⟨nofun, fun _ => Left.none answerBudget, fun _ => rfl⟩

/-- The loop over connections owes nothing when it ends. -/
theorem connectLoop_obeys (subscribeToMeters : Bool) (fuel : ℕ) {request : Request}
    {requestComplete : Bool} {owed : Owed} (h : Awaiting request requestComplete owed)
    (backoff : ℕ) :
    (connectLoop subscribeToMeters fuel request requestComplete backoff).Obeys answering
      (fun _ owed => owed = none) owed := by
  by_cases hshutdown : request = .shutdown
  · rw [connectLoop.eq_def, if_pos hshutdown]
    exact h.shutdown hshutdown
  rw [connectLoop.eq_def, if_neg hshutdown]
  refine .bind ((connect_obeys subscribeToMeters fuel (h.owed hshutdown) h.refresh).mono ?_)
  -- However it went, nothing is owed, and the loop waits for what comes next.
  rintro ⟨returns, established⟩ _ rfl
  cases returns with
  | true => rfl
  | false =>
    cases fuel with
    | zero => rfl
    | succ fuel =>
      refine .bind ((nextReconnect_obeys _).mono fun next owed' hnext => ?_)
      cases next with
      | none => exact hnext
      | some next => exact connectLoop_obeys subscribeToMeters fuel hnext _

/-- **The worker keeps the discipline**, and owes nothing when it returns. -/
theorem workerLoop_obeys (subscribeToMeters : Bool) (fuel : ℕ) :
    (workerLoop subscribeToMeters fuel).Obeys answering (fun _ owed => owed = none) none := by
  refine obeys_wait rfl fun received => ?_
  cases received with
  | none => rfl
  | some request =>
    exact connectLoop_obeys subscribeToMeters fuel (Awaiting.received request) _

/-! ## Its runs

A run is the list of the operations that were performed with their results.  What is received and
what is completed are sublists of it, and the discipline ties their entries together one by one.
-/

/-- An operation that was performed, with its result. -/
abbrev WorkerCall := (o : WorkerOp) × o.Res

/-- The requests that were received, but for a shutdown. -/
def receipts (calls : List WorkerCall) : List Request :=
  calls.filterMap fun call => call.1.receipt call.2

/-- The completing responses that were sent. -/
def completions (calls : List WorkerCall) : List Response :=
  calls.filterMap fun call => call.1.completion

/-- The worker is about to wait for what comes next, or goes no further. -/
def Resting : WorkerProg Unit → Prop
  | .op o _ => o.waits = true
  | _ => True

/-- Nothing is owed where a program rests that owes nothing at its end. -/
theorem Resting.owes_none {rest : WorkerProg Unit} {owed : Owed} (h : Resting rest)
    (hrest : rest.Obeys answering (fun _ owed => owed = none) owed) : owed = none := by
  cases rest with
  | pure _ => exact hrest
  | op o next => exact (allowed_waiting h).mp hrest.1
  | stuck => exact hrest

/-- What an operation was allowed for, and where it led. -/
theorem answering_cases {o : WorkerOp} {owed : Owed} (h : answering.allowed o owed) (r : o.Res) :
    (o.waits = true ∧ owed = none ∧ o.completion = none ∧
      answering.next o r owed = (o.receipt r).map (·, answerBudget)) ∨
    (o.waits = false ∧ o.receipt r = none ∧ answering.next o r owed = none ∧
      ∃ request left response, owed = some (request, left) ∧ o.completion = some response ∧
        request.Suits response) ∨
    (o.waits = false ∧ o.receipt r = none ∧ o.completion = none ∧
      answering.next o r owed = owed.map (fun (request, left) => (request, left - 1)) ∧
        ∀ request left, owed = some (request, left) → 0 < left) := by
  cases hwaits : o.waits with
  | true =>
    obtain rfl := (allowed_waiting hwaits).mp h
    exact .inl ⟨rfl, rfl, o.completion_of_waits hwaits, next_waiting hwaits r⟩
  | false =>
    have hreceipt : o.receipt r = none := o.receipt_of_not_waits hwaits r
    cases hcompletion : o.completion with
    | some response =>
      obtain ⟨request, left, howed, hsuits⟩ := (allowed_completing hcompletion).mp h
      exact .inr (.inl ⟨rfl, hreceipt, next_completing hcompletion r, request, left, response,
        howed, rfl, hsuits⟩)
    | none =>
      exact .inr (.inr ⟨rfl, hreceipt, rfl, next_quiet hwaits hcompletion r,
        (allowed_quiet hwaits hcompletion).mp h⟩)

theorem receipts_cons (o : WorkerOp) (r : o.Res) (calls : List WorkerCall) :
    receipts (⟨o, r⟩ :: calls) = (o.receipt r).toList ++ receipts calls := by
  cases h : o.receipt r <;> simp [receipts, h]

theorem completions_cons (o : WorkerOp) (r : o.Res) (calls : List WorkerCall) :
    completions (⟨o, r⟩ :: calls) = o.completion.toList ++ completions calls := by
  cases h : o.completion <;> simp [completions, h]

/-- What was owed before and what was received since is answered, but for what is owed now. -/
theorem kept_answered {owed : Owed} {calls : List WorkerCall} (h : answering.Kept owed calls) :
    ∃ answered, (owed.map Prod.fst).toList ++ receipts calls =
        answered ++ ((answering.after owed calls).map Prod.fst).toList ∧
      List.Forall₂ Request.Suits answered (completions calls) := by
  induction calls generalizing owed with
  | nil => exact ⟨[], by simp [receipts, Discipline.after], .nil⟩
  | cons call calls ih =>
    obtain ⟨o, r⟩ := call
    obtain ⟨hallowed, hkept⟩ := h
    rw [receipts_cons, completions_cons, Discipline.after]
    obtain ⟨answered, hanswered, hsuits⟩ := ih hkept
    -- A receipt, an answer, or neither of them.
    obtain ⟨-, rfl, hquiet, hnext⟩ | ⟨-, hreceipt, hnext, request, left, response, rfl, hcompletion,
      hresponse⟩ | ⟨-, hreceipt, hquiet, hnext, -⟩ := answering_cases hallowed r
    · refine ⟨answered, ?_, by simpa [hquiet] using hsuits⟩
      rw [← hanswered, hnext]
      cases o.receipt r <;> rfl
    · refine ⟨request :: answered, ?_, ?_⟩
      · rw [hnext] at hanswered ⊢
        rw [hreceipt, List.cons_append, ← hanswered]
        rfl
      · rw [hcompletion]
        exact .cons hresponse hsuits
    · refine ⟨answered, ?_, by simpa [hquiet] using hsuits⟩
      rw [← hanswered, hnext, hreceipt]
      cases owed <;> rfl

/-- Without its response, an owed request has no more operations than are left. -/
theorem kept_prompt {request : Request} {left : ℕ} {calls : List WorkerCall}
    (h : answering.Kept (some (request, left)) calls) (hcalls : completions calls = []) :
    calls.length ≤ left := by
  induction calls generalizing left with
  | nil => exact Nat.zero_le left
  | cons call calls ih =>
    obtain ⟨o, r⟩ := call
    obtain ⟨hallowed, hkept⟩ := h
    rw [completions_cons] at hcalls
    obtain ⟨-, howed, -⟩ | ⟨-, -, -, _, _, response, -, hcompletion, -⟩ | ⟨-, -, -, hnext, hleft⟩ :=
      answering_cases hallowed r
    · cases howed
    · rw [hcompletion] at hcalls
      cases hcalls
    · rw [hnext] at hkept
      have hlength := ih hkept (List.append_eq_nil_iff.mp hcalls).2
      have hpos := hleft request left rfl
      rw [List.length_cons]
      omega

/-- What a run of the worker shows of its requests and responses. -/
structure Answered (calls : List WorkerCall) (rest : WorkerProg Unit) : Prop where
  /-- The completing responses are those to the requests, in their order; only the request that was
      received last may still be without its own. -/
  ordered : ∃ answered owed, receipts calls = answered ++ Option.toList owed ∧
    List.Forall₂ Request.Suits answered (completions calls)
  /-- While the worker waits, and when it returns, every request has its response. -/
  settled : Resting rest → List.Forall₂ Request.Suits (receipts calls) (completions calls)
  /-- A request that has no response yet was received a few operations ago. -/
  prompt : ∀ before call after request, calls = before ++ call :: after →
    call.1.receipt call.2 = some request → completions after = [] → after.length ≤ answerBudget
  /-- After anything else that was waited for, nothing is completed until a request comes. -/
  automatic : ∀ before call after, calls = before ++ call :: after → call.1.waits = true →
    call.1.receipt call.2 = none → receipts after = [] → completions after = []

/-- **Every request is answered once, in order.**  Whatever the bus, the daemon and the channels do,
    in every run of the worker: the completing responses are those to the requests that it received,
    each one that its request may have; none is missing when the worker waits or returns, and
    between a request and its response there is no wait and a bounded number of operations; and a
    signal, a change of the owner or the time for a reconnection completes nothing. -/
theorem worker_answers (subscribeToMeters : Bool) (fuel : ℕ) {calls : List WorkerCall}
    {rest : WorkerProg Unit} (h : (workerLoop subscribeToMeters fuel).Performs calls rest) :
    Answered calls rest := by
  obtain ⟨hkept, hrest⟩ := (workerLoop_obeys subscribeToMeters fuel).performs h
    (.of_forall fun _ _ _ => trivial)
  obtain ⟨answered, hanswered, hsuits⟩ := kept_answered hkept
  refine ⟨⟨answered, _, hanswered, hsuits⟩, fun hresting => ?_, ?_, ?_⟩
  · -- a worker at rest owes nothing
    rw [hresting.owes_none hrest] at hanswered
    obtain rfl : receipts calls = answered := hanswered.trans (List.append_nil answered)
    exact hsuits
  · -- a receipt is answered before the next one
    rintro before ⟨o, r⟩ after request rfl hreceipt hafter
    obtain ⟨hallowed, hkept'⟩ := hkept.of_append
    obtain ⟨-, -, -, hnext⟩ | ⟨-, hnone, -⟩ | ⟨-, hnone, -⟩ := answering_cases hallowed r
    · rw [hnext, hreceipt] at hkept'
      exact kept_prompt hkept' hafter
    · cases hnone.symm.trans hreceipt
    · cases hnone.symm.trans hreceipt
  · -- what is sent while no request is there answers none
    rintro before ⟨o, r⟩ after rfl hwaits hreceipt hafter
    obtain ⟨hallowed, hkept'⟩ := hkept.of_append
    obtain ⟨-, -, -, hnext⟩ | ⟨hnone, -⟩ | ⟨hnone, -⟩ := answering_cases hallowed r
    · rw [hnext, hreceipt] at hkept'
      obtain ⟨answered', hanswered', hsuits'⟩ := kept_answered hkept'
      rw [hafter] at hanswered'
      obtain rfl : answered' = [] := (List.append_eq_nil_iff.mp hanswered'.symm).1
      cases hcompletions : completions after with
      | nil => rfl
      | cons response responses =>
        rw [hcompletions] at hsuits'
        cases hsuits'
    · cases hnone.symm.trans hwaits
    · cases hnone.symm.trans hwaits

/-- A daemon that answers the calls below. -/
def calledDaemon : Daemon Unit where
  config := {}
  writable := true
  revision := 1
  deviceRevision := 0
  devices := []
  engine := ()
  observation := {}
  lastError := none

/-- A session bus that comes back late: the worker rejects the first request, then a refresh of its
    own.  The connection that the next request finds serves it, a signal of the daemon, and the
    request after it. -/
def lateBus : List WorkerCall :=
  let unavailable := communicationError "session-bus-unavailable"
    "The desktop session bus is unavailable." "Log in again, then retry."
  let snapshot := calledDaemon.snapshot {}
  [⟨.recv, some Request.refresh⟩, ⟨.session, false⟩, ⟨.send (rejected unavailable true), true⟩,
    ⟨.sleep 250, Wakeup.elapsed⟩, ⟨.session, false⟩, ⟨.send (rejected unavailable false), true⟩,
    ⟨.sleep 500, Wakeup.request (some (.setActive true))⟩, ⟨.session, true⟩,
    ⟨.establish .proxy, true⟩, ⟨.establish .receiveStateChanged, true⟩,
    ⟨.establish .receiveDevicesChanged, true⟩, ⟨.establish .receiveMetersChanged, true⟩,
    ⟨.establish .receiveOwnerChanged, true⟩, ⟨.establish .subscribeMeters, true⟩,
    ⟨.getSnapshot, .ok snapshot⟩, ⟨.mutate (.start 1), .ok snapshot⟩, ⟨.listInputs, some []⟩,
    ⟨.getStartWithNoiseReduction, some false⟩, ⟨.send (.state snapshot [] false false true), true⟩,
    ⟨.select true, Selected.stateChanged true⟩, ⟨.getSnapshot, .ok snapshot⟩,
    ⟨.listInputs, some []⟩, ⟨.getStartWithNoiseReduction, some false⟩,
    ⟨.send (.state snapshot [] false true false), true⟩,
    ⟨.select true, Selected.request (some .diagnostics)⟩,
    ⟨.diagnostics, some calledDaemon.diagnostics⟩,
    ⟨.send (.diagnostics calledDaemon.diagnostics), true⟩]

theorem lateBus_performs : ∃ rest, (workerLoop true 4).Performs lateBus rest :=
  ⟨_, .op (.op (.op (.op (.op (.op (.op (.op (.op (.op (.op (.op (.op (.op (.op (.op (.op (.op (.op
    (.op (.op (.op (.op (.op (.op (.op (.op (.nil _)))))))))))))))))))))))))))⟩

theorem worker_answers_lateBus :
    receipts lateBus = [.refresh, .setActive true, .diagnostics] ∧
      (completions lateBus).length = 3 ∧
      ∃ rest, (workerLoop true 4).Performs lateBus rest ∧ Answered lateBus rest :=
  have ⟨rest, h⟩ := lateBus_performs
  ⟨rfl, rfl, rest, h, worker_answers true 4 h⟩

end Noire.Ui
