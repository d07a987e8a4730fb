import Noire.Ui.Worker

namespace Noire.Ui

/-!
# What the worker reports

A response that carries a state of the daemon carries one that the worker has just read: the last
snapshot that the daemon returned, with the inputs that were listed after it.  Whatever was read is
reported before the worker waits again.

* `Reading` — what was read of the daemon and is not reported yet;
* `reporting` — the discipline of a worker that reports what it read, whose window is open;
* `workerThread` — what `spawn` starts, or what is left in its place;
* `workerThread_reports` — it keeps the discipline, and the worker never returns;
* `Report.Current` — what was told last is what was read last, or that there is nothing.

This is a second discipline for the program of `Ui/Worker.lean`, proved in the same way, function
by function.  Its state is what was read and has not been reported.  The program of a served
connection has two ways out while the window is open, and neither is a return: the connection is
lost, or the worker waits for the next request.
-/

open Lib (Prog Discipline)

/-! ## Readings and reports

A snapshot is reported with the inputs that were listed after it, so a reading is complete only
then.
-/

/-- What was read of the daemon and is not reported yet: nothing; that it could not be read, or did
    not do what was asked; a snapshot; or a snapshot and what listing the inputs returned. -/
inductive Reading
  | nothing
  | failed
  | seen (snapshot : Snapshot)
  | listed (snapshot : Snapshot) (inputs : Option (List InputDescriptor))

/-- The reading, what the daemon said last, and what the window was told last. -/
structure Report where
  reading : Reading
  last : Option (Snapshot × List InputDescriptor)
  told : Option (Snapshot × List InputDescriptor)

/-- Nothing was read, and nothing told. -/
def Report.start : Report := ⟨.nothing, none, none⟩

/-- What the daemon said last, after a call: the snapshot that it returned last, with the inputs
    that it listed since. -/
def WorkerOp.speech : (o : WorkerOp) → o.Res → Option (Snapshot × List InputDescriptor) →
    Option (Snapshot × List InputDescriptor)
  | .getSnapshot, (.ok snapshot : Except String Snapshot), _ => some (snapshot, [])
  | .mutate _, (.ok snapshot : Except String Snapshot), _ => some (snapshot, [])
  | .listInputs, (inputs : Option (List InputDescriptor)), last =>
    last.map fun said => (said.1, inputs.getD [])
  | _, _, last => last

/-- What the window is told by a response, if it was told this before. -/
def Response.tells : Response → Option (Snapshot × List InputDescriptor) →
    Option (Snapshot × List InputDescriptor)
  | .state snapshot inputs .., _ => some (snapshot, inputs)
  | .rejected _ recovered _, _ => recovered
  | .diagnostics _, told | .meters _, told => told

/-- What is not reported yet once a response is sent. -/
def Response.leaves : Response → Reading → Reading
  | .state .., _ | .rejected .., _ => .nothing
  | .diagnostics _, reading | .meters _, reading => reading

/-- The response reports what was read. -/
def Reading.Covers (reading : Reading) : Response → Prop
  | .state snapshot inputs .. => reading = .listed snapshot (some inputs)
  | .rejected _ (some (snapshot, inputs)) _ =>
    reading = .listed snapshot (some inputs) ∨ reading = .listed snapshot none ∧ inputs = []
  | .rejected _ none _ => True
  | .diagnostics _ => reading = .nothing
  | .meters _ => False

/-- What a call of the daemon returns is read; the inputs are listed after a snapshot. -/
def WorkerOp.reads : (o : WorkerOp) → o.Res → Reading → Reading
  | .getSnapshot, (read : Except String Snapshot), _
  | .mutate _, (read : Except String Snapshot), _ =>
    match read with
    | .ok snapshot => .seen snapshot
    | .error _ => .failed
  | .listInputs, (inputs : Option (List InputDescriptor)), .seen snapshot =>
    .listed snapshot inputs
  | .send response, _, reading => response.leaves reading
  | _, _, reading => reading

/-- Where an operation leads. -/
def Report.next (o : WorkerOp) (r : o.Res) (s : Report) : Report where
  reading := o.reads r s.reading
  last := o.speech r s.last
  told := match o with
    | .send response => response.tells s.told
    | _ => s.told

/-- What an operation may return while the window is open: the channel of requests has its sender,
    which sends no shutdown, and the channel of responses its receiver. -/
def WhileOpen : (o : WorkerOp) → o.Res → Prop
  | .recv, (request : Option Request) => ∃ asked, request = some asked ∧ asked ≠ .shutdown
  | .sleep _, (.request request : Wakeup) => ∃ asked, request = some asked ∧ asked ≠ .shutdown
  | .select _, (.request request : Selected) => ∃ asked, request = some asked ∧ asked ≠ .shutdown
  | .send _, (listening : Bool) | .trySend _, (listening : Bool) => listening = true
  | _, _ => True

/-- What is sent reports what was read, but for the meters, and nothing is left to report at a
    wait. -/
def reporting : Discipline WorkerOp.Res Report where
  allowed
    | .send response, s => s.reading.Covers response
    | .trySend response, _ => ∃ metrics, response = .meters metrics
    | .recv, s | .sleep _, s | .select _, s => s.reading = .nothing
    | .listInputs, s => ∃ snapshot, s.reading = .seen snapshot
    | _, _ => True
  possible o r _ := WhileOpen o r
  next := Report.next
  idle s := s.reading = .nothing

/-! ## The program keeps it

Each step of the worker in turn, from one request to the next.
-/

section Rules

variable {α : Type} {Q : α → Report → Prop} {s : Report}

/-- Whether a response completes its request, what it reports is the same. -/
theorem Reading.Covers.withCompletion {reading : Reading} {response : Response}
    (h : reading.Covers response) (complete : Bool) :
    reading.Covers (withCompletion response complete) := by
  cases response with
  | rejected error recovered requestComplete => cases recovered <;> exact h
  | state => exact h
  | diagnostics => exact h
  | meters => exact h

/-- Once what was read is covered and sent, nothing is left of it. -/
theorem Reading.Covers.leaves {reading : Reading} {response : Response}
    (h : reading.Covers response) : response.leaves reading = .nothing := by
  cases response with
  | state => rfl
  | rejected => rfl
  | diagnostics => exact h
  | meters => exact h.elim

/-- A response that covers what was read is sent, and the window listens. -/
theorem reports_send {response : Response} {f : Bool → WorkerProg α}
    (hcovers : s.reading.Covers response)
    (h : ∀ s' : Report, s'.reading = .nothing → (f true).Obeys reporting Q s') :
    (send response >>= f).Obeys reporting Q s := by
  refine .call hcovers fun r hr => ?_
  obtain rfl : r = true := hr
  exact h _ hcovers.leaves

end Rules

/-- `recover` reads a snapshot and its inputs, or has nothing recovered. -/
theorem recover_reports (s : Report) :
    recover.Obeys reporting (fun recovered s => ∀ snapshot inputs,
      recovered = some (snapshot, inputs) → s.reading = .listed snapshot (some inputs)) s := by
  refine .call trivial fun read _ => ?_
  cases read with
  | error technical => rintro _ _ ⟨⟩
  | ok snapshot =>
    refine .call ⟨snapshot, rfl⟩ fun listed _ => ?_
    cases listed with
    | none => rintro _ _ ⟨⟩
    | some inputs =>
      rintro _ _ ⟨⟩
      rfl

/-- A rejection covers what was recovered for it. -/
theorem covers_recovered {reading : Reading} {recovered : Option (Snapshot × List InputDescriptor)}
    (h : ∀ snapshot inputs, recovered = some (snapshot, inputs) →
      reading = .listed snapshot (some inputs)) (error : UserError) (complete : Bool) :
    reading.Covers (.rejected error recovered complete) := by
  cases recovered with
  | none => trivial
  | some recovered => exact .inl (h recovered.1 recovered.2 rfl)

/-- The end of `execute` covers the result that it is the end of. -/
theorem conclude_reports {s : Report} (isRefresh : Bool) (result : Except String Snapshot)
    (hread : ∀ snapshot, result = .ok snapshot → s.reading = .seen snapshot) :
    (conclude isRefresh result).Obeys reporting (fun response s => s.reading.Covers response)
      s := by
  cases result with
  | ok snapshot =>
    have hseen := hread snapshot rfl
    refine .call ⟨snapshot, hseen⟩ fun listed _ => ?_
    have hlisted : WorkerOp.listInputs.reads listed s.reading = .listed snapshot listed := by
      rw [hseen]
      rfl
    cases listed with
    | some inputs => exact .call trivial fun _ _ => hlisted
    | none => exact .inr ⟨hlisted, rfl⟩
  | error technical =>
    exact .bind ((recover_reports s).mono fun _ _ hrecovered => covers_recovered hrecovered ..)

/-- A request that changes the daemon is reported by what the change returned. -/
theorem mutate_reports (mutation : Request) (s : Report) :
    (mutate mutation).Obeys reporting (fun response s => s.reading.Covers response) s := by
  refine .call trivial fun read _ => ?_
  cases read with
  | error technical => trivial
  | ok snapshot =>
    dsimp only
    split
    · refine .call trivial fun result _ => conclude_reports false result ?_
      rintro snapshot' rfl
      rfl
    · trivial

/-- **`execute` covers what it read.** -/
theorem execute_reports (request : Request) {s : Report} (h : s.reading = .nothing) :
    (execute request).Obeys reporting (fun response s => s.reading.Covers response) s := by
  by_cases hdiagnostics : request = .diagnostics
  · subst hdiagnostics
    refine .call trivial fun read _ => ?_
    cases read with
    | some report => exact h
    | none =>
      exact .bind ((recover_reports _).mono fun _ _ hrecovered => covers_recovered hrecovered ..)
  by_cases hrefresh : request = .refresh
  · subst hrefresh
    refine .call trivial fun read _ => conclude_reports true read ?_
    rintro snapshot rfl
    rfl
  · rw [execute_mutation hrefresh hdiagnostics]
    exact mutate_reports request s

/-- Setting up reads nothing. -/
theorem establish_reports (stages : List Stage) {s : Report} (h : s.reading = .nothing) :
    (establish stages).Obeys reporting (fun _ s => s.reading = .nothing) s := by
  induction stages with
  | nil => exact h
  | cons stage stages ih =>
    refine .call trivial fun ok _ => ?_
    cases ok with
    | true => exact ih
    | false => exact h

section Serving

variable {α : Type} {Q : α → Report → Prop} {s : Report}

/-- A request is executed, and what was read for it sent. -/
theorem reports_answer (request : Request) (complete : Bool) {f : Response → Bool → WorkerProg α}
    (hs : s.reading = .nothing)
    (h : ∀ response (s' : Report), s'.reading = .nothing → (f response true).Obeys reporting Q s') :
    (execute request >>= fun response =>
      send (withCompletion response complete) >>= f response).Obeys reporting Q s :=
  .bind ((execute_reports request hs).mono fun response _ hcovers =>
    reports_send (hcovers.withCompletion complete) (h response))

/-- So is a refresh of the worker's own. -/
theorem reports_refresh {f : Bool → WorkerProg α} (hs : s.reading = .nothing)
    (h : ∀ s' : Report, s'.reading = .nothing → (f true).Obeys reporting Q s') :
    (refresh >>= fun response => send response >>= f).Obeys reporting Q s :=
  .bind (.bind ((execute_reports .refresh hs).mono fun _ _ hcovers =>
    reports_send (hcovers.withCompletion false) h))

/-- That the daemon is gone leaves nothing to report. -/
theorem reports_rejected (error : UserError) (complete : Bool) {f : Bool → WorkerProg α}
    (h : ∀ s' : Report, s'.reading = .nothing → (f true).Obeys reporting Q s') :
    (send (rejected error complete) >>= f).Obeys reporting Q s :=
  have hcovers : s.reading.Covers (rejected error complete) := trivial
  reports_send hcovers h

end Serving

/-- A connection that is served is left without a return of the worker. -/
theorem serve_reports (subscribeToMeters : Bool) (fuel : ℕ) {s : Report}
    (h : s.reading = .nothing) : (serve subscribeToMeters fuel).Obeys reporting
      (fun returns s => returns = false ∧ s.reading = .nothing) s := by
  induction fuel generalizing s with
  | zero => exact h
  | succ fuel ih =>
    refine .call h fun selected hselected => ?_
    -- What a signal leads to, and what goes on after a response.
    have hrefresh : (refresh >>= fun response => send response >>= fun r =>
        if !r then pure true else serve subscribeToMeters fuel).Obeys reporting
          (fun returns s => returns = false ∧ s.reading = .nothing) s :=
      reports_refresh h fun s' hs' => ih hs'
    have hsignal : ∀ signal : Bool, ((if !signal then pure false else
        refresh >>= fun response => send response >>= fun r =>
          if !r then pure true else serve subscribeToMeters fuel) :
        WorkerProg Bool).Obeys reporting
          (fun returns s => returns = false ∧ s.reading = .nothing) s := fun _ =>
      .ite (fun _ => ⟨rfl, h⟩) fun _ => hrefresh
    have hanswer : ∀ request : Request, (execute request >>= fun response =>
        send (withCompletion response true) >>= fun r =>
          if !r then pure true else if response.disconnected then pure false
          else serve subscribeToMeters fuel).Obeys reporting
            (fun returns s => returns = false ∧ s.reading = .nothing) s := fun request =>
      reports_answer request true h fun response s' hs' =>
        .ite (fun hlistening => absurd hlistening (by decide)) fun _ =>
          .ite (fun _ => ⟨rfl, hs'⟩) fun _ => ih hs'
    -- Each branch of the select is one of these.
    cases selected with
    | stateChanged signal => exact hsignal signal
    | devicesChanged signal => exact hsignal signal
    | metersChanged signal =>
      match signal with
      | none => exact ⟨rfl, h⟩
      | some none => exact ih h
      | some (some metrics) =>
        refine .call ⟨metrics, rfl⟩ fun r hr => ?_
        obtain rfl : r = true := hr
        exact ih h
    | ownerChanged owner =>
      match owner with
      | some (some _) => exact hrefresh
      | none | some none => exact reports_rejected _ _ fun s' hs' => ⟨rfl, hs'⟩
    | request request =>
      obtain ⟨asked, rfl, hshutdown⟩ := hselected
      match asked with
      | .shutdown => exact absurd rfl hshutdown
      | .refresh | .setActive _ | .setStartWithNoiseReduction _ | .selectInput _
      | .setSuppressionEnabled _ | .setStrength _ | .setLatencyProfile _ | .setFailMode _ | .retry
      | .diagnostics => exact hanswer _

/-- A connection that cannot be made or is lost leaves nothing to report. -/
theorem serveConnection_reports (subscribeToMeters : Bool) (fuel : ℕ) (request : Request)
    (requestComplete : Bool) {s : Report} (h : s.reading = .nothing) :
    (serveConnection subscribeToMeters fuel request requestComplete).Obeys reporting
      (fun result s => result.1 = false ∧ s.reading = .nothing) s := by
  refine .bind ((establish_reports _ h).mono fun established s' hs' => ?_)
  cases established with
  | false => exact reports_rejected _ _ fun s'' hs'' => ⟨rfl, hs''⟩
  | true =>
    refine reports_answer request requestComplete hs' fun response s'' hs'' => ?_
    refine .ite (fun hlistening => absurd hlistening (by decide)) fun _ =>
      .ite (fun _ => ⟨rfl, hs''⟩) fun _ => ?_
    exact .bind ((serve_reports subscribeToMeters fuel hs'').mono fun _ _ hserved => hserved)

/-- So does a session bus that is not there. -/
theorem connect_reports (subscribeToMeters : Bool) (fuel : ℕ) (request : Request)
    (requestComplete : Bool) {s : Report} (h : s.reading = .nothing) :
    (connect subscribeToMeters fuel request requestComplete).Obeys reporting
      (fun result s => result.1 = false ∧ s.reading = .nothing) s := by
  refine .call trivial fun connected _ => ?_
  cases connected with
  | true => exact serveConnection_reports subscribeToMeters fuel request requestComplete h
  | false => exact reports_rejected _ _ fun s' hs' => ⟨rfl, hs'⟩

/-- The loop over connections does not end while the window is open. -/
theorem connectLoop_reports (subscribeToMeters : Bool) (fuel : ℕ) {request : Request}
    (hrequest : request ≠ .shutdown) (requestComplete : Bool) (backoff : ℕ) {s : Report}
    (h : s.reading = .nothing) :
    (connectLoop subscribeToMeters fuel request requestComplete backoff).Obeys reporting
      (fun _ _ => False) s := by
  rw [connectLoop.eq_def, if_neg hrequest]
  refine .bind ((connect_reports subscribeToMeters fuel request requestComplete h).mono ?_)
  rintro ⟨_, established⟩ s' ⟨rfl, hs'⟩
  cases fuel with
  | zero => exact hs'
  | succ fuel =>
    have hrefresh : Request.refresh ≠ .shutdown := by rintro ⟨⟩
    refine .bind (.call hs' fun wakeup hwakeup => ?_)
    cases wakeup with
    | request received =>
      obtain ⟨asked, rfl, hasked⟩ := hwakeup
      exact connectLoop_reports subscribeToMeters fuel hasked true _ hs'
    | elapsed => exact connectLoop_reports subscribeToMeters fuel hrefresh false _ hs'

/-! ## What `spawn` starts

Where no worker runs, something else answers in its place, or the channel is closed from the
start.
-/

/-- How `spawn` goes: the worker runs; its thread finds no runtime; or there is no thread. -/
inductive Spawned
  | running
  | runtimeUnavailable
  | threadUnavailable
  deriving DecidableEq

/-- What a thread without a runtime says. -/
def runtimeUnavailable : Response :=
  rejected (communicationError "ui-runtime-unavailable"
    "Noire could not initialize background communication."
    "Restart Noire; reinstall it if the condition persists.") false

/-- What `spawn` says itself, without a thread. -/
def threadUnavailable : Response :=
  rejected (communicationError "ui-thread-unavailable"
    "Noire could not start its background communication thread."
    "Free process resources and restart Noire.") false

/-- The thread of `spawn`. -/
def workerThread (spawned : Spawned) (subscribeToMeters : Bool) (fuel : ℕ) : WorkerProg Unit :=
  match spawned with
  | .running => workerLoop subscribeToMeters fuel
  | .runtimeUnavailable => do
    let _ ← send runtimeUnavailable
    return ()
  | .threadUnavailable => return ()

/-- **What was read is reported**, and while the window is open the worker does not return. -/
theorem workerThread_reports (spawned : Spawned) (subscribeToMeters : Bool) (fuel : ℕ) :
    (workerThread spawned subscribeToMeters fuel).Obeys reporting
      (fun _ s => spawned ≠ .running ∧ s.reading = .nothing) .start := by
  cases spawned with
  | running =>
    refine .call rfl fun received hreceived => ?_
    obtain ⟨asked, rfl, hasked⟩ := hreceived
    exact (connectLoop_reports subscribeToMeters fuel hasked true initialReconnectBackoff
      rfl).mono fun _ _ h => h.elim
  | runtimeUnavailable => exact reports_rejected _ _ fun _ hs => ⟨nofun, hs⟩
  | threadUnavailable => exact ⟨nofun, rfl⟩

/-- Nothing is left to report where the worker rests. -/
theorem Resting.reported {spawned : Spawned} {rest : WorkerProg Unit} {s : Report}
    (h : Resting rest) (hrest : rest.Obeys reporting
      (fun _ s => spawned ≠ .running ∧ s.reading = .nothing) s) : s.reading = .nothing := by
  cases rest with
  | pure _ => exact hrest.2
  | op o next => cases o with
    | recv => exact hrest.1
    | sleep millis => exact hrest.1
    | select meters => exact hrest.1
    | _ => cases h
  | stuck => exact hrest

/-- Every request is answered, however `spawn` goes. -/
theorem workerThread_obeys (spawned : Spawned) (subscribeToMeters : Bool) (fuel : ℕ) :
    (workerThread spawned subscribeToMeters fuel).Obeys answering (fun _ owed => owed = none)
      none := by
  cases spawned with
  | running => exact workerLoop_obeys subscribeToMeters fuel
  | runtimeUnavailable =>
    have howed : Left 0 (if false = true then some Request.refresh else none) none := Left.none 0
    exact obeys_rejected howed (fun _ => rfl) fun _ => rfl
  | threadUnavailable => rfl

/-! ## What the reports say

A state that is reported is that of a snapshot of the daemon, and the last one.
-/

/-- As soon as what was read is reported, what was told last is what the daemon said last, or that
    there is nothing. -/
def Report.Current (s : Report) : Prop :=
  match s.reading with
  | .nothing => s.told = none ∨ s.told = s.last
  | .failed => True
  | .seen snapshot => s.last = some (snapshot, [])
  | .listed snapshot inputs => s.last = some (snapshot, inputs.getD [])

theorem Report.Current.start : Report.start.Current := .inl rfl

/-- A response that covers what was read tells what the daemon said. -/
theorem Report.Current.sent {s : Report} (h : s.Current) {response : Response}
    (hcovers : s.reading.Covers response) (hnothing : s.reading = .nothing →
      s.told = none ∨ s.told = s.last) :
    response.tells s.told = none ∨ response.tells s.told = s.last := by
  unfold Report.Current at h
  match response with
  | .state snapshot inputs .. =>
    have hlisted : s.reading = .listed snapshot (some inputs) := hcovers
    rw [hlisted] at h
    exact .inr h.symm
  | .rejected _ none _ => exact .inl rfl
  | .rejected _ (some (snapshot, inputs)) _ =>
    obtain hlisted | ⟨hlisted, rfl⟩ := hcovers
    · rw [hlisted] at h
      exact .inr h.symm
    · rw [hlisted] at h
      exact .inr h.symm
  | .diagnostics _ => exact hnothing hcovers
  | .meters _ => exact hcovers.elim

/-- Each operation of the worker keeps that. -/
theorem Report.Current.next {s : Report} (h : s.Current) {o : WorkerOp}
    (hallowed : reporting.allowed o s) (r : o.Res) : (Report.next o r s).Current := by
  cases o with
  | getSnapshot => cases (r : Except String Snapshot) with
    | ok snapshot => rfl
    | error technical => trivial
  | mutate mutation => cases (r : Except String Snapshot) with
    | ok snapshot => rfl
    | error technical => trivial
  -- The inputs are listed after a snapshot, which is the last one.
  | listInputs =>
    obtain ⟨snapshot, hseen⟩ := hallowed
    unfold Report.Current at h
    rw [hseen] at h
    show Report.Current ⟨WorkerOp.listInputs.reads r s.reading, _, _⟩
    rw [hseen]
    show s.last.map _ = _
    rw [h]
    rfl
  | send response =>
    have hsent := h.sent hallowed fun hnothing => by
      unfold Report.Current at h
      rwa [hnothing] at h
    show Report.Current ⟨response.leaves s.reading, s.last, response.tells s.told⟩
    rw [hallowed.leaves]
    exact hsent
  | _ => exact h

end Noire.Ui
