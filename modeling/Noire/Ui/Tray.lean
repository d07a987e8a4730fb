import Noire.Ui.Worker

namespace Noire.Ui

/-!
# The control of the tray

The loop behind the tray icon: it starts the session, turns noise reduction on and off at a click
and off at the exit.  Each of these is an action that is pending until a response of the worker
ends it; the worker's requests and responses carry nothing that tells which action they belong to.

* `trayControlLoop` — the loop and its functions, after `client.rs`; its loops take their number of
  rounds as `fuel`;
* `Traffic` — who sent the requests that are not answered yet;
* `Serves` — the worker, as the loop sees it: it answers each request once, in order;
* `Attributed` — a pending toggle or stop is ended by the response to its own request only;
* `tray_attributed_when` — it is, where the session's start leaves no request unanswered;
* `leftover_misattributed` — and else it need not be.

Whom a response belongs to is known to the worker, which answers in order, and not to the loop.
So the state that runs beside the loop is the queue of the requests that are not answered yet,
each with the action that sent it (`Traffic`).  The worker's part is the assumption `Serves`: a
completing response answers the head of this queue.  The loop's part is the invariant `Asks`:
while a toggle or a stop is pending, the queue holds just its own request, and nothing while no
action is pending, unless the worker has gone.  Every function of the loop is proved to keep it,
from the small ones to `trayRounds`.

`Asks` is kept by every branch except one: a session's start that ends by a signal of the daemon,
while its own request is still to be answered.  That is what `Settles` excludes, and the last
section shows that it has to be excluded.
-/

open Lib (Prog Discipline)

/-! ## Operations

The tray's side of its channels and of the desktop, one operation at a time.
-/

/-- `TrayControlCommand`; a caller's reply channel is told by its number. -/
inductive TrayControlCommand
  | toggle
  | stopAndShutdown (reply : ℕ)

/-- `PendingTrayAction`; the reply of a startup is the one channel of the initialization. -/
inductive PendingTrayAction
  | startup (activationRequested : Bool)
  | toggle
  | stop (reply : ℕ) (attempts : ℕ)
  deriving DecidableEq

/-- What the loop finds among the responses in time. -/
inductive Received
  | ok (response : Response)
  | timeout
  | disconnected

/-- The operations of the loop.  Those on the worker's channels show what is pending as they are
    performed; nothing is decided by it. -/
inductive TrayOp
  | tryRecv
  | active
  | setActive (active : Bool)
  | setBusy (busy : Bool)
  | storeBusy (busy : Bool)
  | request (pending : Option PendingTrayAction) (request : Request)
  | response (pending : Option PendingTrayAction)
  | initialized (value : Bool)
  | reply (reply : ℕ) (value : Bool)

/-- What they return. -/
def TrayOp.Res : TrayOp → Type
  | .tryRecv => Option TrayControlCommand
  | .active => Bool
  | .setActive _ | .setBusy _ | .storeBusy _ => Unit
  -- Whether the worker is still there.
  | .request .. => Bool
  | .response _ => Received
  | .initialized _ | .reply .. => Unit

/-- A program of the tray. -/
abbrev TrayProg := Prog TrayOp.Res

/-- One operation of the tray. -/
def trayCall (o : TrayOp) : TrayProg o.Res := Prog.call o

/-! ## The program

`run_tray`: in each round commands first, then a queued stop, then one response.
-/

/-- `clear_tray_busy`. -/
def clearTrayBusy : TrayProg Unit := do
  trayCall (.storeBusy false)
  trayCall (.setBusy false)

/-- `complete_tray_action`. -/
def completeTrayAction (action : Option PendingTrayAction) (succeeded active : Bool) :
    TrayProg Bool := do
  match action with
  | some (.startup _) =>
    trayCall (.initialized succeeded)
    return false
  | some .toggle | none => return false
  | some (.stop reply _) =>
    trayCall (.reply reply (succeeded && !active))
    return true

/-- `finish_tray_action`, on an action that is no longer pending. -/
def finishTrayAction (action : Option PendingTrayAction) (succeeded active : Bool) :
    TrayProg Bool := do
  let shouldExit ← completeTrayAction action succeeded active
  clearTrayBusy
  if shouldExit then
    let _ ← trayCall (.request none .shutdown)
    return true
  else return false

/-- `complete_pending_startup`: whether it did, and what is pending then. -/
def completePendingStartup (pending : Option PendingTrayAction)
    (requestComplete succeeded active : Bool) : TrayProg (Bool × Option PendingTrayAction) := do
  match requestComplete, pending with
  | true, some (.startup _) =>
    let _ ← completeTrayAction pending succeeded active
    return (true, none)
  | _, _ => return (false, pending)

/-- `retry_pending_stop`: whether it did, and what is pending then. -/
def retryPendingStop (pending : Option PendingTrayAction) :
    TrayProg (Bool × Option PendingTrayAction) := do
  match pending with
  | some (.stop reply attempts) =>
    if 3 ≤ attempts then return (false, pending)
    else
      let sent : Bool ← trayCall (.request pending (.setActive false))
      if sent then return (true, some (.stop reply (attempts + 1)))
      else return (false, pending)
  | _ => return (false, pending)

/-- `fail_pending_tray_actions`. -/
def failPendingTrayActions (pending : Option PendingTrayAction) (queuedStop : Option ℕ) :
    TrayProg Unit := do
  match pending with
  | some (.startup _) => trayCall (.initialized false)
  | some (.stop reply _) => trayCall (.reply reply false)
  | some .toggle | none => pure ()
  match queuedStop with
  | some reply => trayCall (.reply reply false)
  | none => pure ()

/-- `StartupSyncAction`. -/
inductive StartupSyncAction
  | activate
  | waiting
  | ready
  | notStarting
  deriving DecidableEq

/-- `startup_sync_action`. -/
def startupSyncAction (pending : Option PendingTrayAction)
    (active startWithNoiseReduction : Bool) : StartupSyncAction :=
  match pending with
  | some (.startup activationRequested) =>
    if !activationRequested && startWithNoiseReduction && !active then .activate
    else if activationRequested && !active then .waiting
    else .ready
  | some .toggle | some (.stop ..) | none => .notStarting

/-- `handle_tray_state`: whether the loop ends, and what is pending then. -/
def handleTrayState (pending : Option PendingTrayAction)
    (active startWithNoiseReduction requestComplete : Bool) :
    TrayProg (Bool × Option PendingTrayAction) := do
  trayCall (.setActive active)
  match startupSyncAction pending active startWithNoiseReduction with
  | .activate =>
    let pending := some (.startup true)
    let sent : Bool ← trayCall (.request pending (.setActive true))
    if sent then return (false, pending)
    else return (← finishTrayAction pending false active, none)
  | .ready => return (← finishTrayAction pending true active, none)
  | .notStarting =>
    if requestComplete then return (← finishTrayAction pending true active, none)
    else return (false, pending)
  | .waiting => return (false, pending)

/-- The tray shows what a rejection has recovered. -/
def showRecovered (recovered : Option Snapshot) : TrayProg Unit :=
  match recovered with
  | some snapshot => trayCall (.setActive snapshot.active)
  | none => return ()

/-- The branch of `tray_control_loop` for a rejection: whether the loop ends, and what is pending
    then. -/
def handleTrayRejection (pending : Option PendingTrayAction) (recovered : Option Snapshot)
    (requestComplete : Bool) : TrayProg (Bool × Option PendingTrayAction) := do
  let authoritative := recovered.isSome
  let active := recovered.any (·.active)
  showRecovered recovered
  let (completed, pending) ← completePendingStartup pending requestComplete authoritative active
  if completed then
    clearTrayBusy
    return (false, pending)
  else if requestComplete && !(pending matches some (.startup _)) then
    if !authoritative || active then
      let (retried, pending) ← retryPendingStop pending
      if retried then return (false, pending)
      else return (← finishTrayAction pending authoritative active, none)
    else return (← finishTrayAction pending authoritative active, none)
  else return (false, pending)

/-- The commands that are there, at the start of a round: what is pending then, and the stop that is
    queued. -/
def drainCommands : ℕ → Option PendingTrayAction → Option ℕ →
    TrayProg (Option PendingTrayAction × Option ℕ)
  | 0, _, _ => .stuck
  | fuel + 1, pending, queuedStop => do
    let received : Option TrayControlCommand ← trayCall .tryRecv
    match received with
    | none => return (pending, queuedStop)
    | some .toggle =>
      if pending.isNone && queuedStop.isNone then
        trayCall (.setBusy true)
        let active : Bool ← trayCall .active
        let sent : Bool ← trayCall (.request pending (.setActive !active))
        if sent then drainCommands fuel (some .toggle) queuedStop
        else
          clearTrayBusy
          drainCommands fuel pending queuedStop
      else drainCommands fuel pending queuedStop
    | some (.stopAndShutdown reply) => drainCommands fuel pending (some reply)

/-- The queued stop begins where nothing is pending: what is pending then, and what is queued; or
    the loop ends. -/
def beginQueuedStop (pending : Option PendingTrayAction) (queuedStop : Option ℕ) :
    TrayProg (Option (Option PendingTrayAction × Option ℕ)) := do
  match pending, queuedStop with
  | none, some reply =>
    trayCall (.storeBusy true)
    trayCall (.setBusy true)
    let sent : Bool ← trayCall (.request none (.setActive false))
    if sent then return some (some (.stop reply 1), none)
    else
      trayCall (.reply reply false)
      return none
  | pending, queuedStop => return some (pending, queuedStop)

/-- The loop of `tray_control_loop`. -/
def trayRounds : ℕ → Option PendingTrayAction → Option ℕ → TrayProg Unit
  | 0, _, _ => .stuck
  | fuel + 1, pending, queuedStop => do
    let (pending, queuedStop) ← drainCommands fuel pending queuedStop
    match ← beginQueuedStop pending queuedStop with
    | none => return ()
    | some (pending, queuedStop) =>
      let received : Received ← trayCall (.response pending)
      match received with
      | .ok (.state snapshot _ start _ requestComplete) =>
        let (exits, pending) ← handleTrayState pending snapshot.active start requestComplete
        if exits then return () else trayRounds fuel pending queuedStop
      | .ok (.rejected _ recovered requestComplete) =>
        let (exits, pending) ←
          handleTrayRejection pending (recovered.map Prod.fst) requestComplete
        if exits then return () else trayRounds fuel pending queuedStop
      | .ok (.diagnostics _) | .ok (.meters _) | .timeout => trayRounds fuel pending queuedStop
      | .disconnected => failPendingTrayActions pending queuedStop

/-- `tray_control_loop`. -/
def trayControlLoop (fuel : ℕ) : TrayProg Unit := do
  let sent : Bool ← trayCall (.request none .refresh)
  if sent then trayRounds fuel (some (.startup false)) none
  else trayCall (.initialized false)

/-! ## The requests that are not answered yet

The queue is not a variable of the program.  It is computed from the operations that were performed,
and no operation depends on it.
-/

/-- A response that was looked for: what was pending then, what was found, and the request that it
    answers, with the action that sent it and the one that sent a request last. -/
structure Heard where
  pending : Option PendingTrayAction
  received : Received
  answers : Option (Request × ℕ)
  action : ℕ

/-- The requests without a response, each with the number of the action that sent it; the actions
    so far; whether the worker has gone; and the response that was looked for last. -/
structure Traffic where
  unanswered : List (Request × ℕ)
  action : ℕ
  closed : Bool
  heard : Option Heard

/-- Nothing was sent yet. -/
def Traffic.start : Traffic := ⟨[], 0, false, none⟩

/-- What a response leaves unanswered. -/
def Traffic.left (s : Traffic) (response : Response) : List (Request × ℕ) :=
  if response.completing then s.unanswered.tail else s.unanswered

/-- Where an operation leads.  A request that is sent while nothing is pending begins an action; a
    shutdown has no response. -/
def Traffic.next : (o : TrayOp) → o.Res → Traffic → Traffic
  | .request _ .shutdown, _, s => s
  | .request pending request, (sent : Bool), s =>
    if sent then
      let action := if pending.isNone then s.action + 1 else s.action
      { s with unanswered := s.unanswered ++ [(request, action)], action }
    else { s with closed := true }
  | .response pending, (.ok response : Received), s =>
    { s with
      unanswered := s.left response
      heard := some ⟨pending, .ok response,
        if response.completing then s.unanswered.head? else none, s.action⟩ }
  | .response pending, (received : Received), s =>
    { s with heard := some ⟨pending, received, none, s.action⟩ }
  | _, _, s => s

/-- The worker, as the loop sees it: it is not back once it has gone, and a completing response is
    one to the request that has waited longest. -/
def Serves : (o : TrayOp) → o.Res → Traffic → Prop
  | .request _ _, (sent : Bool), s => sent = true → s.closed = false
  | .response _, (.ok response : Received), s =>
    response.completing = true → ∃ entry, s.unanswered.head? = some entry ∧ entry.1.Suits response
  | _, _, _ => True

/-- The response ends the session's start. -/
def endsStartup (pending : Option PendingTrayAction) : Response → Bool
  | .state snapshot _ start _ _ => startupSyncAction pending snapshot.active start = .ready
  | .rejected _ _ requestComplete => requestComplete && (pending matches some (.startup _))
  | _ => false

/-- A response that ends the session's start leaves no request unanswered. -/
def Settles : (o : TrayOp) → o.Res → Traffic → Prop
  | .response pending, (.ok response : Received), s =>
    endsStartup pending response = true → s.left response = []
  | _, _, _ => True

/-- Whether the daemon was active, as a response reports it. -/
def Response.active : Response → Option Bool
  | .state snapshot .. => some snapshot.active
  | .rejected _ recovered _ => recovered.map (·.1.active)
  | _ => none

/-- A stop is told that it failed as the worker has gone; or what it is told follows from the
    response to a request of its own. -/
def StopAnswered (reply : ℕ) (value : Bool) (s : Traffic) : Prop :=
  (value = false ∧ (s.closed = true ∨ s.heard.any (·.received matches .disconnected))) ∨
  ∃ attempts response action, s.heard = some ⟨some (.stop reply attempts), .ok response,
      some (.setActive false, action), action⟩ ∧
    response.completing = true ∧ (value = true → response.active = some false)

/-- The request that has waited longest is a toggle's or a stop's own, while one is pending. -/
def OwnFirst (s : Traffic) : Option PendingTrayAction → Prop
  | some .toggle => ∃ active, s.unanswered.head? = some (.setActive active, s.action)
  | some (.stop ..) => s.unanswered.head? = some (.setActive false, s.action)
  | some (.startup _) | none => True

/-- A completing response that is looked for while a toggle or a stop is pending answers a request
    of that action's own; so does the one that a stop's caller is told of. -/
def Attributed : (o : TrayOp) → o.Res → Traffic → Prop
  | .response pending, (.ok response : Received), s =>
    response.completing = true → OwnFirst s pending
  | .reply reply value, _, s => StopAnswered reply value s
  | _, _, _ => True

/-! ## What the loop keeps

Each function says what it leaves pending, and the postcondition is that this asks for what is
unanswered.
-/

/-- What is unanswered while an action is pending: its own request, and nothing while none is. -/
def Asks (s : Traffic) : Option PendingTrayAction → Prop
  | none => s.closed = true ∨ s.unanswered = []
  | some (.startup _) => True
  | some .toggle => ∃ active, s.unanswered = [(.setActive active, s.action)]
  | some (.stop ..) => s.unanswered = [(.setActive false, s.action)]

/-- What is looked for belongs to what is pending, and a stop is told what follows from it, where
    the session's start settles. -/
def attributing : Discipline TrayOp.Res Traffic where
  allowed
    | .response pending, s => Asks s pending
    | .reply reply value, s => StopAnswered reply value s
    | _, _ => True
  possible o r s := Serves o r s ∧ Settles o r s
  next := Traffic.next
  idle _ := True

/-- What is known of a response that was found. -/
structure Took (pending : Option PendingTrayAction) (response : Response) (s : Traffic) :
    Prop where
  settled : endsStartup pending response = true → Asks s none
  completed : (∀ requested, pending ≠ some (.startup requested)) → response.completing = true →
    Asks s none
  asks : response.completing = false → Asks s pending
  own : ∀ reply attempts, pending = some (.stop reply attempts) → response.completing = true →
    s.heard = some ⟨pending, .ok response, some (.setActive false, s.action), s.action⟩

section Responses

variable {s : Traffic} {pending : Option PendingTrayAction} {response : Response}

theorem Traffic.left_completing (h : response.completing = true) :
    s.left response = s.unanswered.tail := if_pos h

theorem Traffic.left_other (h : response.completing = false) :
    s.left response = s.unanswered := by
  rw [Traffic.left, h]
  exact if_neg Bool.false_ne_true

/-- A response that was found is the pending action's, if it completes anything. -/
theorem Asks.took (h : Asks s pending)
    (hsettles : Settles (.response pending) (Received.ok response) s) :
    Took pending response (Traffic.next (.response pending) (Received.ok response) s) where
  settled hends := .inr (hsettles hends)
  completed hpending hcompleting := by
    have hleft := Traffic.left_completing (s := s) hcompleting
    match pending with
    | none =>
      obtain hclosed | hnil := h
      · exact .inl hclosed
      · exact .inr (by rw [← List.tail_nil, ← hnil]; exact hleft)
    | some (.startup requested) => exact absurd rfl (hpending requested)
    | some .toggle =>
      obtain ⟨active, hasked⟩ := h
      exact .inr (hleft.trans (congrArg List.tail hasked))
    | some (.stop ..) => exact .inr (hleft.trans (congrArg List.tail h))
  asks hother := by
    have hleft := Traffic.left_other (s := s) hother
    match pending with
    | none => exact h.imp_right hleft.trans
    | some (.startup _) => trivial
    | some .toggle => exact h.imp fun _ => hleft.trans
    | some (.stop ..) => exact hleft.trans h
  -- The stop is the only request on its way, and this is its answer.
  own reply attempts hstop hcompleting := by
    subst hstop
    have hhead : s.unanswered.head? = some (.setActive false, s.action) := congrArg List.head? h
    show some (Heard.mk _ _ (if response.completing then s.unanswered.head? else none) _) = _
    rw [if_pos hcompleting, hhead]
    rfl

/-- A stop may be told what follows from its own response. -/
theorem Took.stopAnswered {reply attempts : ℕ} {value : Bool} (h : Took pending response s)
    (hcompleting : response.completing = true) (hstop : pending = some (.stop reply attempts))
    (hvalue : value = true → response.active = some false) : StopAnswered reply value s := by
  subst hstop
  exact .inr ⟨attempts, response, s.action, h.own reply attempts rfl hcompleting, hcompleting,
    hvalue⟩

/-- A report answers no request of the tray's. -/
theorem Asks.reported {report : DiagnosticReport} (h : Asks s pending)
    (hserves : Serves (.response pending) (Received.ok (.diagnostics report)) s)
    (htook : Took pending (.diagnostics report)
      (Traffic.next (.response pending) (Received.ok (.diagnostics report)) s)) :
    Asks (Traffic.next (.response pending) (Received.ok (.diagnostics report)) s) pending := by
  obtain ⟨entry, hhead, hsuits⟩ := hserves rfl
  have hno : ∀ active, s.unanswered ≠ [(.setActive active, s.action)] := fun active hasked => by
    rw [hasked] at hhead
    cases hhead
    cases hsuits
  match pending with
  | none => exact htook.completed nofun rfl
  | some (.startup _) => trivial
  | some .toggle =>
    obtain ⟨active, hasked⟩ := h
    exact absurd hasked (hno active)
  | some (.stop ..) => exact absurd h (hno false)

end Responses

section Functions

variable {s : Traffic}

/-- The end of an action leaves what is unanswered. -/
theorem clearTrayBusy_obeys {Q : Unit → Traffic → Prop} (h : Q () s) :
    clearTrayBusy.Obeys attributing Q s :=
  ⟨trivial, fun _ _ => ⟨trivial, fun _ _ => h⟩⟩

theorem completeTrayAction_obeys {action : Option PendingTrayAction} {succeeded active : Bool}
    (hstop : ∀ reply attempts, action = some (.stop reply attempts) →
      StopAnswered reply (succeeded && !active) s) :
    (completeTrayAction action succeeded active).Obeys attributing (fun _ s' => s' = s) s := by
  match action with
  | some (.startup _) => exact ⟨trivial, fun _ _ => rfl⟩
  | some .toggle | none => rfl
  | some (.stop reply attempts) => exact ⟨hstop reply attempts rfl, fun _ _ => rfl⟩

theorem finishTrayAction_obeys {action : Option PendingTrayAction} {succeeded active : Bool}
    (hstop : ∀ reply attempts, action = some (.stop reply attempts) →
      StopAnswered reply (succeeded && !active) s) :
    (finishTrayAction action succeeded active).Obeys attributing (fun _ s' => s' = s) s := by
  refine .bind ((completeTrayAction_obeys hstop).mono ?_)
  rintro shouldExit _ rfl
  refine .bind (clearTrayBusy_obeys ?_)
  cases shouldExit with
  | true => exact ⟨trivial, fun _ _ => rfl⟩
  | false => rfl

/-- What a function leaves pending is what asks, unless the loop ends. -/
abbrev AsksOrExits (result : Bool × Option PendingTrayAction) (s : Traffic) : Prop :=
  result.1 = true ∨ Asks s result.2

/-- A startup has begun. -/
theorem startupSyncAction_startup (requested active start : Bool) :
    startupSyncAction (some (.startup requested)) active start ≠ .notStarting := by
  cases requested <;> cases active <;> cases start <;> decide

/-- Nothing is left pending where an action ends with nothing unanswered. -/
theorem finished_obeys {action : Option PendingTrayAction} {succeeded active : Bool}
    (hasks : Asks s none) (hstop : ∀ reply attempts, action = some (.stop reply attempts) →
      StopAnswered reply (succeeded && !active) s) :
    (finishTrayAction action succeeded active >>= fun exits =>
      pure (exits, (none : Option PendingTrayAction))).Obeys attributing AsksOrExits s :=
  .bind ((finishTrayAction_obeys hstop).mono fun _ _ heq => .inr (heq ▸ hasks))

theorem handleTrayState_obeys {pending : Option PendingTrayAction} {snapshot : Snapshot}
    {inputs : List InputDescriptor} {start isRefresh complete : Bool}
    (h : Took pending (.state snapshot inputs start isRefresh complete) s) :
    (handleTrayState pending snapshot.active start complete).Obeys attributing AsksOrExits s := by
  refine .call trivial fun _ _ => ?_
  show Prog.Obeys attributing (match startupSyncAction pending snapshot.active start with
    | .activate => _ | .ready => _ | .notStarting => _ | .waiting => _) _ s
  -- What the state means for a startup decides first.
  cases hsync : startupSyncAction pending snapshot.active start with
  | activate =>
    refine .call trivial fun sent _ => ?_
    cases sent with
    | true => exact .inr trivial
    | false => exact finished_obeys (.inl rfl) nofun
  | ready =>
    refine finished_obeys (h.settled (decide_eq_true hsync)) ?_
    rintro reply attempts rfl
    cases hsync
  | waiting =>
    match pending with
    | some (.startup _) => exact .inr trivial
  | notStarting =>
    have hpending : ∀ requested, pending ≠ some (.startup requested) := by
      rintro requested rfl
      exact startupSyncAction_startup requested snapshot.active start hsync
    cases complete with
    | true =>
      refine finished_obeys (h.completed hpending rfl) fun reply attempts hstop => ?_
      exact h.stopAnswered rfl hstop fun hvalue => congrArg some (by simpa using hvalue)
    | false => exact .inr (h.asks rfl)

/-- A rejected request is retried, where it is a stop's, or its action ends. -/
theorem retryPendingStop_obeys {pending : Option PendingTrayAction} {succeeded active : Bool}
    (hasks : Asks s none) (hstop : ∀ reply attempts, pending = some (.stop reply attempts) →
      ∀ closed, StopAnswered reply (succeeded && !active) { s with closed }) :
    (retryPendingStop pending >>= fun (retried, pending) =>
      if retried then pure (false, pending)
      else finishTrayAction pending succeeded active >>= fun exits => pure (exits, none)).Obeys
        attributing AsksOrExits s := by
  match pending with
  | none | some (.startup _) | some .toggle => exact finished_obeys hasks nofun
  | some (.stop reply attempts) =>
    -- The third attempt was the last.
    by_cases hattempts : 3 ≤ attempts
    · rw [retryPendingStop, if_pos hattempts]
      exact finished_obeys hasks fun reply attempts heq => hstop reply attempts heq s.closed
    rw [retryPendingStop, if_neg hattempts]
    refine .call trivial fun sent hpossible => ?_
    cases sent with
    | true =>
      have hopen : s.closed = false := hpossible.1 rfl
      have hnil : s.unanswered = [] := hasks.resolve_left (by simp [hopen])
      refine .inr ?_
      show s.unanswered ++ [(Request.setActive false, s.action)] = _
      rw [hnil]
      rfl
    | false =>
      exact finished_obeys (.inl rfl) fun reply attempts heq => hstop reply attempts heq true

theorem handleTrayRejection_obeys {pending : Option PendingTrayAction} {error : UserError}
    {recovered : Option (Snapshot × List InputDescriptor)} {complete : Bool}
    (h : Took pending (.rejected error recovered complete) s) :
    (handleTrayRejection pending (recovered.map Prod.fst) complete).Obeys attributing
      AsksOrExits s := by
  -- Showing the state that was recovered asks nothing.
  have hshown : (showRecovered (recovered.map Prod.fst)).Obeys attributing
      (fun _ s' => s' = s) s := by
    cases recovered with
    | none => rfl
    | some _ => exact ⟨trivial, fun _ _ => rfl⟩
  refine .bind (hshown.mono ?_)
  rintro _ s rfl
  cases complete with
  | false => exact .inr (h.asks rfl)
  | true =>
    by_cases hstartup : ∃ requested, pending = some (.startup requested)
    · -- the startup is over, and answers nobody
      obtain ⟨requested, rfl⟩ := hstartup
      exact ⟨trivial, fun _ _ => .bind (clearTrayBusy_obeys (.inr (h.settled rfl)))⟩
    have hasks := h.completed (fun requested heq => hstartup ⟨requested, heq⟩) rfl
    -- A stop that is answered has heard of a daemon that stands still.
    have hstop : ∀ reply attempts, pending = some (.stop reply attempts) → ∀ closed,
        StopAnswered reply ((recovered.map Prod.fst).isSome &&
          !(recovered.map Prod.fst).any (·.active)) { s with closed } := by
      rintro reply attempts rfl closed
      refine .inr ⟨attempts, _, s.action, h.own reply attempts rfl rfl, rfl, fun hvalue => ?_⟩
      cases recovered with
      | none => cases hvalue
      | some _ => simpa [Response.active] using hvalue
    rcases pending with _ | requested | _ | _
    case some.startup => exact absurd ⟨requested, rfl⟩ hstartup
    all_goals
      refine .ite (fun _ => retryPendingStop_obeys hasks hstop) fun _ => ?_
      exact finished_obeys hasks fun reply attempts heq => hstop reply attempts heq s.closed

theorem failPendingTrayActions_obeys {pending : Option PendingTrayAction} {queuedStop : Option ℕ}
    (h : s.heard.any (·.received matches .disconnected) = true) :
    (failPendingTrayActions pending queuedStop).Obeys attributing (fun _ _ => True) s := by
  have hfailed : ∀ reply, StopAnswered reply false s := fun _ => .inl ⟨rfl, .inr h⟩
  have hqueued : (match queuedStop with
      | some reply => trayCall (.reply reply false)
      | none => pure () : TrayProg Unit).Obeys attributing (fun _ _ => True) s := by
    cases queuedStop with
    | none => trivial
    | some reply => exact ⟨hfailed reply, fun _ _ => trivial⟩
  match pending with
  | some (.startup _) => exact ⟨trivial, fun _ _ => hqueued⟩
  | some (.stop reply _) => exact ⟨hfailed reply, fun _ _ => hqueued⟩
  | some .toggle | none => exact hqueued

/-- A request of a new action asks, if it is sent. -/
theorem Asks.sent {active : Bool} (h : Asks s none)
    (hpossible : attributing.possible (.request none (.setActive active)) true s) :
    (Traffic.next (.request none (.setActive active)) true s).unanswered =
      [(.setActive active, s.action + 1)] := by
  have hopen : s.closed = false := hpossible.1 rfl
  have hnil : s.unanswered = [] := h.resolve_left (by simp [hopen])
  show s.unanswered ++ [(Request.setActive active, s.action + 1)] = _
  rw [hnil]
  rfl

theorem drainCommands_obeys (fuel : ℕ) {pending : Option PendingTrayAction}
    {queuedStop : Option ℕ} (h : Asks s pending) :
    (drainCommands fuel pending queuedStop).Obeys attributing (fun result s => Asks s result.1)
      s := by
  induction fuel generalizing s pending queuedStop with
  | zero => trivial
  | succ fuel ih =>
    refine .call trivial fun received _ => ?_
    match received with
    | none => exact h
    | some (.stopAndShutdown reply) => exact ih h
    | some .toggle =>
      match pending, queuedStop with
      -- A toggle is only sent where nothing else is pending.
      | none, none =>
        refine .call trivial fun _ _ => .call trivial fun active _ => ?_
        refine .call trivial fun sent hsent => ?_
        cases sent with
        | true => exact ih (show Asks _ (some .toggle) from ⟨!active, h.sent hsent⟩)
        | false => exact .bind (clearTrayBusy_obeys (ih (show Asks _ none from .inl rfl)))
      | some _, _ => exact ih h
      | none, some _ => exact ih h

theorem beginQueuedStop_obeys {pending : Option PendingTrayAction} {queuedStop : Option ℕ}
    (h : Asks s pending) :
    (beginQueuedStop pending queuedStop).Obeys attributing
      (fun result s => ∀ next ∈ result, Asks s next.1) s := by
  match pending, queuedStop with
  | none, some reply =>
    refine .call trivial fun _ _ => .call trivial fun _ _ => .call trivial fun sent hsent => ?_
    cases sent with
    | true =>
      rintro next ⟨⟩
      exact h.sent hsent
    | false => exact ⟨.inl ⟨rfl, .inl rfl⟩, fun _ _ => nofun⟩
  | none, none | some _, _ =>
    rintro next ⟨⟩
    exact h

/-- The loop keeps what is unanswered its pending action's. -/
theorem trayRounds_obeys (fuel : ℕ) {pending : Option PendingTrayAction} {queuedStop : Option ℕ}
    (h : Asks s pending) :
    (trayRounds fuel pending queuedStop).Obeys attributing (fun _ _ => True) s := by
  -- One round: the commands, the stop that is queued, and what the worker sends.
  induction fuel generalizing s pending queuedStop with
  | zero => trivial
  | succ fuel ih =>
    refine .bind ((drainCommands_obeys fuel h).mono ?_)
    rintro ⟨pending, queuedStop⟩ s h
    refine .bind ((beginQueuedStop_obeys h).mono ?_)
    rintro (_ | ⟨pending, queuedStop⟩) s h
    · trivial
    specialize h _ rfl
    refine .call h fun received hpossible => ?_
    match received with
    | .ok (.state snapshot inputs start isRefresh complete) =>
      refine .bind ((handleTrayState_obeys (h.took hpossible.2)).mono ?_)
      rintro ⟨exits, pending⟩ s hexits
      cases exits with
      | true => trivial
      | false => exact ih (hexits.resolve_left Bool.false_ne_true)
    | .ok (.rejected error recovered complete) =>
      refine .bind ((handleTrayRejection_obeys (h.took hpossible.2)).mono ?_)
      rintro ⟨exits, pending⟩ s hexits
      cases exits with
      | true => trivial
      | false => exact ih (hexits.resolve_left Bool.false_ne_true)
    | .ok (.diagnostics report) =>
      exact ih (h.reported hpossible.1 (h.took hpossible.2))
    | .ok (.meters metrics) => exact ih ((h.took hpossible.2).asks rfl)
    | .timeout => exact ih h
    | .disconnected => exact failPendingTrayActions_obeys rfl

end Functions

/-- So does the whole of it. -/
theorem trayControlLoop_obeys (fuel : ℕ) :
    (trayControlLoop fuel).Obeys attributing (fun _ _ => True) Traffic.start := by
  refine .call trivial fun sent _ => ?_
  cases sent with
  | true => exact trayRounds_obeys fuel trivial
  | false => exact ⟨trivial, fun _ _ => trivial⟩

/-! ## Its runs

The discipline holds along every run, so an attribution in a run is to the request that was
answered.
-/

/-- What is unanswered begins with what it is. -/
theorem Asks.ownFirst {s : Traffic} {pending : Option PendingTrayAction} (h : Asks s pending) :
    OwnFirst s pending := by
  match pending with
  | none | some (.startup _) => trivial
  | some .toggle => exact h.imp fun _ => congrArg List.head?
  | some (.stop ..) => exact congrArg List.head? h

/-- What the loop is allowed attributes each response. -/
theorem attributed_of_allowed {o : TrayOp} {s : Traffic} (h : attributing.allowed o s) (r : o.Res) :
    Attributed o r s := by
  match o, r with
  | .response pending, .ok response => exact fun _ => Asks.ownFirst h
  | .reply reply value, _ => exact h
  | .response _, .timeout | .response _, .disconnected => trivial
  | .tryRecv, _ | .active, _ | .setActive _, _ | .setBusy _, _ | .storeBusy _, _
  | .request .., _ | .initialized _, _ => trivial

/-- **Whose response ends an action.**  In every run of the loop against such a worker where the
    session's start, when it ends, leaves no request unanswered: a completing response that is
    looked for while a toggle or a stop is pending answers a request that this action sent; a stop's
    caller is told that it succeeded only when the response to its own request reported the daemon
    inactive, and that it failed only after its own response or when the worker has gone. -/
theorem tray_attributed_when {fuel : ℕ} {calls : List ((o : TrayOp) × o.Res)}
    {rest : TrayProg Unit} (h : (trayControlLoop fuel).Performs calls rest)
    (hserves : attributing.Along Serves Traffic.start calls)
    (hsettles : attributing.Along Settles Traffic.start calls) :
    attributing.Along Attributed Traffic.start calls :=
  ((trayControlLoop_obeys fuel).performs h (hserves.and hsettles)).1.mono fun _ r _ hallowed =>
    attributed_of_allowed hallowed r

/-- A state of the daemon, active or not. -/
def shownSnapshot (active : Bool) : Snapshot where
  schemaVersion := 1
  apiVersion := "1.0"
  buildVersion := "0.1.0"
  revision := 1
  deviceRevision := 1
  state := if active then "running" else "stopped"
  active
  launchAtLogin := false
  inputMode := "default"
  inputStableId := ""
  inputDisplayName := ""
  channel := "auto"
  fallbackToDefault := true
  sourceNodeName := "io.github.rayan6ms.Noire.Microphone"
  latencyProfile := "low"
  suppressionEnabled := true
  strength := .fiftyFivePercent
  failMode := "closed"
  modelId := ""
  modelDelaySamples := 0
  pipewireVersion := ""
  uptimeMillis := 0
  hasError := false
  lastError := {}
  metrics := {}

/-- A session that starts without noise reduction, and then a stop. -/
def settledRun : List ((o : TrayOp) × o.Res) :=
  [⟨.request none .refresh, true⟩, ⟨.tryRecv, none⟩,
    ⟨.response (some (.startup false)),
      Received.ok (.state (shownSnapshot false) [] false true true)⟩,
    ⟨.setActive false, ()⟩, ⟨.initialized true, ()⟩, ⟨.storeBusy false, ()⟩, ⟨.setBusy false, ()⟩,
    ⟨.tryRecv, some (.stopAndShutdown 0)⟩, ⟨.tryRecv, none⟩,
    ⟨.storeBusy true, ()⟩, ⟨.setBusy true, ()⟩, ⟨.request none (.setActive false), true⟩,
    ⟨.response (some (.stop 0 1)), Received.ok (.state (shownSnapshot false) [] false false true)⟩,
    ⟨.setActive false, ()⟩, ⟨.reply 0 true, ()⟩]

theorem settledRun_performs : ∃ rest, (trayControlLoop 5).Performs settledRun rest :=
  ⟨_, .op (.op (.op (.op (.op (.op (.op (.op (.op (.op (.op (.op (.op (.op (.op
    (.nil _)))))))))))))))⟩

theorem tray_attributed_when_settledRun :
    attributing.Along Attributed Traffic.start settledRun := by
  obtain ⟨rest, h⟩ := settledRun_performs
  refine tray_attributed_when h ?_ ?_
  · simp [settledRun, Discipline.Along, Serves, attributing, Traffic.next, Traffic.start,
      Traffic.left, Response.completing, Request.Suits]
  · simp [settledRun, Discipline.Along, Settles, attributing, Traffic.next, Traffic.start,
      Traffic.left, Response.completing, endsStartup]

/-! ## What an unsettled start leads to

From a start that ends with a request unanswered, a run is built that goes wrong: a stop is asked
for next, and the worker answers the start's request.
-/

/-- Some run of the program, against such a worker, attributes a response to an action that has
    not sent its request. -/
def Misattributes (p : TrayProg Unit) (s : Traffic) : Prop :=
  ∃ calls rest, p.Performs calls rest ∧ attributing.Along Serves s calls ∧
    ¬attributing.Along Attributed s calls

theorem Misattributes.op {s : Traffic} {o : TrayOp} {next : o.Res → TrayProg Unit} (r : o.Res)
    (hserves : Serves o r s) (h : Misattributes (next r) (Traffic.next o r s)) :
    Misattributes (.op o next) s := by
  obtain ⟨calls, rest, hperforms, hcalls, hnot⟩ := h
  exact ⟨_, rest, .op hperforms, ⟨hserves, hcalls⟩, fun hattributed => hnot hattributed.2⟩

/-- The response that begins it. -/
theorem Misattributes.here {s : Traffic} {pending : Option PendingTrayAction} {response : Response}
    {next : Received → TrayProg Unit}
    (hserves : Serves (.response pending) (Received.ok response) s)
    (hnot : ¬Attributed (.response pending) (Received.ok response) s) :
    Misattributes (.op (.response pending) next) s :=
  ⟨[⟨.response pending, Received.ok response⟩], _, .op (.nil _), ⟨hserves, trivial⟩,
    fun hattributed => hnot hattributed.1⟩

/-- A stop that finds a request of an earlier action unanswered takes its response. -/
theorem misattributes_of_leftover (fuel : ℕ) {s : Traffic} (hopen : s.closed = false)
    {entry : Request × ℕ} {more : List (Request × ℕ)} (hleft : s.unanswered = entry :: more)
    (hentry : entry.2 ≤ s.action) : Misattributes (trayRounds (fuel + 3) none none) s := by
  refine .op (some (.stopAndShutdown 0)) trivial (.op none trivial ?_)
  refine .op () trivial (.op () trivial (.op true (fun _ => hopen) ?_))
  -- The leftover is rejected, as any request may be.
  have hhead : (s.unanswered ++ [(Request.setActive false, s.action + 1)]).head? = some entry := by
    rw [hleft]
    rfl
  have hserves : (rejected daemonUnavailable true).completing = true → ∃ entry,
      (s.unanswered ++ [(Request.setActive false, s.action + 1)]).head? = some entry ∧
        entry.1.Suits (rejected daemonUnavailable true) :=
    fun _ => ⟨entry, hhead, suits_rejected ..⟩
  refine .here hserves fun hattributed => ?_
  have hown : some entry = some (Request.setActive false, s.action + 1) :=
    hhead.symm.trans (hattributed rfl)
  cases hown
  omega

/-- Where the session's start ends with a request unanswered, and the worker is still there, a stop
    takes the response to it. -/
theorem misattributes_of_unsettled (fuel : ℕ) {s : Traffic} {requested : Bool}
    {response : Response} (hends : endsStartup (some (.startup requested)) response = true)
    (hserves : Serves (.response (some (.startup requested))) (Received.ok response) s)
    (hopen : s.closed = false) (hleft : s.left response ≠ [])
    (hnumbered : ∀ entry ∈ s.unanswered, entry.2 ≤ s.action) :
    Misattributes (trayRounds (fuel + 4) (some (.startup requested)) none) s := by
  refine .op none trivial (.op (.ok response) hserves ?_)
  -- The tray is done with the startup, but an answer to it is still on its way.
  have hrest : Misattributes (trayRounds (fuel + 3) none none)
      (Traffic.next (.response (some (.startup requested))) (Received.ok response) s) := by
    obtain ⟨entry, more, hentries⟩ := List.exists_cons_of_ne_nil hleft
    refine misattributes_of_leftover fuel hopen hentries (hnumbered entry ?_)
    have hmem : entry ∈ s.left response := hentries ▸ List.mem_cons_self
    rw [Traffic.left] at hmem
    split at hmem
    · exact List.mem_of_mem_tail hmem
    · exact hmem
  -- The response ends the startup by a state or by a rejection.
  cases response with
  | state snapshot inputs start isRefresh complete =>
    have hsync : startupSyncAction (some (.startup requested)) snapshot.active start = .ready :=
      of_decide_eq_true hends
    refine .op () trivial ?_
    show Misattributes ((match startupSyncAction (some (.startup requested)) snapshot.active start
      with | .activate => _ | .ready => _ | .notStarting => _ | .waiting => _) >>= _) _
    rw [hsync]
    exact .op () trivial (.op () trivial (.op () trivial hrest))
  | rejected error recovered complete =>
    have hcomplete : complete = true := (Bool.and_eq_true_iff.mp hends).1
    subst hcomplete
    cases recovered with
    | none => exact .op () trivial (.op () trivial (.op () trivial hrest))
    | some _ => exact .op () trivial (.op () trivial (.op () trivial (.op () trivial hrest)))
  | diagnostics report => cases hends
  | meters metrics => cases hends

/-- Another client turns noise reduction on while the session's start asks for it, and off again:
    the start ends by the signal, and the stop that follows takes the rejection of the start's own
    request, though its own is still to be answered. -/
def leftoverRun : List ((o : TrayOp) × o.Res) :=
  [⟨.request none .refresh, true⟩, ⟨.tryRecv, none⟩,
    ⟨.response (some (.startup false)),
      Received.ok (.state (shownSnapshot false) [] true true true)⟩,
    ⟨.setActive false, ()⟩, ⟨.request (some (.startup true)) (.setActive true), true⟩,
    ⟨.tryRecv, none⟩,
    ⟨.response (some (.startup true)),
      Received.ok (.state (shownSnapshot true) [] true true false)⟩,
    ⟨.setActive true, ()⟩, ⟨.initialized true, ()⟩, ⟨.storeBusy false, ()⟩, ⟨.setBusy false, ()⟩,
    ⟨.tryRecv, some (.stopAndShutdown 0)⟩, ⟨.tryRecv, none⟩,
    ⟨.storeBusy true, ()⟩, ⟨.setBusy true, ()⟩, ⟨.request none (.setActive false), true⟩,
    ⟨.response (some (.stop 0 1)), Received.ok (.rejected (mutationErrorCopy "Error.Conflict")
      (some (shownSnapshot false, [])) true)⟩,
    ⟨.setActive false, ()⟩, ⟨.reply 0 true, ()⟩]

theorem leftover_misattributed : (∃ rest, (trayControlLoop 5).Performs leftoverRun rest) ∧
    attributing.Along Serves Traffic.start leftoverRun ∧
    ¬attributing.Along Attributed Traffic.start leftoverRun := by
  refine ⟨⟨_, .op (.op (.op (.op (.op (.op (.op (.op (.op (.op (.op (.op (.op (.op (.op (.op (.op
    (.op (.op (.nil _)))))))))))))))))))⟩, ?_, ?_⟩
  · simp [leftoverRun, Discipline.Along, Serves, attributing, Traffic.next, Traffic.start,
      Traffic.left, Response.completing, Request.Suits]
  · simp [leftoverRun, Discipline.Along, Attributed, OwnFirst, attributing, Traffic.next,
      Traffic.start, Traffic.left, Response.completing]

end Noire.Ui
