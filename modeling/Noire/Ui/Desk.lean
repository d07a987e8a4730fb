import Mathlib.Data.List.Forall2
import Noire.Lib.Run
import Noire.Ui.Replies
import Noire.Ui.Tray
import Noire.Ui.Window

namespace Noire.Ui

/-!
# The window and its worker

The window of `app.rs` and the worker of `client.rs` at the two ends of their channels: whatever the
user clicks, whatever the bus and the daemon return and whenever the worker, the tray and the timer
of the window move, for as long as the window is open.

* `Desk` — the window, the worker, what is in their channels, and what has happened so far;
* `Desk.step` — one event: a click, one response of `drain_responses`, the end of its loop, an
  operation of the worker;
* `Desk.Books` — what every event keeps;
* `window_accounts` — the window counts its requests exactly, asks for one change at a time, and
  locks its controls just as long as it waits;
* `window_current` — the state that it keeps is what the daemon said, and at rest what the daemon
  said last.

The books have two sides.  `Works` is what the worker keeps: it obeys the discipline of
`Ui/Worker.lean` and that of `Ui/Replies.lean`, and every completing response that it sent is in
the channel or was seen.  An operation of the worker changes this side only, and the worker's
theorem is used through its run so far.  `Counts` is what the window keeps: its count of
outstanding requests is the number of those that no response was seen to, one change at most is
among them, and the controls are locked while it is.  A click and a response change this side
only, except for the ends of the two channels.

What ties the sides together is `sent`: what the worker has received, followed by what is in the
channel.  A click adds to its end, and an operation of the worker leaves it (`Works.sent_work`).
The completing responses that were seen, followed by those in the channel, are those that the
worker sent.  So the order of the responses, which is the worker's, is the order in which the window
sees them, and what it waits for is what is left of `sent` after as many as it has seen.
-/

open Lib (Prog Discipline Run Free)

/-! ## The system

The window and the worker with the two channels between them, and everything each of them has
said.
-/

/-- The window, whether it is in the loop of `drain_responses`, the responses in the channel, and
    what is left of the worker; with the operations of the worker and the responses of the window
    so far. -/
structure Desk where
  window : Window
  draining : Bool
  responses : List Response
  worker : WorkerProg Unit
  calls : List WorkerCall
  drained : List Response

/-- What may happen next.  The bus, the daemon and the timers answer an operation of the worker. -/
inductive DeskEvent
  | act (gesture : Gesture) (now : ℕ)
  | tray (tray : TrayShared)
  | take (now : ℕ)
  | settle (now : ℕ)
  | expire (now : ℕ)
  | work (answers : (o : WorkerOp) → o.Res)
  /-- A worker that has returned drops its ends of the channels. -/
  | exit

/-- A request is taken from the channel, whose sender is there. -/
def takeRequest (request : Option Request) (requests : List Request) (responses : List Response) :
    Option (List Request × List Response) :=
  match request, requests with
  | some asked, head :: rest => if asked = head then some (rest, responses) else none
  | _, _ => none

/-- What an operation makes of the channels, if it can be performed and return this: a `send` waits
    for a place, and `trySend` drops what finds none. -/
def WorkerOp.exchange : (o : WorkerOp) → o.Res → List Request → List Response →
    Option (List Request × List Response)
  | .recv, (request : Option Request), requests, responses =>
    takeRequest request requests responses
  | .sleep _, (.request request : Wakeup), requests, responses =>
    takeRequest request requests responses
  | .select _, (.request request : Selected), requests, responses =>
    takeRequest request requests responses
  | .send response, (listening : Bool), requests, responses =>
    if listening && responses.length < channelCapacity then some (requests, responses ++ [response])
    else none
  | .trySend response, (listening : Bool), requests, responses =>
    if listening then
      some (requests,
        if responses.length < channelCapacity then responses ++ [response] else responses)
    else none
  | _, _, requests, responses => some (requests, responses)

namespace Desk

/-- A window that was just opened. -/
def start (spawned : Spawned) (subscribeToMeters : Bool) (fuel : ℕ) (initialActive : Bool)
    (tray : TrayShared) (now : ℕ) : Desk where
  window := .new initialActive tray (spawned = .threadUnavailable) now
  draining := false
  responses := if spawned = .threadUnavailable then [threadUnavailable] else []
  worker := workerThread spawned subscribeToMeters fuel
  calls := []
  drained := []

/-- An operation of the worker. -/
def work (d : Desk) (answers : (o : WorkerOp) → o.Res) : Option Desk :=
  match d.worker with
  | .op o next =>
    (o.exchange (answers o) d.window.requests d.responses).map fun (requests, responses) =>
      { d with
        window := { d.window with requests }
        responses
        worker := next (answers o)
        calls := d.calls ++ [⟨o, answers o⟩] }
  | .pure _ | .stuck => none

/-- One event.  The user and the timer of the toast come between two calls of `drain_responses`. -/
def step (d : Desk) : DeskEvent → Option Desk
  | .act gesture now =>
    if d.draining then none else some { d with window := d.window.act now gesture }
  | .tray tray => some { d with window.tray := tray }
  | .take now =>
    match d.responses with
    | response :: responses => some { d with
        window := d.window.receive now response
        draining := true
        responses
        drained := d.drained ++ [response] }
    | [] => none
  | .settle now =>
    if d.responses = [] then some { d with window := d.window.settle now, draining := false }
    else none
  | .expire now =>
    if d.draining then none else some { d with window.view := d.window.view.expireToast now }
  | .work answers => d.work answers
  | .exit =>
    match d.worker with
    | .pure _ => some { d with window := { d.window with requests := [], closed := true } }
    | .op .. | .stuck => none

/-! ## What is counted

The books: requests that were sent, answers that were seen, and what is on its way.
-/

/-- The requests that the window sent. -/
def sent (d : Desk) : List Request := receipts d.calls ++ d.window.requests

/-- The responses to requests that the window has seen. -/
def answers (d : Desk) : List Response := d.drained.filter Response.completing

/-- The requests that the window has seen no response to. -/
def waiting (d : Desk) : List Request := d.sent.drop d.answers.length

/-- What the window was told by these responses. -/
def toldBy (responses : List Response) : Option (Snapshot × List InputDescriptor) :=
  responses.foldl (fun told response => response.tells told) none

/-- What the daemon said last in these operations. -/
def saidIn (calls : List WorkerCall) : Option (Snapshot × List InputDescriptor) :=
  calls.foldl (fun last call => call.1.speech call.2 last) none

/-- A snapshot without its meters. -/
def settings (snapshot : Snapshot) : Snapshot := { snapshot with metrics := {} }

/-- The state shows this, but for the meters. -/
structure Shows (s : UiState) (told : Option (Snapshot × List InputDescriptor)) : Prop where
  snapshot : s.snapshot.map settings = told.map (settings ·.1)
  inputs : s.inputs = (told.map Prod.snd).getD []

end Desk

/-! ## What an operation does to the channels

The channel of the requests loses what is received, and that of the responses gains what is sent.
No operation does both.
-/

section Exchange

variable {o : WorkerOp} {r : o.Res} {requests requests' : List Request}
  {responses responses' : List Response}

theorem takeRequest_eq_some {request : Option Request}
    (h : takeRequest request requests responses = some (requests', responses')) :
    ∃ asked, request = some asked ∧ requests = asked :: requests' ∧ responses' = responses := by
  unfold takeRequest at h
  split at h
  · rename_i asked head rest
    split at h
    · rename_i hasked
      cases h
      exact ⟨asked, rfl, by rw [hasked], rfl⟩
    · cases h
  · cases h

/-- A request that is taken is received, and is none that ends the worker. -/
theorem takeRequest_received {request : Option Request}
    (h : takeRequest request requests responses = some (requests', responses'))
    (hshutdown : ∀ asked ∈ requests, asked ≠ .shutdown) :
    (∃ asked, request = some asked ∧ asked ≠ .shutdown) ∧
      requests = (request.filter (· ≠ .shutdown)).toList ++ requests' := by
  obtain ⟨asked, rfl, rfl, -⟩ := takeRequest_eq_some h
  have hasked : asked ≠ .shutdown := hshutdown asked List.mem_cons_self
  exact ⟨⟨asked, rfl, hasked⟩, by simp [Option.filter, hasked]⟩

/-- What an operation takes from the requests is what it receives, and it returns what it may while
    the window is open. -/
theorem exchange_requests (h : o.exchange r requests responses = some (requests', responses'))
    (hshutdown : ∀ asked ∈ requests, asked ≠ .shutdown) :
    WhileOpen o r ∧ requests = (o.receipt r).toList ++ requests' := by
  cases o with
  | recv => exact takeRequest_received h hshutdown
  | sleep millis => cases (r : Wakeup) with
    | request request => exact takeRequest_received h hshutdown
    | elapsed =>
      cases h
      exact ⟨trivial, rfl⟩
  | select meters => cases (r : Selected) with
    | request request => exact takeRequest_received h hshutdown
    | _ =>
      cases h
      exact ⟨trivial, rfl⟩
  -- Sending takes nothing off the requests.
  | send response =>
    obtain ⟨hsent, heq⟩ := Option.ite_none_right_eq_some.mp h
    cases heq
    exact ⟨(Bool.and_eq_true_iff.mp hsent).1, rfl⟩
  | trySend response =>
    obtain ⟨hlistening, heq⟩ := Option.ite_none_right_eq_some.mp h
    cases heq
    exact ⟨hlistening, rfl⟩
  | _ =>
    cases h
    exact ⟨trivial, rfl⟩

/-- An operation leaves the responses as they are, or puts its own at their end. -/
theorem exchange_responses (h : o.exchange r requests responses = some (requests', responses')) :
    (responses' = responses ∧ ¬∃ response, o = .send response) ∨
    ∃ response, (o = .send response ∨ o = .trySend response) ∧
      responses.length < channelCapacity ∧ responses' = responses ++ [response] := by
  cases o with
  -- The calls that wait for a request send nothing.
  | recv =>
    obtain ⟨-, -, -, rfl⟩ := takeRequest_eq_some h
    exact .inl ⟨rfl, by rintro ⟨_, ⟨⟩⟩⟩
  | sleep millis => cases (r : Wakeup) with
    | request request =>
      obtain ⟨-, -, -, rfl⟩ := takeRequest_eq_some h
      exact .inl ⟨rfl, by rintro ⟨_, ⟨⟩⟩⟩
    | elapsed =>
      cases h
      exact .inl ⟨rfl, by rintro ⟨_, ⟨⟩⟩⟩
  | select meters => cases (r : Selected) with
    | request request =>
      obtain ⟨-, -, -, rfl⟩ := takeRequest_eq_some h
      exact .inl ⟨rfl, by rintro ⟨_, ⟨⟩⟩⟩
    | _ =>
      cases h
      exact .inl ⟨rfl, by rintro ⟨_, ⟨⟩⟩⟩
  | send response =>
    obtain ⟨hsent, heq⟩ := Option.ite_none_right_eq_some.mp h
    cases heq
    exact .inr ⟨response, .inl rfl, of_decide_eq_true (Bool.and_eq_true_iff.mp hsent).2, rfl⟩
  | trySend response =>
    obtain ⟨-, heq⟩ := Option.ite_none_right_eq_some.mp h
    cases heq
    split
    · -- there is room: the response is queued; else it is dropped
      exact .inr ⟨response, .inr rfl, ‹_›, rfl⟩
    · exact .inl ⟨rfl, by rintro ⟨_, ⟨⟩⟩⟩
  | _ =>
    cases h
    exact .inl ⟨rfl, by rintro ⟨_, ⟨⟩⟩⟩

/-- But for the meters, what is not sent completes nothing. -/
theorem completion_eq_none {s : Report} (hallowed : reporting.allowed o s)
    (hsend : ¬∃ response, o = .send response) : o.completion = none := by
  cases o with
  | send response => exact absurd ⟨response, rfl⟩ hsend
  | trySend response =>
    obtain ⟨metrics, rfl⟩ := hallowed
    rfl
  | _ => rfl

/-- But for the meters, what is not sent tells nothing. -/
theorem next_told {s : Report} (hsend : ¬∃ response, o = .send response) :
    (reporting.next o r s).told = s.told := by
  cases o with
  | send response => exact absurd ⟨response, rfl⟩ hsend
  | _ => rfl

end Exchange

namespace Desk

/-! ## What the worker keeps

The disciplines are followed along `calls`, the operations performed so far; the rest of the
program obeys them from the state that these have led to.
-/

/-- What the response tells is what the daemon had said last at some time. -/
def Genuine (calls : List WorkerCall) (response : Response) : Prop :=
  ∀ told, response.tells none = some told → ∃ before, before <+: calls ∧ saidIn before = some told

theorem Genuine.more {calls : List WorkerCall} {response : Response} (h : Genuine calls response)
    (more : List WorkerCall) : Genuine (calls ++ more) response := by
  intro told htold
  obtain ⟨before, hbefore, hsaid⟩ := h told htold
  exact ⟨before, hbefore.trans (List.prefix_append calls more), hsaid⟩

/-- The worker keeps its disciplines, and its responses are on their way or were seen. -/
structure Works (spawned : Spawned) (d : Desk) : Prop where
  answers : d.worker.Obeys answering (fun _ owed => owed = none) (answering.after none d.calls)
  kept : answering.Kept none d.calls
  reports : d.worker.Obeys reporting (fun _ s => spawned ≠ .running ∧ s.reading = .nothing)
    (reporting.after .start d.calls)
  current : (reporting.after .start d.calls).Current
  said : (reporting.after .start d.calls).last = saidIn d.calls
  told : toldBy (d.drained ++ d.responses) = (reporting.after .start d.calls).told
  genuine : ∀ response ∈ d.drained ++ d.responses, Genuine d.calls response
  completed : (d.drained ++ d.responses).filter Response.completing = completions d.calls
  shutdown : ∀ request ∈ d.window.requests, request ≠ .shutdown
  room : d.responses.length ≤ channelCapacity
  gone : d.window.closed = true → spawned ≠ .running

section Working

variable {spawned : Spawned} {d d' : Desk} {answers : (o : WorkerOp) → o.Res}

/-- What an operation of the worker does. -/
theorem work_eq_some (h : d.work answers = some d') : ∃ o next requests responses,
    d.worker = .op o next ∧
    o.exchange (answers o) d.window.requests d.responses = some (requests, responses) ∧
    d' = { d with
      window := { d.window with requests }
      responses
      worker := next (answers o)
      calls := d.calls ++ [⟨o, answers o⟩] } := by
  unfold work at h
  split at h
  · rename_i o next hworker
    obtain ⟨⟨requests, responses⟩, hexchange, rfl⟩ := Option.map_eq_some_iff.mp h
    exact ⟨o, next, requests, responses, hworker, hexchange, rfl⟩
  · cases h
  · cases h

theorem toldBy_append (responses : List Response) (response : Response) :
    toldBy (responses ++ [response]) = response.tells (toldBy responses) := by
  simp [toldBy]

theorem saidIn_append (calls : List WorkerCall) (o : WorkerOp) (r : o.Res) :
    saidIn (calls ++ [⟨o, r⟩]) = o.speech r (saidIn calls) := by
  simp [saidIn]

theorem receipts_append (calls : List WorkerCall) (o : WorkerOp) (r : o.Res) :
    receipts (calls ++ [⟨o, r⟩]) = receipts calls ++ (o.receipt r).toList := by
  cases h : o.receipt r <;> simp [receipts, h]

theorem completions_append (calls : List WorkerCall) (o : WorkerOp) (r : o.Res) :
    completions (calls ++ [⟨o, r⟩]) = completions calls ++ o.completion.toList := by
  cases h : o.completion <;> simp [completions, h]

/-- What is sent is genuine. -/
theorem Works.genuine_sent (h : Works spawned d) {response : Response}
    (hcovers : (reporting.after Report.start d.calls).reading.Covers response) :
    Genuine d.calls response := by
  intro told htold
  have hcurrent : Report.Current { reporting.after Report.start d.calls with told := none } := by
    have hnow := h.current
    unfold Report.Current at hnow ⊢
    split
    · exact .inl rfl
    all_goals simp_all
  obtain hnone | hlast := hcurrent.sent hcovers fun _ => .inl rfl
  · cases hnone.symm.trans htold
  · exact ⟨d.calls, List.prefix_rfl, h.said.symm.trans (hlast.symm.trans htold)⟩

/-- **An operation of the worker** keeps what the worker keeps. -/
theorem Works.work (h : Works spawned d) (hwork : d.work answers = some d') : Works spawned d' := by
  obtain ⟨o, next, requests, responses, hworker, hexchange, rfl⟩ := work_eq_some hwork
  have hanswers := h.answers
  have hreports := h.reports
  rw [hworker] at hanswers hreports
  obtain ⟨hpossible, hrequests⟩ := exchange_requests hexchange h.shutdown
  have hallowed : reporting.allowed o (reporting.after .start d.calls) := hreports.1
  -- Where the disciplines are after it.
  have hafter : answering.after none (d.calls ++ [⟨o, answers o⟩]) =
      answering.next o (answers o) (answering.after none d.calls) := answering.after_append ..
  have hreport : reporting.after .start (d.calls ++ [⟨o, answers o⟩]) =
      reporting.next o (answers o) (reporting.after .start d.calls) := reporting.after_append ..
  refine
    { answers := by
        rw [hafter]
        exact hanswers.2 _ trivial
      kept := h.kept.append ⟨hanswers.1, trivial⟩
      reports := by
        rw [hreport]
        exact hreports.2 _ hpossible
      current := by
        rw [hreport]
        exact h.current.next hallowed _
      said := by
        rw [hreport, saidIn_append, ← h.said]
        rfl
      told := ?_
      genuine := ?_
      completed := ?_
      shutdown := fun request hrequest => h.shutdown request
        (by rw [hrequests]; exact List.mem_append_right _ hrequest)
      room := ?_
      gone := h.gone }
  all_goals
    obtain ⟨rfl, hsend⟩ | ⟨response, hresponse, hroom, rfl⟩ := exchange_responses hexchange
  -- What is told.
  · rw [hreport, next_told hsend]
    exact h.told
  · show toldBy (d.drained ++ (d.responses ++ [response])) = _
    rw [hreport, ← List.append_assoc, toldBy_append, h.told]
    obtain rfl | rfl := hresponse
    · rfl
    · obtain ⟨metrics, rfl⟩ := hallowed
      rfl
  -- What is genuine.
  · exact fun response hmem => (h.genuine response hmem).more _
  · intro response' hmem
    have hmem' : response' ∈ (d.drained ++ d.responses) ++ [response] := by
      rwa [List.append_assoc]
    obtain hold | hnew := List.mem_append.mp hmem'
    · exact (h.genuine response' hold).more _
    · obtain rfl := List.mem_singleton.mp hnew
      obtain rfl | rfl := hresponse
      · exact (h.genuine_sent hallowed).more _
      · obtain ⟨metrics, rfl⟩ := hallowed
        rintro _ ⟨⟩
  -- What is completed.
  · rw [completions_append, completion_eq_none hallowed hsend]
    exact h.completed.trans (List.append_nil _).symm
  · show (d.drained ++ (d.responses ++ [response])).filter _ = _
    rw [completions_append, ← List.append_assoc, List.filter_append, h.completed]
    congr 1
    obtain rfl | rfl := hresponse <;>
      cases hcompleting : response.completing <;> simp [WorkerOp.completion, hcompleting]
  -- What there is room for.
  · exact h.room
  · show (d.responses ++ [response]).length ≤ _
    rw [List.length_append, List.length_singleton]
    exact hroom

/-- The worker's receipts and the channel together are what was sent, however far it is. -/
theorem Works.sent_work (h : Works spawned d) (hwork : d.work answers = some d') :
    d'.sent = d.sent := by
  obtain ⟨o, next, requests, responses, -, hexchange, rfl⟩ := work_eq_some hwork
  obtain ⟨-, hrequests⟩ := exchange_requests hexchange h.shutdown
  show receipts (d.calls ++ [⟨o, answers o⟩]) ++ requests = receipts d.calls ++ d.window.requests
  rw [receipts_append, List.append_assoc, ← hrequests]

/-- The responses that the window has seen answer the requests that were sent first. -/
theorem Works.answered (h : Works spawned d) : ∃ answered more,
    d.sent = answered ++ more ∧ List.Forall₂ Request.Suits answered d.answers ∧
      more.length ≤ (d.responses.filter Response.completing).length + 1 + d.window.requests.length ∧
      (Resting d.worker → d.window.requests = [] → d.responses = [] → more = []) ∧
      (d.responses.filter Response.completing).length ≤ more.length := by
  obtain ⟨answered, hanswered, hsuits⟩ := kept_answered h.kept
  rw [← h.completed, List.filter_append] at hsuits
  have hseen : List.Forall₂ Request.Suits (answered.take d.answers.length) d.answers :=
    List.forall₂_take_append _ _ _ hsuits
  -- What is answered splits into the answers that were seen and those on their way.
  have hlength : (answered.drop d.answers.length).length =
      (d.responses.filter Response.completing).length :=
    (List.forall₂_drop_append _ _ _ hsuits).length_eq
  have hsplit := List.take_append_drop d.answers.length answered
  generalize answered.take d.answers.length = seen at hseen hsplit
  generalize answered.drop d.answers.length = coming at hlength hsplit
  subst hsplit
  refine ⟨seen, coming ++ ((answering.after none d.calls).map Prod.fst).toList ++ d.window.requests,
    ?_, hseen, ?_, fun hresting hrequests hresponses => ?_, ?_⟩
  · have hreceipts : receipts d.calls =
        seen ++ coming ++ ((answering.after none d.calls).map Prod.fst).toList := hanswered
    simp only [sent, hreceipts, List.append_assoc]
  · -- at most one request is with the worker
    have howed : ((answering.after none d.calls).map Prod.fst).toList.length ≤ 1 := by
      cases answering.after none d.calls <;> simp
    simp only [List.length_append]
    omega
  · -- a worker at rest has none
    rw [hresting.owes_none h.answers, hrequests]
    rw [hresponses] at hlength
    simpa using hlength
  · simp only [List.length_append]
    omega

end Working

/-! ## What the window keeps

In the loop of `drain_responses` the lock is not what it should be: a response that is shown unlocks
the controls, whatever else is waited for, and the end of the loop sets the lock from the count.  So
`locked` and `useful` are said of the states between two loops only.
-/

/-- What the window keeps while its worker is there. -/
structure Counts (d : Desk) : Prop where
  room : d.window.requests.length ≤ channelCapacity
  counted : d.window.view.outstanding + d.answers.length = d.sent.length
  single : (d.waiting.filter Request.changes).length ≤ 1
  locked : d.draining = false → d.window.view.state.requestPending = false →
    d.waiting.filter Request.changes = []
  useful : d.draining = false → d.window.view.state.requestPending = true → d.waiting ≠ []
  shown : Shows d.window.view.state (toldBy d.drained)
  hinted : d.drained.any Response.speaks = true → d.window.view.optimisticActive = none

/-- What every event keeps. -/
structure Books (spawned : Spawned) (d : Desk) : Prop where
  works : Works spawned d
  counts : d.window.closed = false → Counts d

section Counting

variable {spawned : Spawned} {d d' : Desk}

theorem Counts.waiting_length (h : Counts d) :
    d.waiting.length = d.window.view.outstanding := by
  have hcounted := h.counted
  rw [waiting, List.length_drop]
  omega

/-- The window counts no more than what fits into the channels and the worker's hand. -/
theorem Books.outstanding_le (h : Works spawned d) (hcounts : Counts d) :
    d.window.view.outstanding ≤ 2 * channelCapacity + 1 := by
  obtain ⟨answered, more, hsent, hsuits, hmore, -⟩ := h.answered
  have hfilter := List.length_filter_le Response.completing d.responses
  have hlength := hsuits.length_eq
  have hcounted := hcounts.counted
  rw [hsent, List.length_append, hlength] at hcounted
  have hroom := h.room
  have hroom' := hcounts.room
  omega

/-- What the window does to its end of the channel is all that the worker sees of it. -/
theorem Works.window (h : Works spawned d) {w : Window}
    (hshutdown : ∀ request ∈ w.requests, request ≠ .shutdown)
    (hgone : w.closed = true → spawned ≠ .running) (draining : Bool) :
    Works spawned { d with window := w, draining } :=
  { h with shutdown := hshutdown, gone := hgone }

/-- What is counted is counted of the same requests and responses. -/
theorem Counts.congr (h : Counts d) (hroom : d'.window.requests.length ≤ channelCapacity)
    (hsent : d'.sent = d.sent) (hdrained : d'.drained = d.drained)
    (hdraining : d'.draining = d.draining) (hstate : d'.window.view.state = d.window.view.state)
    (hcount : d'.window.view.outstanding = d.window.view.outstanding)
    (hactive : d'.window.view.optimisticActive = d.window.view.optimisticActive) : Counts d' := by
  have hanswers : d'.answers = d.answers := congrArg (List.filter Response.completing) hdrained
  have hwaiting : d'.waiting = d.waiting := by rw [waiting, waiting, hsent, hanswers]
  exact
    { room := hroom
      counted := by rw [hcount, hanswers, hsent]; exact h.counted
      single := by rw [hwaiting]; exact h.single
      locked := by rw [hwaiting, hdraining, hstate]; exact h.locked
      useful := by rw [hwaiting, hdraining, hstate]; exact h.useful
      shown := by rw [hstate, hdrained]; exact h.shown
      hinted := by rw [hactive, hdrained]; exact h.hinted }

/-- What is pending is not shown. -/
theorem Shows.setRequestPending {s : UiState} {told : Option (Snapshot × List InputDescriptor)}
    (h : Shows s told) (pending : Bool) : Shows (s.setRequestPending pending) told :=
  ⟨h.snapshot, h.inputs⟩

/-- A request that is sent is one more to wait for. -/
theorem Books.sent (h : Works spawned d) (hcounts : Counts d) {w : Window} {request : Request}
    (hdraining : d.draining = false)
    (hchange : request.changes = true → d.window.view.state.requestPending = false)
    (hroom : d.window.requests.length < channelCapacity)
    (hrequests : w.requests = d.window.requests ++ [request])
    (hcount : w.view.outstanding = min (d.window.view.outstanding + 1) (2 ^ 32 - 1))
    (hstate : w.view.state = if request.changes then d.window.view.state.setRequestPending true
      else d.window.view.state)
    (hactive : w.view.optimisticActive = d.window.view.optimisticActive) :
    Counts { d with window := w } := by
  have hsent : Desk.sent { d with window := w } = d.sent ++ [request] := by
    simp only [Desk.sent, hrequests, List.append_assoc]
  have hle : d.answers.length ≤ d.sent.length := by
    have hcounted := hcounts.counted
    omega
  have hwaiting : Desk.waiting { d with window := w } = d.waiting ++ [request] := by
    rw [Desk.waiting, hsent]
    exact List.drop_append_of_le_length hle
  refine
    { room := by rw [hrequests, List.length_append]; exact hroom
      counted := ?_
      single := ?_
      locked := fun _ hpending => ?_
      useful := fun _ _ => by rw [hwaiting]; simp
      shown := ?_
      hinted := fun hspoken => hactive.trans (hcounts.hinted hspoken) }
  · -- the count does not reach the limit of its type, so it does not saturate
    have hbound := Books.outstanding_le h hcounts
    have hcounted := hcounts.counted
    have hcapacity : channelCapacity = 8 := rfl
    rw [hsent, List.length_append, List.length_singleton, ← hcounted]
    show w.view.outstanding + d.answers.length = _
    omega
  · rw [hwaiting, List.filter_append, List.length_append]
    cases hchanges : request.changes with
    | true =>
      -- A change is asked for while the controls are open, so there is none on its way.
      rw [hcounts.locked hdraining (hchange hchanges)]
      simp [hchanges]
    | false => simpa [hchanges] using hcounts.single
  · have hpending' : w.view.state.requestPending = false := hpending
    cases hchanges : request.changes with
    | true =>
      rw [hstate, hchanges] at hpending'
      cases hpending'
    | false =>
      rw [hstate, hchanges] at hpending'
      rw [hwaiting, List.filter_append, hcounts.locked hdraining hpending']
      simp [hchanges]
  · show Shows w.view.state _
    rw [hstate]
    split
    · exact hcounts.shown.setRequestPending true
    · exact hcounts.shown

/-- **A callback** keeps the books. -/
theorem Books.moved (h : Books spawned d) (hdraining : d.draining = false) {w : Window}
    (hmoved : d.window.Moved w) : Books spawned { d with window := w } := by
  have hworks := h.works
  -- The window sends nothing, or a request, or finds that the worker is gone.
  obtain ⟨hrequests, hclosed, hcount, hstate, hactive⟩ | ⟨request, hopen, hshutdown, hchange, hroom,
    hrequests, hclosed, hcount, hstate, hactive⟩ | ⟨hstopped, hrequests, hclosed, -⟩ :=
    hmoved
  · refine ⟨hworks.window (by rw [hrequests]; exact hworks.shutdown)
      (by rw [hclosed]; exact hworks.gone) d.draining, fun hopen => ?_⟩
    have hcounts := h.counts (hclosed.symm.trans hopen)
    exact hcounts.congr (by rw [hrequests]; exact hcounts.room)
      (by simp only [Desk.sent, hrequests]) rfl rfl hstate hcount hactive
  · refine ⟨hworks.window (fun asked hasked => ?_) (by rw [hclosed]; exact hworks.gone) d.draining,
      fun _ => ?_⟩
    · rw [hrequests] at hasked
      obtain hold | hnew := List.mem_append.mp hasked
      · exact hworks.shutdown asked hold
      · rwa [List.mem_singleton.mp hnew]
    · exact Books.sent hworks (h.counts hopen) hdraining hchange hroom hrequests hcount hstate
        hactive
  · refine ⟨hworks.window (by rw [hrequests]; exact hworks.shutdown)
      (by rw [hclosed]; exact hworks.gone) d.draining, fun hopen => ?_⟩
    rw [hclosed, hstopped] at hopen
    cases hopen

/-- What a response says is shown. -/
theorem Shows.follow {s : UiState} {told : Option (Snapshot × List InputDescriptor)}
    (h : Shows s told) (response : Response) : Shows (s.follow response) (response.tells told) := by
  cases response with
  | state snapshot inputs start refresh requestComplete =>
    simp only [UiState.follow]
    split <;> exact ⟨rfl, rfl⟩
  | rejected error recovered requestComplete => cases recovered <;> exact ⟨rfl, rfl⟩
  | diagnostics report => exact h
  | meters metrics =>
    refine ⟨?_, h.inputs⟩
    rw [Response.tells, ← h.snapshot]
    cases hsnapshot : s.snapshot <;>
      simp [UiState.follow, UiState.updateMetrics, hsnapshot, settings]

/-- **A response that is taken** keeps the books. -/
theorem Books.take (h : Books spawned d) {response : Response} {responses : List Response}
    (hresponses : d.responses = response :: responses) (now : ℕ) :
    Books spawned { d with
      window := d.window.receive now response
      draining := true
      responses
      drained := d.drained ++ [response] } := by
  have hworks := h.works
  have happend : (d.drained ++ [response]) ++ responses = d.drained ++ d.responses := by
    rw [hresponses, List.append_assoc, List.singleton_append]
  refine ⟨{ hworks with
      told := ?_, genuine := ?_, completed := ?_, shutdown := ?_, room := ?_, gone := ?_ },
    fun hopen => ?_⟩
  · exact (congrArg toldBy happend).trans hworks.told
  · show ∀ response' ∈ (d.drained ++ [response]) ++ responses, _
    rw [happend]
    exact hworks.genuine
  · exact (congrArg (List.filter Response.completing) happend).trans hworks.completed
  · show ∀ request ∈ (d.window.receive now response).requests, _
    rw [Window.receive_requests]
    exact hworks.shutdown
  · have hroom := hworks.room
    rw [hresponses] at hroom
    exact Nat.le_trans (Nat.le_succ _) hroom
  · show (d.window.receive now response).closed = true → _
    rw [Window.receive_closed]
    exact hworks.gone
  -- A response that completes a request was waited for.
  rw [Window.receive_closed] at hopen
  have hcounts := h.counts hopen
  have hanswers : (d.drained ++ [response]).filter Response.completing =
      d.answers ++ [response].filter Response.completing := List.filter_append ..
  have hone : ([response].filter Response.completing).length = response.completing.toNat := by
    cases hcompleting : response.completing <;> simp [hcompleting]
  -- Every answer on its way belongs to a request that was sent, and is not seen yet.
  obtain ⟨answered, more, hsent, hsuits, -, -, hmore⟩ := hworks.answered
  have hcounted := hcounts.counted
  have hle : response.completing.toNat ≤ d.window.view.outstanding := by
    have hlength := hsuits.length_eq
    rw [hsent, List.length_append, hlength] at hcounted
    rw [hresponses, ← List.singleton_append, List.filter_append, List.length_append, hone] at hmore
    omega
  have hsent' : Desk.sent { d with
      window := d.window.receive now response
      draining := true
      responses
      drained := d.drained ++ [response] } = d.sent := by
    simp only [Desk.sent, Window.receive_requests]
  -- So the first of those that wait is no longer among them.
  have hwaiting : Desk.waiting { d with
      window := d.window.receive now response
      draining := true
      responses
      drained := d.drained ++ [response] } = d.waiting.drop response.completing.toNat := by
    rw [Desk.waiting, hsent', Desk.waiting, List.drop_drop]
    congr 1
    rw [Desk.answers, hanswers, List.length_append, hone]
  refine
    { room := by rw [Window.receive_requests]; exact hcounts.room
      counted := ?_
      single := ?_
      locked := nofun
      useful := nofun
      shown := ?_
      hinted := fun hspoken => ?_ }
  · rw [hsent', Desk.answers, hanswers, List.length_append, hone, Window.receive_outstanding]
    omega
  · rw [hwaiting]
    exact Nat.le_trans ((List.drop_sublist _ _).filter _).length_le hcounts.single
  · show Shows (d.window.receive now response).view.state (toldBy (d.drained ++ [response]))
    rw [Window.receive_state, toldBy_append]
    exact hcounts.shown.follow response
  · -- the hint goes with the first response that is not quiet
    show (d.window.receive now response).view.optimisticActive = none
    rw [Window.receive_optimisticActive]
    split
    · rfl
    · rename_i hquiet
      refine hcounts.hinted ?_
      simpa [hquiet] using hspoken

/-- **The end of the loop** keeps the books: what is pending is what is waited for. -/
theorem Books.settle (h : Books spawned d) (now : ℕ) :
    Books spawned { d with window := d.window.settle now, draining := false } := by
  refine ⟨h.works.window (by rw [Window.settle_requests]; exact h.works.shutdown)
    (by rw [Window.settle_closed]; exact h.works.gone) false, fun hopen => ?_⟩
  rw [Window.settle_closed] at hopen
  have hcounts := h.counts hopen
  have hlength := hcounts.waiting_length
  have hsent : Desk.sent { d with window := d.window.settle now, draining := false } = d.sent := by
    simp only [Desk.sent, Window.settle_requests]
  have hwaiting : Desk.waiting { d with window := d.window.settle now, draining := false } =
      d.waiting := by
    rw [Desk.waiting, hsent]
    rfl
  have hpending : (d.window.settle now).view.state.requestPending =
      decide (0 < d.window.view.outstanding) := by
    rw [Window.settle_state _ _ hopen]
    rfl
  refine
    { room := by rw [Window.settle_requests]; exact hcounts.room
      counted := by rw [hsent, Window.settle_outstanding _ _ hopen]; exact hcounts.counted
      single := by rw [hwaiting]; exact hcounts.single
      locked := fun _ hidle => ?_
      useful := fun _ hbusy => ?_
      shown := ?_
      hinted := fun hspoken => ?_ }
  · -- unlocked: nothing is outstanding, so nothing is waited for
    rw [hpending, decide_eq_false_iff_not, Nat.pos_iff_ne_zero, not_not, ← hlength] at hidle
    rw [hwaiting, List.eq_nil_of_length_eq_zero hidle]
    rfl
  · -- locked: something is outstanding
    rw [hpending, decide_eq_true_eq, ← hlength] at hbusy
    rw [hwaiting]
    exact List.ne_nil_of_length_pos hbusy
  · show Shows (d.window.settle now).view.state _
    rw [Window.settle_state _ _ hopen]
    exact hcounts.shown.setRequestPending _
  · show (d.window.settle now).view.optimisticActive = none
    rw [Window.settle_optimisticActive _ _ hopen]
    exact hcounts.hinted hspoken

/-- **An operation of the worker** keeps the books. -/
theorem Books.work (h : Books spawned d) {answers : (o : WorkerOp) → o.Res}
    (hwork : d.work answers = some d') : Books spawned d' := by
  have hsent := h.works.sent_work hwork
  refine ⟨h.works.work hwork, fun hopen => ?_⟩
  obtain ⟨o, next, requests, responses, -, hexchange, rfl⟩ := work_eq_some hwork
  have hcounts := h.counts hopen
  have hroom := hcounts.room
  obtain ⟨-, hrequests⟩ := exchange_requests hexchange h.works.shutdown
  rw [hrequests, List.length_append] at hroom
  exact hcounts.congr (Nat.le_trans (Nat.le_add_left _ _) hroom) hsent rfl rfl rfl rfl rfl

/-- **A worker that is gone** leaves nothing to keep. -/
theorem Books.exit (h : Books spawned d) {u : Unit} (hworker : d.worker = .pure u) :
    Books spawned { d with window := { d.window with requests := [], closed := true } } := by
  have hreports := h.works.reports
  rw [hworker] at hreports
  refine ⟨h.works.window ?_ (fun _ => hreports.1) d.draining, nofun⟩
  exact fun _ hmem => absurd hmem List.not_mem_nil

/-- **Every event keeps the books.** -/
theorem Books.step (h : Books spawned d) {event : DeskEvent} (hstep : d.step event = some d') :
    Books spawned d' := by
  cases event with
  | act gesture now =>
    -- A click comes between two loops only.
    obtain ⟨hdraining, heq⟩ := Option.ite_none_left_eq_some.mp hstep
    cases heq
    exact h.moved (Bool.not_eq_true _ ▸ hdraining) (d.window.act_moved now gesture)
  -- The tray and the clock touch neither the requests nor the responses.
  | tray tray =>
    cases hstep
    exact ⟨{ h.works with }, fun hopen =>
      (h.counts hopen).congr (h.counts hopen).room rfl rfl rfl rfl rfl rfl⟩
  | take now =>
    simp only [Desk.step] at hstep
    split at hstep
    · rename_i response responses hresponses
      cases hstep
      exact h.take hresponses now
    · cases hstep
  | settle now =>
    obtain ⟨-, heq⟩ := Option.ite_none_right_eq_some.mp hstep
    cases heq
    exact h.settle now
  | expire now =>
    obtain ⟨-, heq⟩ := Option.ite_none_left_eq_some.mp hstep
    cases heq
    exact ⟨{ h.works with }, fun hopen =>
      (h.counts hopen).congr (h.counts hopen).room rfl rfl rfl (by simp) (by simp) (by simp)⟩
  | work answers => exact h.work hstep
  | exit =>
    simp only [Desk.step] at hstep
    split at hstep
    · rename_i u hworker
      cases hstep
      exact h.exit hworker
    · cases hstep
    · cases hstep

/-- A window that was just opened has its first refresh to wait for. -/
theorem Books.start (spawned : Spawned) (subscribeToMeters : Bool) (fuel : ℕ)
    (initialActive : Bool) (tray : TrayShared) (now : ℕ) :
    Books spawned (Desk.start spawned subscribeToMeters fuel initialActive tray now) := by
  -- Before that refresh there is nothing to count.
  let d : Desk :=
    { Desk.start spawned subscribeToMeters fuel initialActive tray now with
      window := ⟨{ optimisticActive := some initialActive }, tray, [],
        spawned = .threadUnavailable⟩ }
  have hmem : ∀ response ∈ d.responses, response = threadUnavailable := by
    intro response hresponse
    by_cases hspawned : spawned = .threadUnavailable <;> simp_all [d, Desk.start]
  have hd : Books spawned d :=
    { works :=
        { answers := workerThread_obeys spawned subscribeToMeters fuel
          kept := trivial
          reports := workerThread_reports spawned subscribeToMeters fuel
          current := .start
          said := rfl
          told := by
            by_cases hspawned : spawned = .threadUnavailable <;>
              simp [d, Desk.start, hspawned, toldBy, threadUnavailable, rejected, Response.tells,
                Lib.Discipline.after, Report.start]
          genuine := fun response hresponse => by
            rw [hmem response hresponse]
            rintro _ ⟨⟩
          completed := by
            by_cases hspawned : spawned = .threadUnavailable <;>
              simp [d, Desk.start, hspawned, threadUnavailable, rejected, Response.completing,
                completions]
          shutdown := fun _ hmem => absurd hmem List.not_mem_nil
          room := by
            by_cases hspawned : spawned = .threadUnavailable <;>
              simp [d, Desk.start, hspawned, channelCapacity]
          gone := fun hclosed => by
            have hspawned : spawned = .threadUnavailable := of_decide_eq_true hclosed
            rw [hspawned]
            decide }
      counts := fun _ =>
        { room := Nat.zero_le _
          counted := rfl
          single := Nat.zero_le _
          locked := fun _ _ => rfl
          useful := fun _ hpending => absurd hpending Bool.false_ne_true
          shown := ⟨rfl, rfl⟩
          hinted := by rintro ⟨⟩ } }
  -- The refresh is the first request.
  exact hd.moved rfl (Window.send_moved d.window .refresh now (by rintro ⟨⟩))

end Counting

/-! ## Its runs

The books hold at the start, every event keeps them, and so they hold over every run; the two
results are read off the books.
-/

/-- An execution of the window and its worker. -/
abbrev Ran (spawned : Spawned) (subscribeToMeters : Bool) (fuel : ℕ) (initialActive : Bool)
    (tray : TrayShared) (now : ℕ) (events : List DeskEvent) (d : Desk) : Prop :=
  Run (fun d event d' => Desk.step d event = some d') Free
    (Desk.start spawned subscribeToMeters fuel initialActive tray now) events d

section Runs

variable {spawned : Spawned} {subscribeToMeters : Bool} {fuel : ℕ} {initialActive : Bool}
  {tray : TrayShared} {now : ℕ} {events : List DeskEvent} {d : Desk}

theorem Ran.books (h : Ran spawned subscribeToMeters fuel initialActive tray now events d) :
    Books spawned d :=
  h.invariant (Books spawned) (.start ..) fun _ _ _ hbooks _ hstep => hbooks.step hstep

/-- What the window has asked for. -/
structure Accounts (d : Desk) : Prop where
  /-- The responses that it has seen are those to the requests that it sent first, in order. -/
  ordered : ∃ answered, d.sent = answered ++ d.waiting ∧
    List.Forall₂ Request.Suits answered d.answers
  /-- It counts the others, and they fit into the channels and the worker's hand. -/
  counted : d.window.view.outstanding = d.waiting.length
  bounded : d.waiting.length ≤ 2 * channelCapacity + 1
  /-- Of the changes that it asks for, one is on its way at most, and the controls are locked. -/
  single : (d.waiting.filter Request.changes).length ≤ 1
  locked : d.draining = false → (∃ request ∈ d.waiting, request.changes = true) →
    d.window.view.state.requestPending = true
  /-- They are locked for something only, and nothing is waited for forever. -/
  useful : d.draining = false → d.window.view.state.requestPending = true → d.waiting ≠ []
  settled : Resting d.worker → d.window.requests = [] → d.responses = [] → d.waiting = []

/-- **The window accounts for its requests.**  However clicks, responses and the worker's operations
    interleave, and whatever the bus and the daemon return: the window counts exactly the requests
    that it has seen no response to, has one change on its way at most, and locks its controls while
    it has; once the worker rests and the channels are empty, it waits for nothing.  A worker that
    runs never leaves it while it is open. -/
theorem window_accounts
    (h : Ran spawned subscribeToMeters fuel initialActive tray now events d) :
    (spawned = .running → d.window.closed = false) ∧ (d.window.closed = false → Accounts d) := by
  have hbooks := h.books
  refine ⟨fun hrunning => ?_, fun hopen => ?_⟩
  · cases hclosed : d.window.closed with
    | true => exact absurd hrunning (hbooks.works.gone hclosed)
    | false => rfl
  have hcounts := hbooks.counts hopen
  obtain ⟨answered, more, hsent, hsuits, -, hsettled, -⟩ := hbooks.works.answered
  -- What waits is what was sent and is not answered, by the discipline of the worker.
  have hwaiting : d.waiting = more := by
    rw [waiting, hsent, ← hsuits.length_eq, List.drop_left]
  refine
    { ordered := ⟨answered, by rw [hwaiting, hsent], hsuits⟩
      counted := hcounts.waiting_length.symm
      bounded := hcounts.waiting_length ▸ Books.outstanding_le hbooks.works hcounts
      single := hcounts.single
      locked := fun hdraining ⟨request, hmem, hchanges⟩ => ?_
      useful := hcounts.useful
      settled := fun hresting hrequests hresponses =>
        hwaiting.trans (hsettled hresting hrequests hresponses) }
  by_contra hpending
  have hnone := hcounts.locked hdraining (by simpa using hpending)
  exact List.filter_eq_nil_iff.mp hnone request hmem hchanges

/-- A daemon that is there, is asked to start, and does. -/
def morningAnswers : (o : WorkerOp) → o.Res
  | .recv => some .refresh
  | .sleep _ => Wakeup.elapsed
  | .session => true
  | .establish _ => true
  | .select _ => Selected.request (some (.setActive true))
  | .getSnapshot => .ok (shownSnapshot false)
  | .mutate _ => .ok (shownSnapshot true)
  | .listInputs => some []
  | .getStartWithNoiseReduction => some false
  | .diagnostics => none
  | .unsubscribeMeters => ()
  | .send _ => true
  | .trySend _ => true

/-- The window is opened, and noise reduction turned on. -/
def morning : List DeskEvent :=
  List.replicate 12 (.work morningAnswers) ++ [.take 33, .settle 33, .act .toggle 40] ++
    List.replicate 6 (.work morningAnswers) ++ [.take 66, .settle 66]

theorem morning_runs : ∃ d, Ran .running true 2 false ⟨false, false⟩ 0 morning d ∧
    d.window.closed = false ∧ d.window.view.displayActive = true :=
  ⟨_, Run.of_foldlM Desk.step (fun _ _ _ h => ⟨trivial, h⟩) rfl, rfl, rfl⟩

theorem window_accounts_morning : ∃ d, Ran .running true 2 false ⟨false, false⟩ 0 morning d ∧
    d.window.closed = false ∧ Accounts d :=
  have ⟨d, h, hopen, _⟩ := morning_runs
  ⟨d, h, (window_accounts h).1 rfl, (window_accounts h).2 hopen⟩

/-- What was told was told by a response. -/
theorem toldBy_eq_some {responses : List Response} {told : Snapshot × List InputDescriptor}
    (h : toldBy responses = some told) :
    ∃ response ∈ responses, response.tells none = some told := by
  induction responses using List.reverseRecOn with
  | nil => cases h
  | append_singleton responses response ih =>
    rw [toldBy_append] at h
    -- A report and the meters tell nothing: what was told before stands.
    cases response with
    | state => exact ⟨_, List.mem_concat_self, h⟩
    | rejected => exact ⟨_, List.mem_concat_self, h⟩
    | diagnostics report =>
      obtain ⟨response, hmem, htells⟩ := ih h
      exact ⟨response, List.mem_append_left _ hmem, htells⟩
    | meters metrics =>
      obtain ⟨response, hmem, htells⟩ := ih h
      exact ⟨response, List.mem_append_left _ hmem, htells⟩

/-- Whether the daemon is shown to be active is what was told. -/
theorem Shows.active {s : UiState} {told : Option (Snapshot × List InputDescriptor)}
    (h : Shows s told) : s.snapshot.any (·.active) = told.any (·.1.active) := by
  have hany : (s.snapshot.map settings).any (·.active) =
      (told.map (settings ·.1)).any (·.active) := by rw [h.snapshot]
  simpa [Option.any_map, settings, Function.comp_def] using hany

/-- The state that the window keeps of the daemon, and what `display_active` makes of it.  The
    transition of the processing button and the preview of the strength slider are not part of it:
    while a change is under way these show what was asked for. -/
structure Displays (d : Desk) : Prop where
  /-- But for the meters it is what the responses that the window has seen tell. -/
  shown : Shows d.window.view.state (toldBy d.drained)
  /-- That is a snapshot which the daemon returned, with the inputs that it listed since. -/
  genuine : ∀ told, toldBy d.drained = some told →
    ∃ before, before <+: d.calls ∧ saidIn before = some told
  /-- From the first such response on, `display_active` does not answer with the tray's hint. -/
  active : d.drained.any Response.speaks = true →
    d.window.view.displayActive = (toldBy d.drained).any (·.1.active)
  /-- When the worker rests and no response is left, that is the last which the daemon returned, or
      there is none, after a rejection with nothing recovered. -/
  current : Resting d.worker → d.responses = [] →
    toldBy d.drained = none ∨ toldBy d.drained = saidIn d.calls

/-- **The window keeps what the daemon said.**  Whatever is clicked, refused, lost or restored: the
    state that the window keeps is one that the daemon returned, never one that was only asked for;
    and once the worker rests and the responses are drained, it is the last one, or none. -/
theorem window_current
    (h : Ran spawned subscribeToMeters fuel initialActive tray now events d)
    (hopen : d.window.closed = false) : Displays d := by
  have hbooks := h.books
  have hworks := hbooks.works
  have hcounts := hbooks.counts hopen
  refine ⟨hcounts.shown, fun told htold => ?_, fun hspoken => ?_, fun hresting hresponses => ?_⟩
  · obtain ⟨response, hmem, htells⟩ := toldBy_eq_some htold
    exact hworks.genuine response (List.mem_append_left _ hmem) told htells
  · rw [NoireView.displayActive, hcounts.hinted hspoken, Option.getD_none]
    exact hcounts.shown.active
  · have hcurrent := hworks.current
    have htold := hworks.told
    rw [hresponses, List.append_nil] at htold
    unfold Report.Current at hcurrent
    rw [hresting.reported hworks.reports] at hcurrent
    rwa [htold, ← hworks.said]

theorem window_current_morning : ∃ d, Ran .running true 2 false ⟨false, false⟩ 0 morning d ∧
    d.window.view.displayActive = true ∧ Displays d :=
  have ⟨d, h, hopen, hactive⟩ := morning_runs
  ⟨d, h, hactive, window_current h hopen⟩

end Runs

end Desk

end Noire.Ui
