import Noire.Ui.State

namespace Noire.Ui

/-!
# The window

The view of the main window with its callbacks, after `app.rs`: what a click sends to the worker,
and what a response of the worker makes of the view.  A callback takes the time that it reads.

* `NoireView`, `Window` — the view, and what its callbacks reach beside it: the flags that it shares
  with the tray and its end of the channel of requests;
* `Window.send`, `Window.act` — what the user does;
* `Window.receive`, `Window.settle` — a response of `drain_responses`, and the end of its loop;
* `Window.Moved` — all that a callback does to the requests; `act_moved`: each does one of it.

The module has the callbacks of the window and what each of them does to a few fields.  The proofs
in `Ui/Desk.lean` use the second part only: which requests are sent (`Moved`), how many are
outstanding, whether the controls are locked, and what is known of the daemon.  So each callback
has a lemma for each of these, and the toasts and transitions are left behind here.
-/

/-! ## Toasts

What the user is told in passing, and for how long.
-/

/-- `Toast`. -/
structure Toast where
  cause : String
  recovery : String
  retryable : Bool
  deriving DecidableEq

/-- `Toast::from` a `UserError`. -/
def Toast.ofUserError (error : UserError) : Toast := ⟨error.cause, error.recovery, error.retryable⟩

/-- `Toast::from` an `ErrorInfo`. -/
def Toast.ofErrorInfo (error : ErrorInfo) : Toast :=
  ⟨error.message, error.recovery, error.retryable⟩

/-- `TOAST_LIFETIME`, in milliseconds. -/
def toastLifetime : ℕ := 6000

/-- `TRANSITION_DURATION`, in milliseconds. -/
def transitionDuration : ℕ := 160

/-- `tray_unavailable_toast`. -/
def trayUnavailableToast : Toast :=
  ⟨"This desktop does not expose a compatible system tray.",
    "Noire will remain visible and exit normally when closed.", false⟩

/-- `communication_stopped_error`. -/
def communicationStoppedError : UserError :=
  ⟨"ui-communication-stopped", "Daemon communication stopped unexpectedly.",
    "Restart Noire, then retry.", true⟩

/-- The error of a `send` that finds the channel full. -/
def uiBusyError : UserError :=
  ⟨"ui-busy", "Noire is still applying the previous change.", "Wait a moment, then try again.",
    true⟩

/-- `admit_toast`: whether it is, and what is dismissed then. -/
def admitToast (dismissed : Option Toast) (incoming : Toast) : Bool × Option Toast :=
  if dismissed = some incoming then (false, dismissed) else (true, none)

/-- `error_resolved`. -/
def errorResolved (previouslyHadError hasError : Bool) : Bool := previouslyHadError && !hasError

/-! ## The view

The fields are those of the window that a callback reads or writes; widgets and animation frames
are not among them.
-/

/-- `ProcessingTransition`, from a `source` to a `target`. -/
structure ProcessingTransition where
  source : Bool
  target : Bool
  started : ℕ
  deriving DecidableEq

/-- `transition_targets`. -/
def transitionTargets (transition : Option ProcessingTransition) (active : Bool) : Bool :=
  transition.any (·.target = active)

/-- `active_hint_transition`, which leaves no hint behind. -/
def activeHintTransition (optimistic previous : Option Bool) (active : Bool) :
    Option (Bool × Bool) :=
  match optimistic.or previous with
  | none => none
  | some source => if source ≠ active then some (source, active) else none

/-- `diagnostic_report_text`. -/
def diagnosticReportText (report : DiagnosticReport) : String :=
  let input := if report.selectedInputId = "" then "system default" else report.selectedInputId
  let error := if report.lastErrorCode = "" then "none" else report.lastErrorCode
  s!"Noire {report.buildVersion} · API {report.apiVersion}\nState: {report.state}\n" ++
    s!"Virtual source: {report.sourceNodeName}\nSelected input: {input}\nLast error: {error}\n" ++
    s!"{report.journalHint}\nPrivacy: {report.privacy}"

/-- `NoireView`. -/
structure NoireView where
  state : UiState := {}
  outstanding : ℕ := 0
  diagnostics : Option String := none
  toast : Option Toast := none
  toastExpires : Option ℕ := none
  dismissedToast : Option Toast := none
  processingTransition : Option ProcessingTransition := none
  optimisticActive : Option Bool := none
  startWithNoiseReduction : Bool := false
  processingRequestPending : Bool := false

namespace NoireView

/-- `show_toast`, with `refresh_toast`. -/
def showToast (view : NoireView) (toast : Toast) (now : ℕ) : NoireView :=
  let (admitted, dismissedToast) := admitToast view.dismissedToast toast
  if admitted then
    { view with toast := some toast, toastExpires := some (now + toastLifetime), dismissedToast }
  else view

/-- `dismiss_toast`. -/
def dismissToast (view : NoireView) : NoireView :=
  { view with dismissedToast := view.toast, toast := none, toastExpires := none }

/-- `expire_toast`. -/
def expireToast (view : NoireView) (now : ℕ) : NoireView :=
  if view.toastExpires.any (· ≤ now) then { view with toast := none, toastExpires := none }
  else view

/-- `clear_tray_unavailable_toast`. -/
def clearTrayUnavailableToast (view : NoireView) : NoireView :=
  let view :=
    if view.toast = some trayUnavailableToast then { view with toast := none, toastExpires := none }
    else view
  if view.dismissedToast = some trayUnavailableToast then { view with dismissedToast := none }
  else view

/-- `display_active`. -/
def displayActive (view : NoireView) : Bool :=
  view.optimisticActive.getD (view.state.snapshot.any (·.active))

/-- `retire_settled_transition`. -/
def retireSettledTransition (view : NoireView) (busy : Bool) (now : ℕ) : NoireView :=
  let requestInFlight := view.state.requestPending || busy
  if !requestInFlight &&
      view.processingTransition.any (fun transition =>
        transitionDuration ≤ now - transition.started)
  then { view with processingTransition := none }
  else view

/-- The branch of `drain_responses` for a state, but for the tray and the request. -/
def receiveState (view : NoireView) (snapshot : Snapshot) (inputs : List InputDescriptor)
    (startWithNoiseReduction refresh : Bool) (now : ℕ) : NoireView :=
  let previousActive := view.state.snapshot.map (·.active)
  let previouslyHadError := view.state.hasError
  let view := { view with
    startWithNoiseReduction
    state :=
      if refresh then view.state.refresh snapshot inputs else view.state.converge snapshot inputs }
  let view :=
    if errorResolved previouslyHadError view.state.hasError then
      { view with dismissedToast := none }
    else view
  let view :=
    if snapshot.hasError then view.showToast (.ofErrorInfo snapshot.lastError) now else view
  { view with
    optimisticActive := none
    processingTransition :=
      match activeHintTransition view.optimisticActive previousActive snapshot.active with
      | some (source, target) =>
        if transitionTargets view.processingTransition target then view.processingTransition
        else some ⟨source, target, now⟩
      | none => view.processingTransition }

/-- The branch of `drain_responses` for a rejection, but for the tray and the request. -/
def receiveRejected (view : NoireView) (error : UserError)
    (recovered : Option (Snapshot × List InputDescriptor)) (now : ℕ) : NoireView :=
  let displayedActive := view.displayActive
  let view := view.showToast (.ofUserError error) now
  let view := { view with state := view.state.reject error recovered, optimisticActive := none }
  let authoritativeActive := view.state.snapshot.any (·.active)
  if displayedActive ≠ authoritativeActive then
    { view with processingTransition := some ⟨displayedActive, authoritativeActive, now⟩ }
  else view

/-- The branch of `drain_responses` for a worker that is gone. -/
def disconnected (view : NoireView) (now : ℕ) : NoireView :=
  let view := ({ view with outstanding := 0 } : NoireView).showToast
    (.ofUserError communicationStoppedError) now
  { view with state := view.state.reject communicationStoppedError none }

end NoireView

/-! ## Its callbacks

A callback takes the time it reads as an argument.  The channel of requests has room or not, and
its other end is there or not; nothing else of the worker is seen here.
-/

/-- What the window shares with the tray. -/
structure TrayShared where
  active : Bool
  busy : Bool
  deriving DecidableEq

/-- The window, with the flags of the tray, the requests in the channel, and whether the worker that
    should receive them is gone. -/
structure Window where
  view : NoireView
  tray : TrayShared
  requests : List Request
  closed : Bool

/-- The places of either channel of `spawn`. -/
def channelCapacity : ℕ := 8

namespace Window

/-- `send`: whether the request was accepted. -/
def send (w : Window) (request : Request) (mutation : Bool) (now : ℕ) : Bool × Window :=
  if mutation && w.view.state.requestPending then (false, w)
  else if w.closed then
    let view := w.view.showToast (.ofUserError communicationStoppedError) now
    (false, { w with
      view := { view with state := view.state.reject communicationStoppedError none } })
  else if channelCapacity ≤ w.requests.length then
    (false, { w with view := w.view.showToast (.ofUserError uiBusyError) now })
  else
    (true, { w with
      requests := w.requests ++ [request]
      view := { w.view with
        outstanding := min (w.view.outstanding + 1) (2 ^ 32 - 1)
        state := if mutation then w.view.state.setRequestPending true else w.view.state } })

/-- `new`. -/
def new (initialActive : Bool) (tray : TrayShared) (closed : Bool) (now : ℕ) : Window :=
  (Window.send ⟨{ optimisticActive := some initialActive }, tray, [], closed⟩ .refresh false now).2

/-- `begin_external_change`. -/
def beginExternalChange (w : Window) : Bool × Window :=
  if w.tray.busy then (false, w) else (true, { w with tray.busy := true })

/-- `finish_external_change`. -/
def finishExternalChange (w : Window) : Window := { w with tray.busy := false }

/-- `sync_runtime_active`. -/
def syncRuntimeActive (w : Window) (active : Bool) : Window := { w with tray.active := active }

/-- `begin_active_change`. -/
def beginActiveChange (w : Window) (target : Bool) (now : ℕ) : Window :=
  if w.view.state.snapshot.isNone || w.view.state.requestPending then w
  else
    let active := w.view.displayActive
    if active = target then w
    else
      let (begun, w) := w.beginExternalChange
      if !begun then w
      else
        let (sent, w) := w.send (.setActive target) true now
        if !sent then w.finishExternalChange
        else
          { w with
            view := { w.view with
              processingRequestPending := true
              processingTransition := some ⟨active, target, now⟩ } }

/-- `toggle_active`. -/
def toggleActive (w : Window) (now : ℕ) : Window := w.beginActiveChange (!w.view.displayActive) now

/-- `finish_processing_request`. -/
def finishProcessingRequest (w : Window) : Window :=
  if w.view.processingRequestPending then
    ({ w with view.processingRequestPending := false } : Window).finishExternalChange
  else w

/-- `complete_request`. -/
def completeRequest (w : Window) (requestComplete : Bool) : Window :=
  if requestComplete then
    let w := w.finishProcessingRequest
    { w with view.outstanding := w.view.outstanding - 1 }
  else w

end Window

/-- What the user, or the runtime, does to the window.  The choices carry the values of their
    buttons. -/
inductive Gesture
  | suppression
  | strength (value : F64)
  | latencyProfile (value : String)
  | failMode (value : String)
  | input (stableId : String)
  | startWithNoiseReduction
  | diagnostics
  | retry
  | dismiss
  | toggle
  /-- A failure of the desktop's own settings, or the fallback for the tray. -/
  | toast (toast : Toast)
  | trayRecovered

namespace Window

/-- The callback. -/
def act (w : Window) (now : ℕ) : Gesture → Window
  | .suppression =>
    let enabled := w.view.state.snapshot.all (·.suppressionEnabled)
    (w.send (.setSuppressionEnabled !enabled) true now).2
  | .strength value => (w.send (.setStrength value) true now).2
  | .latencyProfile value => (w.send (.setLatencyProfile value) true now).2
  | .failMode value => (w.send (.setFailMode value) true now).2
  | .input stableId => (w.send (.selectInput stableId) true now).2
  | .startWithNoiseReduction =>
    (w.send (.setStartWithNoiseReduction !w.view.startWithNoiseReduction) true now).2
  | .diagnostics => (w.send .diagnostics false now).2
  | .retry =>
    let view := { w.view with toast := none, toastExpires := none, dismissedToast := none }
    (Window.send { w with view } .retry true now).2
  | .dismiss => { w with view := w.view.dismissToast }
  | .toggle => w.toggleActive now
  | .toast toast => { w with view := w.view.showToast toast now }
  | .trayRecovered => { w with view := w.view.clearTrayUnavailableToast }

/-- A response, in `drain_responses`. -/
def receive (w : Window) (now : ℕ) : Response → Window
  | .state snapshot inputs start refresh requestComplete =>
    let w := { w with view := w.view.receiveState snapshot inputs start refresh now }
    (w.syncRuntimeActive snapshot.active).completeRequest requestComplete
  | .rejected error recovered requestComplete =>
    let w := { w with view := w.view.receiveRejected error recovered now }
    (w.syncRuntimeActive (w.view.state.snapshot.any (·.active))).completeRequest requestComplete
  | .diagnostics report =>
    { w with
      view.diagnostics := some (diagnosticReportText report)
      view.outstanding := w.view.outstanding - 1 }
  | .meters metrics => { w with view.state := w.view.state.updateMetrics metrics }

/-- The end of `drain_responses`, where no response is left. -/
def settle (w : Window) (now : ℕ) : Window :=
  let w := if w.closed then { w with view := w.view.disconnected now } else w
  let view := { w.view with
    state := w.view.state.setRequestPending (decide (0 < w.view.outstanding)) }
  { w with view := view.retireSettledTransition w.tray.busy now }

end Window

/-! ## What they do to the requests

A gesture sends one request, or none; `Window.Moved` says what it leaves in either case.
-/

namespace NoireView

variable (view : NoireView) (toast : Toast) (now : ℕ)

@[simp] theorem showToast_state : (view.showToast toast now).state = view.state := by
  unfold showToast
  dsimp only
  split <;> rfl

@[simp] theorem showToast_outstanding :
    (view.showToast toast now).outstanding = view.outstanding := by
  unfold showToast
  dsimp only
  split <;> rfl

@[simp] theorem showToast_optimisticActive :
    (view.showToast toast now).optimisticActive = view.optimisticActive := by
  unfold showToast
  dsimp only
  split <;> rfl

@[simp] theorem expireToast_state : (view.expireToast now).state = view.state := by
  unfold expireToast
  split <;> rfl

@[simp] theorem expireToast_outstanding :
    (view.expireToast now).outstanding = view.outstanding := by
  unfold expireToast
  split <;> rfl

@[simp] theorem expireToast_optimisticActive :
    (view.expireToast now).optimisticActive = view.optimisticActive := by
  unfold expireToast
  split <;> rfl

@[simp] theorem clearTrayUnavailableToast_state :
    view.clearTrayUnavailableToast.state = view.state := by
  unfold clearTrayUnavailableToast
  dsimp only
  split <;> split <;> rfl

@[simp] theorem clearTrayUnavailableToast_outstanding :
    view.clearTrayUnavailableToast.outstanding = view.outstanding := by
  unfold clearTrayUnavailableToast
  dsimp only
  split <;> split <;> rfl

@[simp] theorem clearTrayUnavailableToast_optimisticActive :
    view.clearTrayUnavailableToast.optimisticActive = view.optimisticActive := by
  unfold clearTrayUnavailableToast
  dsimp only
  split <;> split <;> rfl

end NoireView

/-- The response says what the daemon does, or that this is not known. -/
def Response.speaks : Response → Bool
  | .state .. | .rejected .. => true
  | .diagnostics _ | .meters _ => false

/-- The request asks for a change. -/
def Request.changes : Request → Bool
  | .refresh | .diagnostics | .shutdown => false
  | _ => true

namespace Window

/-- All that a callback does to the requests, their count and the state: nothing; a request is sent,
    a change only while none is pending; or the worker is found gone. -/
inductive Moved (w w' : Window) : Prop
  | idle (hrequests : w'.requests = w.requests) (hclosed : w'.closed = w.closed)
      (hcount : w'.view.outstanding = w.view.outstanding) (hstate : w'.view.state = w.view.state)
      (hactive : w'.view.optimisticActive = w.view.optimisticActive)
  | sent (request : Request) (hopen : w.closed = false) (hshutdown : request ≠ .shutdown)
      (hchange : request.changes = true → w.view.state.requestPending = false)
      (hroom : w.requests.length < channelCapacity)
      (hrequests : w'.requests = w.requests ++ [request]) (hclosed : w'.closed = w.closed)
      (hcount : w'.view.outstanding = min (w.view.outstanding + 1) (2 ^ 32 - 1))
      (hstate : w'.view.state =
        if request.changes then w.view.state.setRequestPending true else w.view.state)
      (hactive : w'.view.optimisticActive = w.view.optimisticActive)
  | stopped (hstopped : w.closed = true) (hrequests : w'.requests = w.requests)
      (hclosed : w'.closed = w.closed) (hcount : w'.view.outstanding = w.view.outstanding)
      (hstate : w'.view.state = w.view.state.reject communicationStoppedError none)
      (hactive : w'.view.optimisticActive = w.view.optimisticActive)

/-- What happens to the flags of the tray, or to the transition, is no more than that. -/
theorem Moved.congr {w w' v v' : Window} (h : Moved w w') (hw : v.requests = w.requests)
    (hwc : v.closed = w.closed) (hwv : v.view.state = w.view.state)
    (hwo : v.view.outstanding = w.view.outstanding)
    (hwa : v.view.optimisticActive = w.view.optimisticActive)
    (hw' : v'.requests = w'.requests) (hwc' : v'.closed = w'.closed)
    (hwv' : v'.view.state = w'.view.state) (hwo' : v'.view.outstanding = w'.view.outstanding)
    (hwa' : v'.view.optimisticActive = w'.view.optimisticActive) : Moved v v' := by
  cases h with
  | idle hrequests hclosed hcount hstate hactive =>
    exact .idle (by rw [hw', hrequests, hw]) (by rw [hwc', hclosed, hwc])
      (by rw [hwo', hcount, hwo]) (by rw [hwv', hstate, hwv]) (by rw [hwa', hactive, hwa])
  | sent request hopen hshutdown hchange hroom hrequests hclosed hcount hstate hactive =>
    exact .sent request (by rw [hwc, hopen]) hshutdown (by rwa [hwv]) (by rwa [hw])
      (by rw [hw', hrequests, hw]) (by rw [hwc', hclosed, hwc]) (by rw [hwo', hcount, hwo])
      (by rw [hwv', hstate, hwv]) (by rw [hwa', hactive, hwa])
  | stopped hstopped hrequests hclosed hcount hstate hactive =>
    exact .stopped (by rw [hwc, hstopped]) (by rw [hw', hrequests, hw]) (by rw [hwc', hclosed, hwc])
      (by rw [hwo', hcount, hwo]) (by rw [hwv', hstate, hwv]) (by rw [hwa', hactive, hwa])

/-- A `send` accepts a request, or leaves the requests as they are. -/
theorem send_moved (w : Window) (request : Request) (now : ℕ) (hshutdown : request ≠ .shutdown) :
    Moved w (w.send request request.changes now).2 := by
  unfold send
  split
  · exact .idle rfl rfl rfl rfl rfl
  · rename_i hpending
    split
    · rename_i hclosed
      exact .stopped hclosed rfl rfl (by simp) (by simp) (by simp)
    · rename_i hopen
      split
      · exact .idle rfl rfl (by simp) (by simp) (by simp)
      · rename_i hroom
        refine .sent request (by simpa using hopen) hshutdown (fun hchange => ?_)
          (by simpa using hroom) rfl rfl rfl rfl rfl
        simpa [hchange] using hpending

/-- The change of the processing sends one request, or none. -/
theorem beginActiveChange_moved (w : Window) (target : Bool) (now : ℕ) :
    Moved w (w.beginActiveChange target now) := by
  unfold beginActiveChange
  split
  · exact .idle rfl rfl rfl rfl rfl
  dsimp only
  split
  · exact .idle rfl rfl rfl rfl rfl
  unfold beginExternalChange
  split
  · exact .idle rfl rfl rfl rfl rfl
  · have hmoved := send_moved { w with tray.busy := true } (.setActive target) now nofun
    rw [if_neg (show ¬(!true) = true from nofun)]
    split
    · exact hmoved.congr rfl rfl rfl rfl rfl rfl rfl rfl rfl rfl
    · exact hmoved.congr rfl rfl rfl rfl rfl rfl rfl rfl rfl rfl

/-- **Each callback sends one request, or none.** -/
theorem act_moved (w : Window) (now : ℕ) (gesture : Gesture) : Moved w (w.act now gesture) := by
  cases gesture with
  | suppression => exact send_moved w _ now nofun
  | strength value => exact send_moved w _ now nofun
  | latencyProfile value => exact send_moved w _ now nofun
  | failMode value => exact send_moved w _ now nofun
  | input stableId => exact send_moved w _ now nofun
  | startWithNoiseReduction => exact send_moved w _ now nofun
  | diagnostics => exact send_moved w _ now nofun
  -- Before a retry the toast is taken away, which is no request.
  | retry =>
    have hmoved := send_moved { w with
      view := { w.view with toast := none, toastExpires := none, dismissedToast := none } }
      .retry now nofun
    exact hmoved.congr rfl rfl rfl rfl rfl rfl rfl rfl rfl rfl
  | dismiss => exact .idle rfl rfl rfl rfl rfl
  | toggle => exact beginActiveChange_moved w _ now
  | toast toast => exact .idle rfl rfl (by simp [act]) (by simp [act]) (by simp [act])
  | trayRecovered => exact .idle rfl rfl (by simp [act]) (by simp [act]) (by simp [act])

/-! ## What responses do

Receiving a response sends nothing: it is counted, the state is taken over, and the hint is
dropped.
-/

section Receiving

variable (w : Window) (now : ℕ) (response : Response)

@[simp] theorem completeRequest_requests (requestComplete : Bool) :
    (w.completeRequest requestComplete).requests = w.requests := by
  unfold completeRequest finishProcessingRequest
  dsimp only
  split
  · split <;> rfl
  · rfl

@[simp] theorem completeRequest_closed (requestComplete : Bool) :
    (w.completeRequest requestComplete).closed = w.closed := by
  unfold completeRequest finishProcessingRequest
  dsimp only
  split
  · split <;> rfl
  · rfl

@[simp] theorem completeRequest_state (requestComplete : Bool) :
    (w.completeRequest requestComplete).view.state = w.view.state := by
  unfold completeRequest finishProcessingRequest
  dsimp only
  split
  · split <;> rfl
  · rfl

@[simp] theorem completeRequest_optimisticActive (requestComplete : Bool) :
    (w.completeRequest requestComplete).view.optimisticActive = w.view.optimisticActive := by
  unfold completeRequest finishProcessingRequest
  dsimp only
  split
  · split <;> rfl
  · rfl

@[simp] theorem completeRequest_outstanding (requestComplete : Bool) :
    (w.completeRequest requestComplete).view.outstanding =
      w.view.outstanding - requestComplete.toNat := by
  unfold completeRequest finishProcessingRequest
  dsimp only
  cases requestComplete with
  | true =>
    split
    · split <;> rfl
    · contradiction
  | false => rfl

/-- A response takes nothing from the requests. -/
@[simp] theorem receive_requests : (w.receive now response).requests = w.requests := by
  cases response <;> simp [receive, syncRuntimeActive]

@[simp] theorem receive_closed : (w.receive now response).closed = w.closed := by
  cases response <;> simp [receive, syncRuntimeActive]

/-- A response that completes a request counts it off. -/
theorem receive_outstanding : (w.receive now response).view.outstanding =
    w.view.outstanding - response.completing.toNat := by
  cases response with
  | state snapshot inputs start refresh requestComplete =>
    simp only [receive, completeRequest_outstanding, syncRuntimeActive, NoireView.receiveState,
      Response.completing, apply_ite NoireView.outstanding, NoireView.showToast_outstanding,
      ite_self]
  | rejected error recovered requestComplete =>
    simp only [receive, completeRequest_outstanding, syncRuntimeActive, NoireView.receiveRejected,
      Response.completing]
    split <;> simp
  | diagnostics report => rfl
  | meters metrics => rfl

/-- What is known after a response is what follows from it. -/
theorem receive_state : (w.receive now response).view.state = w.view.state.follow response := by
  cases response with
  | state snapshot inputs start refresh requestComplete =>
    simp only [receive, completeRequest_state, syncRuntimeActive, NoireView.receiveState,
      UiState.follow, apply_ite NoireView.state, NoireView.showToast_state, ite_self]
  | rejected error recovered requestComplete =>
    simp only [receive, completeRequest_state, syncRuntimeActive, NoireView.receiveRejected,
      UiState.follow]
    split <;> simp
  | diagnostics report => rfl
  | meters metrics => rfl

/-- The hint of the tray is dropped with the first response that speaks of the daemon. -/
theorem receive_optimisticActive : (w.receive now response).view.optimisticActive =
    if response.speaks then none else w.view.optimisticActive := by
  cases response with
  | state snapshot inputs start refresh requestComplete =>
    simp only [receive, completeRequest_optimisticActive, syncRuntimeActive, NoireView.receiveState,
      Response.speaks, if_true]
  | rejected error recovered requestComplete =>
    simp only [receive, completeRequest_optimisticActive, syncRuntimeActive,
      NoireView.receiveRejected, Response.speaks, if_true]
    split <;> rfl
  | diagnostics report => rfl
  | meters metrics => rfl

@[simp] theorem settle_requests : (w.settle now).requests = w.requests := by
  unfold settle
  dsimp only
  split <;> rfl

@[simp] theorem settle_closed : (w.settle now).closed = w.closed := by
  unfold settle
  dsimp only
  split <;> rfl

theorem settle_state (hopen : w.closed = false) : (w.settle now).view.state =
    w.view.state.setRequestPending (decide (0 < w.view.outstanding)) := by
  unfold settle NoireView.retireSettledTransition
  rw [if_neg (by simp [hopen])]
  dsimp only
  split <;> rfl

theorem settle_outstanding (hopen : w.closed = false) :
    (w.settle now).view.outstanding = w.view.outstanding := by
  unfold settle NoireView.retireSettledTransition
  rw [if_neg (by simp [hopen])]
  dsimp only
  split <;> rfl

theorem settle_optimisticActive (hopen : w.closed = false) :
    (w.settle now).view.optimisticActive = w.view.optimisticActive := by
  unfold settle NoireView.retireSettledTransition
  rw [if_neg (by simp [hopen])]
  dsimp only
  split <;> rfl

end Receiving

end Window

end Noire.Ui
