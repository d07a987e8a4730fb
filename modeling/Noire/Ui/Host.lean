import Noire.Lib.Run
import Noire.Ui.Window

namespace Noire.Ui

/-!
# The application and its tray

Without a window, Noire can be reached by its tray item only.  After `app.rs`: how the application
follows the host of the tray, when it may hide its window, and when it opens one again.

* `TrayHostState` — the host as the application has seen it, and since when it is gone;
* `DesktopPreferences` — the preferences of the desktop, and how they are stored;
* `AppRuntime` — the application; `AppRuntime.drainCommands`: what it does every few milliseconds;
* `Session` — the events of a session, with a log of what was drained;
* `never_stranded` — there is a window, or a tray host, or the host is gone for a few seconds only.

The application learns of the host in two ways: by an observation in every drain, and by what it
asks when a window is closed or created.  The invariant `Tended` ties the window, the host and the
noted loss together, and every function of `app.rs` is proved to keep it or to say what it changes
of the host.  The log adds the times: a loss that is noted began when the log says so (`Loss`),
and a window that was opened for a loss was opened after the time of grace (`Justified`).

The bound of the result is not the time of grace alone, since a loss is seen at the next drain
only.
-/

/-! ## The host of the tray

What the application remembers of the host: whether it was there at the last drain, and since when
it is gone.
-/

/-- `TRAY_LOSS_GRACE`, in milliseconds. -/
def trayLossGrace : ℕ := 5000

/-- `TrayHostTransition`. -/
inductive TrayHostTransition
  | none
  | lost
  | recovered
  | fallbackDue
  deriving DecidableEq

/-- `TrayHostState`. -/
structure TrayHostState where
  available : Bool
  lossStarted : Option ℕ

namespace TrayHostState

/-- `TrayHostState::new`. -/
def new (available : Bool) (now : ℕ) : TrayHostState :=
  { available, lossStarted := if available then .none else some now }

/-- `TrayHostState::observe`. -/
def observe (host : TrayHostState) (available : Bool) (now : ℕ) :
    TrayHostTransition × TrayHostState :=
  if available ≠ host.available then
    if available then (.recovered, { available, lossStarted := .none })
    else (.lost, { available, lossStarted := some now })
  else if !available && host.lossStarted.any fun started => trayLossGrace ≤ now - started then
    (.fallbackDue, { host with lossStarted := .none })
  else (.none, host)

end TrayHostState

/-! ## Preferences

The stored preferences, and whether closing the window means hiding it.
-/

/-- `ThemePreference`. -/
inductive ThemePreference
  | system
  | dark
  | light
  deriving DecidableEq

/-- `DesktopPreferences`. -/
structure DesktopPreferences where
  theme : ThemePreference := .system
  startMinimized : Bool := false
  closeToTray : Bool := true
  deriving DecidableEq

/-- `StoredPreferences`. -/
structure StoredPreferences where
  theme : Option ThemePreference := none
  darkTheme : Option Bool := none
  startMinimized : Option Bool := none
  closeToTray : Option Bool := none

namespace DesktopPreferences

/-- `deserialize`. -/
def ofStored (stored : StoredPreferences) : DesktopPreferences :=
  let defaults : DesktopPreferences := {}
  { theme := stored.theme.getD
      ((stored.darkTheme.map fun dark => if dark then .dark else .light).getD defaults.theme)
    startMinimized := stored.startMinimized.getD defaults.startMinimized
    closeToTray := stored.closeToTray.getD defaults.closeToTray }

/-- What is serialized. -/
def stored (preferences : DesktopPreferences) : StoredPreferences :=
  { theme := preferences.theme
    startMinimized := preferences.startMinimized
    closeToTray := preferences.closeToTray }

/-- `load`, from a file that is there and can be read, or from none. -/
def load (file : Option StoredPreferences) : DesktopPreferences := (file.map ofStored).getD {}

/-- What was saved is loaded. -/
theorem load_stored (preferences : DesktopPreferences) :
    load (some preferences.stored) = preferences := rfl

end DesktopPreferences

/-! ## The application

`AppRuntime`, with what it does when it is asked to show or to close its window, and in each turn
of the main loop.
-/

/-- `TrayCommand`. -/
inductive TrayCommand
  | show
  | toggleProcessing
  | quit
  | hostOnline
  | hostOffline

/-- The main window, as far as the application reaches into it. -/
structure OpenWindow where
  preferences : DesktopPreferences
  view : NoireView

/-- `AppRuntime`, with what it reaches: whether there is a host for the tray, the state that the
    tray shows, and the file of preferences. -/
structure AppRuntime where
  available : Bool
  trayActive : Bool := false
  file : Option StoredPreferences
  window : Option OpenWindow := none
  closeToTray : Bool
  trayHost : TrayHostState
  running : Bool := true

namespace AppRuntime

/-- `show_window`, which can fail to create one. -/
def showWindow (app : AppRuntime) (opens : Bool) : AppRuntime :=
  if app.window.isSome then app
  else
    let preferences := DesktopPreferences.load app.file
    let app := { app with closeToTray := preferences.closeToTray && app.available }
    if opens then
      { app with
        window := some { preferences, view := { optimisticActive := some app.trayActive } } }
    else { app with window := none }

/-- A command of `drain_commands`; toggling asks the controller of the tray. -/
def runCommand (opens : Bool) (app : AppRuntime) : TrayCommand → AppRuntime
  | .show => app.showWindow opens
  | .quit => { app with running := false }
  | .toggleProcessing | .hostOnline | .hostOffline => app

/-- Change the view, if there is a window. -/
def updateView (app : AppRuntime) (update : NoireView → NoireView) : AppRuntime :=
  { app with window := app.window.map fun window => { window with view := update window.view } }

/-- What follows from what is seen of the host. -/
def follow (app : AppRuntime) (transition : TrayHostTransition) (now : ℕ) (opens : Bool) :
    AppRuntime :=
  match transition with
  | .none => app
  | .lost => { app with closeToTray := false }
  | .recovered =>
    let closeToTray := (DesktopPreferences.load app.file).closeToTray && app.available
    { app with closeToTray }.updateView NoireView.clearTrayUnavailableToast
  | .fallbackDue => (app.showWindow opens).updateView (·.showToast trayUnavailableToast now)

/-- `drain_commands`.  The host of the tray may have come or gone by the time that it is asked for
    again. -/
def drainCommands (app : AppRuntime) (commands : List TrayCommand) (now : ℕ) (later opens : Bool) :
    TrayHostTransition × AppRuntime :=
  let app := commands.foldl (runCommand opens) app
  let observed := app.trayHost.observe app.available now
  (observed.1, { app with trayHost := observed.2, available := later }.follow observed.1 now opens)

/-- `close_window`, also where the window manager closes it. -/
def closeWindow (app : AppRuntime) : AppRuntime :=
  if app.closeToTray then { app with window := none } else { app with running := false }

/-- The toast of preferences that are not saved. -/
def unsavedToast : Toast :=
  ⟨"Noire could not save the desktop preference.",
    "Check the configuration directory permissions and free space.", false⟩

/-- `persist_preferences`. -/
def persistPreferences (app : AppRuntime) (window : OpenWindow) (saves : Bool) (now : ℕ) :
    AppRuntime :=
  let app := { app with
    window := some window
    closeToTray := window.preferences.closeToTray && app.available }
  if saves then { app with file := some window.preferences.stored }
  else app.updateView (·.showToast unsavedToast now)

/-- The start of `run`: the host is asked for before the controller of the tray is started, and
    after. -/
def start (startMinimized : Bool) (file : Option StoredPreferences) (now : ℕ)
    (early available opens : Bool) : AppRuntime :=
  let preferences := DesktopPreferences.load file
  let app : AppRuntime :=
    { available, file, closeToTray := preferences.closeToTray && early
      trayHost := .new available now }
  if startMinimized || preferences.startMinimized then app else app.showWindow opens

end AppRuntime

/-! ## A session

Between two drains anything may happen to the window, the preferences, their file and the host, in
any order.  `Steady` is what is assumed of the desktop.
-/

/-- What the user can do to the preferences. -/
inductive PreferenceEdit
  | theme (preference : ThemePreference)
  | startMinimized
  | closeToTray

/-- The preferences after it. -/
def DesktopPreferences.edit (preferences : DesktopPreferences) :
    PreferenceEdit → DesktopPreferences
  | .theme theme => { preferences with theme }
  | .startMinimized => { preferences with startMinimized := !preferences.startMinimized }
  | .closeToTray => { preferences with closeToTray := !preferences.closeToTray }

/-- An event of a session. -/
inductive AppEvent
  /-- The host of the tray comes or goes. -/
  | host (available : Bool)
  /-- The tray shows another state. -/
  | active (active : Bool)
  /-- The file of preferences is changed. -/
  | file (file : Option StoredPreferences)
  /-- The commands of the tray are drained. -/
  | drain (commands : List TrayCommand) (now : ℕ) (later opens : Bool)
  /-- The window is closed. -/
  | close
  /-- A preference is changed. -/
  | prefer (edit : PreferenceEdit) (saves : Bool) (now : ℕ)

/-- An application, when its commands were last drained, and what was seen of the host each time. -/
structure Session where
  app : AppRuntime
  drained : ℕ
  log : List (ℕ × TrayHostTransition) := []

namespace Session

/-- The application starts. -/
def start (startMinimized : Bool) (file : Option StoredPreferences) (now : ℕ)
    (early available opens : Bool) : Session where
  app := .start startMinimized file now early available opens
  drained := now

/-- An event of an application that runs. -/
def step (s : Session) (event : AppEvent) : Option Session :=
  if s.app.running then
    match event, s.app.window with
    | .host available, _ => some { s with app := { s.app with available } }
    | .active trayActive, _ => some { s with app := { s.app with trayActive } }
    | .file file, _ => some { s with app := { s.app with file } }
    | .drain commands now later opens, _ =>
      let (transition, app) := s.app.drainCommands commands now later opens
      some { app, drained := now, log := s.log ++ [(now, transition)] }
    | .close, some _ => some { s with app := s.app.closeWindow }
    | .prefer edit saves now, some window =>
      let window := { window with preferences := window.preferences.edit edit }
      some { s with app := s.app.persistPreferences window saves now }
    | .close, none | .prefer _ _ _, none => none
  else none

/-- Windows can be created, and a host of the tray that comes back is there until the application
    has seen it. -/
def Steady (s : Session) : AppEvent → Prop
  | .host false => s.app.available = true → s.app.trayHost.available = true
  | .drain _ _ _ opens => opens = true
  | _ => True

instance (s : Session) : (event : AppEvent) → Decidable (s.Steady event)
  | .host false => inferInstanceAs (Decidable (_ → _))
  | .drain _ _ _ _ => inferInstanceAs (Decidable (_ = _))
  | .host true | .active _ | .file _ | .close | .prefer _ _ _ => .isTrue trivial

end Session

/-! ## What the application keeps

A drain is taken apart into its steps: the commands of the tray, the observation, and what follows
from it.
-/

/-- Noire can be reached, or a loss of the host is noted for which a window is to be opened; and the
    window is hidden only where there is a host. -/
structure Tended (app : AppRuntime) (drained : ℕ) : Prop where
  seen : app.trayHost.available = true → app.trayHost.lossStarted = none
  grace : ∀ started, app.trayHost.lossStarted = some started → drained < started + trayLossGrace
  gone : app.trayHost.available = false → app.trayHost.lossStarted = none →
    app.window.isSome = true ∨ app.available = true
  hides : app.window.isSome = true → app.closeToTray = true →
    app.trayHost.available = true ∨ app.available = true

section Tended

variable {app : AppRuntime} {drained : ℕ}

/-- A window is there, or it is created. -/
theorem showWindow_isSome (app : AppRuntime) : (app.showWindow true).window.isSome = true := by
  unfold AppRuntime.showWindow
  split
  · assumption
  · rfl

/-- Showing a window changes nothing of the host. -/
theorem showWindow_host (app : AppRuntime) (opens : Bool) :
    (app.showWindow opens).trayHost = app.trayHost ∧
      (app.showWindow opens).available = app.available := by
  unfold AppRuntime.showWindow
  split
  · exact ⟨rfl, rfl⟩
  · cases opens <;> exact ⟨rfl, rfl⟩

/-- A window that is created is hidden only where there is a host now. -/
theorem showWindow_window (app : AppRuntime) (opens : Bool) :
    ((app.showWindow opens).window = app.window ∧
        (app.showWindow opens).closeToTray = app.closeToTray) ∨
      app.window.isSome = false ∧
        ((app.showWindow opens).closeToTray = true → app.available = true) := by
  unfold AppRuntime.showWindow
  split
  · exact .inl ⟨rfl, rfl⟩
  · rename_i hnone
    refine .inr ⟨Bool.eq_false_iff.mpr hnone, ?_⟩
    cases opens <;> exact fun hclose => (Bool.and_eq_true_iff.mp hclose).2

theorem Tended.showWindow (h : Tended app drained) (opens : Bool) :
    Tended (app.showWindow opens) drained := by
  obtain ⟨hhost, havailable⟩ := showWindow_host app opens
  refine ⟨?_, ?_, fun hunseen hloss => ?_, fun hwindow hclose => ?_⟩
  · rw [hhost]
    exact h.seen
  · rw [hhost]
    exact h.grace
  · rw [hhost] at hunseen hloss
    rw [havailable]
    rcases showWindow_window app opens with ⟨hwindow, -⟩ | ⟨hnone, -⟩
    · rw [hwindow]
      exact h.gone hunseen hloss
    · exact (h.gone hunseen hloss).imp_left fun hsome => by rw [hnone] at hsome; cases hsome
  · rw [hhost, havailable]
    rcases showWindow_window app opens with ⟨hwindow', hclose'⟩ | ⟨-, hhides⟩
    · rw [hwindow'] at hwindow
      rw [hclose'] at hclose
      exact h.hides hwindow hclose
    · exact .inr (hhides hclose)

theorem Tended.runCommands (h : Tended app drained) (opens : Bool) (commands : List TrayCommand) :
    Tended (commands.foldl (AppRuntime.runCommand opens) app) drained := by
  induction commands generalizing app with
  | nil => exact h
  | cons command commands ih =>
    cases command with
    | «show» => exact ih (h.showWindow opens)
    | quit => exact ih ⟨h.seen, h.grace, h.gone, h.hides⟩
    | toggleProcessing | hostOnline | hostOffline => exact ih h

/-- The commands of the tray change nothing of the host. -/
theorem runCommands_host (app : AppRuntime) (opens : Bool) (commands : List TrayCommand) :
    (commands.foldl (AppRuntime.runCommand opens) app).trayHost = app.trayHost ∧
      (commands.foldl (AppRuntime.runCommand opens) app).available = app.available := by
  induction commands generalizing app with
  | nil => exact ⟨rfl, rfl⟩
  | cons command commands ih =>
    cases command with
    | «show» =>
      obtain ⟨hhost, havailable⟩ := showWindow_host app opens
      exact ⟨(ih _).1.trans hhost, (ih _).2.trans havailable⟩
    | quit | toggleProcessing | hostOnline | hostOffline => exact ih _

/-- What is seen of the host. -/
theorem observe_cases (host : TrayHostState) (available : Bool) (now : ℕ) :
    (host.observe available now = (.recovered, ⟨true, none⟩) ∧ available = true ∧
        host.available = false) ∨
      (host.observe available now = (.lost, ⟨false, some now⟩) ∧ available = false ∧
        host.available = true) ∨
      (∃ started, host.observe available now = (.fallbackDue, { host with lossStarted := none }) ∧
        available = false ∧ host.available = false ∧ host.lossStarted = some started ∧
        started + trayLossGrace ≤ now) ∨
      host.observe available now = (.none, host) ∧ available = host.available ∧
        ∀ started, available = false → host.lossStarted = some started →
          now < started + trayLossGrace := by
  -- By what was seen last, and what is there now.
  obtain ⟨seen, loss⟩ := host
  have hgrace : 0 < trayLossGrace := by decide
  cases seen with
  | true => cases available with
    | true => exact .inr (.inr (.inr ⟨rfl, rfl, fun _ hgone => by cases hgone⟩))
    | false => exact .inr (.inl ⟨rfl, rfl, rfl⟩)
  | false => cases available with
    | true => exact .inl ⟨rfl, rfl, rfl⟩
    | false => cases loss with
      | none => exact .inr (.inr (.inr ⟨rfl, rfl, fun _ _ hloss => by cases hloss⟩))
      | some started =>
        by_cases hdue : trayLossGrace ≤ now - started
        · refine .inr (.inr (.inl ⟨started, ?_, rfl, rfl, rfl, by omega⟩))
          simp [TrayHostState.observe, hdue]
        · refine .inr (.inr (.inr ⟨?_, rfl, fun _ _ hloss => ?_⟩))
          · simp [TrayHostState.observe, hdue]
          · cases hloss
            omega

/-- The host is as it was. -/
theorem Tended.unchanged (h : Tended app drained) (hsame : app.available = app.trayHost.available)
    {now : ℕ} (hwait : ∀ started, app.available = false → app.trayHost.lossStarted = some started →
      now < started + trayLossGrace) (later : Bool) :
    Tended { app with available := later } now := by
  refine ⟨h.seen, fun started hstarted => ?_, fun hunseen hnone => ?_, fun hwindow hclose => ?_⟩
  · have hunseen : app.trayHost.available = false := by
      by_contra hseen
      have hnone := h.seen (Bool.of_not_eq_false hseen)
      exact absurd (hnone.symm.trans hstarted) nofun
    exact hwait started (hsame.trans hunseen) hstarted
  · refine (h.gone hunseen hnone).imp_right fun hthere => ?_
    exact absurd (hthere.symm.trans (hsame.trans hunseen)) nofun
  · have hseen := h.hides hwindow hclose
    rw [hsame, or_self] at hseen
    exact .inl hseen

/-- The host has been gone for too long: a window is opened, and the loss is dealt with. -/
theorem Tended.fallback (h : Tended app drained) (hthere : app.available = false)
    (hunseen : app.trayHost.available = false) (now : ℕ) (later : Bool)
    (update : NoireView → NoireView) :
    Tended ((({ app with trayHost := { app.trayHost with lossStarted := none }
                         available := later } : AppRuntime).showWindow true).updateView update)
      now := by
  let app' : AppRuntime :=
    { app with trayHost := { app.trayHost with lossStarted := none }, available := later }
  obtain ⟨hhost, havailable⟩ := showWindow_host app' true
  have hwindow : ((app'.showWindow true).updateView update).window.isSome = true := by
    rw [AppRuntime.updateView, Option.isSome_map]
    exact showWindow_isSome app'
  have hloss : (app'.showWindow true).trayHost.lossStarted = none := by rw [hhost]
  refine ⟨fun _ => hloss, fun _ hstarted => absurd (hloss.symm.trans hstarted) nofun,
    fun _ _ => .inl hwindow, fun _ hclose => ?_⟩
  rcases showWindow_window app' true with ⟨hwindow', hclose'⟩ | ⟨-, hhides⟩
  · -- The window that was there could not be hidden.
    have hsome : app.window.isSome = true := by
      have hsome := showWindow_isSome app'
      rwa [hwindow'] at hsome
    rcases h.hides hsome (hclose'.symm.trans hclose) with hseen | hthere'
    · exact absurd (hseen.symm.trans hunseen) nofun
    · exact absurd (hthere'.symm.trans hthere) nofun
  · exact .inr (havailable.trans (hhides hclose))

/-- **A drain**, if a window can be created. -/
theorem Tended.drainCommands (h : Tended app drained) (commands : List TrayCommand) (now : ℕ)
    (later : Bool) : Tended (app.drainCommands commands now later true).2 now := by
  have htended := h.runCommands true commands
  unfold AppRuntime.drainCommands
  dsimp only
  generalize commands.foldl (AppRuntime.runCommand true) app = app' at htended ⊢
  rcases observe_cases app'.trayHost app'.available now with
    ⟨hobserve, -, -⟩ | ⟨hobserve, -, -⟩ | ⟨started, hobserve, hthere, hwas, -, -⟩ |
    ⟨hobserve, hsame, hwait⟩
  · -- the host is back
    rw [hobserve]
    exact ⟨fun _ => rfl, nofun, nofun, fun _ _ => .inl rfl⟩
  · -- it is lost, and the grace begins
    rw [hobserve]
    refine ⟨nofun, fun _ hstarted => ?_, nofun, nofun⟩
    cases hstarted
    exact Nat.lt_add_of_pos_right (by decide)
  · -- the grace is over, and the window shows itself
    rw [hobserve]
    exact htended.fallback hthere hwas now later (·.showToast trayUnavailableToast now)
  · -- nothing has changed
    rw [hobserve]
    exact htended.unchanged hsame hwait later

end Tended

/-! ## Every session

The induction is over the events; the log of the drains is part of the state.
-/

/-- At this time the host was lost, and nothing was seen of it since: it was not there when the
    session started, or a drain has found it gone. -/
def Loss (missing : Option ℕ) (log : List (ℕ × TrayHostTransition)) (started : ℕ) : Prop :=
  missing = some started ∧ (∀ entry ∈ log, entry.2 = .none) ∨
    ∃ before after, log = before ++ (started, .lost) :: after ∧ ∀ entry ∈ after, entry.2 = .none

/-- A window was opened only for a loss that had lasted for the time of grace. -/
def Justified (missing : Option ℕ) (log : List (ℕ × TrayHostTransition)) : Prop :=
  ∀ before now after, log = before ++ (now, .fallbackDue) :: after →
    ∃ started, Loss missing before started ∧ started + trayLossGrace ≤ now

section Log

variable {missing : Option ℕ} {log : List (ℕ × TrayHostTransition)} {started now : ℕ}
  {transition : TrayHostTransition}

/-- A loss lasts while nothing is seen. -/
theorem Loss.wait (h : Loss missing log started) (now : ℕ) :
    Loss missing (log ++ [(now, .none)]) started := by
  have hsnoc : ∀ {entries : List (ℕ × TrayHostTransition)}, (∀ entry ∈ entries, entry.2 = .none) →
      ∀ entry ∈ entries ++ [(now, .none)], entry.2 = TrayHostTransition.none := by
    intro entries hentries entry hentry
    rcases List.mem_append.mp hentry with hentry | hentry
    · exact hentries entry hentry
    · rw [List.mem_singleton.mp hentry]
  rcases h with ⟨hmissing, hquiet⟩ | ⟨before, after, rfl, hquiet⟩
  · exact .inl ⟨hmissing, hsnoc hquiet⟩
  · exact .inr ⟨before, after ++ [(now, .none)], by simp, hsnoc hquiet⟩

/-- Another entry needs to be justified itself. -/
theorem Justified.snoc (h : Justified missing log)
    (hnew : transition = .fallbackDue →
      ∃ started, Loss missing log started ∧ started + trayLossGrace ≤ now) :
    Justified missing (log ++ [(now, transition)]) := by
  intro before now' after hlog
  rcases List.eq_nil_or_concat after with rfl | ⟨after, last, rfl⟩
  · obtain ⟨rfl, hlast⟩ := List.append_inj' hlog rfl
    obtain ⟨rfl, rfl⟩ : now = now' ∧ transition = .fallbackDue := by simpa using hlast
    exact hnew rfl
  · rw [List.concat_eq_append, ← List.cons_append, ← List.append_assoc] at hlog
    exact h before now' after (List.append_inj' hlog rfl).1

end Log

/-- What a session keeps. -/
structure Session.Kept (missing : Option ℕ) (s : Session) : Prop where
  tended : Tended s.app s.drained
  loss : ∀ started, s.app.trayHost.lossStarted = some started → Loss missing s.log started
  justified : Justified missing s.log

/-- What a drain finds out about the host. -/
theorem drainCommands_host (app : AppRuntime) (commands : List TrayCommand) (now : ℕ)
    (later opens : Bool) :
    (app.drainCommands commands now later opens).1 =
        (app.trayHost.observe app.available now).1 ∧
      (app.drainCommands commands now later opens).2.trayHost =
        (app.trayHost.observe app.available now).2 := by
  obtain ⟨hhost, havailable⟩ := runCommands_host app opens commands
  unfold AppRuntime.drainCommands
  dsimp only
  rw [hhost, havailable]
  refine ⟨rfl, ?_⟩
  generalize app.trayHost.observe app.available now = observed
  obtain ⟨transition, trayHost⟩ := observed
  cases transition with
  | fallbackDue => exact (showWindow_host _ opens).1
  | none | lost | recovered => rfl

namespace Session

variable {s s' : Session} {missing : Option ℕ} {event : AppEvent}

/-- **A drain** keeps it. -/
theorem Kept.drain (h : s.Kept missing) (commands : List TrayCommand) (now : ℕ) (later : Bool) :
    Kept missing
      { app := (s.app.drainCommands commands now later true).2
        drained := now
        log := s.log ++ [(now, (s.app.drainCommands commands now later true).1)] } := by
  obtain ⟨htransition, hhost⟩ := drainCommands_host s.app commands now later true
  refine ⟨h.tended.drainCommands commands now later, fun started hstarted => ?_, ?_⟩
  · show Loss missing (s.log ++ _) started
    have hstarted : (s.app.drainCommands commands now later true).2.trayHost.lossStarted =
      some started := hstarted
    rw [hhost] at hstarted
    rw [htransition]
    -- What is observed is a host, a loss that begins, one that is over, or one that lasts.
    rcases observe_cases s.app.trayHost s.app.available now with
      ⟨hobserve, -, -⟩ | ⟨hobserve, -, -⟩ | ⟨_, hobserve, -, -, -, -⟩ | ⟨hobserve, -, -⟩
    · rw [hobserve] at hstarted
      cases hstarted
    · rw [hobserve] at hstarted ⊢
      cases hstarted
      exact .inr ⟨s.log, [], rfl, fun _ hmem => absurd hmem List.not_mem_nil⟩
    · rw [hobserve] at hstarted
      cases hstarted
    · rw [hobserve] at hstarted ⊢
      exact (h.loss started hstarted).wait now
  · refine h.justified.snoc fun hdue => ?_
    rw [htransition] at hdue
    rcases observe_cases s.app.trayHost s.app.available now with
      ⟨hobserve, -, -⟩ | ⟨hobserve, -, -⟩ | ⟨started, hobserve, -, -, hloss, hpassed⟩ |
      ⟨hobserve, -, -⟩
    · rw [hobserve] at hdue
      cases hdue
    · rw [hobserve] at hdue
      cases hdue
    · -- only a loss that has lasted for the grace is due
      exact ⟨started, h.loss started hloss, hpassed⟩
    · rw [hobserve] at hdue
      cases hdue

/-- What else happens to the application leaves the host as it was seen. -/
theorem Kept.of_tended (h : s.Kept missing) {app : AppRuntime} (htended : Tended app s.drained)
    (hhost : app.trayHost = s.app.trayHost) : Kept missing { s with app } :=
  ⟨htended, fun started hstarted => h.loss started (by rw [← hhost]; exact hstarted), h.justified⟩

/-- **An event** keeps it. -/
theorem Kept.step (h : s.Kept missing) (hsteady : s.Steady event) (hstep : s.step event = some s') :
    s'.Kept missing := by
  obtain ⟨hseen, hgrace, hgone, hhides⟩ := h.tended
  unfold Session.step at hstep
  by_cases hrunning : s.app.running = true
  · rw [if_pos hrunning] at hstep
    cases event with
    | host available =>
      cases hstep
      cases available with
      | true => exact h.of_tended ⟨hseen, hgrace, fun _ _ => .inr rfl, fun _ _ => .inr rfl⟩ rfl
      | false =>
        -- A host that goes was seen, or was not there.
        have hunseen : s.app.trayHost.available = false → ¬s.app.available = true :=
          fun hunseen hthere => absurd ((hsteady hthere).symm.trans hunseen) nofun
        refine h.of_tended ⟨hseen, hgrace, fun hwas hloss => ?_, fun hwindow hclose => ?_⟩ rfl
        · exact .inl ((hgone hwas hloss).resolve_right (hunseen hwas))
        · by_contra hnone
          have hwas := Bool.eq_false_iff.mpr fun hwas => hnone (.inl hwas)
          exact hunseen hwas ((hhides hwindow hclose).resolve_left (Bool.eq_false_iff.mp hwas))
    -- What is active and the file bear on neither the host nor the window.
    | active trayActive =>
      cases hstep
      exact h.of_tended ⟨hseen, hgrace, hgone, hhides⟩ rfl
    | file file =>
      cases hstep
      exact h.of_tended ⟨hseen, hgrace, hgone, hhides⟩ rfl
    | drain commands now later opens =>
      obtain rfl : opens = true := hsteady
      cases hstep
      exact h.drain commands now later
    | close =>
      cases hwindow : s.app.window with
      | none =>
        rw [hwindow] at hstep
        cases hstep
      | some window =>
        rw [hwindow] at hstep
        cases hstep
        have hsome : s.app.window.isSome = true := by rw [hwindow]; rfl
        unfold AppRuntime.closeWindow
        split
        · -- the window is only hidden where a host was seen at the last drain, or is there
          rename_i hclose
          refine h.of_tended ⟨hseen, hgrace, fun hwas _ => .inr ?_, nofun⟩ rfl
          exact (hhides hsome hclose).resolve_left (Bool.eq_false_iff.mp hwas)
        · exact h.of_tended ⟨hseen, hgrace, hgone, hhides⟩ rfl
    | prefer edit saves now =>
      cases hwindow : s.app.window with
      | none =>
        rw [hwindow] at hstep
        cases hstep
      | some window =>
        rw [hwindow] at hstep
        cases hstep
        -- A preference that is edited is seen in the window, saved or not.
        cases saves <;>
          exact h.of_tended ⟨hseen, hgrace, fun _ _ => .inl rfl, fun _ hclose =>
            .inr (Bool.and_eq_true_iff.mp hclose).2⟩ rfl
  · rw [if_neg hrunning] at hstep
    cases hstep

/-- It holds when the application has started. -/
theorem Kept.start (startMinimized : Bool) (file : Option StoredPreferences) (now : ℕ)
    (early available opens : Bool) :
    Kept (TrayHostState.new available now).lossStarted
      (start startMinimized file now early available opens) := by
  let app : AppRuntime :=
    { available, file, closeToTray := (DesktopPreferences.load file).closeToTray && early
      trayHost := .new available now }
  -- Whether a host is there is seen before anything else.
  have htended : Tended app now := by
    cases available with
    | true => exact ⟨fun _ => rfl, nofun, nofun, nofun⟩
    | false =>
      refine ⟨nofun, fun started hstarted => ?_, nofun, nofun⟩
      cases hstarted
      exact Nat.lt_add_of_pos_right (by decide)
  have hstart : Tended (AppRuntime.start startMinimized file now early available opens) now ∧
      (AppRuntime.start startMinimized file now early available opens).trayHost =
        .new available now := by
    unfold AppRuntime.start
    dsimp only
    split
    · exact ⟨htended, rfl⟩
    · exact ⟨htended.showWindow opens, (showWindow_host app opens).1⟩
  refine ⟨hstart.1, fun started hstarted => .inl ⟨?_, fun _ hmem => absurd hmem List.not_mem_nil⟩,
    fun before now after hlog => ?_⟩
  · rw [← hstart.2]
    exact hstarted
  · have hlog : [] = before ++ (now, .fallbackDue) :: after := hlog
    exact absurd hlog.symm (by simp)

end Session

/-- **Noire can always be reached again.**  However the host of the tray, the window, the
    preferences and their file, and the commands of the tray interleave, and whatever the clock
    reads: if windows can be created, and a host that comes back is seen before it goes, then there
    is a window, or a host for the tray, or one was seen at the last drain, or it has been gone for
    less than the time of grace; a window that would be hidden when it is closed has a host now or
    had one at the last drain; and a drain that opens a window because the host is gone does it once
    for a loss, after the time of grace. -/
theorem never_stranded {startMinimized : Bool} {file : Option StoredPreferences} {now : ℕ}
    {early available opens : Bool} {events : List AppEvent} {s : Session}
    (run : Lib.Run (fun s event s' => Session.step s event = some s') Session.Steady
      (.start startMinimized file now early available opens) events s) :
    (s.app.window.isSome = true ∨ s.app.available = true ∨ s.app.trayHost.available = true ∨
        ∃ started, s.app.trayHost.lossStarted = some started ∧
          s.drained < started + trayLossGrace) ∧
      (s.app.window.isSome = true → s.app.closeToTray = true →
        s.app.available = true ∨ s.app.trayHost.available = true) ∧
      Justified (TrayHostState.new available now).lossStarted s.log := by
  have hkept := run.invariant (Session.Kept (TrayHostState.new available now).lossStarted)
    (.start ..) fun _ _ _ h hsteady hstep => h.step hsteady hstep
  refine ⟨?_, fun hwindow hclose => (hkept.tended.hides hwindow hclose).symm, hkept.justified⟩
  cases hseen : s.app.trayHost.available with
  | true => exact .inr (.inr (.inl rfl))
  | false => cases hloss : s.app.trayHost.lossStarted with
    | none => exact (hkept.tended.gone hseen hloss).imp_right .inl
    | some started => exact .inr (.inr (.inr ⟨started, rfl, hkept.tended.grace started hloss⟩))

/-- The host is lost while the window is hidden, and comes back after a window was opened. -/
def desktopCrash : List AppEvent :=
  [.close, .host false, .drain [.hostOffline] 1000 false true, .drain [] 4000 false true,
    .drain [] 6000 false true, .host true, .drain [.hostOnline] 9000 true true, .close]

theorem never_stranded_desktopCrash :
    ∃ s, Lib.Run (fun s event s' => Session.step s event = some s') Session.Steady
        (.start false none 0 true true true) desktopCrash s ∧
      s.log = [(1000, .lost), (4000, .none), (6000, .fallbackDue), (9000, .recovered)] ∧
      s.app.window.isSome = false ∧ s.app.available = true ∧
      Justified (TrayHostState.new true 0).lossStarted s.log := by
  obtain ⟨s, hs, hlog, hwindow, havailable⟩ : ∃ s, desktopCrash.foldlM
      (fun s event => if s.Steady event then s.step event else none)
        (Session.start false none 0 true true true) = some s ∧
      s.log = [(1000, .lost), (4000, .none), (6000, .fallbackDue), (9000, .recovered)] ∧
      s.app.window.isSome = false ∧ s.app.available = true := ⟨_, rfl, rfl, rfl, rfl⟩
  have run : Lib.Run (fun s event s' => Session.step s event = some s') Session.Steady
      (.start false none 0 true true true) desktopCrash s :=
    Lib.Run.of_foldlM _ (fun _ _ _ hstep => Option.ite_none_right_eq_some.mp hstep) hs
  exact ⟨s, run, hlog, hwindow, havailable, (never_stranded run).2.2⟩

end Noire.Ui
