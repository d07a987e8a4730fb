import Noire.Control.Newer
import Noire.Lib.Discipline
import Noire.Store.Crash

namespace Noire

/-!
# What a restart finds

A daemon works on the configuration that it has in memory, and saves what it is asked for.  It may
die at any moment, also while a save is under way.  The next one has only the files.

* `Operation.calls_saving` — an operation saves at most once, what it was asked for, and adopts
  what it has saved;
* `load_saved` — a load gives what a save has returned for;
* `Lives` — the daemons on the files, one after the other, and what the last one died saving;
* `settings_survive` — a restart finds the settings of the daemon before it; or those that it was
  just asked for, if it died saving them.

Two results of other modules are put together.  On the daemon's side a discipline follows the
saves of an operation: there is one at most, its candidate is what was asked for, and the daemon
adopts it exactly if it returned.  On the side of the files a save that returned is what a load
finds, and a save that is cut leaves the old settings or the new ones (`Store/Crash.lean`).  What
is not covered by either is a save that fails after its file was replaced, and `SavesHidden`
excludes it.

`Lives` chains daemons: one dies, the next starts on what it left.  The invariant `Survives` is
about the files, and says whose settings they give.
-/

open Lib

namespace Daemon

/-! ## What an operation saves

The state of the discipline is the last save, with what it was answered.
-/

variable {d d' : Daemon Unit} {operation : Operation} {env : ControlEnv} {expected : ℕ}
  {update : Config → Config} {candidate : Config}

/-- The operation asks for this configuration, on the revision that it was made on. -/
structure Asks (operation : Operation) (d : Daemon Unit) (candidate : Config) : Prop where
  writable : d.writable = true
  valid : candidate.Valid
  change : ∃ update, operation.change = some (d.revision, update) ∧ candidate = update d.config

/-- The last save of an operation, and whether it returned without an error. -/
abbrev LastSave := Option (Config × Bool)

/-- An operation saves at most once, and what it asks for. -/
def saving (operation : Operation) (d : Daemon Unit) : Discipline DaemonCall.Answer LastSave where
  allowed
    | .save candidate, last => last = none ∧ Asks operation d candidate
    | _, _ => True
  possible _ _ _ := True
  next
    | .save candidate, answer, _ => some (candidate, answer.isOk)
    | _, _, last => last
  idle _ := True

/-- The configuration after a last save: what was saved, or the one before. -/
def savedOr (config : Config) : LastSave → Config
  | some (candidate, true) => candidate
  | some (_, false) | none => config

/-- The daemon has adopted what it has saved. -/
def Adopts (config : Config) (result : Reply × Daemon Unit) (last : LastSave) : Prop :=
  result.2.config = savedOr config last

/-- **Every path of a change** saves at most once, and what the operation asks for. -/
theorem Changing.saving {p : DaemonProg (Except ControlError Snapshot × Daemon Unit)}
    (h : Changing d expected update env p) (hchange : operation.change = some (expected, update))
    (hvalid : d.config.Valid) :
    p.Obeys (saving operation d) (fun result last => result.2.config = savedOr d.config last)
      none := by
  have hasks : expected = d.revision → d.writable = true → (update d.config).Valid →
      Asks operation d (update d.config) := fun hrevision hwritable hcandidate =>
    ⟨hwritable, hcandidate, update, hrevision ▸ hchange, rfl⟩
  cases h with
  | conflict _ => exact rfl
  | readOnly _ => exact rfl
  | invalid _ _ => exact rfl
  | made _ _ => exact rfl
  -- The one save of a transaction, once the engine has accepted.
  | applied hrevision hwritable hcandidate =>
    refine Prog.Obeys.call trivial fun applied _ => ?_
    cases applied with
    | error error => exact rfl
    | ok observation =>
      have hcarried := hasks hrevision hwritable ((Config.validate_ok_iff _).mp hcandidate)
      refine Prog.Obeys.call ⟨rfl, hcarried⟩ fun saved _ => ?_
      cases saved with
      | ok _ => exact rfl
      | error persistence =>
        refine Prog.Obeys.call trivial fun restored _ => ?_
        cases restored with
        | ok restored => exact rfl
        | error rollback => exact rfl
  | saved hrevision hwritable hpreference =>
    refine Prog.Obeys.call
      ⟨rfl, hasks hrevision hwritable (hpreference.valid hvalid)⟩ fun saved _ => ?_
    cases saved with
    | ok _ => exact rfl
    | error persistence => exact rfl
  | managed hrevision hwritable hpreference enabled =>
    refine Prog.Obeys.call trivial fun managed _ => ?_
    cases managed with
    | error manager => exact rfl
    | ok _ =>
      refine Prog.Obeys.call
        ⟨rfl, hasks hrevision hwritable (hpreference.valid hvalid)⟩ fun saved _ => ?_
      cases saved with
      | ok _ => exact rfl
      -- the launch manager is told the previous setting
      | error error => exact Prog.Obeys.call trivial fun _ _ => rfl

/-- **An operation saves at most once**, and only what it asks for; and it adopts what was saved. -/
theorem Operation.calls_saving (operation : Operation) (env : ControlEnv)
    (hvalid : d.config.Valid) :
    (operation.calls d env).Obeys (saving operation d) (Adopts d.config) none := by
  cases hchange : operation.change with
  | some change =>
    obtain ⟨p, heq, hp⟩ := Operation.calls_changing d env hchange
    rw [heq]
    exact (hp.saving hchange hvalid).map
  | none =>
  cases operation with
  | start _ | stop _ | selectInput _ _ | setSuppressionEnabled _ _ | setStrength _ _
  | setLatencyProfile _ _ | setFailMode _ _ | setStartWithNoiseReduction _ _
  | setLaunchAtLogin _ _ => cases hchange
  -- The others save nothing, and keep the configuration.
  | setMeterMonitoring enabled =>
    refine Prog.Obeys.map (Prog.Obeys.call trivial fun metered _ => ?_)
    cases metered with
    | error error => exact rfl
    | ok _ => exact rfl
  | retry expected =>
    refine Prog.Obeys.map (Prog.Obeys.ite (fun _ => rfl) fun _ =>
      Prog.Obeys.call trivial fun retried _ => ?_)
    cases retried with
    | error error => exact rfl
    | ok _ => exact rfl
  | refreshObservation =>
    refine Prog.Obeys.map (Prog.Obeys.call trivial fun observed _ => ?_)
    obtain ⟨hconfig, -⟩ := adopted_keeps d observed env
    rcases announced_cases d.observation (adopted d observed env) with ⟨-, hcase⟩ | ⟨-, hcase⟩
    · show (announced d.observation (adopted d observed env)).2.config = d.config
      rw [hcase]
      exact hconfig
    · show (announced d.observation (adopted d observed env)).2.config = d.config
      rw [hcase]
      exact hconfig
  | inputs =>
    refine Prog.Obeys.map (Prog.Obeys.call trivial fun listed _ => ?_)
    cases listed with
    | error error => exact rfl
    | ok next => exact rfl

end Daemon

open Daemon

/-! ## What a load gives

The writes of a save that returns without an error are followed to the file, and the load to the
text in it.
-/

variable {toml : Toml} {path : Place → String} {faults : Faults} {fs fs' : Fs}
  {candidate : Config}

/-- The writes of a save that return leave the new text in the file. -/
theorem saveWrites_ok {backup canonical : String}
    (h : saveWrites faults fs backup canonical = (.ok (), fs')) :
    fs' (.file .primary) = some (.text canonical) := by
  unfold saveWrites at h
  split at h
  · cases h
  · split at h
    · cases h
    · rename_i fs₁ _ fs₂ hprimary
      obtain ⟨-, rfl⟩ := Prod.mk.inj h
      exact (atomicWrite_ok hprimary).1

/-- **What was saved is loaded.** -/
theorem load_saved (hreads : toml.ReadsBack)
    (h : save toml faults fs candidate = (.ok (), fs')) :
    loadView toml path fs' = .ok (candidate, .primary, true) := by
  have hproceeds : Proceeds toml faults fs candidate := by
    unfold save at h
    split at h
    · cases h
    · rename_i canonical hcanonical
      split at h
      · cases h
      · rename_i hnewer
        split at h
        · cases h
        · rename_i hcreate
          exact ⟨by rw [hcanonical]; rfl, hnewer, hcreate⟩
  obtain ⟨canonical, hcanonical, hsave⟩ := save_of_proceeds hproceeds
  exact loadView_of_decodes (saveWrites_ok (hsave.symm.trans h))
    (decode_canonical hreads hcanonical)

/-- None of the saves among the calls is one whose candidate appears although it was rejected. -/
def SavesHidden (toml : Toml) (path : Place → String) (faults : Faults) : Calls → Fs → Prop
  | [], _ => True
  | ⟨.save candidate, _⟩ :: rest, fs =>
    ¬Reappears toml path faults fs candidate ∧
      SavesHidden toml path faults rest (save toml faults fs candidate).2
  | _ :: rest, fs => SavesHidden toml path faults rest fs

/-- What a load gives after a last save. -/
def Holds (toml : Toml) (path : Place → String) (fs fs' : Fs) : LastSave → Prop
  | some (candidate, true) => loadView toml path fs' = .ok (candidate, .primary, true)
  | some (_, false) => loadView toml path fs' = loadView toml path fs
  | none => fs' = fs

variable {d : Daemon Unit} {operation : Daemon.Operation} {calls : Calls}

/-- After its save an operation leaves the files as they are. -/
theorem answers_after_save {last : Config × Bool}
    (hkept : (saving operation d).Kept (some last) calls)
    (hanswers : Answers toml path faults calls fs fs') :
    fs' = fs ∧ (saving operation d).after (some last) calls = some last := by
  induction calls with
  | nil => exact ⟨hanswers, rfl⟩
  | cons call rest ih =>
    obtain ⟨call, answer⟩ := call
    cases call with
    | save candidate => cases hkept.1.1
    | _ => exact ih hkept.2 hanswers

/-- **The files hold what an operation was told**: what it has saved, or what they held. -/
theorem answers_hold (hreads : toml.ReadsBack) (hkept : (saving operation d).Kept none calls)
    (hanswers : Answers toml path faults calls fs fs')
    (hhidden : SavesHidden toml path faults calls fs) :
    Holds toml path fs fs' ((saving operation d).after none calls) := by
  induction calls with
  | nil => exact hanswers
  | cons call rest ih =>
    obtain ⟨call, answer⟩ := call
    cases call with
    | save candidate =>
      obtain ⟨hanswer, hrest⟩ := hanswers
      rcases hsave : save toml faults fs candidate with ⟨error | _, fs₁⟩
      · -- the save was rejected: it is invisible, and nothing is saved after it
        rw [hsave] at hanswer hrest
        have hkept₁ : (saving operation d).Kept (some (candidate, false)) rest := by
          subst hanswer
          exact hkept.2
        obtain ⟨rfl, hafter⟩ := answers_after_save hkept₁ hrest
        subst hanswer
        show Holds toml path fs fs' ((saving operation d).after (some (candidate, false)) rest)
        rw [hafter]
        exact (rejected_save_invisible hreads hsave).mpr hhidden.1
      · rw [hsave] at hanswer hrest
        have hkept₁ : (saving operation d).Kept (some (candidate, true)) rest := by
          subst hanswer
          exact hkept.2
        obtain ⟨rfl, hafter⟩ := answers_after_save hkept₁ hrest
        subst hanswer
        show Holds toml path fs fs' ((saving operation d).after (some (candidate, true)) rest)
        rw [hafter]
        -- It returned: the files give what was saved.
        exact load_saved hreads hsave
    -- The other calls do not touch the files.
    | _ => exact ih hkept.2 hanswers hhidden

/-! ## Lives

A daemon may die between two calls, when the files are those of its calls so far, or in a save,
when they are those of a prefix of the save's steps.
-/

/-- The configuration that a daemon starts with, of the one that was loaded: noise reduction is
    active only if it is to start so. -/
def resumed (config : Config) : Config := { config with active := config.startWithNoiseReduction }

/-- A daemon at work, or one that has died, with what it was saving. -/
inductive Life
  | running
  | dead (saving : Option Config)

/-- The last daemon on the files, and the files. -/
structure Lives where
  daemon : Daemon Unit
  life : Life
  fs : Fs

/-- What happens to a daemon on its files: it starts; it performs an operation; it dies in one,
    between two calls; or it dies in one, some steps into a save, some of which may fail. -/
inductive LifeStep
  | start (env : ControlEnv) (calls : Calls)
  | operation (operation : Daemon.Operation) (env : ControlEnv) (faults : Faults) (calls : Calls)
  | dies (operation : Daemon.Operation) (env : ControlEnv) (faults : Faults) (calls : Calls)
  | diesSaving (operation : Daemon.Operation) (env : ControlEnv) (faults : Faults) (calls : Calls)
      (failures : Failures) (steps : ℕ)

/-- The candidate of the last save among the calls. -/
def lastSaved : Calls → Option Config
  | [] => none
  | ⟨.save candidate, _⟩ :: rest => (lastSaved rest).or (some candidate)
  | _ :: rest => lastSaved rest

/-- A step of the last daemon on the files, or of the next. -/
inductive LifeSteps (toml : Toml) (path : Place → String) : Lives → LifeStep → Lives → Prop
  | start {s : Lives} {d : Daemon Unit} {loaded : LoadOutcome} {env : ControlEnv} {calls : Calls}
    (hload : load toml path s.fs = .ok loaded)
    (hreturns : (Daemon.newCalls loaded env).Returns calls d) :
    LifeSteps toml path s (.start env calls) ⟨d, .running, s.fs⟩
  | operation {d d' : Daemon Unit} {fs fs' : Fs} {operation : Daemon.Operation} {env : ControlEnv}
    {faults : Faults} {calls : Calls} {reply : Daemon.Reply}
    (hreturns : (operation.calls d env).Returns calls (reply, d'))
    (hanswers : Answers toml path faults calls fs fs') :
    LifeSteps toml path ⟨d, .running, fs⟩ (.operation operation env faults calls)
      ⟨d', .running, fs'⟩
  | dies {d : Daemon Unit} {fs fs' : Fs} {operation : Daemon.Operation} {env : ControlEnv}
    {faults : Faults} {calls : Calls} {rest : DaemonProg (Daemon.Reply × Daemon Unit)}
    (hperforms : (operation.calls d env).Performs calls rest)
    (hanswers : Answers toml path faults calls fs fs') :
    LifeSteps toml path ⟨d, .running, fs⟩ (.dies operation env faults calls)
      ⟨d, .dead (lastSaved calls), fs'⟩
  | diesSaving {d : Daemon Unit} {fs fs' : Fs} {operation : Daemon.Operation} {env : ControlEnv}
    {faults : Faults} {calls : Calls} {candidate : Config}
    {next : Except String Unit → DaemonProg (Daemon.Reply × Daemon Unit)} {failures : Failures}
    {steps : ℕ} (hperforms : (operation.calls d env).Performs calls (.op (.save candidate) next))
    (hanswers : Answers toml path faults calls fs fs') :
    LifeSteps toml path ⟨d, .running, fs⟩
      (.diesSaving operation env faults calls failures steps)
      ⟨d, .dead (some candidate),
        ((saveProgram toml candidate).runFor (Disk.exec failures) steps ⟨fs', []⟩).fs⟩

/-- No save of the step that was rejected appears. -/
def StepHidden (toml : Toml) (path : Place → String) (s : Lives) : LifeStep → Prop
  | .start _ _ => True
  | .operation _ _ faults calls | .dies _ _ faults calls
  | .diesSaving _ _ faults calls _ _ => SavesHidden toml path faults calls s.fs

/-- The last save of the calls is the last one among them. -/
theorem lastSaved_eq (calls : Calls) (last : LastSave) :
    ((saving operation d).after last calls).map Prod.fst =
      (lastSaved calls).or (last.map Prod.fst) := by
  induction calls generalizing last with
  | nil => rfl
  | cons call rest ih =>
    obtain ⟨call, answer⟩ := call
    cases call with
    | save candidate =>
      refine (ih _).trans ?_
      show (lastSaved rest).or (some candidate) = ((lastSaved rest).or (some candidate)).or _
      rw [Option.or_assoc]
      rfl
    | _ => exact ih last

/-- What an operation has saved is what it asked for. -/
theorem asks_of_after {last : LastSave} (hkept : (saving operation d).Kept last calls)
    {saved : Config × Bool} (hafter : (saving operation d).after last calls = some saved) :
    last = some saved ∨ Asks operation d saved.1 := by
  induction calls generalizing last with
  | nil => exact .inl hafter
  | cons call rest ih =>
    obtain ⟨call, answer⟩ := call
    cases call with
    | save candidate =>
      rcases ih hkept.2 hafter with hlast | hasks
      · cases hlast
        exact .inr hkept.1.2
      · exact .inr hasks
    | _ => exact ih hkept.2 hafter

/-- What an operation has performed, it was allowed to, and what is left of it obeys. -/
theorem performs_saving {rest : DaemonProg (Daemon.Reply × Daemon Unit)} {env : ControlEnv}
    (hvalid : d.config.Valid) (hperforms : (operation.calls d env).Performs calls rest) :
    (saving operation d).Kept none calls ∧
      rest.Obeys (saving operation d) (Adopts d.config)
        ((saving operation d).after none calls) :=
  (operation.calls_saving env hvalid).performs hperforms (.of_forall fun _ _ _ => trivial)

/-- The settings that the files give are those of the last daemon; or those that it was asked for,
    if it has died saving them. -/
structure Survives (toml : Toml) (path : Place → String) (s : Lives) : Prop where
  valid : s.daemon.config.Valid
  files : ∃ config source writable, loadView toml path s.fs = .ok (config, source, writable) ∧
    (resumed config = resumed s.daemon.config ∨ ∃ candidate operation,
      s.life = .dead (some candidate) ∧ Asks operation s.daemon candidate ∧ config = candidate)

/-- Files that give the settings of a daemon. -/
theorem Survives.of_view {s : Lives} {config : Config} {source : LoadSource} {writable : Bool}
    (hvalid : s.daemon.config.Valid)
    (hview : loadView toml path s.fs = .ok (config, source, writable))
    (hsame : resumed config = resumed s.daemon.config) : Survives toml path s :=
  ⟨hvalid, config, source, writable, hview, .inl hsame⟩

/-- The files of a daemon at work give its settings. -/
theorem Survives.running {s : Lives} (h : Survives toml path s) (hlife : s.life = .running) :
    ∃ config source writable, loadView toml path s.fs = .ok (config, source, writable) ∧
      resumed config = resumed s.daemon.config := by
  obtain ⟨config, source, writable, hview, hsame | ⟨candidate, operation, hdead, -⟩⟩ := h.files
  · exact ⟨config, source, writable, hview, hsame⟩
  · rw [hlife] at hdead
    cases hdead

/-- A daemon starts with what is loaded. -/
theorem newCalls_config {loaded : LoadOutcome} {env : ControlEnv} {calls : Calls}
    (h : (Daemon.newCalls loaded env).Returns calls d) : d.config = resumed loaded.config := by
  obtain ⟨applied, rest, -, hrest⟩ := h.of_call
  obtain ⟨-, rfl⟩ := hrest.of_pure
  rfl

/-- A start. -/
theorem Survives.start {s : Lives} {loaded : LoadOutcome} {env : ControlEnv}
    (hload : load toml path s.fs = .ok loaded)
    (hreturns : (Daemon.newCalls loaded env).Returns calls d) :
    Survives toml path ⟨d, .running, s.fs⟩ := by
  have hvalid := load_valid hload
  have hconfig := newCalls_config hreturns
  have hview : loadView toml path s.fs = .ok (loaded.config, loaded.source, loaded.writable) := by
    unfold loadView
    rw [hload]
    rfl
  refine .of_view ?_ hview ?_
  · show d.config.Valid
    rw [hconfig]
    exact ⟨hvalid.schema, hvalid.selected, hvalid.followDefault, hvalid.strength⟩
  · show resumed loaded.config = resumed d.config
    rw [hconfig]
    rfl

/-- **One step** of the lives. -/
theorem Survives.step (hreads : toml.ReadsBack) {s s' : Lives} {step : LifeStep}
    (h : Survives toml path s) (hhidden : StepHidden toml path s step)
    (hstep : LifeSteps toml path s step s') : Survives toml path s' := by
  cases hstep with
  | start hload hreturns => exact .start hload hreturns
  | @operation d d' fs fs' operation env faults calls reply hreturns hanswers =>
    obtain ⟨config, source, writable, hview, hsame⟩ := h.running rfl
    obtain ⟨hkept, hadopts⟩ := performs_saving h.valid hreturns.performs
    have hholds := answers_hold hreads hkept hanswers hhidden
    have hconfig : d'.config = savedOr d.config ((saving operation d).after none calls) := hadopts
    cases hlast : (saving operation d).after none calls with
    | none =>
      rw [hlast] at hholds hconfig
      obtain rfl : fs' = fs := hholds
      exact .of_view (hconfig ▸ h.valid) hview (hconfig ▸ hsame)
    | some saved =>
      obtain ⟨candidate, returned⟩ := saved
      rw [hlast] at hholds hconfig
      cases returned with
      -- The save was rejected, and nothing was adopted.
      | false => exact .of_view (hconfig ▸ h.valid) (hholds.trans hview) (hconfig ▸ hsame)
      | true =>
        obtain hnone | hasks := asks_of_after hkept hlast
        · cases hnone
        · exact .of_view (hconfig ▸ hasks.valid) hholds (congrArg resumed hconfig).symm
  | @dies d fs fs' operation env faults calls rest hperforms hanswers =>
    obtain ⟨config, source, writable, hview, hsame⟩ := h.running rfl
    obtain ⟨hkept, -⟩ := performs_saving h.valid hperforms
    have hholds := answers_hold hreads hkept hanswers hhidden
    -- What it was saving last is what the next daemon may find.
    have hsaved : ((saving operation d).after none calls).map Prod.fst = lastSaved calls :=
      (lastSaved_eq calls none).trans (Option.or_none)
    cases hlast : (saving operation d).after none calls with
    | none =>
      rw [hlast] at hholds
      obtain rfl : fs' = fs := hholds
      exact .of_view h.valid hview hsame
    | some saved =>
      obtain ⟨candidate, returned⟩ := saved
      rw [hlast] at hholds hsaved
      cases returned with
      | false => exact .of_view h.valid (hholds.trans hview) hsame
      | true =>
        -- the save has returned, and the daemon has not adopted it yet
        obtain hnone | hasks := asks_of_after hkept hlast
        · cases hnone
        · exact ⟨h.valid, candidate, .primary, true, hholds,
            .inr ⟨candidate, operation, congrArg Life.dead hsaved.symm, hasks, rfl⟩⟩
  | @diesSaving d fs fs' operation env faults calls candidate next failures steps hperforms
      hanswers =>
    obtain ⟨config, source, writable, hview, hsame⟩ := h.running rfl
    obtain ⟨hkept, hallowed, -⟩ := performs_saving h.valid hperforms
    obtain ⟨hnone, hasks⟩ := hallowed
    have hholds := answers_hold hreads hkept hanswers hhidden
    rw [hnone] at hholds
    obtain rfl : fs' = fs := hholds
    -- The save is cut: its files are those of a prefix of its steps.
    have hcut : CutShort toml candidate fs'
        ((saveProgram toml candidate).runFor (Disk.exec failures) steps ⟨fs', []⟩) :=
      (saveProgram_throughout toml candidate fs').runFor steps
    rcases hcut.load hreads with hload | ⟨outcome, hload, hconfig⟩
    · exact .of_view h.valid ((congrArg (Except.map _) hload).trans hview) hsame
    · refine ⟨h.valid, outcome.config, outcome.source, outcome.writable, ?_,
        .inr ⟨candidate, operation, rfl, hasks, hconfig⟩⟩
      show (load toml path _).map _ = _
      rw [hload]
      rfl

/-- A daemon that has started on files. -/
def StartedOn (toml : Toml) (path : Place → String) (s : Lives) : Prop :=
  s.life = .running ∧ ∃ loaded env calls, load toml path s.fs = .ok loaded ∧
    (Daemon.newCalls loaded env).Returns calls s.daemon

/-- **Settings survive.** Daemons start on their files, perform operations and die, between any two
    calls or anywhere in a save, one after the other.  If no save that was rejected appears, then
    the next daemon starts, and with the settings of the one before it; or with those that it was
    just asked for, if it died saving them or before it could adopt them. -/
theorem settings_survive (hreads : toml.ReadsBack) {s₀ s : Lives} {steps : List LifeStep}
    (hstarted : StartedOn toml path s₀)
    (run : Run (LifeSteps toml path) (StepHidden toml path) s₀ steps s) :
    ∃ loaded, load toml path s.fs = .ok loaded ∧ ∀ env calls d,
      (Daemon.newCalls loaded env).Returns calls d →
        d.config = resumed s.daemon.config ∨ ∃ candidate operation,
          s.life = .dead (some candidate) ∧ Asks operation s.daemon candidate ∧
            d.config = resumed candidate := by
  have h : Survives toml path s := by
    refine run.invariant (Survives toml path) ?_ fun s step s' h hhidden hstep =>
      h.step hreads hhidden hstep
    obtain ⟨hlife, loaded, env, calls, hload, hreturns⟩ := hstarted
    obtain ⟨daemon, life, fs⟩ := s₀
    cases hlife
    exact Survives.start (s := ⟨daemon, .running, fs⟩) hload hreturns
  obtain ⟨config, source, writable, hview, hcases⟩ := h.files
  obtain ⟨loaded, hload, rfl⟩ := exists_of_loadView hview
  refine ⟨loaded, hload, fun env calls d hreturns => ?_⟩
  rw [newCalls_config hreturns]
  refine hcases.imp id fun ⟨candidate, operation, hlife, hasks, hconfig⟩ => ?_
  exact ⟨candidate, operation, hlife, hasks, congrArg resumed hconfig⟩

/-- A daemon without files that dies some steps into its first save. -/
theorem settings_survive_cut :
    ∃ disk loaded, (saveProgram launchToml { launchAtLogin := true }).runFor
        (Disk.exec fun _ => none) 8 ⟨fun _ => none, []⟩ = disk ∧
      load launchToml (fun _ => "") disk.fs = .ok loaded ∧
      ∀ env calls d, (Daemon.newCalls loaded env).Returns calls d →
        d.config = {} ∨ d.config = { launchAtLogin := true } := by
  let d := (Daemon.new (Daemon.countingEngine 2) (0, {}) Daemon.firstLoad {}).detached
  -- A first start finds no file and runs on the defaults.
  have hstarted : StartedOn launchToml (fun _ => "") ⟨d, .running, fun _ => none⟩ := by
    obtain ⟨calls, hcalls⟩ := Prog.Returns.of_run _
      (Daemon.newCalls_run (Daemon.countingEngine 2) (0, {}) Daemon.firstLoad {})
    exact ⟨rfl, Daemon.firstLoad, {}, calls, rfl, hcalls⟩
  have hperforms : ∃ next, (Daemon.Operation.calls (.setLaunchAtLogin true 1) d {}).Performs
      [⟨.setEnabled true, .ok ()⟩] (.op (.save { launchAtLogin := true }) next) :=
    ⟨_, .op (.nil _)⟩
  obtain ⟨next, hperforms⟩ := hperforms
  have hanswers : Answers launchToml (fun _ => "") (fun _ => none) [⟨.setEnabled true, .ok ()⟩]
      (fun _ => none) (fun _ => none) := rfl
  -- The daemon dies within the save, after eight of its calls.
  have hstep := @LifeSteps.diesSaving _ _ _ _ _ _ _ _ _ _ _ (fun _ => none) 8 hperforms hanswers
  obtain ⟨disk, hdisk⟩ : ∃ disk, (saveProgram launchToml { launchAtLogin := true }).runFor
      (Disk.exec fun _ => none) 8 ⟨fun _ => none, []⟩ = disk := ⟨_, rfl⟩
  rw [hdisk] at hstep
  obtain ⟨loaded, hload, hnext⟩ :=
    settings_survive launchToml_readsBack hstarted (Run.single (by exact trivial) hstep)
  refine ⟨disk, loaded, hdisk, hload, fun env calls d' hreturns => ?_⟩
  rcases hnext env calls d' hreturns with hconfig | ⟨candidate, operation, hlife, -, hconfig⟩
  · exact .inl hconfig
  · cases hlife
    exact .inr hconfig

end Noire
