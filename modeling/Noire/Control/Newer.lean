import Noire.Control.Transactions

namespace Noire

/-!
# Files of a newer daemon

A file whose schema is newer belongs to a newer daemon, and must keep its bytes whatever a
store and the daemon on it do.  A save looks at the file only, and then replaces the backup
as well.

* `Newer` — a file of a newer schema;
* `Rewrites` — a save that comes to its writes while the backup is one, or the file, unread;
* `save_keeps_newer` — a save keeps such files exactly if it is not one of these;
* `newer_files_kept` — over any run of loads, saves and daemon operations without one, they
  keep their bytes;
* `newer_backup_rewritten` — a run with one.

A save looks at the file before its writes, and the exact condition collects what this look
misses: the backup, and a file that could not be read.  The runs are those of `Control/Calls.lean`
with the store behind them, so a daemon's saves are among the steps.
-/

open Lib

variable {toml : Toml} {path : Place → String} {faults : Faults} {fs fs' : Fs}
  {candidate : Config}

/-- A text whose document has an integer version newer than the supported one. -/
def NewerText (toml : Toml) (text : String) : Prop :=
  ∃ version : ℤ, toml.schemaVersion text = .ok (some version) ∧
    (configSchemaVersion : ℤ) < version

/-- A file of a newer schema. -/
def Newer (toml : Toml) (fs : Fs) (target : Target) : Prop :=
  ∃ text, fs (.file target) = some (.text text) ∧ NewerText toml text

/-- A newer document is rejected as one. -/
theorem NewerText.decode {text : String} (h : NewerText toml text) :
    ∃ found supported, decodeAndMigrate toml text = .error (.newerSchema found supported) := by
  obtain ⟨version, hversion, hlt⟩ := h
  have hpositive : ¬version < 0 := by
    have : (0 : ℤ) < configSchemaVersion := by decide
    omega
  refine ⟨version.toNat, configSchemaVersion, ?_⟩
  unfold decodeAndMigrate
  rw [hversion]
  simp only [if_neg hpositive, if_pos hlt]

/-- What decodes is not newer. -/
theorem NewerText.not_decodes {text : String} (h : NewerText toml text) :
    (decodeAndMigrate toml text).isOk = false := by
  obtain ⟨found, supported, hdecode⟩ := h.decode
  rw [hdecode]
  rfl

/-! ## One save

When a save reaches a write, and what the write replaces, is known from `Store/ConfigStore.lean`;
what is added here is which of the replaced files is newer.
-/

/-- A save that comes to its writes and replaces a file of a newer schema: the backup, or a
    file that its look at the existing one could not read. -/
def Rewrites (toml : Toml) (faults : Faults) (fs : Fs) (candidate : Config) : Prop :=
  Proceeds toml faults fs candidate ∧ Writes faults fs .backup ∧
    (Newer toml fs .backup ∨ (Newer toml fs .primary ∧ Writes faults fs .primary))

/-- An atomic write that meets `Writes` returns, and replaces its file. -/
theorem atomicWrite_of_writes {target : Target} (bytes : String) (h : Writes faults fs target) :
    ∃ fs', atomicWrite faults fs target bytes = (.ok (), fs') := by
  have hok := (atomicWrite_isOk bytes).mpr h
  rcases heq : atomicWrite faults fs target bytes with ⟨error | _, fs'⟩
  · rw [heq] at hok
    cases hok
  · exact ⟨fs', rfl⟩

/-- One that does not returns an error. -/
theorem atomicWrite_of_not_writes {target : Target} (bytes : String)
    (h : ¬Writes faults fs target) :
    ∃ error fs', atomicWrite faults fs target bytes = (.error error, fs') := by
  rcases heq : atomicWrite faults fs target bytes with ⟨error | _, fs'⟩
  · exact ⟨error, fs', rfl⟩
  · exact absurd ((atomicWrite_isOk bytes).mp (by rw [heq]; rfl)) h

/-- The writes of a save replace nothing, the backup, or both files. -/
theorem saveWrites_files (faults : Faults) (fs : Fs) (backup canonical : String) :
    (¬Writes faults fs .backup ∧
        ∀ t, (saveWrites faults fs backup canonical).2 (.file t) = fs (.file t)) ∨
      (Writes faults fs .backup ∧
        (saveWrites faults fs backup canonical).2 (.file .backup) = some (.text backup) ∧
        ((¬Writes faults fs .primary ∧
            (saveWrites faults fs backup canonical).2 (.file .primary) = fs (.file .primary)) ∨
          (Writes faults fs .primary ∧ (saveWrites faults fs backup canonical).2
            (.file .primary) = some (.text canonical)))) := by
  unfold saveWrites
  by_cases hbackup : Writes faults fs .backup
  · obtain ⟨fs₁, heq₁⟩ := atomicWrite_of_writes backup hbackup
    obtain ⟨hfile₁, hothers, htemporaries⟩ := atomicWrite_ok heq₁
    -- the backup's write leaves what the file's write looks at
    have hsame : Writes faults fs₁ .primary ↔ Writes faults fs .primary :=
      writes_congr fun n => htemporaries .primary n Target.noConfusion
    refine .inr ⟨hbackup, ?_⟩
    rw [heq₁]
    dsimp only
    by_cases hprimary : Writes faults fs .primary
    · obtain ⟨fs₂, heq₂⟩ := atomicWrite_of_writes canonical (hsame.mpr hprimary)
      obtain ⟨hfile₂, hothers₂, -⟩ := atomicWrite_ok heq₂
      rw [heq₂]
      exact ⟨(hothers₂ .backup Target.noConfusion).trans hfile₁, .inr ⟨hprimary, hfile₂⟩⟩
    · obtain ⟨error, fs₂, heq₂⟩ :=
        atomicWrite_of_not_writes canonical fun h => hprimary (hsame.mp h)
      have hfiles := atomicWrite_error heq₂
      rw [heq₂]
      exact ⟨(hfiles .backup).trans hfile₁,
        .inl ⟨hprimary, (hfiles .primary).trans (hothers .primary Target.noConfusion)⟩⟩
  · obtain ⟨error, fs₁, heq₁⟩ := atomicWrite_of_not_writes backup hbackup
    rw [heq₁]
    exact .inl ⟨hbackup, atomicWrite_error heq₁⟩

/-- A file of a newer schema is not what a save writes. -/
theorem Newer.ne {target : Target} {text : String} (h : Newer toml fs target)
    (hdecodes : (decodeAndMigrate toml text).isOk = true) :
    fs (.file target) ≠ some (.text text) := by
  obtain ⟨text', hfile, hnewer⟩ := h
  intro heq
  obtain rfl : text' = text := by simpa [heq] using hfile.symm
  rw [hnewer.not_decodes] at hdecodes
  cases hdecodes

/-- What becomes the backup decodes. -/
theorem backupBytes_decodes {canonical : String}
    (hcanonical : (decodeAndMigrate toml canonical).isOk = true) :
    (decodeAndMigrate toml (backupBytes toml faults fs canonical)).isOk = true := by
  unfold backupBytes
  cases hprevious : ((faults.guard .readPrevious (readToString fs .primary)).toOption.filter
      fun existing => (decodeAndMigrate toml existing).isOk) with
  | none => exact hcanonical
  | some previous => exact (Option.filter_eq_some_iff.mp hprevious).2

/-- A save that is not one that rewrites them keeps the files of a newer schema. -/
theorem save_of_not_rewrites (h : ¬Rewrites toml faults fs candidate) {target : Target}
    (hnewer : Newer toml fs target) :
    (save toml faults fs candidate).2 (.file target) = fs (.file target) := by
  by_cases hproceeds : Proceeds toml faults fs candidate
  · obtain ⟨canonical, hcanonical, hsave⟩ := save_of_proceeds hproceeds
    rw [hsave]
    rcases saveWrites_files faults fs (backupBytes toml faults fs canonical) canonical with
      ⟨-, hfiles⟩ | ⟨hbackup, -, ⟨-, hfile⟩ | ⟨hprimary, -⟩⟩
    · exact hfiles target
    · cases target with
      | primary => exact hfile
      | backup => exact absurd ⟨hproceeds, hbackup, .inl hnewer⟩ h
    · cases target with
      | primary => exact absurd ⟨hproceeds, hbackup, .inr ⟨hnewer, hprimary⟩⟩ h
      | backup => exact absurd ⟨hproceeds, hbackup, .inl hnewer⟩ h
  · rw [save_of_not_proceeds hproceeds]

/-- **One save** keeps the files of a newer schema exactly if it is not one that rewrites
    them. -/
theorem save_keeps_newer (hreads : toml.ReadsBack) (faults : Faults) (fs : Fs)
    (candidate : Config) :
    (∀ target, Newer toml fs target →
        (save toml faults fs candidate).2 (.file target) = fs (.file target)) ↔
      ¬Rewrites toml faults fs candidate := by
  refine ⟨?_, fun h target hnewer => save_of_not_rewrites h hnewer⟩
  rintro hkeeps ⟨hproceeds, hwrites, hnewer⟩
  obtain ⟨canonical, hcanonical, hsave⟩ := save_of_proceeds hproceeds
  have hdecodes : (decodeAndMigrate toml canonical).isOk = true := by
    rw [decode_canonical hreads hcanonical]
    rfl
  rw [hsave] at hkeeps
  -- What is written decodes, so it is not what a newer file holds.
  rcases saveWrites_files faults fs (backupBytes toml faults fs canonical) canonical with
    ⟨hnot, -⟩ | ⟨-, hbackup, hprimary⟩
  · exact hnot hwrites
  rcases hnewer with hnewer | ⟨hnewer, hwrites'⟩
  · exact hnewer.ne (backupBytes_decodes hdecodes) ((hkeeps .backup hnewer).symm.trans hbackup)
  · rcases hprimary with ⟨hnot, -⟩ | ⟨-, hfile⟩
    · exact hnot hwrites'
    · exact hnewer.ne hdecodes ((hkeeps .primary hnewer).symm.trans hfile)

/-! ## A store in use

A step loads, saves, or answers the calls of one operation of the daemon, in the order in which
they were made.
-/

/-- What is done to a store: it is loaded, saved to, a daemon is started on it, or a daemon on
    it performs an operation, whose calls other than those of the store return what they
    return. -/
inductive StoreStep
  | load
  | save (faults : Faults) (candidate : Config)
  | start (env : ControlEnv) (calls : Calls)
  | operation (operation : Daemon.Operation) (env : ControlEnv) (faults : Faults) (calls : Calls)

/-- The store answers the saves among the calls, one after the other. -/
def Answers (toml : Toml) (path : Place → String) (faults : Faults) : Calls → Fs → Fs → Prop
  | [], fs, fs' => fs' = fs
  | ⟨.save candidate, answer⟩ :: rest, fs, fs' =>
    answer = (save toml faults fs candidate).1.mapError (ConfigError.display path) ∧
      Answers toml path faults rest (save toml faults fs candidate).2 fs'
  | _ :: rest, fs, fs' => Answers toml path faults rest fs fs'

/-- A step of a daemon and the store it is on. -/
inductive StoreSteps (toml : Toml) (path : Place → String) :
    Daemon Unit × Fs → StoreStep → Daemon Unit × Fs → Prop
  | load (s : Daemon Unit × Fs) : StoreSteps toml path s .load s
  | save (d : Daemon Unit) (fs : Fs) (faults : Faults) (candidate : Config) :
    StoreSteps toml path (d, fs) (.save faults candidate)
      (d, (Noire.save toml faults fs candidate).2)
  | start {d d' : Daemon Unit} {fs : Fs} {loaded : LoadOutcome} {env : ControlEnv} {calls : Calls}
    (hload : Noire.load toml path fs = .ok loaded)
    (hreturns : (Daemon.newCalls loaded env).Returns calls d') :
    StoreSteps toml path (d, fs) (.start env calls) (d', fs)
  | operation {d d' : Daemon Unit} {fs fs' : Fs} {operation : Daemon.Operation}
    {env : ControlEnv} {faults : Faults} {calls : Calls} {reply : Daemon.Reply}
    (hreturns : (operation.calls d env).Returns calls (reply, d'))
    (hanswers : Answers toml path faults calls fs fs') :
    StoreSteps toml path (d, fs) (.operation operation env faults calls) (d', fs')

/-- No save among the calls rewrites a file of a newer schema. -/
def CallsKeep (toml : Toml) (faults : Faults) : Calls → Fs → Prop
  | [], _ => True
  | ⟨.save candidate, _⟩ :: rest, fs =>
    ¬Rewrites toml faults fs candidate ∧
      CallsKeep toml faults rest (save toml faults fs candidate).2
  | _ :: rest, fs => CallsKeep toml faults rest fs

/-- No save of the step rewrites a file of a newer schema. -/
def StepKeeps (toml : Toml) (s : Daemon Unit × Fs) : StoreStep → Prop
  | .load | .start _ _ => True
  | .save faults candidate => ¬Rewrites toml faults s.2 candidate
  | .operation _ _ faults calls => CallsKeep toml faults calls s.2

/-- The calls of an operation keep a file of a newer schema. -/
theorem answers_keep {calls : Calls} (hanswers : Answers toml path faults calls fs fs')
    (hkeep : CallsKeep toml faults calls fs) {target : Target} {text : String}
    (hfile : fs (.file target) = some (.text text)) (hnewer : NewerText toml text) :
    fs' (.file target) = some (.text text) := by
  induction calls generalizing fs with
  | nil =>
    obtain rfl : fs' = fs := hanswers
    exact hfile
  | cons call rest ih =>
    obtain ⟨call, answer⟩ := call
    cases call with
    | save candidate =>
      refine ih hanswers.2 hkeep.2 ?_
      rw [save_of_not_rewrites hkeep.1 ⟨text, hfile, hnewer⟩, hfile]
    | _ => exact ih hanswers hkeep hfile

/-- **Files of a newer daemon keep their bytes** in every run whose saves are none that come
    to their writes while the backup, or a file they could not read, is such a file. -/
theorem newer_files_kept {d d' : Daemon Unit} {steps : List StoreStep}
    (run : Run (StoreSteps toml path) (StepKeeps toml) (d, fs) steps (d', fs'))
    {target : Target} {text : String} (hfile : fs (.file target) = some (.text text))
    (hnewer : NewerText toml text) : fs' (.file target) = some (.text text) := by
  refine run.invariant (fun s => s.2 (.file target) = some (.text text)) hfile ?_
  rintro s step s' hkept hkeeps hstep
  cases hstep with
  | load => exact hkept
  | save d fs faults candidate =>
    exact (save_of_not_rewrites hkeeps ⟨text, hkept, hnewer⟩).trans hkept
  | start _ _ => exact hkept
  | operation _ hanswers => exact answers_keep hanswers hkeeps hkept hnewer

/-! ## Two runs

One in which a newer file survives a save, and one in which a newer backup does not.
-/

/-- A document of the next schema. -/
def newerDocument : String := "schema_version = 2\n"

/-- A TOML library that knows this document too. -/
def newerToml : Toml :=
  { launchToml with
    schemaVersion := fun text =>
      if text = newerDocument then .ok (some 2) else launchToml.schemaVersion text }

theorem newerToml_readsBack : newerToml.ReadsBack := by
  intro config text hvalid h
  obtain ⟨hversion, hconfig⟩ := launchToml_readsBack config text hvalid h
  have htext : text ≠ newerDocument := by
    intro htext
    rw [htext] at hversion
    cases hversion
  exact ⟨(if_neg htext).trans hversion, hconfig⟩

theorem newerDocument_newer : NewerText newerToml newerDocument :=
  ⟨2, by simp [newerToml], by decide⟩

/-- A store whose one file is of the next schema. -/
def newerStore (target : Target) : Fs := fun place =>
  if place = .file target then some (.text newerDocument) else none

/-- A save to a store whose file is newer is refused. -/
theorem newer_files_kept_save :
    (save newerToml (fun _ => none) (newerStore .primary) { launchAtLogin := true }).2
      (.file .primary) = some (.text newerDocument) := by
  let d := (Daemon.new (Daemon.countingEngine 2) (0, {}) Daemon.firstLoad {}).detached
  have hkeeps : ¬Rewrites newerToml (fun _ => none) (newerStore .primary)
      { launchAtLogin := true } := by
    rintro ⟨⟨-, hnewer, -⟩, -⟩
    cases hnewer
  have run : Run (StoreSteps newerToml (fun _ => "")) (StepKeeps newerToml)
      (d, newerStore .primary) [.save (fun _ => none) { launchAtLogin := true }] _ :=
    Run.single hkeeps (.save d (newerStore .primary) (fun _ => none) { launchAtLogin := true })
  exact newer_files_kept run rfl newerDocument_newer

/-- **A newer backup is rewritten.** A daemon finds no file, and a backup of the next schema it
    does not look at.  Its first change replaces both. -/
theorem newer_backup_rewritten :
    ¬∀ (toml : Toml) (path : Place → String) (d : Daemon Unit) (fs : Fs)
        (steps : List StoreStep) (d' : Daemon Unit) (fs' : Fs) (target : Target) (text : String),
      toml.ReadsBack → Run (StoreSteps toml path) Free (d, fs) steps (d', fs') →
      fs (.file target) = some (.text text) → NewerText toml text →
      fs' (.file target) = some (.text text) := by
  intro h
  let d := (Daemon.new (Daemon.countingEngine 2) (0, {}) Daemon.firstLoad {}).detached
  let calls : Calls := [⟨.setEnabled true, .ok ()⟩, ⟨.save { launchAtLogin := true }, .ok ()⟩]
  have hreturns : ∃ reply d', (Daemon.Operation.calls (.setLaunchAtLogin true 1) d {}).Returns
      calls (reply, d') := ⟨_, _, .op (.op (.pure _))⟩
  obtain ⟨reply, d', hreturns⟩ := hreturns
  -- The save reads the primary only, which is not there, and writes both files.
  let fs' := (save newerToml (fun _ => none) (newerStore .backup) { launchAtLogin := true }).2
  have hanswers : Answers newerToml (fun _ => "") (fun _ => none) calls (newerStore .backup) fs' :=
    ⟨rfl, rfl⟩
  have run : Run (StoreSteps newerToml (fun _ => "")) Free (d, newerStore .backup)
      [.operation (.setLaunchAtLogin true 1) {} (fun _ => none) calls] (d', fs') :=
    Run.single trivial (.operation hreturns hanswers)
  have hkept := h newerToml (fun _ => "") d _ _ d' fs' .backup newerDocument newerToml_readsBack
    run rfl newerDocument_newer
  have hreplaced : fs' (.file .backup) = some (.text launchDocument) := rfl
  rw [hreplaced] at hkept
  exact absurd hkept (by decide)

end Noire
