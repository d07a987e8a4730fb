import Noire.Store.ConfigStore

namespace Noire

/-!
# A rejected save

A save that returns an error must be invisible: loading afterwards gives what loading before
gave.  It is not, where an error comes after the file that loading reads was already replaced.

* `loadView` — the configuration, source and writable flag a load gives;
* `Reappears` — the two failures after which a load gives the rejected candidate;
* `rejected_save_invisible` — a rejected save is invisible exactly if neither happens;
* `rejected_save_reappears` — a save whose directory sync fails.

A rejected save ends in one of three ways: nothing was written, the backup was replaced and the
file was not, or both were and the directory could not be synced.  For each, what a load gives is
compared with what it gave before.  A load looks at the backup only where the file is malformed,
which is when a replaced backup shows.
-/

/-- What a load gives, without its warning. -/
def loadView (toml : Toml) (path : Place → String) (fs : Fs) :
    Except ConfigError (Config × LoadSource × Bool) :=
  (load toml path fs).map fun outcome => (outcome.config, outcome.source, outcome.writable)

/-- The file is there, and is neither decoded nor of a newer schema. -/
def Malformed (toml : Toml) (fs : Fs) : Prop :=
  ∃ primary error, readToString fs .primary = .ok primary ∧
    decodeAndMigrate toml primary = .error error ∧
    ∀ found supported, error ≠ .newerSchema found supported

variable {toml : Toml} {path : Place → String}

/-- A load depends on the two files only. -/
theorem load_congr {fs fs' : Fs} (h : ∀ t, fs' (.file t) = fs (.file t)) :
    load toml path fs' = load toml path fs := by
  simp only [load, backupConfig, readToString, h]

/-- A load of a file that is not malformed does not depend on the backup. -/
theorem load_of_not_malformed {fs fs' : Fs} (h : fs' (.file .primary) = fs (.file .primary))
    (hmalformed : ¬Malformed toml fs) : load toml path fs' = load toml path fs := by
  have hread : readToString fs' .primary = readToString fs .primary := by
    simp only [readToString, h]
  simp only [load, hread]
  split
  · rfl
  · rfl
  · rename_i primary hprimary
    split
    · rfl
    · rfl
    · rename_i error hnewer hdecode
      exact absurd ⟨primary, error, hprimary, hdecode, hnewer⟩ hmalformed

/-- A load of a malformed file gives the backup, where that decodes. -/
theorem loadView_of_malformed {fs : Fs} {config : Config} (hmalformed : Malformed toml fs)
    (hbackup : backupConfig toml fs = some config) :
    loadView toml path fs = .ok (config, .backup, true) := by
  obtain ⟨primary, error, hread, hdecode, hnewer⟩ := hmalformed
  unfold loadView load
  rw [hread]
  simp only [hdecode, hbackup]
  cases error with
  | newerSchema found supported => exact absurd rfl (hnewer found supported)
  | validation _ | parse _ | serialize _ | io _ _ | invalidSchemaVersion => rfl

/-- A load gives the file, where that decodes. -/
theorem loadView_of_decodes {fs : Fs} {text : String} {config : Config}
    (hfile : fs (.file .primary) = some (.text text))
    (hdecode : decodeAndMigrate toml text = .ok config) :
    loadView toml path fs = .ok (config, .primary, true) := by
  have hread : readToString fs .primary = .ok text := by simp only [readToString, hfile]
  unfold loadView load
  rw [hread]
  simp only [hdecode]
  rfl

/-- Of a malformed file no backup is made: the new text takes its place. -/
theorem backupBytes_of_malformed {fs : Fs} (faults : Faults) (canonical : String)
    (h : Malformed toml fs) : backupBytes toml faults fs canonical = canonical := by
  obtain ⟨primary, error, hread, hdecode, -⟩ := h
  have hnot : (decodeAndMigrate toml primary).isOk = false := by rw [hdecode]; rfl
  unfold backupBytes Faults.guard
  rw [hread]
  split
  · rfl
  · simp [Except.toOption, Option.filter, hnot]

/-! ## Saves

A save proceeds to its writes or it does not.  If it does not, no file changes; if it does, its
backup may be written where the file is not.
-/

/-- A save comes to its writes: the candidate is valid and printed, a present file that can be
    read is of no newer schema, and the directory can be created. -/
def Proceeds (toml : Toml) (faults : Faults) (fs : Fs) (candidate : Config) : Prop :=
  (candidate.toCanonicalToml toml).isOk = true ∧ newerExisting toml faults fs = none ∧
    faults .createDirAll = none

/-- A rejected save after which a load gives the candidate, and did not before: both files are
    replaced and the directory cannot be synced; or the file is malformed, the backup is
    replaced by the candidate and the file cannot be. -/
def Reappears (toml : Toml) (path : Place → String) (faults : Faults) (fs : Fs)
    (candidate : Config) : Prop :=
  Proceeds toml faults fs candidate ∧ Writes faults fs .backup ∧
    ((Writes faults fs .primary ∧ faults .syncDirectory ≠ none ∧
        loadView toml path fs ≠ .ok (candidate, .primary, true)) ∨
      (¬Writes faults fs .primary ∧ Malformed toml fs ∧
        loadView toml path fs ≠ .ok (candidate, .backup, true)))

/-- A save that does not come to its writes leaves everything as it is. -/
theorem save_of_not_proceeds {faults : Faults} {fs : Fs} {candidate : Config}
    (h : ¬Proceeds toml faults fs candidate) : (save toml faults fs candidate).2 = fs := by
  unfold save
  split
  · rfl
  · rename_i canonical hcanonical
    split
    · rfl
    · rename_i hnewer
      split
      · rfl
      · rename_i hcreate
        exact absurd ⟨by rw [hcanonical]; rfl, hnewer, hcreate⟩ h

/-- A save that comes to its writes. -/
theorem save_of_proceeds {faults : Faults} {fs : Fs} {candidate : Config}
    (h : Proceeds toml faults fs candidate) :
    ∃ canonical, candidate.toCanonicalToml toml = .ok canonical ∧
      save toml faults fs candidate =
        saveWrites faults fs (backupBytes toml faults fs canonical) canonical := by
  obtain ⟨hcanonical, hnewer, hcreate⟩ := h
  cases heq : candidate.toCanonicalToml toml with
  | error error =>
    rw [heq] at hcanonical
    cases hcanonical
  | ok canonical => exact ⟨canonical, rfl, by simp only [save, heq, hnewer, hcreate]⟩

/-- The three ways the writes of a save end with an error. -/
theorem saveWrites_error {faults : Faults} {fs fs' : Fs} {backup canonical : String}
    {error : ConfigError} (h : saveWrites faults fs backup canonical = (.error error, fs')) :
    (¬Writes faults fs .backup ∧ ∀ t, fs' (.file t) = fs (.file t)) ∨
      (Writes faults fs .backup ∧ ¬Writes faults fs .primary ∧
        fs' (.file .primary) = fs (.file .primary) ∧
        fs' (.file .backup) = some (.text backup)) ∨
      (Writes faults fs .backup ∧ Writes faults fs .primary ∧ faults .syncDirectory ≠ none ∧
        fs' (.file .primary) = some (.text canonical)) := by
  unfold saveWrites at h
  split at h
  · -- the backup was not written
    rename_i fs₁ hbackup
    cases h
    refine .inl ⟨fun hwrites => ?_, atomicWrite_error hbackup⟩
    have hok := (atomicWrite_isOk backup).mpr hwrites
    rw [hbackup] at hok
    cases hok
  · rename_i fs₁ hbackup
    have hwrites : Writes faults fs .backup :=
      (atomicWrite_isOk backup).mp (by rw [hbackup]; rfl)
    -- The backup's write touches neither the file nor its temporary names.
    obtain ⟨hbackupFile, hothers, htemporaries⟩ := atomicWrite_ok hbackup
    have hsame : Writes faults fs₁ .primary ↔ Writes faults fs .primary :=
      writes_congr fun n => htemporaries .primary n Target.noConfusion
    split at h
    · rename_i fs₂ hprimary
      cases h
      have hfiles := atomicWrite_error hprimary
      refine .inr (.inl ⟨hwrites, fun hwrites' => ?_,
        (hfiles .primary).trans (hothers .primary Target.noConfusion),
        (hfiles .backup).trans hbackupFile⟩)
      have hok := (atomicWrite_isOk canonical).mpr (hsame.mpr hwrites')
      rw [hprimary] at hok
      cases hok
    · -- both were written, so the error is that of the sync
      rename_i fs₂ hprimary
      have hwrites' := hsame.mp ((atomicWrite_isOk canonical).mp (by rw [hprimary]; rfl))
      obtain ⟨hsync, rfl⟩ := Prod.mk.inj h
      refine .inr (.inr ⟨hwrites, hwrites', fun hnone => ?_, (atomicWrite_ok hprimary).1⟩)
      rw [syncDirectory, hnone] at hsync
      cases hsync

/-- **A rejected save is invisible** exactly if the candidate does not reappear: a load after it
    gives the configuration, source and writable flag a load before it gave. -/
theorem rejected_save_invisible (hreads : toml.ReadsBack) {faults : Faults} {fs fs' : Fs}
    {candidate : Config} {error : ConfigError}
    (h : save toml faults fs candidate = (.error error, fs')) :
    loadView toml path fs' = loadView toml path fs ↔
      ¬Reappears toml path faults fs candidate := by
  by_cases hproceeds : Proceeds toml faults fs candidate
  · obtain ⟨canonical, hcanonical, hsave⟩ := save_of_proceeds hproceeds
    have hdecode := decode_canonical hreads hcanonical
    rcases saveWrites_error (hsave.symm.trans h) with
      ⟨hbackup, hfiles⟩ | ⟨hbackup, hprimary, hsame, hreplaced⟩ | ⟨hbackup, hprimary, hsync, hfile⟩
    · -- nothing was replaced
      refine iff_of_true ?_ fun hreappears => hbackup hreappears.2.1
      rw [loadView, loadView, load_congr hfiles]
    · by_cases hmalformed : Malformed toml fs
      · -- the backup was replaced by the candidate, and a load recovers it
        rw [backupBytes_of_malformed faults canonical hmalformed] at hreplaced
        have hafter : loadView toml path fs' = .ok (candidate, .backup, true) := by
          refine loadView_of_malformed ?_ ?_
          · simpa only [Malformed, readToString, hsame] using hmalformed
          · simp [backupConfig, readToString, hreplaced, hdecode, Except.toOption]
        rw [hafter]
        constructor
        · rintro heq ⟨-, -, ⟨hwrites, -⟩ | ⟨-, -, hbefore⟩⟩
          · exact hprimary hwrites
          · exact hbefore heq.symm
        · intro hnot
          by_contra hne
          exact hnot ⟨hproceeds, hbackup, .inr ⟨hprimary, hmalformed, fun heq => hne heq.symm⟩⟩
      · -- the backup was replaced, and a load does not look at it
        refine iff_of_true ?_ ?_
        · rw [loadView, loadView, load_of_not_malformed hsame hmalformed]
        · rintro ⟨-, -, ⟨hwrites, -⟩ | ⟨-, hmalformed', -⟩⟩
          · exact hprimary hwrites
          · exact hmalformed hmalformed'
    · -- the file was replaced by the candidate
      have hafter : loadView toml path fs' = .ok (candidate, .primary, true) :=
        loadView_of_decodes hfile hdecode
      rw [hafter]
      constructor
      · rintro heq ⟨-, -, ⟨-, -, hbefore⟩ | ⟨hnot, -⟩⟩
        · exact hbefore heq.symm
        · exact hnot hprimary
      · intro hnot
        by_contra hne
        exact hnot ⟨hproceeds, hbackup, .inl ⟨hprimary, hsync, fun heq => hne heq.symm⟩⟩
  · have hsame := save_of_not_proceeds hproceeds
    rw [h] at hsame
    obtain rfl : fs' = fs := hsame
    exact iff_of_true rfl fun hreappears => hproceeds hreappears.1

/-! ## A store in use

A concrete document, and a save of it that fails at one chosen step.
-/

/-- The canonical document of the default configuration that launches at login. -/
def launchDocument : String :=
  "schema_version = 1\nactive = false\nstart_with_noise_reduction = false\n" ++
  "launch_at_login = true\n\n[input]\nmode = \"follow-default\"\nstable_id = \"\"\n" ++
  "channel = \"auto\"\nfallback_to_default = false\n\n[output]\nlatency_profile = \"low\"\n\n" ++
  "[suppression]\nenabled = true\nstrength = 0.55\nfail_mode = \"closed\"\n\n" ++
  "[diagnostics]\nlog_level = \"info\"\nmetering = true\n"

/-- A TOML library that knows this one document. -/
def launchToml : Toml where
  schemaVersion text := if text = launchDocument then .ok (some 1) else .error "unexpected input"
  legacy _ := .error "missing field"
  config text :=
    if text = launchDocument then .ok { launchAtLogin := true } else .error "unexpected input"
  toStringPretty config :=
    if config = { launchAtLogin := true } then .ok launchDocument else .error "unsupported"

theorem launchToml_readsBack : launchToml.ReadsBack := by
  intro config text _ h
  simp only [launchToml] at h ⊢
  split at h
  · rename_i hconfig
    cases h
    subst hconfig
    exact ⟨if_pos rfl, if_pos rfl⟩
  · cases h

/-- One failing step. -/
def Faults.only (step : Step) : Faults := fun step' =>
  if step' = step then some ⟨.other, "Input/output error (os error 5)"⟩ else none

/-- The configuration this document is of. -/
theorem launchToml_canonical :
    ({ launchAtLogin := true } : Config).toCanonicalToml launchToml = .ok launchDocument := by
  rfl

/-- A first save whose file cannot be renamed leaves the defaults. -/
theorem rejected_save_invisible_rename :
    ∃ error fs', save launchToml (.only (.rename .primary)) (fun _ => none)
        { launchAtLogin := true } = (.error error, fs') ∧
      loadView launchToml (fun _ => "") fs' = .ok ({}, .defaults, true) := by
  have hsave : save launchToml (.only (.rename .primary)) (fun _ => none)
      { launchAtLogin := true } = (.error _, _) := rfl
  refine ⟨_, _, hsave, ?_⟩
  -- The rename fails, and there was no file that could be malformed.
  refine ((rejected_save_invisible launchToml_readsBack hsave).mpr ?_).trans rfl
  rintro ⟨-, -, ⟨hwrites, -⟩ | ⟨-, ⟨primary, error, hread, -⟩, -⟩⟩
  · cases hwrites.2 (.rename .primary) (by decide)
  · cases hread

/-- **A rejected save reappears.** On the first save both files are written, and the directory
    cannot be synced.  The save is rejected; the next load gives the rejected candidate. -/
theorem rejected_save_reappears :
    ¬∀ (toml : Toml) (path : Place → String) (faults : Faults) (fs fs' : Fs)
        (candidate : Config) (error : ConfigError), toml.ReadsBack →
      save toml faults fs candidate = (.error error, fs') →
      loadView toml path fs' = loadView toml path fs := by
  intro h
  have hsave : save launchToml (.only .syncDirectory) (fun _ => none)
      { launchAtLogin := true } = (.error _, _) := rfl
  have hsame := h launchToml (fun _ => "") _ _ _ _ _ launchToml_readsBack hsave
  have hdefaults := hsame.symm.trans (loadView_of_decodes rfl
    (decode_canonical launchToml_readsBack launchToml_canonical))
  exact absurd (congrArg Except.toOption hdefaults) (by decide)

end Noire
