import Mathlib.Logic.Function.Basic
import Noire.Store.Decode

namespace Noire

/-!
# The configuration store

An authoritative file and its backup.  Loading never writes; saving replaces first the backup
and then the file, each atomically, and then syncs the directory.

* `Fs` — what the files and the temporary names hold;
* `Faults` — which steps of a save fail, and how;
* `load` / `save` — the two operations, with `atomicWrite`;
* `Writes` — when an atomic write succeeds, with `atomicWrite_ok` / `atomicWrite_error`.

A save goes through many steps, each of which may fail.  What the later modules need of a write is
whether it succeeds and what it leaves, so `Writes` says the first by the faults and the names
that are taken, and two lemmas say the second.
-/

/-! ## The filesystem

Files as their contents, temporary ones apart, and the steps at which an operation may fail.
-/

/-- What a file holds: text, or bytes that are not UTF-8. -/
inductive Content
  | text (text : String)
  | binary
  deriving DecidableEq

/-- The files and the temporary names that exist, with their contents. -/
abbrev Fs := Place → Option Content

/-- One step of a save that can fail. -/
inductive Step
  /-- The read that looks for a newer schema. -/
  | readExisting
  | createDirAll
  /-- The read of what becomes the backup. -/
  | readPrevious
  | openNew (target : Target) (attempt : ℕ)
  | writeAll (target : Target)
  | flush (target : Target)
  | syncAll (target : Target)
  | rename (target : Target)
  | removeFile (target : Target)
  | syncDirectory
  deriving DecidableEq

/-- Which steps fail, and how. -/
abbrev Faults := Step → Option IoError

/-- `fs::read_to_string`. -/
def readToString (fs : Fs) (target : Target) : Except IoError String :=
  match fs (.file target) with
  | none => .error ⟨.notFound, "No such file or directory (os error 2)"⟩
  | some .binary => .error ⟨.other, "stream did not contain valid UTF-8"⟩
  | some (.text text) => .ok text

/-- A step that fails as the faults say, or does what it does. -/
def Faults.guard {α : Type} (faults : Faults) (step : Step) (result : Except IoError α) :
    Except IoError α :=
  match faults step with
  | some error => .error error
  | none => result

/-! ## Loading

The file, then the backup, then the defaults.  A file of a newer schema ends the search, and is
left to the daemon that wrote it.
-/

/-- Source selected while loading configuration. -/
inductive LoadSource
  | defaults
  | primary
  | backup
  | safeDefaults
  | newerReadOnly
  deriving DecidableEq

/-- Non-destructive configuration load result. -/
structure LoadOutcome where
  config : Config
  source : LoadSource
  warning : Option String
  writable : Bool
  deriving DecidableEq

/-- The configuration of a backup that can be read and decoded. -/
def backupConfig (toml : Toml) (fs : Fs) : Option Config :=
  (readToString fs .backup).toOption.bind fun backup => (decodeAndMigrate toml backup).toOption

/-- `ConfigStore::load`. -/
def load (toml : Toml) (path : Place → String) (fs : Fs) : Except ConfigError LoadOutcome :=
  match readToString fs .primary with
  -- Any other error of the read is the caller's; only an absent file means defaults.
  | .error ⟨.notFound, _⟩ =>
    .ok { config := {}, source := .defaults, warning := none, writable := true }
  | .error source => .error (.io (.file .primary) source)
  | .ok primary =>
    match decodeAndMigrate toml primary with
    | .ok config => .ok { config, source := .primary, warning := none, writable := true }
    | .error (.newerSchema found supported) =>
      .ok
        { config := {}
          source := .newerReadOnly
          warning := some ("config schema " ++ toString found ++
            " is newer than supported schema " ++ toString supported ++
            "; file preserved read-only")
          writable := false }
    | .error primaryError =>
      match backupConfig toml fs with
      | some config =>
        .ok
          { config
            source := .backup
            warning := some ("primary config was preserved after error; recovered backup: " ++
              primaryError.display path)
            writable := true }
      | none =>
        .ok
          { config := {}
            source := .safeDefaults
            warning := some ("primary config was preserved after error; using safe defaults: " ++
              primaryError.display path)
            writable := true }

/-! ## Saving

The order of `save`: the existing file is looked at, the directory created, the backup written and
then the file, each atomically by way of a temporary.
-/

/-- `OpenOptions::create_new` of a temporary name. -/
def openNew (faults : Faults) (fs : Fs) (target : Target) (attempt : ℕ) : Except IoError Unit :=
  faults.guard (.openNew target attempt)
    (if (fs (.temporary target attempt)).isSome then
      .error ⟨.alreadyExists, "File exists (os error 17)"⟩
    else .ok ())

/-- The steps from a new temporary file to its target, in order. -/
def replaceSteps (target : Target) : List Step :=
  [.writeAll target, .flush target, .syncAll target, .rename target]

/-- Write, flush and sync a new temporary file, and rename it over its target.  A failure
    removes the temporary file, if that does not fail too. -/
def replace (faults : Faults) (fs : Fs) (target : Target) (attempt : ℕ) (bytes : String) :
    Except ConfigError Unit × Fs :=
  match (replaceSteps target).findSome? faults with
  | some error =>
    -- A failed write leaves an empty temporary file, any later failure a complete one.
    let content := if (faults (.writeAll target)).isSome then "" else bytes
    (.error (.io (.file target) error),
      Function.update fs (.temporary target attempt)
        (if (faults (.removeFile target)).isSome then some (.text content) else none))
  | none =>
    (.ok (),
      Function.update (Function.update fs (.temporary target attempt) none) (.file target)
        (some (.text bytes)))

/-- The attempts of `atomic_write` from `attempt` on, `remaining` of them. -/
def atomicWriteFrom (faults : Faults) (fs : Fs) (target : Target) (bytes : String)
    (attempt : ℕ) : ℕ → Except ConfigError Unit × Fs
  | 0 => (.error (.io (.file target) ⟨.alreadyExists, "temporary name attempts exhausted"⟩), fs)
  | remaining + 1 =>
    match openNew faults fs target attempt with
    | .ok () => replace faults fs target attempt bytes
    | .error ⟨.alreadyExists, _⟩ => atomicWriteFrom faults fs target bytes (attempt + 1) remaining
    | .error source => (.error (.io (.temporary target attempt) source), fs)

/-- Temporary names `atomic_write` tries. -/
def temporaryAttempts : ℕ := 16

/-- `atomic_write`. -/
def atomicWrite (faults : Faults) (fs : Fs) (target : Target) (bytes : String) :
    Except ConfigError Unit × Fs :=
  atomicWriteFrom faults fs target bytes 0 temporaryAttempts

/-- `sync_directory`. -/
def syncDirectory (faults : Faults) : Except ConfigError Unit :=
  match faults .syncDirectory with
  | some source => .error (.io .parent source)
  | none => .ok ()

/-- The check that a present file is of no newer schema: the error of one that is. -/
def newerExisting (toml : Toml) (faults : Faults) (fs : Fs) : Option ConfigError :=
  match faults.guard .readExisting (readToString fs .primary) with
  -- A file that cannot be read is not preserved.
  | .error _ => none
  | .ok existing =>
    match decodeAndMigrate toml existing with
    | .error (.newerSchema found supported) => some (.newerSchema found supported)
    | _ => none

/-- What becomes the backup: a present file that decodes, else the new text. -/
def backupBytes (toml : Toml) (faults : Faults) (fs : Fs) (canonical : String) : String :=
  ((faults.guard .readPrevious (readToString fs .primary)).toOption.filter fun existing =>
    (decodeAndMigrate toml existing).isOk).getD canonical

/-- The writes of `save`: the backup, the file, and the sync of their directory. -/
def saveWrites (faults : Faults) (fs : Fs) (backup canonical : String) :
    Except ConfigError Unit × Fs :=
  -- The backup first: from here on a failure leaves what was already replaced.
  match atomicWrite faults fs .backup backup with
  | (.error error, fs) => (.error error, fs)
  | (.ok (), fs) =>
    match atomicWrite faults fs .primary canonical with
    | (.error error, fs) => (.error error, fs)
    | (.ok (), fs) => (syncDirectory faults, fs)

/-- `ConfigStore::save`, of a store whose path has a parent. -/
def save (toml : Toml) (faults : Faults) (fs : Fs) (candidate : Config) :
    Except ConfigError Unit × Fs :=
  match candidate.toCanonicalToml toml with
  | .error error => (.error error, fs)
  | .ok canonical =>
    match newerExisting toml faults fs with
    | some error => (.error error, fs)
    | none =>
      match faults .createDirAll with
      | some source => (.error (.io .parent source), fs)
      | none => saveWrites faults fs (backupBytes toml faults fs canonical) canonical

/-! ## Atomic writes

A name that is taken is skipped, so the attempts are by induction on how many remain.
-/

/-- An atomic write succeeds: the first temporary name that is not taken can be opened,
    written, flushed, synced and renamed. -/
def Writes (faults : Faults) (fs : Fs) (target : Target) : Prop :=
  (∃ n < temporaryAttempts, openNew faults fs target n = .ok () ∧
    ∀ m < n, ∃ message, openNew faults fs target m = .error ⟨.alreadyExists, message⟩) ∧
  ∀ step ∈ replaceSteps target, faults step = none

/-- A write that fails leaves every file as it is. -/
theorem replace_error {faults : Faults} {fs fs' : Fs} {target : Target} {attempt : ℕ}
    {bytes : String} {error : ConfigError}
    (h : replace faults fs target attempt bytes = (.error error, fs')) (t : Target) :
    fs' (.file t) = fs (.file t) := by
  unfold replace at h
  split at h
  · cases h
    exact Function.update_of_ne Place.noConfusion _ _
  · cases h

/-- A write that succeeds replaces its file, and nothing else but a temporary name. -/
theorem replace_ok {faults : Faults} {fs fs' : Fs} {target : Target} {attempt : ℕ}
    {bytes : String} (h : replace faults fs target attempt bytes = (.ok (), fs')) :
    fs' (.file target) = some (.text bytes) ∧
      (∀ t, t ≠ target → fs' (.file t) = fs (.file t)) ∧
      (∀ t n, t ≠ target → fs' (.temporary t n) = fs (.temporary t n)) := by
  unfold replace at h
  split at h
  · cases h
  · cases h
    refine ⟨Function.update_self _ _ _, fun t ht => ?_, fun t n ht => ?_⟩
    · rw [Function.update_of_ne (by simpa using ht), Function.update_of_ne Place.noConfusion]
    · rw [Function.update_of_ne Place.noConfusion, Function.update_of_ne (by simp [ht])]

/-- The steps of a write all succeed exactly if the write does. -/
theorem replace_isOk {faults : Faults} {fs : Fs} {target : Target} {attempt : ℕ}
    {bytes : String} : (replace faults fs target attempt bytes).1.isOk = true ↔
      ∀ step ∈ replaceSteps target, faults step = none := by
  unfold replace
  split
  · rename_i error hfault
    refine iff_of_false Bool.false_ne_true fun hnone => ?_
    rw [List.findSome?_eq_none_iff.mpr hnone] at hfault
    cases hfault
  · rename_i hnone
    exact iff_of_true rfl (List.findSome?_eq_none_iff.mp hnone)

/-- The attempts from `attempt` on succeed. -/
def WritesFrom (faults : Faults) (fs : Fs) (target : Target) (attempt remaining : ℕ) : Prop :=
  (∃ n, attempt ≤ n ∧ n < attempt + remaining ∧ openNew faults fs target n = .ok () ∧
    ∀ m, attempt ≤ m → m < n →
      ∃ message, openNew faults fs target m = .error ⟨.alreadyExists, message⟩) ∧
  ∀ step ∈ replaceSteps target, faults step = none

/-- A taken name leaves the write to the later ones. -/
theorem writesFrom_taken {faults : Faults} {fs : Fs} {target : Target} {attempt remaining : ℕ}
    {message : String}
    (h : openNew faults fs target attempt = .error ⟨.alreadyExists, message⟩) :
    WritesFrom faults fs target attempt (remaining + 1) ↔
      WritesFrom faults fs target (attempt + 1) remaining := by
  refine and_congr_left fun _ => ⟨?_, ?_⟩
  · rintro ⟨n, hle, hlt, hopen, hearlier⟩
    have hne : n ≠ attempt := by
      rintro rfl
      cases h.symm.trans hopen
    exact ⟨n, by omega, by omega, hopen, fun m hm => hearlier m (by omega)⟩
  · rintro ⟨n, hle, hlt, hopen, hearlier⟩
    refine ⟨n, by omega, by omega, hopen, fun m hm hmn => ?_⟩
    rcases Nat.eq_or_lt_of_le hm with rfl | hm
    · exact ⟨message, h⟩
    · exact hearlier m hm hmn

/-- The attempts succeed exactly where `WritesFrom` says. -/
theorem atomicWriteFrom_isOk {faults : Faults} {fs : Fs} {target : Target} {bytes : String}
    (attempt remaining : ℕ) :
    (atomicWriteFrom faults fs target bytes attempt remaining).1.isOk = true ↔
      WritesFrom faults fs target attempt remaining := by
  induction remaining generalizing attempt with
  | zero =>
    refine iff_of_false Bool.false_ne_true ?_
    rintro ⟨⟨n, hle, hlt, -⟩, -⟩
    omega
  | succ remaining ih =>
    simp only [atomicWriteFrom]
    split
    · -- the name is free: the write is decided by its own steps
      rename_i hopen
      refine replace_isOk.trans
        ⟨fun hsteps => ⟨⟨attempt, Nat.le_refl _, by omega, hopen, ?_⟩, hsteps⟩, fun h => h.2⟩
      exact fun m hm hmn => absurd hmn (by omega)
    · rename_i message htaken
      exact (ih (attempt + 1)).trans (writesFrom_taken htaken).symm
    · -- any other failure ends the attempts, so no later name can be the one opened
      rename_i source hsource hopen
      refine iff_of_false Bool.false_ne_true ?_
      rintro ⟨⟨n, hle, -, hok, hearlier⟩, -⟩
      rcases Nat.eq_or_lt_of_le hle with rfl | hlt
      · cases hopen.symm.trans hok
      · obtain ⟨message, htaken⟩ := hearlier attempt (Nat.le_refl _) hlt
        cases hopen.symm.trans htaken
        exact hsource message rfl

/-- **An atomic write** succeeds exactly where `Writes` says. -/
theorem atomicWrite_isOk {faults : Faults} {fs : Fs} {target : Target} (bytes : String) :
    (atomicWrite faults fs target bytes).1.isOk = true ↔ Writes faults fs target := by
  refine (atomicWriteFrom_isOk 0 temporaryAttempts).trans (and_congr_left fun _ => ?_)
  simp

/-- The attempts end as a write over one temporary name ends, or without a write. -/
theorem atomicWriteFrom_cases {faults : Faults} {fs : Fs} {target : Target} {bytes : String}
    (attempt remaining : ℕ) :
    (∃ n, atomicWriteFrom faults fs target bytes attempt remaining =
        replace faults fs target n bytes) ∨
      ∃ error, atomicWriteFrom faults fs target bytes attempt remaining = (.error error, fs) := by
  induction remaining generalizing attempt with
  | zero => exact .inr ⟨_, rfl⟩
  | succ remaining ih =>
    simp only [atomicWriteFrom]
    split
    · exact .inl ⟨attempt, rfl⟩
    · exact ih (attempt + 1)
    · exact .inr ⟨_, rfl⟩

/-- **An atomic write that fails** leaves every file as it is. -/
theorem atomicWrite_error {faults : Faults} {fs fs' : Fs} {target : Target} {bytes : String}
    {error : ConfigError} (h : atomicWrite faults fs target bytes = (.error error, fs'))
    (t : Target) : fs' (.file t) = fs (.file t) := by
  rcases atomicWriteFrom_cases 0 temporaryAttempts with ⟨n, hn⟩ | ⟨error', hn⟩
  · exact replace_error (hn.symm.trans h) t
  · cases hn.symm.trans h
    rfl

/-- **An atomic write that succeeds** replaces its file, and leaves the other file and its
    temporary names as they are. -/
theorem atomicWrite_ok {faults : Faults} {fs fs' : Fs} {target : Target} {bytes : String}
    (h : atomicWrite faults fs target bytes = (.ok (), fs')) :
    fs' (.file target) = some (.text bytes) ∧
      (∀ t, t ≠ target → fs' (.file t) = fs (.file t)) ∧
      (∀ t n, t ≠ target → fs' (.temporary t n) = fs (.temporary t n)) := by
  rcases atomicWriteFrom_cases 0 temporaryAttempts with ⟨n, hn⟩ | ⟨error', hn⟩
  · exact replace_ok (hn.symm.trans h)
  · cases hn.symm.trans h

/-- A write depends on the temporary names of its own file only. -/
theorem writes_congr {faults : Faults} {fs fs' : Fs} {target : Target}
    (h : ∀ n, fs' (.temporary target n) = fs (.temporary target n)) :
    Writes faults fs' target ↔ Writes faults fs target := by
  simp only [Writes, openNew, h]

end Noire
