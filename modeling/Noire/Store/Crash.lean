import Noire.Lib.Prog
import Noire.Store.Rejected

namespace Noire

/-!
# A save cut short

A save as the steps it takes on the filesystem, one after the other, so that the process may
die between any two of them.  A rename is one step; a write is one step for each character.

* `Disk` / `Disk.exec` — the filesystem a step meets, and what the step does to it;
* `saveProgram` — the steps of a save, with `atomicWriteProgram`;
* `saveProgram_run` — run to its end, it is `save`;
* `atomicWriteProgram_throughout` — wherever a write is cut, its file is the old one or the
  new one, and every other file is as it was;
* `save_cut_short` — what is on disk, and what a load gives, wherever a save is cut.

A program makes steps of the smallest size, so that a cut between two of them is a prefix of its
run, and `Prog.Throughout` says what holds at every such prefix.  That the small steps are the
save of `Store/ConfigStore.lean` is proved first (`saveProgram_run`), by following the loop over
the characters of a write.

The crash law is then proved for one write and used twice.  A write goes to a temporary name, and
only the rename that ends it touches the file itself; so before the rename the file is the old
one, and after it the new one (`OldOrNew`).  The save writes the backup first and the
configuration after, and what becomes the backup is a text that decodes, which is why a load finds
something to give wherever the save is cut.
-/

open Lib

/-! ## Steps -/

/-- One change of the filesystem. -/
inductive Effect
  | createDirAll
  | openNew (target : Target) (attempt : ℕ)
  /-- A write begins; it goes on a character at a time. -/
  | writeAll (target : Target) (attempt : ℕ)
  | append (target : Target) (attempt : ℕ) (c : Char)
  | flush (target : Target) (attempt : ℕ)
  | syncAll (target : Target) (attempt : ℕ)
  | rename (target : Target) (attempt : ℕ)
  | removeFile (target : Target) (attempt : ℕ)
  | syncDirectory
  deriving DecidableEq

/-- One step of a save. -/
inductive FsOp
  /-- The read that looks for a newer schema. -/
  | readExisting
  /-- The read of what becomes the backup. -/
  | readPrevious
  | effect (effect : Effect)
  deriving DecidableEq

/-- What a step returns. -/
abbrev FsOp.Result : FsOp → Type
  | readExisting => Except IoError String
  | readPrevious => Except IoError String
  | effect _ => Except IoError Unit

/-- The filesystem during a save, and the targets that were replaced so far. -/
structure Disk where
  fs : Fs
  replaced : List Target

/-- What an effect returns and leaves, where nothing fails but for the state of the files. -/
def Effect.apply (disk : Disk) : Effect → Except IoError Unit × Disk
  | openNew target attempt =>
    if (disk.fs (.temporary target attempt)).isSome then
      (.error ⟨.alreadyExists, "File exists (os error 17)"⟩, disk)
    else
      (.ok (), { disk with
        fs := Function.update disk.fs (.temporary target attempt) (some (.text "")) })
  | append target attempt c =>
    match disk.fs (.temporary target attempt) with
    | some (.text text) =>
      (.ok (), { disk with
        fs := Function.update disk.fs (.temporary target attempt) (some (.text (text.push c))) })
    | _ => (.ok (), disk)
  | rename target attempt =>
    match disk.fs (.temporary target attempt) with
    | some content =>
      (.ok (),
        { fs := Function.update (Function.update disk.fs (.temporary target attempt) none)
            (.file target) (some content)
          replaced := disk.replaced ++ [target] })
    | none => (.error ⟨.notFound, "No such file or directory (os error 2)"⟩, disk)
  | removeFile target attempt =>
    (.ok (), { disk with fs := Function.update disk.fs (.temporary target attempt) none })
  -- what these make durable or create is not among the files
  | createDirAll | writeAll _ _ | flush _ _ | syncAll _ _ | syncDirectory => (.ok (), disk)

/-- Which steps fail, and how. -/
abbrev Failures := FsOp → Option IoError

/-- One step: it fails as the failures say, and then changes nothing. -/
def Disk.exec (failures : Failures) : (op : FsOp) → Disk → op.Result × Disk
  | .readExisting, disk =>
    (match failures .readExisting with
      | some error => .error error
      | none => readToString disk.fs .primary, disk)
  | .readPrevious, disk =>
    (match failures .readPrevious with
      | some error => .error error
      | none => readToString disk.fs .primary, disk)
  | .effect effect, disk =>
    match failures (.effect effect) with
    | some error => (.error error, disk)
    | none => effect.apply disk

/-! ## The program

The order is that of the source: read what is there, refuse a newer file, write the backup, write
the configuration.
-/

/-- A program over these steps. -/
abbrev FsProg := Prog FsOp.Result

/-- One effect. -/
def doEffect (effect : Effect) : FsProg (Except IoError Unit) :=
  Prog.call (FsOp.effect effect)

/-- Effects in turn, up to the first that fails. -/
def doEffects : List Effect → FsProg (Except IoError Unit)
  | [] => pure (.ok ())
  | effect :: rest => do
    match ← doEffect effect with
    | .error error => pure (.error error)
    | .ok () => doEffects rest

/-- The effects from a new temporary file to its target. -/
def replaceEffects (target : Target) (attempt : ℕ) (bytes : String) : List Effect :=
  .writeAll target attempt :: bytes.toList.map (.append target attempt) ++
    [.flush target attempt, .syncAll target attempt, .rename target attempt]

/-- Write, flush and sync a new temporary file, and rename it over its target; on a failure,
    remove it. -/
def replaceProgram (target : Target) (attempt : ℕ) (bytes : String) :
    FsProg (Except ConfigError Unit) := do
  match ← doEffects (replaceEffects target attempt bytes) with
  | .ok () => pure (.ok ())
  | .error source =>
    let _ ← doEffect (.removeFile target attempt)
    pure (.error (.io (.file target) source))

/-- The attempts of `atomic_write` from `attempt` on, `remaining` of them. -/
def atomicWriteProgramFrom (target : Target) (bytes : String) (attempt : ℕ) :
    ℕ → FsProg (Except ConfigError Unit)
  | 0 => pure (.error (.io (.file target) ⟨.alreadyExists, "temporary name attempts exhausted"⟩))
  | remaining + 1 => do
    match ← doEffect (.openNew target attempt) with
    | .ok () => replaceProgram target attempt bytes
    | .error ⟨.alreadyExists, _⟩ => atomicWriteProgramFrom target bytes (attempt + 1) remaining
    | .error source => pure (.error (.io (.temporary target attempt) source))

/-- `atomic_write`. -/
def atomicWriteProgram (target : Target) (bytes : String) : FsProg (Except ConfigError Unit) :=
  atomicWriteProgramFrom target bytes 0 temporaryAttempts

/-- The error of a file that was read and is of a newer schema. -/
def newerOf (toml : Toml) (existing : Except IoError String) : Option ConfigError :=
  match existing with
  | .error _ => none
  | .ok existing =>
    match decodeAndMigrate toml existing with
    | .error (.newerSchema found supported) => some (.newerSchema found supported)
    | _ => none

/-- What becomes the backup, of a file that was read. -/
def backupOf (toml : Toml) (previous : Except IoError String) (canonical : String) : String :=
  (previous.toOption.filter fun existing => (decodeAndMigrate toml existing).isOk).getD canonical

/-- The writes of a save. -/
def writesProgram (backup canonical : String) : FsProg (Except ConfigError Unit) := do
  match ← atomicWriteProgram .backup backup with
  | .error error => pure (.error error)
  | .ok () =>
    match ← atomicWriteProgram .primary canonical with
    | .error error => pure (.error error)
    | .ok () =>
      let synced ← doEffect .syncDirectory
      pure (synced.mapError (.io .parent))

/-- `ConfigStore::save`, step by step. -/
def saveProgram (toml : Toml) (candidate : Config) : FsProg (Except ConfigError Unit) :=
  match candidate.toCanonicalToml toml with
  | .error error => pure (.error error)
  | .ok canonical => do
    let existing ← (Prog.call FsOp.readExisting : FsProg (Except IoError String))
    match newerOf toml existing with
    | some error => pure (.error error)
    | none =>
      match ← doEffect .createDirAll with
      | .error source => pure (.error (.io .parent source))
      | .ok () =>
        let previous ← (Prog.call FsOp.readPrevious : FsProg (Except IoError String))
        writesProgram (backupOf toml previous canonical) canonical

/-! ## What a step leaves

Temporary names and files are different places, and most steps touch the first only.
-/

variable {failures : Failures} {disk disk' : Disk}

/-- The files are as they were, and no further target was replaced. -/
def SameFiles (disk disk' : Disk) : Prop :=
  (∀ t, disk'.fs (.file t) = disk.fs (.file t)) ∧ disk'.replaced = disk.replaced

/-- One file was replaced, and the others are as they were. -/
def ReplacedBy (target : Target) (bytes : String) (disk disk' : Disk) : Prop :=
  disk'.fs (.file target) = some (.text bytes) ∧
    (∀ t, t ≠ target → disk'.fs (.file t) = disk.fs (.file t)) ∧
    disk'.replaced = disk.replaced ++ [target]

theorem SameFiles.refl (disk : Disk) : SameFiles disk disk := ⟨fun _ => rfl, rfl⟩

theorem SameFiles.trans {disk'' : Disk} (h : SameFiles disk disk') (h' : SameFiles disk' disk'') :
    SameFiles disk disk'' :=
  ⟨fun t => (h'.1 t).trans (h.1 t), h'.2.trans h.2⟩

theorem SameFiles.replacedBy {disk'' : Disk} {target : Target} {bytes : String}
    (h : SameFiles disk disk') (h' : ReplacedBy target bytes disk' disk'') :
    ReplacedBy target bytes disk disk'' :=
  ⟨h'.1, fun t ht => (h'.2.1 t ht).trans (h.1 t), by rw [h'.2.2, h.2]⟩

/-- A change of a temporary name changes no file. -/
theorem sameFiles_update (target : Target) (attempt : ℕ) (content : Option Content) :
    SameFiles disk
      { disk with fs := Function.update disk.fs (.temporary target attempt) content } := by
  refine ⟨fun t => ?_, rfl⟩
  show Function.update disk.fs (.temporary target attempt) content (.file t) = disk.fs (.file t)
  exact Function.update_of_ne Place.noConfusion _ _

/-- An effect that fails leaves the disk as it is; one that does not is applied. -/
theorem exec_effect_cases (failures : Failures) (effect : Effect) (disk : Disk) :
    (∃ error, Disk.exec failures (.effect effect) disk = (.error error, disk)) ∨
      ∃ disk', effect.apply disk = (.ok (), disk') ∧
        Disk.exec failures (.effect effect) disk = (.ok (), disk') := by
  simp only [Disk.exec]
  split
  · exact .inl ⟨_, rfl⟩
  · cases effect with
    -- Three effects look at the files, and only these can fail of themselves.
    | openNew target attempt =>
      simp only [Effect.apply]
      split
      · exact .inl ⟨_, rfl⟩
      · exact .inr ⟨_, rfl, rfl⟩
    | append target attempt c =>
      simp only [Effect.apply]
      split
      · exact .inr ⟨_, rfl, rfl⟩
      · exact .inr ⟨_, rfl, rfl⟩
    | rename target attempt =>
      simp only [Effect.apply]
      split
      · exact .inr ⟨_, rfl, rfl⟩
      · exact .inl ⟨_, rfl⟩
    | _ => exact .inr ⟨_, rfl, rfl⟩

/-- Only a rename changes a file. -/
theorem apply_sameFiles {effect : Effect} {result : Except IoError Unit}
    (hnot : ∀ target attempt, effect ≠ .rename target attempt)
    (h : effect.apply disk = (result, disk')) : SameFiles disk disk' := by
  cases effect with
  -- All but the rename are at the temporary file.
  | openNew target attempt =>
    simp only [Effect.apply] at h
    split at h
    · cases h
      exact .refl _
    · cases h
      exact sameFiles_update _ _ _
  | append target attempt c =>
    simp only [Effect.apply] at h
    split at h
    · cases h
      exact sameFiles_update _ _ _
    · cases h
      exact .refl _
  | rename target attempt => exact absurd rfl (hnot target attempt)
  | removeFile target attempt =>
    cases h
    exact sameFiles_update _ _ _
  | createDirAll | writeAll _ _ | flush _ _ | syncAll _ _ | syncDirectory =>
    cases h
    exact .refl _

/-! ## Run to its end

The faults of a save that is not cut are a special case of the failures of single steps; with
these the program is the function.
-/

/-- The failures of a save whose writes fail at their start or not at all. -/
def Faults.stepwise (faults : Faults) : Failures
  | .readExisting => faults .readExisting
  | .readPrevious => faults .readPrevious
  | .effect .createDirAll => faults .createDirAll
  | .effect (.openNew target attempt) => faults (.openNew target attempt)
  | .effect (.writeAll target _) => faults (.writeAll target)
  | .effect (.append _ _ _) => none
  | .effect (.flush target _) => faults (.flush target)
  | .effect (.syncAll target _) => faults (.syncAll target)
  | .effect (.rename target _) => faults (.rename target)
  | .effect (.removeFile target _) => faults (.removeFile target)
  | .effect .syncDirectory => faults .syncDirectory

variable {faults : Faults}

/-- A failed effect is the error of what starts with it. -/
theorem run_doEffect_error {α : Type} {effect : Effect} {f : Except IoError Unit → FsProg α}
    {error : IoError} (h : failures (.effect effect) = some error) :
    (doEffect effect >>= f).run (Disk.exec failures) disk =
      (f (.error error)).run (Disk.exec failures) disk := by
  show (f (Disk.exec failures (.effect effect) disk).1).run _ _ = _
  simp only [Disk.exec, h]

/-- An effect that does not fail is applied. -/
theorem run_doEffect {α : Type} {effect : Effect} {f : Except IoError Unit → FsProg α}
    (h : failures (.effect effect) = none) :
    (doEffect effect >>= f).run (Disk.exec failures) disk =
      (f (effect.apply disk).1).run (Disk.exec failures) (effect.apply disk).2 := by
  show (f (Disk.exec failures (.effect effect) disk).1).run _ _ = _
  simp only [Disk.exec, h]

/-- The writes of the characters put them behind what is there. -/
theorem run_appends {target : Target} {attempt : ℕ} (chars : List Char) {written : String}
    (rest : List Effect)
    (h : disk.fs (.temporary target attempt) = some (.text written)) :
    (doEffects (chars.map (.append target attempt) ++ rest)).run
        (Disk.exec faults.stepwise) disk =
      (doEffects rest).run (Disk.exec faults.stepwise) { disk with
        fs := Function.update disk.fs (.temporary target attempt)
          (some (.text (written ++ String.ofList chars))) } := by
  induction chars generalizing disk written with
  | nil =>
    have hsame : Function.update disk.fs (.temporary target attempt)
        (some (.text (written ++ String.ofList []))) = disk.fs := by
      rw [Function.update_eq_self_iff, h]
      simp
    rw [hsame]
    rfl
  | cons c chars ih =>
    have happly : (Effect.append target attempt c).apply disk = (.ok (), { disk with
        fs := Function.update disk.fs (.temporary target attempt)
          (some (.text (written.push c))) }) := by
      simp only [Effect.apply, h]
    refine Eq.trans (run_doEffect rfl) ?_
    rw [happly]
    refine (ih (Function.update_self _ _ _)).trans ?_
    -- What is written is longer by one character, and the rest shorter.
    have htext : written.push c ++ String.ofList chars = written ++ String.ofList (c :: chars) :=
      String.toList_inj.mp (by simp)
    simp only [Function.update_idem, htext]

/-- The effects of a write, after its temporary file was opened. -/
theorem run_replaceEffects (faults : Faults) (fs : Fs) (target : Target) (attempt : ℕ)
    (bytes : String) (replaced : List Target) :
    (doEffects (replaceEffects target attempt bytes)).run (Disk.exec faults.stepwise)
        ⟨Function.update fs (.temporary target attempt) (some (.text "")), replaced⟩ =
      match (replaceSteps target).findSome? faults with
      | some error => some (.error error,
          ⟨Function.update fs (.temporary target attempt)
            (some (.text (if (faults (.writeAll target)).isSome then "" else bytes))), replaced⟩)
      | none => some (.ok (),
          ⟨Function.update (Function.update fs (.temporary target attempt) none) (.file target)
            (some (.text bytes)), replaced ++ [target]⟩) := by
  -- The steps in their order; the first that fails leaves the temporary file behind.
  simp only [replaceSteps, List.findSome?_cons, List.findSome?_nil]
  cases hwrite : faults (.writeAll target) with
  | some error => exact run_doEffect_error hwrite
  | none =>
    refine Eq.trans (run_doEffect hwrite) ?_
    refine (run_appends bytes.toList _ (Function.update_self _ _ _)).trans ?_
    simp only [Effect.apply, Function.update_idem, String.ofList_toList, String.empty_append]
    cases hflush : faults (.flush target) with
    | some error => exact run_doEffect_error hflush
    | none =>
      refine Eq.trans (run_doEffect hflush) ?_
      cases hsync : faults (.syncAll target) with
      | some error => exact run_doEffect_error hsync
      | none =>
        refine Eq.trans (run_doEffect hsync) ?_
        cases hrename : faults (.rename target) with
        | some error => exact run_doEffect_error hrename
        | none =>
          refine Eq.trans (run_doEffect hrename) ?_
          simp only [Effect.apply, Function.update_self, Function.update_idem]
          rfl

/-- Run to its end, a write of an opened file is `replace`. -/
theorem run_replaceProgram (faults : Faults) (fs : Fs) (target : Target) (attempt : ℕ)
    (bytes : String) (replaced : List Target) :
    ∃ replaced', (replaceProgram target attempt bytes).run (Disk.exec faults.stepwise)
        ⟨Function.update fs (.temporary target attempt) (some (.text "")), replaced⟩ =
      some ((replace faults fs target attempt bytes).1,
        ⟨(replace faults fs target attempt bytes).2, replaced'⟩) := by
  unfold replaceProgram replace
  have heffects := run_replaceEffects faults fs target attempt bytes replaced
  cases hsteps : (replaceSteps target).findSome? faults with
  | none =>
    rw [hsteps] at heffects
    exact ⟨_, Prog.run_bind_of _ heffects⟩
  | some error =>
    rw [hsteps] at heffects
    refine ⟨replaced, (Prog.run_bind_of _ heffects).trans ?_⟩
    cases hremove : faults (.removeFile target) with
    | some source => exact run_doEffect_error hremove
    | none =>
      refine Eq.trans (run_doEffect hremove) ?_
      simp only [Effect.apply, Function.update_idem]
      rfl

/-- Run to its end, a write is `atomicWrite`. -/
theorem run_atomicWriteProgramFrom (faults : Faults) (fs : Fs) (target : Target) (bytes : String)
    (attempt remaining : ℕ) (replaced : List Target) :
    ∃ replaced', (atomicWriteProgramFrom target bytes attempt remaining).run
        (Disk.exec faults.stepwise) ⟨fs, replaced⟩ =
      some ((atomicWriteFrom faults fs target bytes attempt remaining).1,
        ⟨(atomicWriteFrom faults fs target bytes attempt remaining).2, replaced'⟩) := by
  induction remaining generalizing attempt with
  | zero => exact ⟨replaced, rfl⟩
  | succ remaining ih =>
    simp only [atomicWriteProgramFrom, atomicWriteFrom, openNew, Faults.guard]
    cases hopen : faults (.openNew target attempt) with
    | some error =>
      obtain ⟨kind, message⟩ := error
      cases kind with
      -- A name that is taken leads on to the next one.
      | alreadyExists =>
        obtain ⟨replaced', hrun⟩ := ih (attempt + 1)
        exact ⟨replaced', Eq.trans (run_doEffect_error hopen) hrun⟩
      | notFound | other => exact ⟨replaced, Eq.trans (run_doEffect_error hopen) rfl⟩
    | none =>
      cases htaken : (fs (.temporary target attempt)).isSome with
      | true =>
        obtain ⟨replaced', hrun⟩ := ih (attempt + 1)
        refine ⟨replaced', Eq.trans (run_doEffect hopen) ?_⟩
        simp only [Effect.apply, htaken, if_true]
        exact hrun
      -- The temporary file is new: the write goes on with it.
      | false =>
        obtain ⟨replaced', hrun⟩ := run_replaceProgram faults fs target attempt bytes replaced
        refine ⟨replaced', Eq.trans (run_doEffect hopen) ?_⟩
        simp only [Effect.apply, htaken, Bool.false_eq_true, if_false]
        exact hrun

/-- Run to its end, a write is `atomicWrite`. -/
theorem run_atomicWriteProgram (faults : Faults) (fs : Fs) (target : Target) (bytes : String)
    (replaced : List Target) :
    ∃ replaced', (atomicWriteProgram target bytes).run (Disk.exec faults.stepwise) ⟨fs, replaced⟩ =
      some ((atomicWrite faults fs target bytes).1,
        ⟨(atomicWrite faults fs target bytes).2, replaced'⟩) :=
  run_atomicWriteProgramFrom faults fs target bytes 0 temporaryAttempts replaced

/-- Run to its end, the writes of a save are `saveWrites`. -/
theorem run_writesProgram (faults : Faults) (fs : Fs) (backup canonical : String)
    (replaced : List Target) :
    ∃ replaced', (writesProgram backup canonical).run (Disk.exec faults.stepwise) ⟨fs, replaced⟩ =
      some ((saveWrites faults fs backup canonical).1,
        ⟨(saveWrites faults fs backup canonical).2, replaced'⟩) := by
  obtain ⟨replaced₁, hbackup⟩ := run_atomicWriteProgram faults fs .backup backup replaced
  unfold writesProgram saveWrites
  rw [Prog.run_bind_of _ hbackup]
  rcases atomicWrite faults fs .backup backup with ⟨error | _, fs₁⟩
  · exact ⟨replaced₁, rfl⟩
  · obtain ⟨replaced₂, hprimary⟩ := run_atomicWriteProgram faults fs₁ .primary canonical replaced₁
    simp only []
    rw [Prog.run_bind_of _ hprimary]
    rcases atomicWrite faults fs₁ .primary canonical with ⟨error | _, fs₂⟩
    · exact ⟨replaced₂, rfl⟩
    · refine ⟨replaced₂, ?_⟩
      simp only [syncDirectory]
      cases hsync : faults .syncDirectory with
      | some error => exact run_doEffect_error hsync
      | none => exact run_doEffect hsync

/-- **Run to its end, the program of a save is `save`.** -/
theorem saveProgram_run (toml : Toml) (faults : Faults) (fs : Fs) (candidate : Config) :
    ∃ replaced, (saveProgram toml candidate).run (Disk.exec faults.stepwise) ⟨fs, []⟩ =
      some ((save toml faults fs candidate).1, ⟨(save toml faults fs candidate).2, replaced⟩) := by
  unfold saveProgram save
  cases candidate.toCanonicalToml toml with
  | error error => exact ⟨[], rfl⟩
  | ok canonical =>
    simp only []
    rw [Prog.run_call_bind]
    have hexisting : newerOf toml (Disk.exec faults.stepwise .readExisting ⟨fs, []⟩).1 =
        newerExisting toml faults fs := rfl
    rw [hexisting]
    cases newerExisting toml faults fs with
    | some error => exact ⟨[], rfl⟩
    | none =>
      -- Past the check of the schema there is the directory to create.
      cases hcreate : faults .createDirAll with
      | some error => exact ⟨[], run_doEffect_error hcreate⟩
      | none =>
        obtain ⟨replaced, hrun⟩ :=
          run_writesProgram faults fs (backupBytes toml faults fs canonical) canonical []
        exact ⟨replaced, Eq.trans (run_doEffect hcreate) hrun⟩

/-! ## A write, cut short

The rules go along the program: an effect, the characters of the text, a write, its attempts under
other temporary names.
-/

/-- The file of a write is the old one or the new one; the other file is as it was. -/
def OldOrNew (target : Target) (bytes : String) (disk disk' : Disk) : Prop :=
  SameFiles disk disk' ∨ ReplacedBy target bytes disk disk'

/-- A write that returns an error has replaced nothing; one that returns has replaced its
    file. -/
def Written {ε : Type} (target : Target) (bytes : String) (disk : Disk) :
    Except ε Unit → Disk → Prop
  | .ok (), disk' => ReplacedBy target bytes disk disk'
  | .error _, disk' => SameFiles disk disk'

/-- **Effect rule.** An effect fails and changes nothing, or is applied. -/
theorem doEffect_throughout {α : Type} {effect : Effect} {f : Except IoError Unit → FsProg α}
    {I : Disk → Prop} {Q : α → Disk → Prop} (hI : I disk)
    (herror : ∀ error, (f (.error error)).Throughout (Disk.exec failures) I Q disk)
    (hok : ∀ disk', effect.apply disk = (.ok (), disk') →
      (f (.ok ())).Throughout (Disk.exec failures) I Q disk') :
    (doEffect effect >>= f).Throughout (Disk.exec failures) I Q disk := by
  refine Prog.Throughout.call hI ?_
  rcases exec_effect_cases failures effect disk with ⟨error, hexec⟩ | ⟨disk', happly, hexec⟩
  · rw [hexec]
    exact herror error
  · rw [hexec]
    exact hok disk' happly

/-- From a temporary file that holds the first characters of a text, the rest of its write. -/
theorem doEffects_appends {disk₀ : Disk} {target : Target} {attempt : ℕ} {bytes : String}
    (chars : List Char) {written : String} (hsame : SameFiles disk₀ disk)
    (htemporary : disk.fs (.temporary target attempt) = some (.text written))
    (hbytes : written ++ String.ofList chars = bytes) :
    (doEffects (chars.map (.append target attempt) ++
        [.flush target attempt, .syncAll target attempt, .rename target attempt])).Throughout
      (Disk.exec failures) (OldOrNew target bytes disk₀) (Written target bytes disk₀) disk := by
  -- Character by character: until the rename the files are the old ones.
  induction chars generalizing disk written with
  | nil =>
    obtain rfl : written = bytes := by simpa using hbytes
    have hI : OldOrNew target written disk₀ disk := .inl hsame
    refine doEffect_throughout hI (fun _ => ⟨hI, hsame⟩) fun disk₁ hflush => ?_
    cases hflush
    refine doEffect_throughout hI (fun _ => ⟨hI, hsame⟩) fun disk₂ hsync => ?_
    cases hsync
    refine doEffect_throughout hI (fun _ => ⟨hI, hsame⟩) fun disk₃ hrename => ?_
    simp only [Effect.apply, htemporary] at hrename
    cases hrename
    -- The rename puts the whole text in place, and nothing else moves.
    have hreplaced : ReplacedBy target written disk
        { fs := Function.update (Function.update disk.fs (.temporary target attempt) none)
            (.file target) (some (.text written))
          replaced := disk.replaced ++ [target] } := by
      refine ⟨Function.update_self _ _ _, fun t ht => ?_, rfl⟩
      show Function.update _ _ _ (Place.file t) = _
      rw [Function.update_of_ne (by simpa using ht), Function.update_of_ne Place.noConfusion]
    exact ⟨.inr (hsame.replacedBy hreplaced), hsame.replacedBy hreplaced⟩
  | cons c rest ih =>
    refine doEffect_throughout (.inl hsame) (fun _ => ⟨.inl hsame, hsame⟩) fun disk₁ happend => ?_
    simp only [Effect.apply, htemporary] at happend
    cases happend
    refine ih (hsame.trans (sameFiles_update _ _ _)) (Function.update_self _ _ _) ?_
    rw [← hbytes]
    exact String.toList_inj.mp (by simp)

/-- **A write** of a new temporary file over its target. -/
theorem replaceProgram_throughout {target : Target} {attempt : ℕ} {bytes : String} {disk₀ : Disk}
    (hsame : SameFiles disk₀ disk)
    (htemporary : disk.fs (.temporary target attempt) = some (.text "")) :
    (replaceProgram target attempt bytes).Throughout (Disk.exec failures)
      (OldOrNew target bytes disk₀) (Written target bytes disk₀) disk := by
  have heffects : (doEffects (replaceEffects target attempt bytes)).Throughout
      (Disk.exec failures) (OldOrNew target bytes disk₀) (Written target bytes disk₀) disk := by
    refine doEffect_throughout (.inl hsame) (fun _ => ⟨.inl hsame, hsame⟩) fun disk₁ hwrite => ?_
    cases hwrite
    exact doEffects_appends bytes.toList hsame htemporary (by simp)
  refine Prog.Throughout.bind (heffects.mono (fun _ hI => hI) fun result disk₁ hI hwritten => ?_)
  cases result with
  | ok _ => exact ⟨hI, hwritten⟩
  | error source =>
    -- the failed write is cleaned up, if that does not fail too
    have hsame₁ : SameFiles disk₀ disk₁ := hwritten
    refine doEffect_throughout (.inl hsame₁) (fun _ => ⟨.inl hsame₁, hsame₁⟩)
      fun disk₂ happly => ?_
    have hsame₂ := hsame₁.trans (apply_sameFiles (fun _ _ h => by cases h) happly)
    exact ⟨.inl hsame₂, hsame₂⟩

/-- The attempts of a write from any on. -/
theorem atomicWriteProgramFrom_throughout {target : Target} {bytes : String}
    (attempt remaining : ℕ) :
    (atomicWriteProgramFrom target bytes attempt remaining).Throughout (Disk.exec failures)
      (OldOrNew target bytes disk) (Written target bytes disk) disk := by
  induction remaining generalizing attempt with
  | zero => exact ⟨.inl (.refl _), .refl _⟩
  | succ remaining ih =>
    refine doEffect_throughout (.inl (.refl _)) (fun ⟨kind, message⟩ => ?_) fun disk₁ happly => ?_
    · -- a name that is taken leaves the write to the next one
      cases kind with
      | alreadyExists => exact ih (attempt + 1)
      | notFound | other => exact ⟨.inl (.refl _), .refl _⟩
    · refine replaceProgram_throughout (apply_sameFiles (fun _ _ h => by cases h) happly) ?_
      simp only [Effect.apply] at happly
      split at happly
      · cases happly
      · cases happly
        exact Function.update_self _ _ _

/-- **An atomic write**, wherever it is cut, leaves its file the old one or the new one, and
    the other file as it was; one that returns an error has replaced nothing. -/
theorem atomicWriteProgram_throughout (target : Target) (bytes : String) (disk : Disk) :
    (atomicWriteProgram target bytes).Throughout (Disk.exec failures)
      (OldOrNew target bytes disk) (Written target bytes disk) disk :=
  atomicWriteProgramFrom_throughout 0 temporaryAttempts

/-! ## A save, cut short

What is left of the two writes is put together by cases on what was there before: nothing, a file
that decodes, or one that does not.
-/

variable {toml : Toml} {path : Place → String} {candidate : Config} {fs : Fs}

/-- What a cut save of `candidate` leaves of the files `fs`. -/
structure CutShort (toml : Toml) (candidate : Config) (fs : Fs) (disk : Disk) : Prop where
  primary : disk.fs (.file .primary) = fs (.file .primary) ∨
    ∃ canonical, candidate.toCanonicalToml toml = .ok canonical ∧
      disk.fs (.file .primary) = some (.text canonical)
  backup : (Target.backup ∉ disk.replaced ∧ disk.fs (.file .backup) = fs (.file .backup)) ∨
    ∃ bytes, disk.fs (.file .backup) = some (.text bytes) ∧
      (candidate.toCanonicalToml toml = .ok bytes ∨
        (fs (.file .primary) = some (.text bytes) ∧ (decodeAndMigrate toml bytes).isOk = true))

/-- What becomes the backup is the new text, or that of a file that decodes. -/
theorem backupOf_cases (toml : Toml) (previous : Except IoError String) (canonical : String) :
    backupOf toml previous canonical = canonical ∨
      (previous = .ok (backupOf toml previous canonical) ∧
        (decodeAndMigrate toml (backupOf toml previous canonical)).isOk = true) := by
  cases previous with
  | error source => exact .inl rfl
  | ok existing =>
    cases hdecodes : (decodeAndMigrate toml existing).isOk with
    | false => exact .inl (by simp [backupOf, Except.toOption, Option.filter, hdecodes])
    | true =>
      have heq : backupOf toml (.ok existing) canonical = existing := by
        simp [backupOf, Except.toOption, Option.filter, hdecodes]
      rw [heq]
      exact .inr ⟨rfl, hdecodes⟩

/-- What is read as the previous file is what the file holds. -/
theorem exec_readPrevious {text : String}
    (h : (Disk.exec failures .readPrevious disk).1 = .ok text) :
    disk.fs (.file .primary) = some (.text text) := by
  simp only [Disk.exec] at h
  split at h
  · cases h
  · unfold readToString at h
    split at h
    · cases h
    · cases h
    · rename_i hfile
      cases h
      exact hfile

/-- The writes of a save, wherever they are cut. -/
theorem writesProgram_throughout {canonical backup : String} (hfiles : disk.fs = fs)
    (hreplaced : disk.replaced = []) (hcanonical : candidate.toCanonicalToml toml = .ok canonical)
    (hbackup : backup = canonical ∨
      (fs (.file .primary) = some (.text backup) ∧ (decodeAndMigrate toml backup).isOk = true)) :
    (writesProgram backup canonical).Throughout (Disk.exec failures)
      (CutShort toml candidate fs) (fun _ _ => True) disk := by
  subst hfiles
  have hbytes : candidate.toCanonicalToml toml = .ok backup ∨
      (disk.fs (.file .primary) = some (.text backup) ∧
        (decodeAndMigrate toml backup).isOk = true) :=
    hbackup.imp (fun heq => by rw [heq, hcanonical]) id
  have hsame : ∀ disk₁, SameFiles disk disk₁ → CutShort toml candidate disk.fs disk₁ :=
    fun disk₁ h => ⟨.inl (h.1 _), .inl ⟨by simp [h.2, hreplaced], h.1 _⟩⟩
  have hreplacedBy : ∀ disk₁, ReplacedBy .backup backup disk disk₁ →
      CutShort toml candidate disk.fs disk₁ :=
    fun disk₁ h => ⟨.inl (h.2.1 _ Target.noConfusion), .inr ⟨backup, h.1, hbytes⟩⟩
  refine Prog.Throughout.bind ((atomicWriteProgram_throughout .backup backup disk).mono
    (fun disk₁ h => h.elim (hsame disk₁) (hreplacedBy disk₁)) fun result disk₁ hI hwritten => ?_)
  cases result with
  | error error => exact ⟨hsame disk₁ hwritten, trivial⟩
  | ok _ =>
    -- From here the backup is written, and the file is the old one or the new one.
    have hboth : ∀ disk₂, ReplacedBy .primary canonical disk₁ disk₂ →
        CutShort toml candidate disk.fs disk₂ := fun disk₂ h =>
      ⟨.inr ⟨canonical, hcanonical, h.1⟩,
        .inr ⟨backup, (h.2.1 _ Target.noConfusion).trans hwritten.1, hbytes⟩⟩
    have hold : ∀ disk₂, SameFiles disk₁ disk₂ → CutShort toml candidate disk.fs disk₂ :=
      fun disk₂ h => ⟨.inl ((h.1 _).trans (hwritten.2.1 _ Target.noConfusion)),
        .inr ⟨backup, (h.1 _).trans hwritten.1, hbytes⟩⟩
    refine Prog.Throughout.bind ((atomicWriteProgram_throughout .primary canonical disk₁).mono
      (fun disk₂ h => h.elim (hold disk₂) (hboth disk₂)) fun result disk₂ hI hwritten => ?_)
    cases result with
    | error error => exact ⟨hold disk₂ hwritten, trivial⟩
    | ok _ =>
      have hdone := hboth disk₂ hwritten
      refine doEffect_throughout hdone (fun _ => ⟨hdone, trivial⟩) fun disk₃ happly => ?_
      cases happly
      exact ⟨hdone, trivial⟩

/-- **A save, wherever it is cut.** -/
theorem saveProgram_throughout (toml : Toml) (candidate : Config) (fs : Fs) :
    (saveProgram toml candidate).Throughout (Disk.exec failures) (CutShort toml candidate fs)
      (fun _ _ => True) ⟨fs, []⟩ := by
  have hstart : CutShort toml candidate fs ⟨fs, []⟩ := ⟨.inl rfl, .inl ⟨by simp, rfl⟩⟩
  unfold saveProgram
  split
  · exact ⟨hstart, trivial⟩
  · rename_i canonical hcanonical
    refine Prog.Throughout.call hstart ?_
    split
    · exact ⟨hstart, trivial⟩
    · refine doEffect_throughout hstart (fun _ => ⟨hstart, trivial⟩) fun disk₁ happly => ?_
      cases happly
      refine Prog.Throughout.call hstart (writesProgram_throughout rfl rfl hcanonical ?_)
      exact (backupOf_cases toml _ canonical).imp id
        fun ⟨hprevious, hdecodes⟩ => ⟨exec_readPrevious hprevious, hdecodes⟩

/-- The outcome of a load, of what a load gives. -/
theorem exists_of_loadView {config : Config} {source : LoadSource} {writable : Bool}
    (h : loadView toml path fs = .ok (config, source, writable)) :
    ∃ outcome, load toml path fs = .ok outcome ∧ outcome.config = config := by
  unfold loadView at h
  cases hload : load toml path fs with
  | error error =>
    rw [hload] at h
    cases h
  | ok outcome =>
    rw [hload] at h
    cases h
    exact ⟨outcome, rfl, rfl⟩

/-- A load of what a cut save leaves gives what a load before it gave, or the candidate. -/
theorem CutShort.load (hreads : toml.ReadsBack) (h : CutShort toml candidate fs disk) :
    load toml path disk.fs = load toml path fs ∨
      ∃ outcome, load toml path disk.fs = .ok outcome ∧ outcome.config = candidate := by
  rcases h.primary with hprimary | ⟨canonical, hcanonical, hprimary⟩
  · by_cases hmalformed : Malformed toml fs
    · rcases h.backup with ⟨-, hbackup⟩ | ⟨bytes, hbackup, hcanonical | ⟨hold, hdecodes⟩⟩
      · refine .inl (load_congr fun t => ?_)
        cases t with
        | primary => exact hprimary
        | backup => exact hbackup
      · -- the candidate is recovered from the backup
        refine .inr (exists_of_loadView (loadView_of_malformed ?_ ?_))
        · simpa only [Malformed, readToString, hprimary] using hmalformed
        · have hdecode := decode_canonical hreads hcanonical
          simp [backupConfig, readToString, hbackup, hdecode, Except.toOption]
      · -- a file that decodes is not malformed
        obtain ⟨text, error, hread, hdecode, -⟩ := hmalformed
        have htext : text = bytes := by
          simp only [readToString, hold] at hread
          exact (Except.ok.inj hread).symm
        rw [← htext, hdecode] at hdecodes
        cases hdecodes
    · exact .inl (load_of_not_malformed hprimary hmalformed)
  · exact .inr (exists_of_loadView
      (loadView_of_decodes hprimary (decode_canonical hreads hcanonical)))

/-- The file can be read and decoded. -/
def Decodes (toml : Toml) (fs : Fs) (target : Target) : Prop :=
  ∃ text, fs (.file target) = some (.text text) ∧ (decodeAndMigrate toml text).isOk = true

/-- **Crash atomicity.** Cut a save after any number of its steps, whichever of them failed:
    the file holds its old bytes or the canonical candidate; the backup its old bytes, those of
    a file that decodes, or the canonical candidate; a load gives what it gave before the save,
    or the candidate; and if the file decoded, it does, and so does the backup once it was
    replaced. -/
theorem save_cut_short (hreads : toml.ReadsBack) (failures : Failures) (path : Place → String)
    (fs : Fs) (candidate : Config) (steps : ℕ) {disk : Disk}
    (hcut : (saveProgram toml candidate).runFor (Disk.exec failures) steps ⟨fs, []⟩ = disk) :
    (disk.fs (.file .primary) = fs (.file .primary) ∨
      ∃ canonical, candidate.toCanonicalToml toml = .ok canonical ∧
        disk.fs (.file .primary) = some (.text canonical)) ∧
    (disk.fs (.file .backup) = fs (.file .backup) ∨
      (Decodes toml fs .primary ∧ disk.fs (.file .backup) = fs (.file .primary)) ∨
      ∃ canonical, candidate.toCanonicalToml toml = .ok canonical ∧
        disk.fs (.file .backup) = some (.text canonical)) ∧
    (load toml path disk.fs = load toml path fs ∨
      ∃ outcome, load toml path disk.fs = .ok outcome ∧ outcome.config = candidate) ∧
    (Decodes toml fs .primary → Decodes toml disk.fs .primary ∧
      (.backup ∈ disk.replaced → Decodes toml disk.fs .backup)) := by
  have h : CutShort toml candidate fs disk :=
    hcut ▸ (saveProgram_throughout toml candidate fs).runFor steps
  refine ⟨h.primary, ?_, h.load hreads, fun hdecodes => ⟨?_, fun hreplaced => ?_⟩⟩
  · rcases h.backup with ⟨-, hbackup⟩ | ⟨bytes, hbackup, hcanonical | ⟨hold, hdecodes⟩⟩
    · exact .inl hbackup
    · exact .inr (.inr ⟨bytes, hcanonical, hbackup⟩)
    · exact .inr (.inl ⟨⟨bytes, hold, hdecodes⟩, hbackup.trans hold.symm⟩)
  · rcases h.primary with hprimary | ⟨canonical, hcanonical, hprimary⟩
    · simpa only [Decodes, hprimary] using hdecodes
    · exact ⟨canonical, hprimary, by rw [decode_canonical hreads hcanonical]; rfl⟩
  · rcases h.backup with ⟨hnot, -⟩ | ⟨bytes, hbackup, hcanonical | ⟨-, hdecodes⟩⟩
    · exact absurd hreplaced hnot
    · exact ⟨bytes, hbackup, by rw [decode_canonical hreads hcanonical]; rfl⟩
    · exact ⟨bytes, hbackup, hdecodes⟩

/-- A first save that is cut while it writes the backup. -/
theorem save_cut_short_first :
    ∃ disk, (saveProgram launchToml { launchAtLogin := true }).runFor
        (Disk.exec fun _ => none) 8 ⟨fun _ => none, []⟩ = disk ∧
      (load launchToml (fun _ => "") disk.fs = load launchToml (fun _ => "") (fun _ => none) ∨
        ∃ outcome, load launchToml (fun _ => "") disk.fs = .ok outcome ∧
          outcome.config = { launchAtLogin := true }) :=
  ⟨_, rfl, (save_cut_short launchToml_readsBack (fun _ => none) _ _ _ 8 rfl).2.2.1⟩

end Noire
