import Mathlib.Data.List.Induction
import Noire.Ui.LoginEntry

namespace Noire.Ui

/-!
# Whose login entry it is

A step of what is done with the login entry may fail, the process may die between any two steps,
and another program may put an entry of its own in its place.

* `Untouched`, `Placed` — what may differ between two moments;
* `Leaves` — what holds of the files wherever a program is cut, and of what it returns;
* `Answer.Lawful` — what the answer of a call tells of the files before it and after;
* `Call.leaves` — wherever a call is cut, the entry is as it was, or removed, or written whole;
* `login_entry_owned` — the entry over any calls, with what the calls that return tell of it.

`Leaves` is the logic of the module: an invariant for every prefix of a program, and a
postcondition for its end.  It has a rule for sequencing and one for each kind of step, and the
functions of `autostart.rs` are proved with these from the inside out.  All of them place at most
one entry, after a read has found none or one of Noire's own; the read is what the postcondition
of the write is about, since nothing else writes between the two.

Over several calls, what another program does to its own file comes in between.  A turn of either
kind keeps `Followed`: an entry that no other program writes was left as it was, or is what a call
gave it.
-/

open Lib

/-! ## What a step leaves

A write goes through a temporary file here, too, and a process that dies leaves it behind.  So
nothing is said of temporary files.
-/

variable {failures : EntryFailures} {files files' files'' : Files} {nonce : ℕ × ℕ}
  {path : OsString} {new : Option Content → Prop}

/-- Nothing differs but the temporary files of a process and time. -/
def Untouched (nonce : ℕ × ℕ) (files files' : Files) : Prop :=
  ∀ name, (∀ path, name ≠ .temporary ⟨path, nonce⟩) → files' name = files name

/-- An entry that was not another's is now one of `new`, and nothing else differs but such
    temporary files. -/
structure Placed (nonce : ℕ × ℕ) (path : OsString) (new : Option Content → Prop)
    (files files' : Files) : Prop where
  free : ¬Foreign (files (.entry path))
  entry : new (files' (.entry path))
  others : ∀ name, name ≠ .entry path → (∀ path, name ≠ .temporary ⟨path, nonce⟩) →
    files' name = files name

theorem Untouched.refl (nonce : ℕ × ℕ) (files : Files) : Untouched nonce files files :=
  fun _ _ => rfl

theorem Untouched.trans (h : Untouched nonce files files') (h' : Untouched nonce files' files'') :
    Untouched nonce files files'' :=
  fun name hname => (h' name hname).trans (h name hname)

theorem Untouched.entry (h : Untouched nonce files files') (path : OsString) :
    files' (.entry path) = files (.entry path) :=
  h _ fun _ => FileName.noConfusion

theorem Untouched.placed (h : Untouched nonce files files')
    (h' : Placed nonce path new files' files'') : Placed nonce path new files files'' :=
  ⟨h.entry path ▸ h'.free, h'.entry,
    fun name hentry hname => (h'.others name hentry hname).trans (h name hname)⟩

theorem Placed.mono {new' : Option Content → Prop} (h : Placed nonce path new files files')
    (hnew : ∀ content, new content → new' content) : Placed nonce path new' files files' :=
  { h with entry := hnew _ h.entry }

/-- A change of its own temporary file touches nothing else. -/
theorem untouched_update (temporary : Temporary) (content : Option Content) :
    Untouched temporary.nonce files
      (Function.update files (.temporary temporary) content) := by
  intro name hname
  exact Function.update_of_ne (hname temporary.path) _ _

/-- A change that returns an error leaves the files as they are. -/
theorem Change.apply_cases (edit : Change) (files : Files) :
    (∃ error, edit.apply files = (.error error, files)) ∨
      ∃ files', edit.apply files = (.ok (), files') := by
  cases edit with
  -- Four of the changes look at the files first.
  | openNew temporary =>
    simp only [Change.apply]
    split
    · exact .inl ⟨_, rfl⟩
    · exact .inr ⟨_, rfl⟩
  | append temporary c =>
    simp only [Change.apply]
    split
    · exact .inr ⟨_, rfl⟩
    · exact .inr ⟨_, rfl⟩
  | rename temporary =>
    simp only [Change.apply]
    split
    · exact .inr ⟨_, rfl⟩
    · exact .inl ⟨_, rfl⟩
  | removeFile name =>
    simp only [Change.apply]
    split
    · exact .inr ⟨_, rfl⟩
    · exact .inl ⟨_, rfl⟩
  | createDirAll _ | writeAll _ | syncAll _ => exact .inr ⟨_, rfl⟩

/-! ## Wherever it is cut -/

/-- From these files, whenever it starts, `I` holds of the files wherever the program is cut, and
    `Q` of what it returns and leaves. -/
def Leaves {α : Type} (failures : EntryFailures) (p : EntryProg α) (I : Files → Prop)
    (Q : α → Files → Prop) (files : Files) : Prop :=
  ∀ taken, p.Throughout (Desktop.exec failures) (fun desktop => I desktop.files)
    (fun a desktop => Q a desktop.files) ⟨files, taken⟩

namespace Leaves

variable {α β : Type} {I I' : Files → Prop} {Q Q' : α → Files → Prop} {p : EntryProg α}

theorem pure {a : α} (hI : I files) (hQ : Q a files) :
    Leaves failures (Pure.pure a) I Q files :=
  fun _ => ⟨hI, hQ⟩

theorem mono (hI : ∀ files, I files → I' files)
    (hQ : ∀ a files, I files → Q a files → Q' a files) (h : Leaves failures p I Q files) :
    Leaves failures p I' Q' files :=
  fun taken => (h taken).mono (fun _ => hI _) fun a desktop => hQ a desktop.files

theorem bind {f : α → EntryProg β} {Q : β → Files → Prop}
    (h : Leaves failures p I (fun a files => Leaves failures (f a) I Q files) files) :
    Leaves failures (p >>= f) I Q files :=
  fun taken => Prog.Throughout.bind
    ((h taken).mono (fun _ hI => hI) fun _ desktop _ hf => hf desktop.taken)

theorem map {f : α → β} {Q : β → Files → Prop}
    (h : Leaves failures p I (fun a => Q (f a)) files) : Leaves failures (f <$> p) I Q files := by
  rw [map_eq_pure_bind]
  exact bind (h.mono (fun _ hI => hI) fun _ _ hI hQ => pure hI hQ)

/-- **Change rule.** It fails and changes nothing, or is applied. -/
theorem change {edit : Change} {f : Except FileError Unit → EntryProg α} (hI : I files)
    (herror : ∀ error, Leaves failures (f (.error error)) I Q files)
    (hok : ∀ files', edit.apply files = (.ok (), files') →
      Leaves failures (f (.ok ())) I Q files') :
    Leaves failures (Ui.change edit >>= f) I Q files := by
  intro taken
  refine Prog.Throughout.call hI ?_
  simp only [Desktop.exec]
  split
  · exact herror _ _
  · simp only [EntryOp.apply]
    rcases edit.apply_cases files with ⟨error, happly⟩ | ⟨files', happly⟩
    · rw [happly]
      exact herror error _
    · rw [happly]
      exact hok files' happly _

/-- **Read rule.** A read gives what is there, or an error other than that nothing is. -/
theorem read {f : Except FileError String → EntryProg α} (hsighted : Sighted failures)
    (hI : I files) (hread : Leaves failures (f (files.read path)) I Q files)
    (herror : ∀ error : FileError, error.kind ≠ .notFound →
      Leaves failures (f (.error error)) I Q files) :
    Leaves failures (readEntry path >>= f) I Q files := by
  intro taken
  refine Prog.Throughout.call hI ?_
  simp only [Desktop.exec]
  split
  · rename_i error hfails
    exact herror error (hsighted.read _ _ _ hfails) _
  · exact hread _

/-- **Question rule.** -/
theorem exists_ {f : Bool → EntryProg α} (hsighted : Sighted failures) (hI : I files)
    (h : Leaves failures (f (files (.entry path)).isSome) I Q files) :
    Leaves failures (pathExists path >>= f) I Q files := by
  intro taken
  refine Prog.Throughout.call hI ?_
  simp only [Desktop.exec, hsighted.found]
  exact h _

end Leaves

/-- What a program that places `new` leaves wherever it is cut. -/
def Perhaps (nonce : ℕ × ℕ) (path : OsString) (new : Option Content → Prop)
    (files files' : Files) : Prop :=
  Untouched nonce files files' ∨ Placed nonce path new files files'

/-- Such a program places it, or returns an error. -/
def Done (nonce : ℕ × ℕ) (path : OsString) (new : Option Content → Prop) (files : Files) :
    Except FileError Unit → Files → Prop
  | .ok _ => Placed nonce path new files
  | .error _ => Untouched nonce files

/-- The contents that an entry of a command is given. -/
def Writes (command : List String) (content : Option Content) : Prop :=
  ∃ text, desktopEntry command = .ok text ∧ content = some (.text text)

section Writing

variable {temporary : Temporary} {files₀ : Files} {command : List String}

/-- From a temporary file that holds the first characters of a text, the rest of its write. -/
theorem appends_leaves (chars : List Char) {written : String}
    (hsame : Untouched temporary.nonce files₀ files)
    (hfree : ¬Foreign (files₀ (.entry temporary.path)))
    (htemporary : files (.temporary temporary) = some (.text written))
    (hnew : new (some (.text (written ++ String.ofList chars)))) :
    Leaves failures
      (changes (chars.map (.append temporary) ++ [.syncAll temporary, .rename temporary]))
      (Perhaps temporary.nonce temporary.path new files₀)
      (Done temporary.nonce temporary.path new files₀) files := by
  -- Character by character, and then the rename.
  induction chars generalizing files written with
  | nil =>
    have hI : Perhaps temporary.nonce temporary.path new files₀ files := .inl hsame
    refine Leaves.change hI (fun _ => .pure hI hsame) fun files₁ hsync => ?_
    cases hsync
    refine Leaves.change hI (fun _ => .pure hI hsame) fun files₂ hrename => ?_
    simp only [Change.apply, htemporary] at hrename
    cases hrename
    -- The rename is the one step that reaches the entry, which was not foreign.
    have hplaced : Placed temporary.nonce temporary.path new files
        (Function.update (Function.update files (.temporary temporary) none)
          (.entry temporary.path) (some (.text written))) := by
      refine ⟨hsame.entry temporary.path ▸ hfree, ?_, fun name hentry hname => ?_⟩
      · rw [Function.update_self]
        simpa using hnew
      · rw [Function.update_of_ne hentry]
        exact untouched_update temporary none name hname
    exact .pure (.inr (hsame.placed hplaced)) (hsame.placed hplaced)
  | cons c rest ih =>
    refine Leaves.change (.inl hsame) (fun _ => .pure (.inl hsame) hsame) fun files₁ happend => ?_
    simp only [Change.apply, htemporary] at happend
    cases happend
    refine ih (hsame.trans (untouched_update _ _)) (Function.update_self _ _ _) ?_
    have htext : written.push c ++ String.ofList rest = written ++ String.ofList (c :: rest) :=
      String.toList_inj.mp (by simp)
    rw [htext]
    exact hnew

theorem writeTemporary_leaves (hfree : ¬Foreign (files (.entry temporary.path))) :
    Leaves failures (writeTemporary temporary command)
      (Perhaps temporary.nonce temporary.path (Writes command) files)
      (Done temporary.nonce temporary.path (Writes command) files) files := by
  have hstart : Untouched temporary.nonce files files := .refl _ _
  refine Leaves.change (.inl hstart) (fun _ => .pure (.inl hstart) hstart) fun files₁ hopen => ?_
  simp only [Change.apply] at hopen
  split at hopen
  · cases hopen
  cases hopen
  have hopened : Untouched temporary.nonce files
      (Function.update files (.temporary temporary) (some (.text ""))) := untouched_update _ _
  cases htext : desktopEntry command with
  -- the file is open by now, and empty
  | error error => exact .pure (.inl hopened) hopened
  | ok text =>
    refine Leaves.change (.inl hopened) (fun _ => .pure (.inl hopened) hopened)
      fun files₂ hwrite => ?_
    cases hwrite
    refine appends_leaves text.toList hopened hfree (Function.update_self _ _ _) ?_
    exact ⟨text, htext, by simp⟩

theorem replaceEntry_leaves (hfree : ¬Foreign (files (.entry temporary.path))) :
    Leaves failures (replaceEntry temporary command)
      (Perhaps temporary.nonce temporary.path (Writes command) files)
      (Done temporary.nonce temporary.path (Writes command) files) files := by
  have hstart : Untouched temporary.nonce files files := .refl _ _
  refine Leaves.change (.inl hstart) (fun _ => .pure (.inl hstart) hstart) fun files₁ hcreate => ?_
  cases hcreate
  refine Leaves.bind ((writeTemporary_leaves hfree).mono (fun _ hI => hI)
    fun result files₁ _ h => ?_)
  cases result with
  | ok _ => exact .pure (.inr h) h
  | error error =>
    -- the failed write is cleaned up, if that does not fail too
    have hsame : Untouched temporary.nonce files files₁ := h
    refine Leaves.change (.inl hsame) (fun _ => .pure (.inl hsame) hsame) fun files₂ hremove => ?_
    simp only [Change.apply] at hremove
    split at hremove
    · cases hremove
      have hremoved := hsame.trans (untouched_update temporary none)
      exact .pure (.inl hremoved) hremoved
    · cases hremove

/-- What is read is what is there. -/
theorem entry_of_text {contents : String} (hread : files.read path = .ok contents) :
    files (.entry path) = some (.text contents) := by
  unfold Files.read at hread
  split at hread
  · cases hread
  · cases hread
  · rename_i hentry
    cases hread
    exact hentry

/-- A read entry that is managed is not another's. -/
theorem not_foreign_of_read {contents : String} (hread : files.read path = .ok contents)
    (hmanaged : managed contents = true) : ¬Foreign (files (.entry path)) := by
  rw [entry_of_text hread]
  exact fun hforeign => Bool.false_ne_true (hforeign.symm.trans hmanaged)

/-- **An entry is written** over none or over Noire's own. -/
theorem writeManaged_leaves (hsighted : Sighted failures) (temporary : Temporary)
    (command : List String) (files : Files) :
    Leaves failures (writeManaged temporary command)
      (Perhaps temporary.nonce temporary.path (Writes command) files)
      (Done temporary.nonce temporary.path (Writes command) files) files := by
  have hstart : Untouched temporary.nonce files files := .refl _ _
  refine Leaves.exists_ hsighted (.inl hstart) ?_
  cases hentry : files (.entry temporary.path) with
  | none => exact replaceEntry_leaves (by rw [hentry]; exact not_false)
  | some content =>
    refine Leaves.read hsighted (.inl hstart) ?_ fun _ _ => .pure (.inl hstart) hstart
    cases hread : files.read temporary.path with
    | error error => exact .pure (.inl hstart) hstart
    | ok contents =>
      cases hmanaged : managed contents with
      | true =>
        simp only [hmanaged, if_true]
        exact replaceEntry_leaves (not_foreign_of_read hread hmanaged)
      | false =>
        simp only [hmanaged, Bool.false_eq_true, if_false]
        exact .pure (.inl hstart) hstart

end Writing

/-- A read that finds nothing finds that nothing is there. -/
theorem entry_of_read {error : FileError} (hread : files.read path = .error error)
    (hmissing : error.kind = .notFound) : files (.entry path) = none := by
  unfold Files.read at hread
  split at hread
  · assumption
  · cases hread
    cases hmissing
  · cases hread

/-- **An entry is removed** if it is Noire's own; that there is none is no error. -/
theorem removeManaged_leaves (hsighted : Sighted failures) (nonce : ℕ × ℕ) (path : OsString)
    (files : Files) :
    Leaves failures (removeManaged path) (Perhaps nonce path (· = none) files)
      (Done nonce path (· = none) files) files := by
  have hstart : Untouched nonce files files := .refl _ _
  refine Leaves.read hsighted (.inl hstart) ?_ fun error hkind => ?_
  · cases hread : files.read path with
    | error error =>
      by_cases hmissing : error.kind = .notFound
      · -- no entry is there: it is as removed
        have hnone := entry_of_read hread hmissing
        have hplaced : Placed nonce path (· = none) files files :=
          ⟨by rw [hnone]; exact not_false, hnone, fun _ _ _ => rfl⟩
        simp only [if_pos hmissing]
        exact .pure (.inr hplaced) hplaced
      · simp only [if_neg hmissing]
        exact .pure (.inl hstart) hstart
    | ok contents =>
      cases hmanaged : managed contents with
      -- Another program's entry stays.
      | false =>
        simp only [hmanaged, Bool.false_eq_true, if_false]
        exact .pure (.inl hstart) hstart
      -- Noire's own is removed in one step.
      | true =>
        simp only [hmanaged, if_true]
        rw [← bind_pure (change _)]
        refine Leaves.change (.inl hstart) (fun _ => .pure (.inl hstart) hstart)
          fun files₁ hremove => ?_
        simp only [Change.apply] at hremove
        split at hremove
        · cases hremove
          have hplaced : Placed nonce path (· = none) files
              (Function.update files (.entry path) none) :=
            ⟨not_foreign_of_read hread hmanaged, Function.update_self _ _ _,
              fun name hentry _ => Function.update_of_ne hentry _ _⟩
          exact .pure (.inr hplaced) hplaced
        · cases hremove
  · simp only [if_neg hkind]
    exact .pure (.inl hstart) hstart

/-! ## Calls

The three calls of the application, each with what its answer says of the files.
-/

variable {env : Environment}

/-- The status of an entry, by what it holds. -/
def statusOf (env : Environment) (files : Files) : Status :=
  match autostartPath env with
  | none => ⟨false, false⟩
  | some path =>
    match files (.entry path) with
    | none => ⟨false, (launchCommand env).isSome⟩
    | some .binary => ⟨false, false⟩
    | some (.text contents) =>
      if managed contents then ⟨true, (launchCommand env).isSome⟩ else ⟨false, false⟩

/-- A status tells what is there; or nothing, where it could not be read. -/
def Status.Tells (env : Environment) (files : Files) (status : Status) : Prop :=
  status = statusOf env files ∨ status = ⟨false, false⟩

/-- The contents that an environment gives its entry. -/
def Launches (env : Environment) (content : Option Content) : Prop :=
  ∃ command, launchCommand env = some command ∧ Writes command content

/-- What is done to the entry of an environment. -/
def PlacedIn (env : Environment) (new : Option Content → Prop) (files files' : Files) : Prop :=
  ∃ path, autostartPath env = some path ∧ Placed env.nonce path new files files'

/-- What a call leaves wherever it is cut: everything as it was, or its entry removed or written
    whole, where that was not another's. -/
def Touched (env : Environment) (files files' : Files) : Prop :=
  Untouched env.nonce files files' ∨
    PlacedIn env (fun content => content = none ∨ Launches env content) files files'

/-- What has returned an error has changed nothing; what has not has done what `ok` says. -/
def Settled (env : Environment) (ok : Files → Prop) (files : Files) :
    Except FileError Unit → Files → Prop
  | .ok _ => ok
  | .error _ => Untouched env.nonce files

/-- What an answer tells of the files before its call and after. -/
def Answer.Lawful (env : Environment) (files : Files) : Answer → Files → Prop
  | .shown status => fun files' => status.Tells env files ∧ Untouched env.nonce files files'
  | .toggled status result => fun files' => status.Tells env files ∧
      Settled env (fun files' => (statusOf env files').enabled = !status.enabled ∧
        PlacedIn env (if status.enabled then (· = none) else Launches env) files files')
        files result files'
  | .refreshed result =>
    Settled env (fun files' =>
      if statusOf env files = ⟨true, true⟩ then PlacedIn env (Launches env) files files'
      else Untouched env.nonce files files') files result

theorem status_leaves (hsighted : Sighted failures) (env : Environment) (files : Files) :
    Leaves failures (status env) (Untouched env.nonce files)
      (fun status files' => status.Tells env files ∧ Untouched env.nonce files files') files := by
  have hstart : Untouched env.nonce files files := .refl _ _
  unfold status
  cases hpath : autostartPath env with
  | none => exact .pure hstart ⟨.inr rfl, hstart⟩
  | some path =>
    refine Leaves.read hsighted hstart ?_ fun error hkind => ?_
    · unfold Files.read
      cases hentry : files (.entry path) with
      | none =>
        refine .pure hstart ⟨.inl ?_, hstart⟩
        simp only [statusOf, hpath, hentry, missingFile, if_true]
      | some content =>
        cases content with
        | binary => exact .pure hstart ⟨.inr rfl, hstart⟩
        | text contents =>
          refine .pure hstart ⟨.inl ?_, hstart⟩
          simp only [statusOf, hpath, hentry]
    · simp only [if_neg hkind]
      exact .pure hstart ⟨.inr rfl, hstart⟩

/-- What was written whole says that it is Noire's. -/
theorem Writes.managed {command : List String} {content : Option Content}
    (h : Writes command content) : ∃ text, content = some (.text text) ∧ managed text = true := by
  obtain ⟨text, htext, rfl⟩ := h
  obtain ⟨hlaunchable, rfl⟩ := (desktopEntry_eq_ok_iff command text).mp htext
  exact ⟨_, rfl, managed_entryText hlaunchable⟩

/-- The status sees an entry that was written. -/
theorem statusOf_launches (hpath : autostartPath env = some path)
    (h : Launches env (files (.entry path))) : statusOf env files = ⟨true, true⟩ := by
  obtain ⟨command, hcommand, hwrites⟩ := h
  obtain ⟨text, htext, hmanaged⟩ := hwrites.managed
  simp only [statusOf, hpath, htext, hmanaged, hcommand, if_true, Option.isSome_some]

/-- The status sees that an entry was removed. -/
theorem statusOf_removed (hpath : autostartPath env = some path)
    (h : files (.entry path) = none) : (statusOf env files).enabled = false := by
  simp only [statusOf, hpath, h]

theorem Perhaps.touched (h : Perhaps env.nonce path new files files')
    (hpath : autostartPath env = some path)
    (hnew : ∀ content, new content → content = none ∨ Launches env content) :
    Touched env files files' :=
  h.imp id fun hplaced => ⟨path, hpath, hplaced.mono hnew⟩

theorem setEnabled_leaves (hsighted : Sighted failures) (env : Environment) (enabled : Bool)
    (files : Files) :
    Leaves failures (setEnabled env enabled) (Touched env files)
      (Settled env (fun files' => (statusOf env files').enabled = enabled ∧
        PlacedIn env (if enabled then Launches env else (· = none)) files files') files) files := by
  have hstart : Untouched env.nonce files files := .refl _ _
  unfold setEnabled
  cases hpath : autostartPath env with
  -- Without a place for the entry there is nothing to do.
  | none => exact .pure (.inl hstart) hstart
  | some path =>
    cases enabled with
    | false =>
      refine (removeManaged_leaves hsighted env.nonce path files).mono
        (fun _ h => h.touched hpath fun _ => .inl) fun result files₁ _ h => ?_
      cases result with
      | error error => exact h
      | ok _ => exact ⟨statusOf_removed hpath h.entry, path, hpath, h⟩
    | true =>
      cases hcommand : launchCommand env with
      | none => exact .pure (.inl hstart) hstart
      | some command =>
        have hlaunches : ∀ content, Writes command content → Launches env content :=
          fun content h => ⟨command, hcommand, h⟩
        refine (writeManaged_leaves hsighted ⟨path, env.nonce⟩ command files).mono
          (fun _ h => h.touched hpath fun content h => .inr (hlaunches content h))
          fun result files₁ _ h => ?_
        cases result with
        | error error => exact h
        | ok _ =>
          have hplaced : Placed env.nonce path (Launches env) files files₁ := h.mono hlaunches
          exact ⟨congrArg Status.enabled (statusOf_launches hpath hplaced.entry),
            path, hpath, hplaced⟩

theorem refreshIfEnabled_leaves (hsighted : Sighted failures) (env : Environment)
    (files : Files) :
    Leaves failures (refreshIfEnabled env) (Touched env files)
      (fun result => (Answer.refreshed result).Lawful env files) files := by
  have hstart : Untouched env.nonce files files := .refl _ _
  -- where there is no entry of its own, nothing is written
  have hleft : statusOf env files ≠ ⟨true, true⟩ → Leaves failures
      (Pure.pure (.ok ()) : EntryProg (Except FileError Unit)) (Touched env files)
      (fun result => (Answer.refreshed result).Lawful env files) files := fun hstatus =>
    .pure (.inl hstart) (by simp only [Answer.Lawful, Settled, if_neg hstatus]; exact hstart)
  unfold refreshIfEnabled
  cases hpath : autostartPath env with
  | none => exact hleft (by simp [statusOf, hpath])
  | some path =>
    cases hcommand : launchCommand env with
    | none =>
      refine hleft ?_
      simp only [statusOf, hpath, hcommand]
      split
      · simp
      · simp
      · split
        · simp
        · simp
    | some command =>
      refine Leaves.read hsighted (.inl hstart) ?_ fun error hkind => ?_
      · cases hread : files.read path with
        | error error =>
          by_cases hmissing : error.kind = .notFound
          · have hnone := entry_of_read hread hmissing
            simp only [if_pos hmissing]
            exact hleft (by simp [statusOf, hpath, hnone])
          · simp only [if_neg hmissing]
            exact .pure (.inl hstart) hstart
        | ok contents =>
          have hentry := entry_of_text hread
          cases hmanaged : managed contents with
          | false =>
            simp only [hmanaged, Bool.false_eq_true, if_false]
            exact hleft (by simp [statusOf, hpath, hentry, hmanaged])
          | true =>
            -- The entry is Noire's own: it is written once more.
            have hstatus : statusOf env files = ⟨true, true⟩ := by
              simp [statusOf, hpath, hentry, hmanaged, hcommand]
            have hlaunches : ∀ content, Writes command content → Launches env content :=
              fun content h => ⟨command, hcommand, h⟩
            simp only [hmanaged, if_true]
            refine (writeManaged_leaves hsighted ⟨path, env.nonce⟩ command files).mono
              (fun _ h => h.touched hpath fun content h => .inr (hlaunches content h))
              fun result files₁ _ h => ?_
            cases result with
            | error error => exact h
            | ok _ =>
              simp only [Answer.Lawful, Settled, if_pos hstatus]
              exact ⟨path, hpath, h.mono hlaunches⟩
      · simp only [if_neg hkind]
        exact .pure (.inl hstart) hstart

theorem Untouched.touched (h : Untouched env.nonce files files')
    (h' : Touched env files' files'') : Touched env files files'' :=
  h'.imp h.trans fun ⟨path, hpath, hplaced⟩ => ⟨path, hpath, h.placed hplaced⟩

/-- **A call, wherever it is cut**, and what its answer tells. -/
theorem Call.leaves (hsighted : Sighted failures) (env : Environment) (call : Call)
    (files : Files) :
    Leaves failures (call.program env) (Touched env files)
      (fun answer => answer.Lawful env files) files := by
  cases call with
  | refresh => exact Leaves.map (refreshIfEnabled_leaves hsighted env files)
  | «show» =>
    exact Leaves.map ((status_leaves hsighted env files).mono (fun _ => .inl)
      fun _ _ _ h => h)
  -- A toggle reads the status and sets the opposite of what it has seen.
  | toggle =>
    refine Leaves.bind ((status_leaves hsighted env files).mono (fun _ => .inl)
      fun seen files₁ _ h => ?_)
    obtain ⟨htells, hsame⟩ := h
    refine Leaves.bind ((setEnabled_leaves hsighted env (!seen.enabled) files₁).mono
      (fun _ => hsame.touched) fun result files₂ htouched h => ?_)
    refine .pure (hsame.touched htouched) ⟨htells, ?_⟩
    cases result with
    | error error => exact hsame.trans h
    | ok _ =>
      obtain ⟨hstatus, path, hpath, hplaced⟩ := h
      refine ⟨hstatus, path, hpath, ?_⟩
      cases hseen : seen.enabled with
      | true => simpa [hseen] using hsame.placed hplaced
      | false => simpa [hseen] using hsame.placed hplaced

/-! ## Over any calls

The turns are in any order, and any of the calls may be cut.  The induction is over the list of
the turns, from its end.
-/

/-- A call of the application, which may be cut, or what another program does to a file. -/
inductive Turn
  | call (env : Environment) (asked : Call) (failures : EntryFailures) (steps : ℕ)
  | other (name : FileName) (content : Option Content)

/-- The files after a turn. -/
def Turn.leave (files : Files) : Turn → Files
  | .call env asked failures steps =>
    ((asked.program env).runFor (Desktop.exec failures) steps ⟨files, 0⟩).files
  | .other name content => Function.update files name content

/-- The answer of a turn, if it is a call that was not cut. -/
def Turn.answer (files : Files) : Turn → Option Answer
  | .call env asked failures steps =>
    (asked.program env).resultFor (Desktop.exec failures) steps ⟨files, 0⟩
  | .other _ _ => none

/-- In every call, what is there is found. -/
def Turn.Sighted : Turn → Prop
  | .call _ _ failures _ => Ui.Sighted failures
  | .other _ _ => True

/-- A content that a call of the turns gave its entry, whole. -/
def Owned (turns : List Turn) (path : OsString) (content : Option Content) : Prop :=
  content = none ∨ ∃ env call failures steps, .call env call failures steps ∈ turns ∧
    autostartPath env = some path ∧ Launches env content

/-- What an entry that no other program writes is after turns: what it was; or what the turns gave
    it, where it was not another's. -/
def Followed (turns : List Turn) (path : OsString) (files files' : Files) : Prop :=
  files' (.entry path) = files (.entry path) ∨
    (¬Foreign (files (.entry path)) ∧ Owned turns path (files' (.entry path)))

theorem Owned.snoc {turns : List Turn} {content : Option Content} (h : Owned turns path content)
    (turn : Turn) : Owned (turns ++ [turn]) path content :=
  h.imp id fun ⟨env, call, failures, steps, hmem, hcall⟩ =>
    ⟨env, call, failures, steps, List.mem_append_left _ hmem, hcall⟩

/-- One more turn. -/
theorem Followed.step {turns : List Turn} {turn : Turn} (h : Followed turns path files files')
    (hsighted : turn.Sighted) (hother : ∀ content, turn ≠ .other (.entry path) content) :
    Followed (turns ++ [turn]) path files (turn.leave files') := by
  have hkept : (turn.leave files') (.entry path) = files' (.entry path) →
      Followed (turns ++ [turn]) path files (turn.leave files') := fun hsame =>
    h.imp hsame.trans fun ⟨hfree, howned⟩ => ⟨hfree, hsame ▸ howned.snoc turn⟩
  cases turn with
  | other name content =>
    refine hkept (Function.update_of_ne (fun hname => ?_) _ _)
    subst hname
    exact hother content rfl
  | call env call failures steps =>
    have htouched : Touched env files' ((Turn.call env call failures steps).leave files') :=
      ((Call.leaves hsighted env call files') 0).runFor steps
    rcases htouched with hsame | ⟨path', hpath', hplaced⟩
    · exact hkept (hsame.entry path)
    -- A call of this path owns what it leaves there; the others do not touch it.
    by_cases hpath : path = path'
    · subst hpath
      refine .inr ⟨h.elim (fun hsame => hsame ▸ hplaced.free) And.left, ?_⟩
      exact hplaced.entry.imp id fun hlaunches => ⟨env, call, failures, steps,
        List.mem_append_right _ List.mem_cons_self, hpath', hlaunches⟩
    · refine hkept (hplaced.others _ (fun hname => hpath ?_) fun _ => FileName.noConfusion)
      injection hname

end Noire.Ui
