import Noire.Lib.Prog
import Noire.Store.ConfigStore
import Noire.Ui.Autostart

namespace Noire.Ui

/-!
# The file of the login entry

The entry of `Ui/Autostart.lean` is a file among those of the desktop session, where another
program may have put its own.  After `autostart.rs`, step by step: where the file is, whether it
says that it is Noire's, and what the application does with it.

* `managed` — whether an entry says that it is Noire's;
* `Environment` — what decides where the entry is and what it launches;
* `Desktop` / `Desktop.exec` — the files that a step meets, and what the step does to them;
* `writeManaged`, `removeManaged`, `refreshManaged`, `statusAt` — what is done with an entry;
* `Call` — what the application does: it refreshes the entry, shows it and toggles it.
-/

open Lib

/-! ## What it says

By which of its lines Noire knows an entry for its own.
-/

/-- A line without the carriage return before its end. -/
def dropReturn (line : List Char) : List Char :=
  if line.getLast? = some '\r' then line.dropLast else line

/-- `str::lines`: what follows the last line break is a line only if it is not empty. -/
def lines (text : List Char) : List (List Char) :=
  (text.splitOn '\n').dropLast.map dropReturn ++
    (text.splitOn '\n').getLast?.toList.filter fun line => !line.isEmpty

/-- Whether an entry has the line that makes it Noire's. -/
def managed (contents : String) : Bool := (lines contents.toList).contains managedMarker.toList

/-- What is written is managed. -/
theorem managed_entryText {command : List String} (h : Launchable command) :
    managed (entryText command) = true := by
  have hclosed : ∀ line ∈ linesBefore ++ "Exec=".toList :: linesAfter, '\n' ∉ line := by
    decide +kernel
  have hlines : ∀ line ∈ linesBefore ++ ("Exec=".toList ++ exec command) :: linesAfter,
      '\n' ∉ line := by
    rw [List.forall_mem_append, List.forall_mem_cons] at hclosed ⊢
    obtain ⟨hbefore, hkey, hafter⟩ := hclosed
    refine ⟨hbefore, fun hnewline => ?_, hafter⟩
    exact (List.mem_append.mp hnewline).elim hkey (newline_not_mem_exec h)
  unfold managed lines
  rw [entryText_toList, List.splitOn_intercalate _ hlines (by simp), List.contains_iff_mem]
  refine List.mem_append_left _ (List.mem_map.mpr ⟨managedMarker.toList, ?_, by decide +kernel⟩)
  simp [linesBefore, linesAfter]

/-- What is there that is not Noire's: text without the line, or what is no text. -/
def Foreign : Option Content → Prop
  | none => False
  | some .binary => True
  | some (.text contents) => managed contents = false

instance : DecidablePred Foreign
  | none => inferInstanceAs (Decidable False)
  | some .binary => inferInstanceAs (Decidable True)
  | some (.text contents) => inferInstanceAs (Decidable (managed contents = false))

/-! ## Where it is

The directory of the desktop, from the environment.
-/

/-- `OsString`, as its bytes, which need not be text; also a `Path`. -/
abbrev OsString := List UInt8

/-- `to_str`. -/
def OsString.toStr (name : OsString) : Option String := String.fromUTF8? ⟨name.toArray⟩

/-- The separator of the parts of a path. -/
def separator : UInt8 := 47

/-- `Path::is_absolute`. -/
def OsString.isAbsolute (path : OsString) : Bool := path.head? = some separator

/-- `Path::join`, of a relative part. -/
def OsString.join (path : OsString) (part : String) : OsString :=
  (if path.getLast?.all (· = separator) then path else path ++ [separator]) ++
    part.toUTF8.data.toList

/-- The variables and the process, as far as they are asked for. -/
structure Environment where
  flatpakId : Option OsString := none
  xdgConfigHome : Option OsString := none
  home : Option OsString := none
  appimage : Option OsString := none
  /-- `env::current_exe`, where it succeeds. -/
  currentExe : Option OsString := none
  /-- The process and the time, which name its temporary file. -/
  nonce : ℕ × ℕ := (0, 0)

/-- `AUTOSTART_FILE`. -/
def autostartFile : String := "io.github.rayan6ms.Noire.desktop"

/-- `autostart_path`. -/
def autostartPath (env : Environment) : Option OsString :=
  if env.flatpakId.isSome then none
  else
    let root := (env.xdgConfigHome.filter fun value => !value.isEmpty).or
      ((env.home.filter fun value => !value.isEmpty).map (·.join ".config"))
    (root.filter (·.isAbsolute)).map fun root => (root.join "autostart").join autostartFile

/-- `launch_command`.  A portable image whose path is no text is not replaced by the executable. -/
def launchCommand (env : Environment) : Option (List String) :=
  let launched := ((env.appimage.filter fun value => !value.isEmpty).filter (·.isAbsolute)).or
    env.currentExe
  (launched.bind (·.toStr)).map fun program => [program, "--minimized"]

/-! ## Steps

A step is one request to the operating system, since a process may die between any two.  What each
of them does is what the file system does.
-/

/-- `io::ErrorKind`, as far as it is used. -/
inductive FileErrorKind
  | notFound
  | alreadyExists
  | permissionDenied
  | invalidInput
  | invalidData
  | other
  deriving DecidableEq

/-- `io::Error`. -/
structure FileError where
  kind : FileErrorKind
  message : String
  deriving DecidableEq

/-- The temporary file of an entry. -/
structure Temporary where
  path : OsString
  nonce : ℕ × ℕ
  deriving DecidableEq

/-- The name of a file: names of different texts are different files. -/
inductive FileName
  | entry (path : OsString)
  | temporary (temporary : Temporary)
  deriving DecidableEq

/-- The files that there are, with their contents. -/
abbrev Files := FileName → Option Content

/-- One change of the files. -/
inductive Change
  | createDirAll (path : OsString)
  | openNew (temporary : Temporary)
  /-- A write begins; it goes on a character at a time. -/
  | writeAll (temporary : Temporary)
  | append (temporary : Temporary) (c : Char)
  | syncAll (temporary : Temporary)
  | rename (temporary : Temporary)
  | removeFile (name : FileName)

/-- One step of what is done with an entry. -/
inductive EntryOp
  | pathExists (path : OsString)
  | readToString (path : OsString)
  | change (edit : Change)

/-- What a step returns. -/
abbrev EntryOp.Result : EntryOp → Type
  | pathExists _ => Bool
  | readToString _ => Except FileError String
  | change _ => Except FileError Unit

/-- `ENOENT`. -/
def missingFile : FileError := ⟨.notFound, "No such file or directory (os error 2)"⟩

/-- What a change returns and leaves, where nothing fails but for the state of the files. -/
def Change.apply (files : Files) : Change → Except FileError Unit × Files
  | openNew temporary =>
    if (files (.temporary temporary)).isSome then
      (.error ⟨.alreadyExists, "File exists (os error 17)"⟩, files)
    else (.ok (), Function.update files (.temporary temporary) (some (.text "")))
  | append temporary c =>
    match files (.temporary temporary) with
    | some (.text text) =>
      (.ok (), Function.update files (.temporary temporary) (some (.text (text.push c))))
    | _ => (.ok (), files)
  | rename temporary =>
    match files (.temporary temporary) with
    | some content =>
      (.ok (), Function.update (Function.update files (.temporary temporary) none)
        (.entry temporary.path) (some content))
    | none => (.error missingFile, files)
  | removeFile name =>
    match files name with
    | some _ => (.ok (), Function.update files name none)
    | none => (.error missingFile, files)
  -- what these make durable or create is not among the files
  | createDirAll _ | writeAll _ | syncAll _ => (.ok (), files)

/-- `fs::read_to_string`. -/
def Files.read (files : Files) (path : OsString) : Except FileError String :=
  match files (.entry path) with
  | none => .error missingFile
  | some .binary => .error ⟨.invalidData, "stream did not contain valid UTF-8"⟩
  | some (.text text) => .ok text

/-- What a step returns and leaves. -/
def EntryOp.apply (files : Files) : (op : EntryOp) → op.Result × Files
  | .pathExists path => ((files (.entry path)).isSome, files)
  | .readToString path => (Files.read files path, files)
  | .change edit => edit.apply files

/-- What a step returns that fails: to ask whether a file exists has no error. -/
def EntryOp.failed (error : FileError) : (op : EntryOp) → op.Result
  | .pathExists _ => false
  | .readToString _ => .error error
  | .change _ => .error error

/-- The files, and how many steps were taken. -/
structure Desktop where
  files : Files
  taken : ℕ := 0

/-- Which steps fail, and how. -/
abbrev EntryFailures := ℕ → EntryOp → Option FileError

/-- One step: it fails as the failures say, and then changes nothing. -/
def Desktop.exec (failures : EntryFailures) (op : EntryOp) (desktop : Desktop) :
    op.Result × Desktop :=
  match failures desktop.taken op with
  | some error => (op.failed error, { desktop with taken := desktop.taken + 1 })
  | none =>
    ((op.apply desktop.files).1, ⟨(op.apply desktop.files).2, desktop.taken + 1⟩)

/-- What is there is found: no question whether an entry exists fails, and a read that fails
    does not say that nothing is there. -/
structure Sighted (failures : EntryFailures) : Prop where
  found : ∀ n path, failures n (.pathExists path) = none
  read : ∀ n path error, failures n (.readToString path) = some error → error.kind ≠ .notFound

/-! ## The programs

In the order of the source, with the tests where the source makes them.
-/

/-- A program over these steps. -/
abbrev EntryProg := Prog EntryOp.Result

/-- One change. -/
def change (edit : Change) : EntryProg (Except FileError Unit) :=
  Prog.call (EntryOp.change edit)

/-- Changes in turn, up to the first that fails. -/
def changes : List Change → EntryProg (Except FileError Unit)
  | [] => pure (.ok ())
  | first :: rest => do
    match ← change first with
    | .error error => pure (.error error)
    | .ok () => changes rest

/-- `fs::read_to_string`, as a step. -/
def readEntry (path : OsString) : EntryProg (Except FileError String) :=
  Prog.call (EntryOp.readToString path)

/-- `Path::exists`, as a step. -/
def pathExists (path : OsString) : EntryProg Bool := Prog.call (EntryOp.pathExists path)

/-- The error of a command that has no entry. -/
def EntryError.fileError : EntryError → FileError
  | .invalidInput message => ⟨.invalidInput, message⟩

/-- The changes from a new temporary file to its entry. -/
def writeChanges (temporary : Temporary) (text : String) : List Change :=
  .writeAll temporary :: text.toList.map (.append temporary) ++
    [.syncAll temporary, .rename temporary]

/-- The closure of `write_managed`: the text is made after the file was opened. -/
def writeTemporary (temporary : Temporary) (command : List String) :
    EntryProg (Except FileError Unit) := do
  match ← change (.openNew temporary) with
  | .error error => pure (.error error)
  | .ok () =>
    match desktopEntry command with
    | .error error => pure (.error error.fileError)
    | .ok text => changes (writeChanges temporary text)

/-- `write_managed`, once nothing but Noire's entry is there. -/
def replaceEntry (temporary : Temporary) (command : List String) :
    EntryProg (Except FileError Unit) := do
  match ← change (.createDirAll temporary.path) with
  | .error error => pure (.error error)
  | .ok () =>
    match ← writeTemporary temporary command with
    | .ok () => pure (.ok ())
    | .error error =>
      let _ ← change (.removeFile (.temporary temporary))
      pure (.error error)

/-- The error of an entry that is there already. -/
def notOwned : FileError :=
  ⟨.alreadyExists, "an autostart entry not owned by Noire already uses this name"⟩

/-- `write_managed`. -/
def writeManaged (temporary : Temporary) (command : List String) :
    EntryProg (Except FileError Unit) := do
  if ← pathExists temporary.path then
    match ← readEntry temporary.path with
    | .error error => pure (.error error)
    | .ok contents =>
      if managed contents then replaceEntry temporary command else pure (.error notOwned)
  else replaceEntry temporary command

/-- `remove_managed`. -/
def removeManaged (path : OsString) : EntryProg (Except FileError Unit) := do
  match ← readEntry path with
  | .error error => pure (if error.kind = .notFound then .ok () else .error error)
  | .ok contents =>
    if managed contents then change (.removeFile (.entry path))
    else
      pure (.error
        ⟨.permissionDenied, "the existing autostart entry is not owned by Noire"⟩)

/-- `refresh_managed`. -/
def refreshManaged (temporary : Temporary) (command : List String) :
    EntryProg (Except FileError Unit) := do
  match ← readEntry temporary.path with
  | .error error => pure (if error.kind = .notFound then .ok () else .error error)
  | .ok contents => if managed contents then writeManaged temporary command else pure (.ok ())

/-- `Status`. -/
structure Status where
  enabled : Bool := false
  available : Bool := false
  deriving DecidableEq

/-- `status_at`. -/
def statusAt (path : OsString) (commandAvailable : Bool) : EntryProg Status := do
  match ← readEntry path with
  | .ok contents =>
    pure (if managed contents then ⟨true, commandAvailable⟩ else ⟨false, false⟩)
  | .error error =>
    pure (if error.kind = .notFound then ⟨false, commandAvailable⟩ else ⟨false, false⟩)

/-- `status`. -/
def status (env : Environment) : EntryProg Status :=
  match autostartPath env with
  | none => pure ⟨false, false⟩
  | some path => statusAt path (launchCommand env).isSome

/-- `set_enabled`. -/
def setEnabled (env : Environment) (enabled : Bool) : EntryProg (Except FileError Unit) :=
  match autostartPath env with
  | none => pure (.error ⟨.notFound, "no usable desktop configuration directory"⟩)
  | some path =>
    if enabled then
      match launchCommand env with
      | none => pure (.error ⟨.notFound, "no stable Noire launch command"⟩)
      | some command => writeManaged ⟨path, env.nonce⟩ command
    else removeManaged path

/-- `refresh_if_enabled`. -/
def refreshIfEnabled (env : Environment) : EntryProg (Except FileError Unit) :=
  match autostartPath env, launchCommand env with
  | some path, some command => refreshManaged ⟨path, env.nonce⟩ command
  | none, _ | some _, none => pure (.ok ())

/-- What the application does with its entry. -/
inductive Call
  /-- `run`, at its start. -/
  | refresh
  /-- `settings_view`. -/
  | show
  /-- The toggle of the settings, `launch-at-login`. -/
  | toggle

/-- What a call has learned and done. -/
inductive Answer
  | refreshed (result : Except FileError Unit)
  | shown (status : Status)
  | toggled (status : Status) (result : Except FileError Unit)

/-- The program of a call. -/
def Call.program (env : Environment) : Call → EntryProg Answer
  | .refresh => .refreshed <$> refreshIfEnabled env
  | .show => .shown <$> status env
  | .toggle => do
    let seen ← status env
    let result ← setEnabled env !seen.enabled
    pure (.toggled seen result)

end Noire.Ui
