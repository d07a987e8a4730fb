import Noire.Lib.DesktopEntry

namespace Noire.Ui

/-!
# The login entry

The desktop entry that starts the installed program at login, and what a desktop makes of it.

* `desktopEntry` — the text of the entry, with the command as its `Exec` value;
* `Launchable` — the commands that have an entry;
* `entryValue_entryText` — the value that a desktop finds in it;
* `unescape_exec` — what is left of the value's escapes after they are undone as a string;
* `desktopEntry_read_iff` — every desktop reads the command back exactly when none of its
  arguments needs an escape.

The arguments are escaped as quoted arguments only.  But a desktop first undoes the escapes of a
string, which takes one of the two backslashes.

The text is followed through three stages, and at each it is described character by character: the
quoting writes a backslash before some characters; the string takes the backslash of a backslash
away and has no value, or an undefined one, with the other escapes; and the reader of the quotes
takes what is left.  For arguments without an escape all stages are the identity.  For the others
there is a reader that follows the format and does not read the command back: a strict one, which
has no value with an escape it does not know; and where there are backslashes only, a count shows
that some are lost.
-/

open Lib (ExecReader entryValue undo)

/-! ## The entry -/

/-- The character that begins and ends a command substitution. -/
def backtick : Char := Char.ofNat 96

/-- `MANAGED_MARKER`. -/
def managedMarker : String := "X-Noire-Managed=true"

/-- `str::replace`, of one character. -/
def replaceChar (pattern : Char) (replacement : String) (text : List Char) : List Char :=
  text.flatMap fun c => if c = pattern then replacement.toList else [c]

/-- An argument as the value has it: escaped, and in quotes. -/
def quoteArgument (argument : String) : List Char :=
  let escaped := replaceChar '%' "%%" (replaceChar '$' "\\$" (replaceChar backtick "\\`"
    (replaceChar '"' "\\\"" (replaceChar '\\' "\\\\" argument.toList))))
  '"' :: (escaped ++ ['"'])

/-- The `Exec` value of a command. -/
def exec (command : List String) : List Char := [' '].intercalate (command.map quoteArgument)

/-- The text of an entry. -/
def entryText (command : List String) : String :=
  "[Desktop Entry]\nType=Application\nName=Noire\n" ++
    "Comment=Local microphone noise reduction\nExec=" ++ String.ofList (exec command) ++
    "\nTerminal=false\nX-GNOME-Autostart-enabled=true\n" ++ managedMarker ++ "\n"

/-- `io::Error`, of the kind `InvalidInput`. -/
inductive EntryError
  | invalidInput (message : String)

/-- The characters that no argument may contain. -/
def forbiddenChars : List Char := ['\x00', '\n', '\r']

/-- `desktop_entry`. -/
def desktopEntry (command : List String) : Except EntryError String :=
  if command.isEmpty || command.any (fun argument => argument.toList.any (· ∈ forbiddenChars)) then
    .error (.invalidInput "launch command contains an invalid argument")
  else .ok (entryText command)

section Characters

variable {p : Char → Prop} [DecidablePred p]

/-- A property of every character of a text, found by going through the text. -/
theorem forall_mem_of_all {text : List Char} (h : (text.all fun c => decide (p c)) = true) :
    ∀ c ∈ text, p c :=
  fun c hc => of_decide_eq_true (List.all_eq_true.mp h c hc)

/-- The same of every argument of a command. -/
theorem forall_mem_command_of_all {command : List String}
    (h : (command.all fun argument => argument.toList.all fun c => decide (p c)) = true) :
    ∀ argument ∈ command, ∀ c ∈ argument.toList, p c :=
  fun argument hargument => forall_mem_of_all (List.all_eq_true.mp h argument hargument)

end Characters

/-- A command without a character that no argument may contain. -/
structure Launchable (command : List String) : Prop where
  nonempty : command ≠ []
  allowed : ∀ argument ∈ command, ∀ c ∈ argument.toList, c ∉ forbiddenChars

/-- **A launchable command has an entry**, and only such a command has one. -/
theorem desktopEntry_eq_ok_iff (command : List String) (text : String) :
    desktopEntry command = .ok text ↔ Launchable command ∧ text = entryText command := by
  unfold desktopEntry
  split
  · rename_i hinvalid
    refine iff_of_false nofun fun h => ?_
    rcases (Bool.or_eq_true ..).mp hinvalid with hempty | hany
    · exact h.1.nonempty (List.isEmpty_iff.mp hempty)
    · obtain ⟨argument, hmem, hargument⟩ := List.any_eq_true.mp hany
      obtain ⟨c, hc, hforbidden⟩ := List.any_eq_true.mp hargument
      exact h.1.allowed argument hmem c hc (of_decide_eq_true hforbidden)
  · rename_i hvalid
    obtain ⟨hempty, hany⟩ := not_or.mp (mt (Bool.or_eq_true ..).mpr hvalid)
    refine ⟨fun h => ⟨⟨fun hnil => hempty (List.isEmpty_iff.mpr hnil), ?_⟩,
      (Except.ok.inj h).symm⟩, fun h => congrArg _ h.2.symm⟩
    intro argument hmem c hc hforbidden
    exact hany (List.any_eq_true.mpr
      ⟨argument, hmem, List.any_eq_true.mpr ⟨c, hc, decide_eq_true hforbidden⟩⟩)

/-! ## The value

The replacements of the code are made one after another, and none touches what an earlier one
wrote, so they are one replacement of each character.
-/

/-- The characters that are written after a backslash, which a string gives no meaning. -/
def quotedSpecials : List Char := ['"', '$', backtick]

/-- What an argument's character is written as. -/
def escapeChar (c : Char) : List Char :=
  if c = '\\' then ['\\', '\\']
  else if c ∈ quotedSpecials then ['\\', c]
  else if c = '%' then ['%', '%']
  else [c]

/-- **The replacements one after another** are one replacement: none of them touches what an
    earlier one has written. -/
theorem quoteArgument_eq (argument : String) :
    quoteArgument argument = '"' :: (argument.toList.flatMap escapeChar ++ ['"']) := by
  unfold quoteArgument replaceChar
  simp only [List.flatMap_assoc]
  congr 3
  funext c
  by_cases hspecial : c ∈ ['\\', '"', '$', backtick, '%']
  · revert c
    exact forall_mem_of_all (by decide +kernel)
  · obtain ⟨hslash, hquote, hdollar, htick, hpercent⟩ : c ≠ '\\' ∧ c ≠ '"' ∧ c ≠ '$' ∧
        c ≠ backtick ∧ c ≠ '%' := by simpa using hspecial
    simp [escapeChar, quotedSpecials, hslash, hquote, hdollar, htick, hpercent]

/-- A character of what is joined is the separator or one of a part. -/
theorem mem_of_mem_intercalate {α : Type} {x separator : α} {parts : List (List α)}
    (h : x ∈ [separator].intercalate parts) : x = separator ∨ ∃ part ∈ parts, x ∈ part := by
  induction parts with
  | nil => cases h
  | cons part parts ih =>
    by_cases hnil : parts = []
    · subst hnil
      rw [List.intercalate_singleton] at h
      exact .inr ⟨part, List.mem_cons_self, h⟩
    · rw [List.intercalate_cons_of_ne_nil hnil] at h
      rcases List.mem_append.mp h with h | h
      · rcases List.mem_append.mp h with h | h
        · exact .inr ⟨part, List.mem_cons_self, h⟩
        · exact .inl (List.mem_singleton.mp h)
      · exact (ih h).imp_right fun ⟨part, hpart, hx⟩ =>
          ⟨part, List.mem_cons_of_mem _ hpart, hx⟩

/-- A value has no line break. -/
theorem newline_not_mem_exec {command : List String} (h : Launchable command) :
    '\n' ∉ exec command := by
  -- Escaping writes a newline only for a newline.
  have hchar : ∀ c, '\n' ∈ escapeChar c → c = '\n' := fun c hc => by
    unfold escapeChar at hc
    split at hc
    · simp at hc
    split at hc
    · exact (by simpa using hc : '\n' = c).symm
    split at hc
    · simp at hc
    · exact (List.mem_singleton.mp hc).symm
  intro hnewline
  rcases mem_of_mem_intercalate hnewline with hspace | ⟨part, hpart, hnewline⟩
  · exact absurd hspace (by decide)
  · obtain ⟨argument, hmem, rfl⟩ := List.mem_map.mp hpart
    rw [quoteArgument_eq] at hnewline
    have hnewline : '\n' ∈ argument.toList.flatMap escapeChar := by simpa using hnewline
    obtain ⟨c, hc, hescaped⟩ := List.mem_flatMap.mp hnewline
    obtain rfl := hchar c hescaped
    exact h.allowed argument hmem '\n' hc (by decide)

/-- The lines before the value. -/
def linesBefore : List (List Char) :=
  ["[Desktop Entry]".toList, "Type=Application".toList, "Name=Noire".toList,
    "Comment=Local microphone noise reduction".toList]

/-- The lines after the value. -/
def linesAfter : List (List Char) :=
  ["Terminal=false".toList, "X-GNOME-Autostart-enabled=true".toList, managedMarker.toList, []]

/-- An entry is its lines. -/
theorem entryText_toList (command : List String) : (entryText command).toList =
    ['\n'].intercalate (linesBefore ++ ("Exec=".toList ++ exec command) :: linesAfter) := by
  have hbefore : "[Desktop Entry]\nType=Application\nName=Noire\n".toList ++
      "Comment=Local microphone noise reduction\nExec=".toList =
      ['\n'].intercalate (linesBefore ++ ["Exec=".toList]) := by decide +kernel
  have hafter : "\nTerminal=false\nX-GNOME-Autostart-enabled=true\n".toList ++
      (managedMarker.toList ++ "\n".toList) =
      '\n' :: ['\n'].intercalate linesAfter := by decide +kernel
  unfold entryText
  simp only [String.toList_append, String.toList_ofList]
  rw [hbefore, List.append_assoc, List.append_assoc, hafter]
  simp only [linesBefore, linesAfter, List.intercalate_cons_cons, List.intercalate_singleton,
    List.append_assoc, List.cons_append, List.nil_append]

/-- **The value that a desktop finds.** -/
theorem entryValue_entryText {command : List String} (h : Launchable command) :
    entryValue "Exec" (entryText command) = some (exec command) := by
  have hclosed : ∀ line ∈ linesBefore ++ "Exec=".toList :: linesAfter, '\n' ∉ line := by
    decide +kernel
  have hlines : ∀ line ∈ linesBefore ++ ("Exec=".toList ++ exec command) :: linesAfter,
      '\n' ∉ line := by
    rw [List.forall_mem_append, List.forall_mem_cons] at hclosed ⊢
    obtain ⟨hbefore, hkey, hafter⟩ := hclosed
    refine ⟨hbefore, fun hnewline => ?_, hafter⟩
    exact (List.mem_append.mp hnewline).elim hkey (newline_not_mem_exec h)
  unfold entryValue
  rw [entryText_toList, List.splitOn_intercalate _ hlines (by simp)]
  rfl

/-! ## What a reader makes of it

What the format leaves undefined is a parameter of the reader.
-/

/-- **A string takes the backslash of a backslash**, and keeps what is written plainly. -/
theorem undo_escapeChar {reader : ExecReader} {c : Char} (hc : c ∉ quotedSpecials)
    (rest : List Char) :
    undo '\\' reader.stringMeaning (escapeChar c ++ rest) =
      (undo '\\' reader.stringMeaning rest).map (ExecReader.doubled c ++ ·) := by
  unfold escapeChar
  by_cases hslash : c = '\\'
  · subst hslash
    rw [if_pos rfl]
    exact Lib.undo_marker_cons '\\' rest
  rw [if_neg hslash, if_neg hc]
  unfold ExecReader.doubled
  by_cases hpercent : c = '%'
  · rw [if_pos hpercent]
    exact Lib.undo_append_of_not_mem (by decide) rest
  · rw [if_neg hpercent]
    exact Lib.undo_cons hslash rest

/-- A strict reader has no value with any other escape. -/
theorem undo_strict_escapeChar {c : Char} (hc : c ∈ quotedSpecials) (rest : List Char) :
    undo '\\' ExecReader.strict.stringMeaning (escapeChar c ++ rest) = none := by
  have hspecials : ∀ c ∈ quotedSpecials,
      escapeChar c = ['\\', c] ∧ ExecReader.strict.stringMeaning c = none :=
    forall_mem_of_all (by decide +kernel)
  obtain ⟨hwritten, hnone⟩ := hspecials c hc
  rw [hwritten, List.cons_append, List.singleton_append, Lib.undo_marker_cons, hnone]
  rfl

/-- An argument as it is left of the value. -/
def plainArgument (argument : String) : List Char :=
  '"' :: (argument.toList.flatMap ExecReader.doubled ++ ['"'])

/-- Arguments that need no escape but for backslashes. -/
def Plain (command : List String) : Prop :=
  ∀ argument ∈ command, ∀ c ∈ argument.toList, c ∉ quotedSpecials

theorem undo_quoteArgument {reader : ExecReader} {argument : String}
    (h : ∀ c ∈ argument.toList, c ∉ quotedSpecials) (rest : List Char) :
    undo '\\' reader.stringMeaning (quoteArgument argument ++ rest) =
      (undo '\\' reader.stringMeaning rest).map (plainArgument argument ++ ·) := by
  rw [quoteArgument_eq, List.cons_append, List.append_assoc, Lib.undo_cons (by decide),
    Lib.undo_flatMap_append fun c hc rest => undo_escapeChar (h c hc) rest,
    List.singleton_append, Lib.undo_cons (by decide), Option.map_map, Option.map_map]
  congr 1
  funext rest
  simp [plainArgument]

/-- **What is left of a value** of plain arguments: each in quotes, with its backslashes bare. -/
theorem unescape_exec {reader : ExecReader} {command : List String} (h : Plain command) :
    reader.unescape (exec command) = some ([' '].intercalate (command.map plainArgument)) := by
  unfold ExecReader.unescape exec
  induction command with
  | nil => rfl
  | cons argument command ih =>
    -- One argument is undone, whatever follows it.
    have hargument : ∀ rest, undo '\\' reader.stringMeaning (quoteArgument argument ++ rest) =
        (undo '\\' reader.stringMeaning rest).map (plainArgument argument ++ ·) :=
      undo_quoteArgument (h argument List.mem_cons_self)
    have hrest := ih fun argument hmem => h argument (List.mem_cons_of_mem _ hmem)
    by_cases hnil : command = []
    · subst hnil
      rw [List.map_singleton, List.map_singleton, List.intercalate_singleton,
        List.intercalate_singleton, ← List.append_nil (quoteArgument argument), hargument]
      simp [undo]
    · rw [List.map_cons, List.map_cons,
        List.intercalate_cons_of_ne_nil (mt List.map_eq_nil_iff.mp hnil),
        List.intercalate_cons_of_ne_nil (mt List.map_eq_nil_iff.mp hnil), List.append_assoc,
        hargument, List.singleton_append, Lib.undo_cons (by decide), hrest]
      simp

/-- A strict reader has a value only of plain text. -/
theorem plain_of_undo_strict {argument rest value : List Char}
    (h : undo '\\' ExecReader.strict.stringMeaning (argument.flatMap escapeChar ++ rest) =
      some value) : ∀ c ∈ argument, c ∉ quotedSpecials := by
  induction argument generalizing value with
  | nil => exact fun c hc => absurd hc List.not_mem_nil
  | cons c argument ih =>
    rw [List.flatMap_cons, List.append_assoc] at h
    by_cases hc : c ∈ quotedSpecials
    · rw [undo_strict_escapeChar hc] at h
      cases h
    · rw [undo_escapeChar hc] at h
      obtain ⟨value, hvalue, -⟩ := Option.map_eq_some_iff.mp h
      exact List.forall_mem_cons.mpr ⟨hc, ih hvalue⟩

theorem plain_of_undo_quoteArgument {argument : String} {rest value : List Char}
    (h : undo '\\' ExecReader.strict.stringMeaning (quoteArgument argument ++ rest) =
      some value) : ∀ c ∈ argument.toList, c ∉ quotedSpecials := by
  rw [quoteArgument_eq, List.cons_append, Lib.undo_cons (by decide), List.append_assoc] at h
  obtain ⟨value, hvalue, -⟩ := Option.map_eq_some_iff.mp h
  exact plain_of_undo_strict hvalue

/-- **A strict reader has a value only of plain arguments.** -/
theorem plain_of_unescape_strict {command : List String} {value : List Char}
    (h : ExecReader.strict.unescape (exec command) = some value) : Plain command := by
  unfold ExecReader.unescape exec at h
  induction command generalizing value with
  | nil => exact fun argument hmem => absurd hmem List.not_mem_nil
  | cons argument command ih =>
    by_cases hnil : command = []
    · subst hnil
      rw [List.map_singleton, List.intercalate_singleton,
        ← List.append_nil (quoteArgument argument)] at h
      exact List.forall_mem_cons.mpr ⟨plain_of_undo_quoteArgument h,
        fun argument hmem => absurd hmem List.not_mem_nil⟩
    · rw [List.map_cons, List.intercalate_cons_of_ne_nil (mt List.map_eq_nil_iff.mp hnil),
        List.append_assoc] at h
      -- The first argument can be undone, so that it is plain; the rest is what is left.
      have hplain := plain_of_undo_quoteArgument h
      rw [undo_quoteArgument hplain, List.singleton_append, Lib.undo_cons (by decide)] at h
      obtain ⟨value, h, -⟩ := Option.map_eq_some_iff.mp h
      obtain ⟨value, h, -⟩ := Option.map_eq_some_iff.mp h
      exact List.forall_mem_cons.mpr ⟨hplain, ih h⟩

/-! ## Reading the command back

Both directions of the equivalence, and for backslashes the stronger statement that no reader
helps.
-/

/-- The entry of a command is read back as the command, by every reader. -/
def ReadBack (command : List String) : Prop :=
  ∃ text, desktopEntry command = .ok text ∧
    ∀ reader : ExecReader, reader.command text = some command

/-- What a reader makes of an entry is what it makes of the value. -/
theorem command_entryText {reader : ExecReader} {command : List String} (h : Launchable command) :
    reader.command (entryText command) = do
      let value ← reader.unescape (exec command)
      let arguments ← reader.split .between value
      let arguments ← arguments.mapM reader.expand
      return arguments.map String.ofList := by
  unfold ExecReader.command
  rw [entryValue_entryText h]
  rfl

/-- The backslashes that are left of a value of plain arguments are those of the arguments. -/
theorem count_plainArguments (command : List String) :
    ([' '].intercalate (command.map plainArgument)).count '\\' =
      (command.map String.toList).flatten.count '\\' := by
  -- Quotes are not backslashes, and doubling touches percent signs only.
  have hargument : ∀ argument : String,
      (plainArgument argument).count '\\' = argument.toList.count '\\' := by
    intro argument
    unfold plainArgument
    rw [List.count_cons_of_ne (by decide), List.count_append]
    show (argument.toList.flatMap ExecReader.doubled).count '\\' + 0 = _
    induction argument.toList with
    | nil => rfl
    | cons c text ih =>
      have hc : (ExecReader.doubled c).count '\\' = [c].count '\\' := by
        unfold ExecReader.doubled
        by_cases hpercent : c = '%'
        · subst hpercent
          rfl
        · rw [if_neg hpercent]
      rw [List.flatMap_cons, List.count_append, hc, Nat.add_assoc, ih, ← List.count_append,
        List.singleton_append]
  induction command with
  | nil => rfl
  | cons argument command ih =>
    rw [List.map_cons, List.map_cons, List.flatten_cons, List.count_append, ← ih, ← hargument]
    by_cases hnil : command = []
    · subst hnil
      rw [List.map_nil, List.intercalate_singleton, List.intercalate_nil, List.count_nil,
        Nat.add_zero]
    · -- the blank between two arguments is none either
      rw [List.intercalate_cons_of_ne_nil (mt List.map_eq_nil_iff.mp hnil), List.count_append,
        List.count_append]
      rfl

/-- **What every reader reads back** has no backslash left to lose. -/
theorem plain_of_readBack {command : List String} (h : ReadBack command) :
    Plain command ∧ ∀ argument ∈ command, '\\' ∉ argument.toList := by
  obtain ⟨text, htext, hread⟩ := h
  obtain ⟨hlaunchable, rfl⟩ := (desktopEntry_eq_ok_iff command text).mp htext
  have hstrict := hread .strict
  rw [command_entryText hlaunchable] at hstrict
  obtain ⟨value, hvalue, hstrict⟩ := Option.bind_eq_some_iff.mp hstrict
  obtain ⟨arguments, hsplit, hstrict⟩ := Option.bind_eq_some_iff.mp hstrict
  obtain ⟨expanded, hexpand, hstrict⟩ := Option.bind_eq_some_iff.mp hstrict
  have hcommand : expanded.map String.ofList = command := Option.some.inj hstrict
  have hplain := plain_of_unescape_strict hvalue
  refine ⟨hplain, ?_⟩
  -- Two backslashes of the value make one of the command, and the value has no more of them.
  have hhalf := ExecReader.count_arguments hsplit hexpand
  rw [unescape_exec hplain] at hvalue
  obtain rfl := Option.some.inj hvalue
  rw [count_plainArguments] at hhalf
  have hexpanded : expanded = command.map String.toList := by
    rw [← hcommand, List.map_map]
    simp [Function.comp_def]
  rw [hexpanded] at hhalf
  have hnone : (command.map String.toList).flatten.count '\\' = 0 := by omega
  intro argument hmem hslash
  refine List.count_eq_zero.mp hnone (List.mem_flatten.mpr ⟨argument.toList, ?_, hslash⟩)
  exact List.mem_map_of_mem hmem

/-- Doubled percent signs are one again. -/
theorem mapM_expand_doubled {reader : ExecReader} (command : List String) :
    (command.map fun argument => argument.toList.flatMap ExecReader.doubled).mapM reader.expand =
      some (command.map String.toList) := by
  induction command with
  | nil => rfl
  | cons argument command ih =>
    rw [List.map_cons, List.mapM_cons, ExecReader.expand_doubled, ih]
    rfl

/-- **Every reader reads back** arguments that need no escape. -/
theorem readBack_of_plain {command : List String} (h : Launchable command) (hplain : Plain command)
    (hslash : ∀ argument ∈ command, '\\' ∉ argument.toList) : ReadBack command := by
  refine ⟨entryText command, (desktopEntry_eq_ok_iff _ _).mpr ⟨h, rfl⟩, fun reader => ?_⟩
  have hdoubled : ∀ {x : Char} {text : List Char}, x ≠ '%' → x ∉ text →
      x ∉ text.flatMap ExecReader.doubled := by
    intro x text hpercent hx hmem
    obtain ⟨c, hc, hwritten⟩ := List.mem_flatMap.mp hmem
    unfold ExecReader.doubled at hwritten
    split at hwritten
    · exact hpercent (by simpa using hwritten)
    · exact hx (List.mem_singleton.mp hwritten ▸ hc)
  -- No argument holds a quote or a backslash, so the reader cuts where they were joined.
  have hsplit : reader.split .between ([' '].intercalate
      ((command.map fun argument => argument.toList.flatMap ExecReader.doubled).map
        fun text => '"' :: (text ++ ['"']))) =
      some (command.map fun argument => argument.toList.flatMap ExecReader.doubled) := by
    refine ExecReader.split_intercalate fun text hmem => ?_
    obtain ⟨argument, hargument, rfl⟩ := List.mem_map.mp hmem
    exact ⟨hdoubled (by decide) (hslash argument hargument), hdoubled (by decide)
      fun hquote => hplain argument hargument '"' hquote (by decide)⟩
  rw [List.map_map] at hsplit
  rw [command_entryText h, unescape_exec hplain]
  show (reader.split .between ([' '].intercalate (command.map plainArgument))).bind _ = _
  rw [show reader.split .between ([' '].intercalate (command.map plainArgument)) = _ from hsplit]
  show ((command.map fun argument => _).mapM reader.expand).bind _ = _
  rw [mapM_expand_doubled]
  show some ((command.map String.toList).map String.ofList) = _
  rw [List.map_map]
  simp [Function.comp_def]

/-- **Which commands every desktop reads back**: those without a quote, a backslash, a dollar sign
    or a backtick. -/
theorem desktopEntry_read_iff {command : List String} (h : Launchable command) :
    ReadBack command ↔ ∀ argument ∈ command, ∀ c ∈ argument.toList,
      c ∉ ['\\', '"', '$', backtick] := by
  constructor
  · intro hread argument hargument c hc hmem
    obtain ⟨hplain, hslash⟩ := plain_of_readBack hread
    rcases List.mem_cons.mp hmem with rfl | hmem
    · exact hslash argument hargument hc
    · exact hplain argument hargument c hc hmem
  · intro hnone
    refine readBack_of_plain h (fun argument hargument c hc hmem => ?_)
      fun argument hargument hc => ?_
    · exact hnone argument hargument c hc (List.mem_cons_of_mem _ hmem)
    · exact hnone argument hargument '\\' hc List.mem_cons_self

/-- The program's own image, in a path with spaces and a percent sign. -/
theorem desktopEntry_read_appimage :
    ReadBack ["/home/Test User/Noire 100%.AppImage", "--minimized"] :=
  (desktopEntry_read_iff ⟨by decide, forall_mem_command_of_all (by decide +kernel)⟩).mpr
    (forall_mem_command_of_all (by decide +kernel))

/-- **Two backslashes in a row.** No reader, whatever it makes of what is undefined, reads this
    command back: the string takes two of the four that are written, and the quotes one more. -/
theorem desktopEntry_backslashes :
    Launchable ["/a\\\\b"] ∧ ¬ ∃ (reader : ExecReader) (text : String),
      desktopEntry ["/a\\\\b"] = .ok text ∧ reader.command text = some ["/a\\\\b"] := by
  have hlaunchable : Launchable ["/a\\\\b"] :=
    ⟨by decide, forall_mem_command_of_all (by decide +kernel)⟩
  refine ⟨hlaunchable, ?_⟩
  rintro ⟨reader, text, htext, hread⟩
  have hplain : Plain ["/a\\\\b"] := forall_mem_command_of_all (by decide +kernel)
  obtain ⟨-, rfl⟩ := (desktopEntry_eq_ok_iff _ _).mp htext
  have hvalue : [' '].intercalate (["/a\\\\b"].map plainArgument) =
      ['"', '/', 'a', '\\', '\\', 'b', '"'] := by decide +kernel
  -- Two backslashes within quotes are read as one.
  have hsplit : reader.split .between ['"', '/', 'a', '\\', '\\', 'b', '"'] =
      some [['/', 'a', '\\', 'b']] := by
    simp [ExecReader.split, ExecReader.quotedMeaning]
  rw [command_entryText hlaunchable, unescape_exec hplain, hvalue] at hread
  obtain ⟨value, hvalue, hread⟩ := Option.bind_eq_some_iff.mp hread
  obtain rfl := Option.some.inj hvalue
  obtain ⟨arguments, harguments, hread⟩ := Option.bind_eq_some_iff.mp hread
  obtain rfl := Option.some.inj (hsplit.symm.trans harguments)
  have hexpand : [['/', 'a', '\\', 'b']].mapM reader.expand = some [['/', 'a', '\\', 'b']] := rfl
  obtain ⟨expanded, hexpanded, hread⟩ := Option.bind_eq_some_iff.mp hread
  obtain rfl := Option.some.inj (hexpand.symm.trans hexpanded)
  exact absurd (Option.some.inj hread) (by decide)

end Noire.Ui
