import Mathlib.Data.List.Basic
import Mathlib.Tactic.Common

namespace Noire.Lib

/-!
# Reading a desktop entry

How a desktop reads the command of a desktop entry: the value of its key is unescaped as a
string, then split into arguments, then the field codes of each argument are expanded.

* `undo` — text in which a marker gives the next character a meaning;
* `entryValue` — the text after a key in the group of the entry;
* `ExecReader` — what a reader makes of the escapes and codes that the format leaves undefined;
* `ExecReader.unescape`, `ExecReader.split`, `ExecReader.expand` — the three passes;
* `ExecReader.command` — the command of an entry;
* `ExecReader.count_split` — a strict reader keeps at most half of the backslashes.

Each pass undoes one kind of escape and is an instance of `undo`.  The bound on backslashes is an
invariant of the splitting, by induction on the text with the mode of the reader: every backslash
that an argument keeps is paid for by two that were read, and `ExecMode.slashes` is what is paid
in advance.
-/

/-! ## Markers -/

/-- Text in which a marker and the next character stand for the latter's meaning, if it has one. -/
def undo (marker : Char) (meaning : Char → Option (List Char)) : List Char → Option (List Char)
  | [] => some []
  | c :: rest =>
    if c = marker then
      match rest with
      | [] => none
      | next :: rest => do
        let text ← meaning next
        let rest ← undo marker meaning rest
        return text ++ rest
    else (undo marker meaning rest).map (c :: ·)

section Undo

variable {marker : Char} {meaning : Char → Option (List Char)}

theorem undo_cons {c : Char} (h : c ≠ marker) (rest : List Char) :
    undo marker meaning (c :: rest) = (undo marker meaning rest).map (c :: ·) := by
  conv_lhs => unfold undo
  rw [if_neg h]

theorem undo_marker_cons (next : Char) (rest : List Char) :
    undo marker meaning (marker :: next :: rest) = (meaning next).bind fun text =>
      (undo marker meaning rest).map (text ++ ·) := by
  conv_lhs => unfold undo
  rw [if_pos rfl]
  dsimp only
  cases meaning next with
  | none => rfl
  | some text =>
    cases undo marker meaning rest with
    | none => rfl
    | some rest => rfl

/-- **Character by character.** Text that is written one character at a time is read so. -/
theorem undo_flatMap_append {write read : Char → List Char} {text : List Char}
    (h : ∀ c ∈ text, ∀ rest, undo marker meaning (write c ++ rest) =
      (undo marker meaning rest).map (read c ++ ·)) (rest : List Char) :
    undo marker meaning (text.flatMap write ++ rest) =
      (undo marker meaning rest).map (text.flatMap read ++ ·) := by
  induction text with
  | nil => simp
  | cons c text ih =>
    rw [List.flatMap_cons, List.append_assoc, h c List.mem_cons_self,
      ih fun c hc => h c (List.mem_cons_of_mem _ hc), Option.map_map]
    simp [Function.comp_def]

/-- Text without a marker is itself. -/
theorem undo_append_of_not_mem {text : List Char} (h : marker ∉ text) (rest : List Char) :
    undo marker meaning (text ++ rest) = (undo marker meaning rest).map (text ++ ·) := by
  have hread : undo marker meaning (text.flatMap (fun c => [c]) ++ rest) =
      (undo marker meaning rest).map (text.flatMap (fun c => [c]) ++ ·) :=
    undo_flatMap_append (fun c hc rest =>
      undo_cons (fun hmarker : c = marker => h (hmarker ▸ hc)) rest) rest
  rwa [List.flatMap_singleton'] at hread

/-- Reading adds nothing that the meanings do not. -/
theorem count_undo_le {x : Char} {text result : List Char}
    (hmeaning : ∀ c text, meaning c = some text → text.count x ≤ [c].count x)
    (h : undo marker meaning text = some result) : result.count x ≤ text.count x := by
  fun_induction undo marker meaning text generalizing result
  case case1 =>
    obtain rfl := Option.some.inj h
    exact Nat.le_refl _
  case case2 => cases h
  -- The marker and what follows it are replaced by what they mean.
  case case3 next rest ih =>
    obtain ⟨text, htext, h⟩ := Option.bind_eq_some_iff.mp h
    obtain ⟨read, hread, h⟩ := Option.bind_eq_some_iff.mp h
    obtain rfl := Option.some.inj h
    have hle := hmeaning next text htext
    have hle' := ih hread
    rw [List.count_append, List.count_cons, List.count_cons]
    rw [List.count_singleton] at hle
    omega
  case case4 c rest _ ih =>
    obtain ⟨read, hread, rfl⟩ := Option.map_eq_some_iff.mp h
    rw [List.count_cons, List.count_cons]
    exact Nat.add_le_add_right (ih hread) _

end Undo

/-! ## Readers -/

/-- The lines of the group of the entry. -/
def entryGroup (lines : List (List Char)) : List (List Char) :=
  ((lines.dropWhile fun line => line ≠ "[Desktop Entry]".toList).drop 1).takeWhile
    fun line => line.head? ≠ some '['

/-- The value of a key: the rest of the first line of the group that starts with it. -/
def entryValue (key : String) (text : String) : Option (List Char) :=
  (entryGroup (text.toList.splitOn '\n')).findSome? fun line =>
    if (key ++ "=").toList.isPrefixOf line then some (line.drop (key.length + 1)) else none

/-- What a reader makes of a character that the format gives no meaning after a backslash in a
    string, after one in a quoted argument, or after a percent sign. -/
structure ExecReader where
  stringEscape : Char → Option (List Char)
  quotedEscape : Char → Option (List Char)
  fieldCode : Char → Option (List Char)

/-- Where a reader is: between two arguments, in one, after a backslash in one, or right after
    one. -/
inductive ExecMode
  | between
  | plain (argument : List Char)
  | quoted (argument : List Char)
  | escaped (argument : List Char)
  | closed (argument : List Char)

/-- Twice the backslashes in what a reader has of an argument, and the one it has just read. -/
def ExecMode.slashes : ExecMode → ℕ
  | .between => 0
  | .plain argument | .quoted argument | .closed argument => 2 * argument.count '\\'
  | .escaped argument => 2 * argument.count '\\' + 1

/-- The characters that an argument may hold in quotes only. -/
def execReserved : List Char := " \t\n\"'\\><~|&;$*?#()`".toList

namespace ExecReader

/-- A reader that refuses what is undefined. -/
def strict : ExecReader := ⟨fun _ => none, fun _ => none, fun _ => none⟩

variable (reader : ExecReader)

/-- What a backslash and a character stand for in a string. -/
def stringMeaning (c : Char) : Option (List Char) :=
  if c = 's' then some [' ']
  else if c = 'n' then some ['\n']
  else if c = 't' then some ['\t']
  else if c = 'r' then some ['\r']
  else if c = '\\' then some ['\\']
  else reader.stringEscape c

/-- What a backslash and a character stand for in a quoted argument. -/
def quotedMeaning (c : Char) : Option (List Char) :=
  if c ∈ "\"\\$`".toList then some [c] else reader.quotedEscape c

/-- What a percent sign and a character stand for in an argument. -/
def codeMeaning (c : Char) : Option (List Char) :=
  if c = '%' then some ['%'] else reader.fieldCode c

/-- Undoes the escapes of a string. -/
def unescape (text : List Char) : Option (List Char) := undo '\\' reader.stringMeaning text

/-- Splits a string into arguments, each quoted in whole or not at all. -/
def split : ExecMode → List Char → Option (List (List Char))
  | .between, [] => some []
  | .plain argument, [] | .closed argument, [] => some [argument]
  | .quoted _, [] | .escaped _, [] => none
  | .between, c :: rest =>
    if c = ' ' then split .between rest
    else if c = '"' then split (.quoted []) rest
    else if c ∈ execReserved then none
    else split (.plain [c]) rest
  | .plain argument, c :: rest =>
    if c = ' ' then (split .between rest).map (argument :: ·)
    else if c ∈ execReserved then none
    else split (.plain (argument ++ [c])) rest
  | .quoted argument, c :: rest =>
    if c = '"' then split (.closed argument) rest
    else if c = '\\' then split (.escaped argument) rest
    else split (.quoted (argument ++ [c])) rest
  | .escaped argument, c :: rest =>
    match reader.quotedMeaning c with
    | some text => split (.quoted (argument ++ text)) rest
    | none => none
  | .closed argument, c :: rest =>
    if c = ' ' then (split .between rest).map (argument :: ·) else none

/-- A character of an argument as it is written: a percent sign twice. -/
def doubled (c : Char) : List Char := if c = '%' then ['%', '%'] else [c]

/-- Expands the field codes of an argument. -/
def expand (argument : List Char) : Option (List Char) := undo '%' reader.codeMeaning argument

/-- The command of an entry. -/
def command (text : String) : Option (List String) := do
  let value ← entryValue "Exec" text
  let value ← reader.unescape value
  let arguments ← reader.split .between value
  let arguments ← arguments.mapM reader.expand
  return arguments.map String.ofList

/-! ## Arguments in quotes -/

variable {reader}

/-- A quoted text without a backslash or a quote is itself. -/
theorem split_quoted_append {text : List Char} (hslash : '\\' ∉ text) (hquote : '"' ∉ text)
    (argument rest : List Char) :
    reader.split (.quoted argument) (text ++ rest) =
      reader.split (.quoted (argument ++ text)) rest := by
  induction text generalizing argument with
  | nil => rw [List.nil_append, List.append_nil]
  | cons c text ih =>
    obtain ⟨hc, htext⟩ := not_or.mp (mt List.mem_cons.mpr hslash)
    obtain ⟨hc', htext'⟩ := not_or.mp (mt List.mem_cons.mpr hquote)
    rw [List.cons_append, split, if_neg (Ne.symm hc'), if_neg (Ne.symm hc), ih htext htext',
      List.append_assoc, List.singleton_append]

/-- **Quoted arguments.** Texts without a backslash or a quote, each in quotes and a space apart,
    split into themselves. -/
theorem split_intercalate {texts : List (List Char)}
    (h : ∀ text ∈ texts, '\\' ∉ text ∧ '"' ∉ text) :
    reader.split .between ([' '].intercalate (texts.map fun text => '"' :: (text ++ ['"']))) =
      some texts := by
  induction texts with
  | nil => rfl
  | cons text texts ih =>
    obtain ⟨hslash, hquote⟩ := h text List.mem_cons_self
    have hrest := ih fun text htext => h text (List.mem_cons_of_mem _ htext)
    -- A quoted text is read to its closing quote.
    have hquoted : ∀ rest, reader.split .between ('"' :: (text ++ '"' :: rest)) =
        reader.split (.closed text) rest := fun rest => by
      rw [split, if_neg (by decide), if_pos rfl, split_quoted_append hslash hquote,
        List.nil_append, split, if_pos rfl]
    cases texts with
    | nil =>
      rw [List.map_singleton, List.intercalate_singleton, hquoted, split]
    | cons next texts =>
      rw [List.map_cons, List.map_cons, List.intercalate_cons_cons, List.append_assoc,
        List.cons_append, List.append_assoc, List.singleton_append, List.singleton_append, hquoted,
        split, if_pos rfl, ← List.map_cons (f := fun text => '"' :: (text ++ ['"'])), hrest]
      rfl

/-- A text whose percent signs are doubled expands to the text. -/
theorem expand_doubled (text : List Char) :
    reader.expand (text.flatMap doubled) = some text := by
  have hread : undo '%' reader.codeMeaning (text.flatMap doubled ++ []) =
      (undo '%' reader.codeMeaning []).map (text.flatMap (fun c => [c]) ++ ·) :=
    undo_flatMap_append (fun c _ rest => by
      unfold doubled
      by_cases hc : c = '%'
      · subst hc
        rw [if_pos rfl]
        exact undo_marker_cons '%' rest
      · rw [if_neg hc]
        exact undo_cons hc rest) []
  rw [List.append_nil] at hread
  unfold expand
  rw [hread, List.flatMap_singleton']
  simp [undo]

/-! ## What a strict reader keeps -/

/-- **A backslash takes two.** A strict reader keeps at most half of the backslashes. -/
theorem count_split {mode : ExecMode} {text : List Char} {arguments : List (List Char)}
    (h : strict.split mode text = some arguments) :
    2 * arguments.flatten.count '\\' ≤ text.count '\\' + mode.slashes := by
  have hreserved : '\\' ∈ execReserved := by decide
  have hkept : ∀ {c : Char}, c ≠ '\\' → [c].count '\\' = 0 := fun hc =>
    List.count_eq_zero.mpr fun hmem => hc (List.mem_singleton.mp hmem).symm
  fun_induction split strict mode text generalizing arguments
  -- Where the text ends, or the reader refuses it.
  case case1 | case2 | case3 =>
    obtain rfl := Option.some.inj h
    simp [ExecMode.slashes]
  case case4 | case5 | case8 | case11 | case17 | case19 => cases h
  -- A space or a quote begins or ends an argument.
  case case6 rest ih | case7 rest _ ih | case13 argument rest ih =>
    have hrest := ih h
    rw [List.count_cons]
    simp only [ExecMode.slashes, List.count_nil] at hrest ⊢
    omega
  case case10 argument rest ih | case18 argument rest ih =>
    obtain ⟨rest', hrest', rfl⟩ := Option.map_eq_some_iff.mp h
    have hrest := ih hrest'
    rw [List.flatten_cons, List.count_append, List.count_cons]
    simp only [ExecMode.slashes] at hrest ⊢
    omega
  -- A character that is kept is no backslash.
  case case9 c rest _ _ hc ih =>
    have hrest := ih h
    have hzero := hkept fun hslash : c = '\\' => hc (hslash ▸ hreserved)
    rw [List.count_cons]
    simp only [ExecMode.slashes] at hrest ⊢
    omega
  case case12 argument c rest _ hc ih =>
    have hrest := ih h
    have hzero := hkept fun hslash : c = '\\' => hc (hslash ▸ hreserved)
    rw [List.count_cons]
    simp only [ExecMode.slashes, List.count_append] at hrest ⊢
    omega
  case case15 argument c rest _ hc ih =>
    have hrest := ih h
    have hzero := hkept hc
    rw [List.count_cons]
    simp only [ExecMode.slashes, List.count_append] at hrest ⊢
    omega
  -- A backslash, and what it stands for with the character after it.
  case case14 argument rest _ ih =>
    have hrest := ih h
    rw [List.count_cons, if_pos (by decide)]
    simp only [ExecMode.slashes] at hrest ⊢
    omega
  case case16 argument c rest text htext ih =>
    have hrest := ih h
    have hmeaning : text.count '\\' ≤ [c].count '\\' := by
      unfold quotedMeaning at htext
      split at htext
      · obtain rfl := Option.some.inj htext
        exact Nat.le_refl _
      · cases htext
    have hone : [c].count '\\' ≤ 1 := List.count_le_length
    rw [← List.singleton_append, List.count_append]
    simp only [ExecMode.slashes, List.count_append] at hrest ⊢
    omega

/-- A strict reader expands no backslash. -/
theorem count_expand {argument text : List Char} (h : strict.expand argument = some text) :
    text.count '\\' ≤ argument.count '\\' := by
  refine count_undo_le (fun c text htext => ?_) h
  unfold codeMeaning at htext
  split at htext
  · obtain rfl := Option.some.inj htext
    exact Nat.zero_le _
  · cases htext

/-- **A strict reader keeps half of the backslashes at most.** -/
theorem count_arguments {text : List Char} {arguments expanded : List (List Char)}
    (hsplit : strict.split .between text = some arguments)
    (hexpand : arguments.mapM strict.expand = some expanded) :
    2 * expanded.flatten.count '\\' ≤ text.count '\\' := by
  have hhalf : 2 * arguments.flatten.count '\\' ≤ text.count '\\' := count_split hsplit
  have hle : expanded.flatten.count '\\' ≤ arguments.flatten.count '\\' := by
    clear hsplit hhalf
    induction arguments generalizing expanded with
    | nil =>
      obtain rfl := Option.some.inj hexpand
      exact Nat.le_refl _
    | cons argument arguments ih =>
      rw [List.mapM_cons] at hexpand
      obtain ⟨first, hfirst, hexpand⟩ := Option.bind_eq_some_iff.mp hexpand
      obtain ⟨rest, hrest, hexpand⟩ := Option.bind_eq_some_iff.mp hexpand
      obtain rfl := Option.some.inj hexpand
      rw [List.flatten_cons, List.flatten_cons, List.count_append, List.count_append]
      exact Nat.add_le_add (count_expand hfirst) (ih hrest)
  omega

end ExecReader

end Noire.Lib
