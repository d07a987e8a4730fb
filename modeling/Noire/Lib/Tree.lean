import Mathlib.Data.List.Basic
import Mathlib.Data.Int.Notation
import Mathlib.Data.Nat.Notation
import Mathlib.Tactic.Common

namespace Noire.Lib

/-!
# Value trees of a document format

The values of a TOML-like format, and how records are read from them: an enumeration by the
names of its variants, a record by a visit of the entries of a table.  The order of the
entries of a table says nothing, and neither does a reader depend on it.

* `Tree` — a value of the format, over any type of numbers with a fraction;
* `visitMap`, `field`, `fieldOr` — the parts of a record's reader;
* `Reordered` — the same tree up to the order of the entries of its tables;
* `Reads` — a reader gives a value from every reordering of a tree, with a rule for each part.
-/

/-- A value of the format. -/
inductive Tree (ν : Type)
  | string (text : String)
  | integer (value : ℤ)
  | float (value : ν)
  | boolean (value : Bool)
  | datetime (text : String)
  | array (items : List (Tree ν))
  | table (entries : List (String × Tree ν))

/-- The entries of a table, in the order they are visited.  No two share a key. -/
abbrev Table (ν : Type) := List (String × Tree ν)

/-- Why a value cannot be read. -/
inductive ReadError
  /-- A value of another type. -/
  | invalidType (expected : String)
  /-- A value of the type, out of its range. -/
  | invalidValue (expected : String)
  | unknownVariant (variant : String) (expected : List String)
  | unknownField (field : String) (expected : List String)
  | missingField (field : String)
  /-- The reader's own text. -/
  | custom (message : String)
  deriving DecidableEq

variable {ν α : Type}

/-- The value of a key. -/
def Table.get (table : Table ν) (key : String) : Option (Tree ν) := table.lookup key

namespace Tree

/-! ## Readers of scalars -/

/-- Read a text. -/
def asString : Tree ν → Except ReadError String
  | string text => .ok text
  | _ => .error (.invalidType "a string")

/-- Read a truth value. -/
def asBoolean : Tree ν → Except ReadError Bool
  | boolean value => .ok value
  | _ => .error (.invalidType "a boolean")

/-- Read an integer of an unsigned type whose largest value is `max`. -/
def asUnsigned (max : ℕ) (expected : String) : Tree ν → Except ReadError ℕ
  | integer value =>
    if 0 ≤ value ∧ value ≤ max then .ok value.toNat else .error (.invalidValue expected)
  | _ => .error (.invalidType expected)

/-- Read a number with a fraction; an integer is the number nearest to it. -/
def asFloat (ofInt : ℤ → ν) (expected : String) : Tree ν → Except ReadError ν
  | float value => .ok value
  | integer value => .ok (ofInt value)
  | _ => .error (.invalidType expected)

/-- Read a table. -/
def asTable (expected : String) : Tree ν → Except ReadError (Table ν)
  | table entries => .ok entries
  | _ => .error (.invalidType expected)

/-- Read the integer a value is, if it is one. -/
def asInteger : Tree ν → Option ℤ
  | integer value => some value
  | _ => none

/-! ## Readers of enumerations -/

/-- What a variant without data carries, written as a table: nothing. -/
def asUnit : Tree ν → Except ReadError Unit
  | array [] | table [] => .ok ()
  | array _ => .error (.custom "expected empty array")
  | table _ => .error (.custom "expected empty table")
  | _ => .error (.custom "expected table")

end Tree

/-- An enumeration without data: its variants and their names, no name twice. -/
structure Variants (α : Type) where
  all : List α
  name : α → String
  find_name : ∀ variant, all.find? (fun v => name v = name variant) = some variant

namespace Variants

/-- The variant of a name. -/
def ofName (variants : Variants α) (name : String) : Except ReadError α :=
  match variants.all.find? (fun v => variants.name v = name) with
  | some variant => .ok variant
  | none => .error (.unknownVariant name (variants.all.map variants.name))

/-- Read a variant: its name, or a table of its name and nothing. -/
def read (variants : Variants α) : Tree ν → Except ReadError α
  | .string name => variants.ofName name
  | .table [(name, content)] => do
    let variant ← variants.ofName name
    content.asUnit
    pure variant
  | .table [] => .error (.custom "wanted exactly 1 element, found 0 elements")
  | .table _ => .error (.custom "wanted exactly 1 element, more than 1 element")
  | _ => .error (.custom "wanted string or table")

/-- Write a variant. -/
def write (variants : Variants α) (variant : α) : Tree ν := .string (variants.name variant)

/-- A variant is the one of its name. -/
theorem ofName_name (variants : Variants α) (variant : α) :
    variants.ofName (variants.name variant) = .ok variant := by
  simp only [ofName, variants.find_name]

end Variants

/-! ## Readers of records -/

/-- A field of a record, as the visit of a table checks it. -/
abbrev FieldReader (ν : Type) := String × (Tree ν → Except ReadError Unit)

/-- Whether a value can be read. -/
def check (read : Tree ν → Except ReadError α) (tree : Tree ν) : Except ReadError Unit :=
  (read tree).map fun _ => ()

/-- A field and the reader of its value. -/
def reader (name : String) (read : Tree ν → Except ReadError α) : FieldReader ν :=
  (name, check read)

/-- Visit the entries of a table in turn: each must be a field, and its value one of it. -/
def visitMap (fields : List (FieldReader ν)) : Table ν → Except ReadError Unit
  | [] => .ok ()
  | (key, value) :: rest => do
    match fields.lookup key with
    | some read => read value
    | none => .error (.unknownField key (fields.map Prod.fst))
    visitMap fields rest

/-- The value of a field that must be there. -/
def field (table : Table ν) (name : String) (read : Tree ν → Except ReadError α) :
    Except ReadError α :=
  match table.get name with
  | some value => read value
  | none => .error (.missingField name)

/-- The value of a field that has a default. -/
def fieldOr (table : Table ν) (name : String) (default : α)
    (read : Tree ν → Except ReadError α) : Except ReadError α :=
  match table.get name with
  | some value => read value
  | none => .ok default

/-! ## The order of entries -/

/-- The same tree, up to the order of the entries of its tables. -/
inductive Reordered : Tree ν → Tree ν → Prop
  | refl (tree : Tree ν) : Reordered tree tree
  /-- `image` is what becomes of the value of a key. -/
  | table {entries entries' : Table ν} (image : String → Tree ν)
      (values : ∀ entry ∈ entries, Reordered entry.2 (image entry.1))
      (order : entries'.Perm (entries.map fun entry => (entry.1, image entry.1))) :
      Reordered (.table entries) (.table entries')

/-- An entry of a table whose keys are distinct is the one its key is looked up at. -/
theorem Table.get_of_mem {table : Table ν} (hkeys : (table.map Prod.fst).Nodup) {key : String}
    {value : Tree ν} (h : (key, value) ∈ table) : table.get key = some value := by
  unfold Table.get
  induction table with
  | nil => cases h
  | cons entry rest ih =>
    obtain ⟨hnot, hrest⟩ := List.nodup_cons.mp hkeys
    rcases List.mem_cons.mp h with rfl | hmem
    · exact List.lookup_cons_self
    · have hne : key ≠ entry.1 := by
        rintro rfl
        exact hnot (List.mem_map.mpr ⟨_, hmem, rfl⟩)
      rw [List.lookup_cons, beq_eq_false_iff_ne.mpr hne]
      exact ih hrest hmem

/-- **A reordered table** has, under each key, the same value reordered, and no other key. -/
theorem Reordered.entries {entries entries' : Table ν} (hkeys : (entries.map Prod.fst).Nodup)
    (h : Reordered (.table entries) (.table entries')) :
    (∀ key value, (key, value) ∈ entries →
        ∃ value', entries'.get key = some value' ∧ Reordered value value') ∧
      ∀ key value', (key, value') ∈ entries' →
        ∃ value, (key, value) ∈ entries ∧ Reordered value value' := by
  cases h with
  | refl =>
    exact ⟨fun key value hmem => ⟨value, Table.get_of_mem hkeys hmem, .refl value⟩,
      fun key value hmem => ⟨value, hmem, .refl value⟩⟩
  | table image values order =>
    have hkeys' : (entries'.map Prod.fst).Nodup := by
      rw [(order.map Prod.fst).nodup_iff, List.map_map]
      exact hkeys
    constructor
    · intro key value hmem
      refine ⟨image key, Table.get_of_mem hkeys' (order.mem_iff.mpr ?_), values _ hmem⟩
      exact List.mem_map.mpr ⟨_, hmem, rfl⟩
    · intro key value' hmem
      obtain ⟨entry, hentry, heq⟩ := List.mem_map.mp (order.mem_iff.mp hmem)
      cases heq
      exact ⟨entry.2, hentry, values entry hentry⟩

/-- What is not a table has no order to change. -/
theorem Reordered.eq_of_not_table {tree tree' : Tree ν} (h : Reordered tree tree')
    (hnot : ∀ entries, tree ≠ .table entries) : tree' = tree := by
  cases h with
  | refl => rfl
  | table => exact absurd rfl (hnot _)

/-- A reordered table is a table. -/
theorem Reordered.exists_table {entries : Table ν} {tree' : Tree ν}
    (h : Reordered (.table entries) tree') : ∃ entries', tree' = .table entries' := by
  cases h with
  | refl => exact ⟨entries, rfl⟩
  | table => exact ⟨_, rfl⟩

/-! ## What a reader gives, whatever the order -/

/-- `read` gives `a` from every reordering of `tree`. -/
def Reads (read : Tree ν → Except ReadError α) (tree : Tree ν) (a : α) : Prop :=
  ∀ tree', Reordered tree tree' → read tree' = .ok a

/-- What a reader gives from a value that is no table. -/
theorem Reads.of_eq {read : Tree ν → Except ReadError α} {tree : Tree ν} {a : α}
    (hnot : ∀ entries, tree ≠ .table entries) (h : read tree = .ok a) : Reads read tree a := by
  intro tree' hreordered
  rw [hreordered.eq_of_not_table hnot, h]

/-- A text is read back. -/
theorem Reads.string (text : String) : Reads Tree.asString (.string text : Tree ν) text :=
  .of_eq nofun rfl

/-- A truth value is read back. -/
theorem Reads.boolean (value : Bool) : Reads Tree.asBoolean (.boolean value : Tree ν) value :=
  .of_eq nofun rfl

/-- A number is read back. -/
theorem Reads.float (ofInt : ℤ → ν) (expected : String) (value : ν) :
    Reads (Tree.asFloat ofInt expected) (.float value) value :=
  .of_eq nofun rfl

/-- An integer in range is read back. -/
theorem Reads.unsigned {max value : ℕ} (expected : String) (h : value ≤ max) :
    Reads (Tree.asUnsigned max expected) (.integer value : Tree ν) value := by
  refine .of_eq nofun ?_
  have hrange : (0 : ℤ) ≤ value ∧ (value : ℤ) ≤ max := by omega
  simp only [Tree.asUnsigned, if_pos hrange, Int.toNat_natCast]

/-- A variant is read back. -/
theorem Reads.variant (variants : Variants α) (variant : α) :
    Reads variants.read (variants.write variant : Tree ν) variant :=
  .of_eq nofun (variants.ofName_name variant)

/-- The value of a required field is read from it. -/
theorem Reads.field {entries entries' : Table ν} (hkeys : (entries.map Prod.fst).Nodup)
    (h : Reordered (.table entries) (.table entries')) {name : String} {value : Tree ν}
    (hmem : (name, value) ∈ entries) {read : Tree ν → Except ReadError α} {a : α}
    (hread : Reads read value a) : Lib.field entries' name read = .ok a := by
  obtain ⟨value', hget, hvalue⟩ := (h.entries hkeys).1 name value hmem
  simp only [Lib.field, hget, hread value' hvalue]

/-- The value of a field with a default is read from it, where it is there. -/
theorem Reads.fieldOr {entries entries' : Table ν} (hkeys : (entries.map Prod.fst).Nodup)
    (h : Reordered (.table entries) (.table entries')) {name : String} {value : Tree ν}
    (hmem : (name, value) ∈ entries) (default : α) {read : Tree ν → Except ReadError α} {a : α}
    (hread : Reads read value a) : Lib.fieldOr entries' name default read = .ok a := by
  obtain ⟨value', hget, hvalue⟩ := (h.entries hkeys).1 name value hmem
  simp only [Lib.fieldOr, hget, hread value' hvalue]

/-- What is read passes the check. -/
theorem Reads.check {read : Tree ν → Except ReadError α} {tree : Tree ν} {a : α}
    (h : Reads read tree a) : Reads (Lib.check read) tree () := by
  intro tree' hreordered
  rw [Lib.check, h tree' hreordered]
  rfl

/-- **The visit of a table** accepts a reordering of entries that are fields and read. -/
theorem Reads.visitMap {entries entries' : Table ν} (hkeys : (entries.map Prod.fst).Nodup)
    (h : Reordered (.table entries) (.table entries')) {fields : List (FieldReader ν)}
    (hfields : ∀ entry ∈ entries,
      ∃ read, fields.lookup entry.1 = some read ∧ Reads read entry.2 ()) :
    Lib.visitMap fields entries' = .ok () := by
  have hentries : ∀ entry ∈ entries', ∃ read, fields.lookup entry.1 = some read ∧
      read entry.2 = .ok () := by
    intro entry hentry
    obtain ⟨value, hmem, hvalue⟩ := (h.entries hkeys).2 entry.1 entry.2 hentry
    obtain ⟨read, hlookup, hread⟩ := hfields _ hmem
    exact ⟨read, hlookup, hread _ hvalue⟩
  clear h
  induction entries' with
  | nil => rfl
  | cons entry rest ih =>
    obtain ⟨read, hlookup, hread⟩ := hentries entry List.mem_cons_self
    simp only [Lib.visitMap, hlookup, hread]
    exact ih fun entry hentry => hentries entry (List.mem_cons_of_mem _ hentry)

/-- **A record** is read from a table: its fields are visited, and then put together. -/
theorem Reads.record {entries : Table ν} (hkeys : (entries.map Prod.fst).Nodup)
    {fields : List (FieldReader ν)}
    (hfields : ∀ entry ∈ entries,
      ∃ read, fields.lookup entry.1 = some read ∧ Reads read entry.2 ())
    {build : Table ν → Except ReadError α} {a : α}
    (hbuild : ∀ table, Reordered (.table entries) (.table table) → build table = .ok a)
    (expected : String) :
    Reads (fun tree => do
      let table ← tree.asTable expected
      Lib.visitMap fields table
      build table) (.table entries) a := by
  intro tree' hreordered
  obtain ⟨table, rfl⟩ := hreordered.exists_table
  show (do
    Lib.visitMap fields table
    build table) = .ok a
  rw [Reads.visitMap hkeys hreordered hfields]
  exact hbuild table hreordered

/-! ## The text of a tree -/

/-- A format library: it parses a document, prints a table, and words the error of a value it
    cannot read in a document. -/
structure Text (ν : Type) where
  parse : String → Except String (Table ν)
  print : Table ν → Except String String
  message : String → ReadError → String

/-- The library prints a table, and parses the text to the table again, in some order. -/
def Text.Faithful (text : Text ν) (table : Table ν) : Prop :=
  ∃ document table', text.print table = .ok document ∧ text.parse document = .ok table' ∧
    Reordered (.table table) (.table table')

end Noire.Lib
