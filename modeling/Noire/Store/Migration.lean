import Noire.Store.Format

namespace Noire

open Lib

/-!
# Migration of legacy documents

What becomes of a well-formed document of schema 0, whatever the order of its entries.

* `LegacyConfigV0.Document` — the text of such a document;
* `LegacyConfigV0.decodeAndMigrate_document` — it is read, migrated, and validated;
* `Config.MigratedFrom` — a configuration that keeps what the document says;
* `legacy_migration_iff` — it is decoded to such a configuration, unless its input is blank but
  not empty;
* `legacy_migration_blank`, a document that is rejected.
-/

/-- The entries of a legacy document, with its strength as it is written. -/
def LegacyConfigV0.entries (legacy : LegacyConfigV0) (strength : Lib.Tree F64) : Table F64 :=
  [("schema_version", .integer 0),
    ("active", .boolean legacy.active),
    ("input_node", .string legacy.inputNode),
    ("suppression_enabled", .boolean legacy.suppressionEnabled),
    ("strength", strength)]

/-- A text that is parsed as a legacy document, in any order of its entries.  The strength may be
    written with a fraction or without. -/
def LegacyConfigV0.Document (text : Text F64) (input : String) (legacy : LegacyConfigV0) : Prop :=
  ∃ strength table, asF64 strength = .ok legacy.strength ∧ text.parse input = .ok table ∧
    Reordered (.table (legacy.entries strength)) (.table table)

/-- What a legacy document says is kept, and passes validation. -/
structure Config.MigratedFrom (config : Config) (legacy : LegacyConfigV0) : Prop where
  active : config.active = legacy.active
  enabled : config.suppression.enabled = legacy.suppressionEnabled
  strength : config.suppression.strength = legacy.strength
  selected : trim legacy.inputNode ≠ "" →
    config.input.mode = .selected ∧ config.input.stableId = legacy.inputNode
  followDefault : trim legacy.inputNode = "" → config.input.mode = .followDefault
  valid : config.validate = .ok ()

/-- A number is no table. -/
theorem asF64_not_table {strength : Lib.Tree F64} {value : F64} (h : asF64 strength = .ok value) :
    ∀ entries, strength ≠ .table entries := by
  rintro entries rfl
  cases h

/-- A legacy document is read back, whatever the order of its entries. -/
theorem LegacyConfigV0.reads {legacy : LegacyConfigV0} {strength : Lib.Tree F64}
    (hstrength : asF64 strength = .ok legacy.strength) {table : Table F64}
    (h : Reordered (.table (legacy.entries strength)) (.table table)) :
    LegacyConfigV0.deserialize table = .ok legacy ∧
      (table.get "schema_version").bind Tree.asInteger = some 0 := by
  have hkeys : ((legacy.entries strength).map Prod.fst).Nodup := by simp [entries]
  have hnumber : Reads asF64 strength legacy.strength :=
    .of_eq (asF64_not_table hstrength) hstrength
  have hzero : Reads asU32 (.integer (0 : ℕ) : Lib.Tree F64) 0 := Reads.unsigned _ (by decide)
  have hvisit : visitMap fields table = .ok () := by
    refine Reads.visitMap hkeys h ?_
    simp only [entries, List.forall_mem_cons]
    exact ⟨⟨_, rfl, hzero.check⟩, ⟨_, rfl, (Reads.boolean _).check⟩,
      ⟨_, rfl, (Reads.string _).check⟩, ⟨_, rfl, (Reads.boolean _).check⟩,
      ⟨_, rfl, hnumber.check⟩, nofun⟩
  -- Each field reads back what was written, in whatever order.
  have hversion : field table "schema_version" asU32 = .ok 0 :=
    Reads.field hkeys h (by simp [entries]) hzero
  have hactive : field table "active" Tree.asBoolean = .ok legacy.active :=
    Reads.field hkeys h (by simp [entries]) (.boolean _)
  have hinput : field table "input_node" Tree.asString = .ok legacy.inputNode :=
    Reads.field hkeys h (by simp [entries]) (.string _)
  have henabled : field table "suppression_enabled" Tree.asBoolean =
      .ok legacy.suppressionEnabled := Reads.field hkeys h (by simp [entries]) (.boolean _)
  have hvalue : field table "strength" asF64 = .ok legacy.strength :=
    Reads.field hkeys h (by simp [entries]) hnumber
  refine ⟨?_, ?_⟩
  · unfold LegacyConfigV0.deserialize
    rw [hvisit, hversion, hactive, hinput, henabled, hvalue]
    rfl
  · -- the version is found before the document is read as a whole
    obtain ⟨value, hget, hreordered⟩ :=
      (h.entries hkeys).1 "schema_version" (.integer 0) (by simp [entries])
    rw [hget, hreordered.eq_of_not_table nofun]
    rfl

/-- **A legacy document** is migrated, and the outcome validated. -/
theorem LegacyConfigV0.decodeAndMigrate_document {text : Text F64} {input : String}
    {legacy : LegacyConfigV0} (h : legacy.Document text input) :
    decodeAndMigrate (tomlOf text) input = validated legacy.migrate := by
  obtain ⟨strength, table, hstrength, hparse, hreordered⟩ := h
  obtain ⟨hread, hzero⟩ := LegacyConfigV0.reads hstrength hreordered
  have hversion : (tomlOf text).schemaVersion input = .ok (some 0) := by
    show (text.parse input).map _ = _
    rw [hparse]
    exact congrArg Except.ok hzero
  have hlegacy : (tomlOf text).legacy input = .ok legacy := by
    show (text.parse input).bind _ = _
    rw [hparse]
    show (LegacyConfigV0.deserialize table).mapError _ = _
    rw [hread]
    rfl
  unfold decodeAndMigrate
  rw [hversion, hlegacy]
  dsimp only
  rw [if_neg (by decide), if_neg (by decide), if_pos rfl]

/-- A migrated input is selected by its name, if it has one. -/
theorem LegacyConfigV0.migrate_mode (legacy : LegacyConfigV0) : legacy.migrate.input.mode =
    if trim legacy.inputNode ≠ "" then .selected else .followDefault := by
  simp only [migrate]

/-- What a migration keeps, and that it passes validation unless the input is blank but not
    empty. -/
theorem LegacyConfigV0.migrate_valid_iff {legacy : LegacyConfigV0}
    (hstrength : legacy.strength.inRange 0 1 = true) :
    legacy.migrate.validate = .ok () ↔ (trim legacy.inputNode = "" → legacy.inputNode = "") := by
  have hmode := legacy.migrate_mode
  rw [Config.validate_ok_iff]
  constructor
  · intro hvalid hblank
    exact hvalid.followDefault (hmode.trans (if_neg (not_not.mpr hblank)))
  · intro hempty
    refine ⟨rfl, fun hselected hblank => ?_, fun hfollow => ?_, F64.inRange_iff.mp hstrength⟩
    · have hblank : trim legacy.inputNode = "" := hblank
      rw [hmode, if_neg (not_not.mpr hblank)] at hselected
      cases hselected
    · refine hempty (not_not.mp fun hnot => ?_)
      rw [hmode, if_pos hnot] at hfollow
      cases hfollow

/-- **Legacy migration.** A well-formed document of schema 0 whose strength is in range is decoded
    to a configuration that keeps what it says exactly if its input is empty or not blank. -/
theorem legacy_migration_iff {text : Text F64} {input : String} {legacy : LegacyConfigV0}
    (h : legacy.Document text input) (hstrength : legacy.strength.inRange 0 1 = true) :
    (∃ config, decodeAndMigrate (tomlOf text) input = .ok config ∧ config.MigratedFrom legacy) ↔
      (trim legacy.inputNode = "" → legacy.inputNode = "") := by
  rw [LegacyConfigV0.decodeAndMigrate_document h,
    ← LegacyConfigV0.migrate_valid_iff hstrength]
  constructor
  · rintro ⟨config, hvalidated, -⟩
    exact (validated_ok.mp hvalidated).1
  · intro hvalid
    have hmode := legacy.migrate_mode
    exact ⟨legacy.migrate, validated_ok.mpr ⟨hvalid, rfl⟩, rfl, rfl, rfl,
      fun hnot => ⟨hmode.trans (if_pos hnot), rfl⟩,
      fun hblank => hmode.trans (if_neg (not_not.mpr hblank)), hvalid⟩

/-- A document that follows the default input is migrated. -/
theorem legacy_migration_iff_default : ∃ config,
    decodeAndMigrate (tomlOf knownText) legacyDocument = .ok config ∧
      config.MigratedFrom ⟨false, "", true, F64.fiftyFivePercent⟩ := by
  have hdocument : LegacyConfigV0.Document knownText legacyDocument
      ⟨false, "", true, F64.fiftyFivePercent⟩ := ⟨_, _, rfl, rfl, .refl _⟩
  exact (legacy_migration_iff hdocument (by decide)).mpr fun _ => rfl

/-- **A blank input.** A document whose input is a blank is rejected as a whole. -/
theorem legacy_migration_blank : ¬ ∀ (text : Text F64) (input : String) (legacy : LegacyConfigV0),
    legacy.Document text input → legacy.strength.inRange 0 1 = true →
    ∃ config, decodeAndMigrate (tomlOf text) input = .ok config ∧ config.MigratedFrom legacy := by
  intro hall
  obtain ⟨legacy, hlegacy⟩ : ∃ legacy : LegacyConfigV0,
    legacy = ⟨true, " ", true, F64.fiftyFivePercent⟩ := ⟨_, rfl⟩
  obtain ⟨config, hdecode, -⟩ := hall
    { knownText with parse := fun _ => .ok (legacy.entries (.float legacy.strength)) }
    ("schema_version = 0\nactive = true\ninput_node = ' '\nsuppression_enabled = true\n" ++
      "strength = 0.55\n") legacy ⟨_, _, rfl, rfl, .refl _⟩ (by rw [hlegacy]; decide)
  rw [LegacyConfigV0.decodeAndMigrate_document ⟨_, _, rfl, rfl, .refl _⟩, hlegacy] at hdecode
  cases hdecode

end Noire
