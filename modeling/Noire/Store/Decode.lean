import Noire.Config

namespace Noire

/-!
# Decoding a configuration file

A configuration is a TOML document of schema 1, or of the legacy schema 0, which is migrated.
The TOML library itself is a parameter, `Toml`; what is used of it is that it reads back what
it prints.

* `decodeAndMigrate` — parse, read the schema version, migrate, validate;
* `Config.toCanonicalToml` — validate and print;
* `decode_wellFormed` — what is accepted is a valid configuration of schema 1;
* `decode_canonical` — a printed configuration decodes to itself.
-/

/-! ## Errors

What can go wrong with a file, and what the log says of it.
-/

/-- The files of a store: the authoritative file and its last-known-good backup. -/
inductive Target
  | primary
  | backup
  deriving DecidableEq

/-- What an operation of the store touches: a file, one of the temporary names a file is
    written under, or the directory they are in. -/
inductive Place
  | file (target : Target)
  | temporary (target : Target) (attempt : ℕ)
  | parent
  deriving DecidableEq

/-- `io::ErrorKind`, as far as the store distinguishes it. -/
inductive IoErrorKind
  | notFound
  | alreadyExists
  | other
  deriving DecidableEq

/-- `io::Error`. -/
structure IoError where
  kind : IoErrorKind
  message : String
  deriving DecidableEq

/-- Persistence or schema failure. -/
inductive ConfigError
  | validation (error : ValidationError)
  | parse (message : String)
  | serialize (message : String)
  | io (place : Place) (source : IoError)
  | newerSchema (found supported : ℕ)
  | invalidSchemaVersion
  deriving DecidableEq

/-- `Display` of a `ConfigError`, with the paths of the store. -/
def ConfigError.display (path : Place → String) : ConfigError → String
  | validation error => error.path ++ ": " ++ error.message
  | parse message => "configuration parse failed: " ++ message
  | serialize message => "configuration serialization failed: " ++ message
  | io place source => "configuration I/O failed at " ++ path place ++ ": " ++ source.message
  | newerSchema found supported =>
    "configuration schema " ++ toString found ++ " is newer than supported schema " ++
      toString supported
  | invalidSchemaVersion => "configuration schema_version is missing or invalid"

/-! ## Documents

The library that reads and writes TOML is a parameter; `Toml.ReadsBack` is what is relied on of
it.
-/

/-- The legacy schema-v0 document, without its version. -/
structure LegacyConfigV0 where
  active : Bool
  inputNode : String
  suppressionEnabled : Bool
  strength : F64
  deriving DecidableEq

/-- `LegacyConfigV0::migrate`. -/
def LegacyConfigV0.migrate (legacy : LegacyConfigV0) : Config where
  active := legacy.active
  input :=
    { mode := if trim legacy.inputNode ≠ "" then .selected else .followDefault
      stableId := legacy.inputNode }
  suppression :=
    { enabled := legacy.suppressionEnabled
      strength := legacy.strength }

/-- What the store uses of the TOML library. -/
structure Toml where
  /-- Parse a document, and read its `schema_version` as an integer, if it has one. -/
  schemaVersion : String → Except String (Option ℤ)
  /-- Deserialize a legacy document. -/
  legacy : String → Except String LegacyConfigV0
  /-- Deserialize a document of the current schema. -/
  config : String → Except String Config
  /-- Print a configuration. -/
  toStringPretty : Config → Except String String

/-- The library reads back what it prints. -/
def Toml.ReadsBack (toml : Toml) : Prop :=
  ∀ config text, config.validate = .ok () → toml.toStringPretty config = .ok text →
    toml.schemaVersion text = .ok (some config.schemaVersion) ∧ toml.config text = .ok config

/-- The end of decoding: validation of what was deserialized. -/
def validated (config : Config) : Except ConfigError Config :=
  match config.validate with
  | .error error => .error (.validation error)
  | .ok () => .ok config

/-- `decode_and_migrate`: parse current or supported legacy configuration into schema v1. -/
def decodeAndMigrate (toml : Toml) (input : String) : Except ConfigError Config :=
  match toml.schemaVersion input with
  | .error message => .error (.parse message)
  | .ok none => .error .invalidSchemaVersion
  | .ok (some version) =>
    -- `u64::try_from`
    if version < 0 then .error .invalidSchemaVersion
    else if configSchemaVersion < version then
      .error (.newerSchema version.toNat configSchemaVersion)
    -- Only the legacy schema is migrated; schema 1 is read as it stands.
    else if version = 0 then
      match toml.legacy input with
      | .error message => .error (.parse message)
      | .ok legacy => validated legacy.migrate
    else
      match toml.config input with
      | .error message => .error (.parse message)
      | .ok config => validated config

/-- `Config::to_canonical_toml`. -/
def Config.toCanonicalToml (toml : Toml) (config : Config) : Except ConfigError String :=
  match config.validate with
  | .error error => .error (.validation error)
  | .ok () =>
    match toml.toStringPretty config with
    | .error message => .error (.serialize message)
    | .ok text => .ok text

/-! ## What is accepted

An accepted document is a valid configuration of the current schema, and a canonical one is
accepted as what it was written from.
-/

theorem validated_ok {config config' : Config} :
    validated config = .ok config' ↔ config.validate = .ok () ∧ config' = config := by
  unfold validated
  split
  · rename_i error herror
    simp [herror]
  · rename_i hok
    simp [hok, eq_comm]

/-- **What is accepted is well formed**: a decoded configuration is valid, and of schema 1. -/
theorem decode_wellFormed {toml : Toml} {input : String} {config : Config}
    (h : decodeAndMigrate toml input = .ok config) : config.Valid := by
  -- Both accepting branches end in `validated`; the others return an error.
  rw [← Config.validate_ok_iff]
  unfold decodeAndMigrate at h
  split at h
  · cases h
  · cases h
  · split at h
    · cases h
    split at h
    · cases h
    split at h
    · split at h
      · cases h
      · obtain ⟨hvalid, rfl⟩ := validated_ok.mp h
        exact hvalid
    · split at h
      · cases h
      · obtain ⟨hvalid, rfl⟩ := validated_ok.mp h
        exact hvalid

/-- A canonical document is that of a valid configuration. -/
theorem toCanonicalToml_ok {toml : Toml} {config : Config} {text : String}
    (h : config.toCanonicalToml toml = .ok text) :
    config.validate = .ok () ∧ toml.toStringPretty config = .ok text := by
  unfold Config.toCanonicalToml at h
  split at h
  · cases h
  · rename_i hvalid
    split at h
    · cases h
    · rename_i hprint
      cases h
      exact ⟨hvalid, hprint⟩

/-- A document that is read as a valid configuration decodes to it. -/
theorem decode_of_reads {toml : Toml} {config : Config} {text : String}
    (hvalid : config.validate = .ok ())
    (hversion : toml.schemaVersion text = .ok (some config.schemaVersion))
    (hconfig : toml.config text = .ok config) : decodeAndMigrate toml text = .ok config := by
  have hschema := ((Config.validate_ok_iff config).mp hvalid).schema
  simp [decodeAndMigrate, hversion, hconfig, hschema, configSchemaVersion, validated, hvalid]

/-- **Round trip.** A canonical document decodes to its configuration. -/
theorem decode_canonical {toml : Toml} (hreads : toml.ReadsBack) {config : Config} {text : String}
    (h : config.toCanonicalToml toml = .ok text) : decodeAndMigrate toml text = .ok config := by
  obtain ⟨hvalid, hprint⟩ := toCanonicalToml_ok h
  obtain ⟨hversion, hconfig⟩ := hreads config text hvalid hprint
  exact decode_of_reads hvalid hversion hconfig

end Noire
