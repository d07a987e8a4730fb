import Noire.Lib.Tree
import Noire.Store.Decode

namespace Noire

/-!
# The configuration format

How a configuration is written as a value tree and read from one, down to the hand-written
codec of a channel.  With it the TOML library of the store is one that parses and prints
trees, and what the library must keep is the tree.

* `Config.serialize` / `Config.deserialize` — the current schema;
* `LegacyConfigV0.deserialize` — the schema before it;
* `tomlOf` — the TOML library the store uses, over one that parses and prints trees;
* `Config.reads` — a configuration is read back from its tree;
* `tomlOf_readsBack` — the library reads back what it prints, if it keeps the trees;
* `format_round_trip` — a configuration that is valid, or was decoded from any text, is
  printed, and the text decodes to it.

Writing is a function to trees, reading one from trees that may fail, and each record is proved on
its own: what is written is read back.  A reader looks fields up by name, so the order of the
entries does not matter, and neither does what the library makes of it.  The one field with a
codec of its own is the channel, whose text is parsed character by character.

The library below is any that keeps the trees of valid configurations.  Valid is needed, since a
text may hold numbers that no library has to keep.
-/

open Lib

/-! ## Numbers

A TOML integer is accepted where a float is expected, and rounded.
-/

/-- `n as f64`: the nearest number with a 53-bit significand, of two the even one. -/
def F64.ofInt (n : ℤ) : F64 :=
  let shift := n.natAbs.log2 - 52
  .finite (Dyadic.ofIntWithPrec (F64.roundTiesEven n shift) (-shift))

example : F64.ofInt (2 ^ 53 + 1) = .finite (Dyadic.ofInt (2 ^ 53)) := by decide +kernel

/-- Read an `f64`. -/
def asF64 : Lib.Tree F64 → Except ReadError F64 := Tree.asFloat F64.ofInt "f64"

/-- Read a `u32`. -/
def asU32 : Lib.Tree F64 → Except ReadError ℕ := Tree.asUnsigned u32Max "u32"

/-! ## Enumerations

Their names in a document, as `serde` derives them.
-/

/-- The names of the input modes. -/
def InputMode.variants : Variants InputMode where
  all := [.selected, .followDefault]
  name
    | .selected => "selected"
    | .followDefault => "follow-default"
  find_name variant := by cases variant <;> rfl

/-- The names of the latency profiles. -/
def LatencyProfile.variants : Variants LatencyProfile where
  all := [.low, .balanced]
  name
    | .low => "low"
    | .balanced => "balanced"
  find_name variant := by cases variant <;> rfl

/-- The names of the fail modes. -/
def FailMode.variants : Variants FailMode where
  all := [.closed, .opened]
  name
    | .closed => "closed"
    | .opened => "open"
  find_name variant := by cases variant <;> rfl

/-- The names of the log levels. -/
def LogLevel.variants : Variants LogLevel where
  all := [.error, .warn, .info, .debug]
  name
    | .error => "error"
    | .warn => "warn"
    | .info => "info"
    | .debug => "debug"
  find_name variant := by cases variant <;> rfl

/-! ## Channels

Four names, or an index behind a prefix that is taken off again.
-/

/-- `str::parse` at `u16`. -/
def parseU16 (s : String) : Option (Fin 65536) := (parseUnsigned 65535 s).map (Fin.ofNat 65536)

/-- A channel is written as its text. -/
def ChannelSelection.serialize (channel : ChannelSelection) : Lib.Tree F64 :=
  .string (channelText channel)

/-- The channel of a text. -/
def ChannelSelection.ofText (value : String) : Except ReadError ChannelSelection :=
  if value = "auto" then .ok .auto
  else if value = "mono" then .ok .mono
  else if value = "left" then .ok .left
  else if value = "right" then .ok .right
  else match (stripPrefix "index:" value).bind parseU16 with
    | some n => .ok (.index n)
    | none => .error (.custom "expected auto, mono, left, right, or index:N")

/-- A channel is read from its text. -/
def ChannelSelection.deserialize (tree : Lib.Tree F64) : Except ReadError ChannelSelection :=
  tree.asString.bind ofText

/-! ## Records

For each record of the source: the entries that are written, the fields that are known, and how a
table is read.
-/

/-- The entries of `[input]`. -/
def InputConfig.entries (input : InputConfig) : Table F64 :=
  [("mode", InputMode.variants.write input.mode),
    ("stable_id", .string input.stableId),
    ("channel", input.channel.serialize),
    ("fallback_to_default", .boolean input.fallbackToDefault)]

/-- The fields of `[input]`. -/
def InputConfig.fields : List (FieldReader F64) :=
  [reader "mode" InputMode.variants.read,
    reader "stable_id" Tree.asString,
    reader "channel" ChannelSelection.deserialize,
    reader "fallback_to_default" Tree.asBoolean]

/-- `[input]` of a table; unknown fields are denied. -/
def InputConfig.deserialize (tree : Lib.Tree F64) : Except ReadError InputConfig := do
  let table ← tree.asTable "struct InputConfig"
  visitMap fields table
  let mode ← field table "mode" InputMode.variants.read
  let stableId ← field table "stable_id" Tree.asString
  let channel ← field table "channel" ChannelSelection.deserialize
  let fallbackToDefault ← field table "fallback_to_default" Tree.asBoolean
  pure { mode, stableId, channel, fallbackToDefault }

/-- The entries of `[output]`. -/
def OutputConfig.entries (output : OutputConfig) : Table F64 :=
  [("latency_profile", LatencyProfile.variants.write output.latencyProfile)]

/-- The fields of `[output]`. -/
def OutputConfig.fields : List (FieldReader F64) :=
  [reader "latency_profile" LatencyProfile.variants.read]

/-- `[output]` of a table; unknown fields are denied. -/
def OutputConfig.deserialize (tree : Lib.Tree F64) : Except ReadError OutputConfig := do
  let table ← tree.asTable "struct OutputConfig"
  visitMap fields table
  let latencyProfile ← field table "latency_profile" LatencyProfile.variants.read
  pure { latencyProfile }

/-- The entries of `[suppression]`. -/
def SuppressionConfig.entries (suppression : SuppressionConfig) : Table F64 :=
  [("enabled", .boolean suppression.enabled),
    ("strength", .float suppression.strength),
    ("fail_mode", FailMode.variants.write suppression.failMode)]

/-- The fields of `[suppression]`. -/
def SuppressionConfig.fields : List (FieldReader F64) :=
  [reader "enabled" Tree.asBoolean,
    reader "strength" asF64,
    reader "fail_mode" FailMode.variants.read]

/-- `[suppression]` of a table; unknown fields are denied. -/
def SuppressionConfig.deserialize (tree : Lib.Tree F64) : Except ReadError SuppressionConfig := do
  let table ← tree.asTable "struct SuppressionConfig"
  visitMap fields table
  let enabled ← field table "enabled" Tree.asBoolean
  let strength ← field table "strength" asF64
  let failMode ← field table "fail_mode" FailMode.variants.read
  pure { enabled, strength, failMode }

/-- The entries of `[diagnostics]`. -/
def DiagnosticsConfig.entries (diagnostics : DiagnosticsConfig) : Table F64 :=
  [("log_level", LogLevel.variants.write diagnostics.logLevel),
    ("metering", .boolean diagnostics.metering)]

/-- The fields of `[diagnostics]`. -/
def DiagnosticsConfig.fields : List (FieldReader F64) :=
  [reader "log_level" LogLevel.variants.read,
    reader "metering" Tree.asBoolean]

/-- `[diagnostics]` of a table; unknown fields are denied. -/
def DiagnosticsConfig.deserialize (tree : Lib.Tree F64) : Except ReadError DiagnosticsConfig := do
  let table ← tree.asTable "struct DiagnosticsConfig"
  visitMap fields table
  let logLevel ← field table "log_level" LogLevel.variants.read
  let metering ← field table "metering" Tree.asBoolean
  pure { logLevel, metering }

/-- The document of a configuration. -/
def Config.entries (config : Config) : Table F64 :=
  [("schema_version", .integer config.schemaVersion),
    ("active", .boolean config.active),
    ("start_with_noise_reduction", .boolean config.startWithNoiseReduction),
    ("launch_at_login", .boolean config.launchAtLogin),
    ("input", .table config.input.entries),
    ("output", .table config.output.entries),
    ("suppression", .table config.suppression.entries),
    ("diagnostics", .table config.diagnostics.entries)]

/-- The fields of a document. -/
def Config.fields : List (FieldReader F64) :=
  [reader "schema_version" asU32,
    reader "active" Tree.asBoolean,
    reader "start_with_noise_reduction" Tree.asBoolean,
    reader "launch_at_login" Tree.asBoolean,
    reader "input" InputConfig.deserialize,
    reader "output" OutputConfig.deserialize,
    reader "suppression" SuppressionConfig.deserialize,
    reader "diagnostics" DiagnosticsConfig.deserialize]

/-- The configuration of a document; unknown fields are denied, and
    `start_with_noise_reduction` may be missing. -/
def Config.deserialize (table : Table F64) : Except ReadError Config := do
  visitMap fields table
  let schemaVersion ← field table "schema_version" asU32
  let active ← field table "active" Tree.asBoolean
  let startWithNoiseReduction ←
    fieldOr table "start_with_noise_reduction" false Tree.asBoolean
  let launchAtLogin ← field table "launch_at_login" Tree.asBoolean
  let input ← field table "input" InputConfig.deserialize
  let output ← field table "output" OutputConfig.deserialize
  let suppression ← field table "suppression" SuppressionConfig.deserialize
  let diagnostics ← field table "diagnostics" DiagnosticsConfig.deserialize
  pure { schemaVersion, active, startWithNoiseReduction, launchAtLogin, input, output,
         suppression, diagnostics }

/-- The fields of a legacy document. -/
def LegacyConfigV0.fields : List (FieldReader F64) :=
  [reader "schema_version" asU32,
    reader "active" Tree.asBoolean,
    reader "input_node" Tree.asString,
    reader "suppression_enabled" Tree.asBoolean,
    reader "strength" asF64]

/-- The legacy document of a document; unknown fields are denied, and the version is read and
    not kept. -/
def LegacyConfigV0.deserialize (table : Table F64) : Except ReadError LegacyConfigV0 := do
  visitMap fields table
  let _schemaVersion ← field table "schema_version" asU32
  let active ← field table "active" Tree.asBoolean
  let inputNode ← field table "input_node" Tree.asString
  let suppressionEnabled ← field table "suppression_enabled" Tree.asBoolean
  let strength ← field table "strength" asF64
  pure { active, inputNode, suppressionEnabled, strength }

/-! ## The library -/

/-- Deserialize a document: parse it, and read the record of its table. -/
def fromStr {α : Type} (text : Text F64) (read : Table F64 → Except ReadError α)
    (input : String) : Except String α :=
  (text.parse input).bind fun table => (read table).mapError (text.message input)

/-- The TOML library of the store, over one that parses and prints trees. -/
def tomlOf (text : Text F64) : Toml where
  schemaVersion input :=
    (text.parse input).map fun document =>
      (document.get "schema_version").bind Tree.asInteger
  legacy := fromStr text LegacyConfigV0.deserialize
  config := fromStr text Config.deserialize
  toStringPretty config := text.print config.entries

/-! ## Reading back

One lemma for each record, from the inside out.
-/

/-- Digits are read as the number they are of, where that is in range. -/
theorem parseUnsigned_of_digits (max : ℕ) {s : String} (hne : s.toList ≠ [])
    (hdigits : ∀ c ∈ s.toList, c.isDigit = true) :
    parseUnsigned max s =
      if Nat.ofDigitChars 10 s.toList 0 ≤ max then some (Nat.ofDigitChars 10 s.toList 0)
      else none := by
  have hsign : ∀ rest, s.toList ≠ '+' :: rest := by
    intro rest heq
    have hplus := hdigits '+' (by rw [heq]; exact List.mem_cons_self)
    exact absurd hplus (by decide)
  unfold parseUnsigned
  split
  · rename_i rest heq
    exact absurd heq (hsign rest)
  · rw [if_neg (by simpa [hne] using hdigits), Nat.ofDigitChars_eq_foldl]

/-- The decimal digits of a number in range are read as the number. -/
theorem parseUnsigned_toString {max n : ℕ} (h : n ≤ max) :
    parseUnsigned max (toString n) = some n := by
  have hdigits : (toString n).toList = Nat.toDigits 10 n := Nat.toList_repr
  have hvalue : Nat.ofDigitChars 10 (toString n).toList 0 = n := by
    rw [hdigits]
    exact Nat.ofDigitChars_ten_toDigits
  rw [parseUnsigned_of_digits, hvalue, if_pos h]
  · rw [hdigits]
    exact Nat.toDigits_ne_nil
  · intro c hc
    rw [hdigits] at hc
    exact Nat.isDigit_of_mem_toDigits (by decide) (by decide) hc

/-- What follows a prefix. -/
theorem stripPrefix_append (p s : String) : stripPrefix p (p ++ s) = some s := by
  unfold stripPrefix
  rw [String.toList_append, List.dropPrefix?_append_of_beq _ (beq_self_eq_true _)]
  simp

/-- **Channels.** The text of a channel is read as the channel. -/
theorem ofText_channelText (channel : ChannelSelection) :
    ChannelSelection.ofText (channelText channel) = .ok channel := by
  cases channel with
  | auto => rfl
  | mono => rfl
  | left => rfl
  | right => rfl
  | index n =>
    -- No other text starts as that of an index does.
    have hne : ∀ other : String, other.toList.head? ≠ some 'i' →
        channelText (.index n) ≠ other := by
      rintro other hhead rfl
      simp [channelText] at hhead
    have hindex : (stripPrefix "index:" (channelText (.index n))).bind parseU16 = some n := by
      rw [channelText, stripPrefix_append, Option.bind_some, parseU16,
        parseUnsigned_toString (by omega)]
      simp
    unfold ChannelSelection.ofText
    rw [if_neg (hne _ (by decide)), if_neg (hne _ (by decide)), if_neg (hne _ (by decide)),
      if_neg (hne _ (by decide)), hindex]

/-- A channel is read back. -/
theorem ChannelSelection.reads (channel : ChannelSelection) :
    Reads ChannelSelection.deserialize channel.serialize channel :=
  .of_eq nofun (ofText_channelText channel)

/-- `[input]` is read back. -/
theorem InputConfig.reads (input : InputConfig) :
    Reads InputConfig.deserialize (.table input.entries) input := by
  have hkeys : (input.entries.map Prod.fst).Nodup := by simp [entries]
  refine Reads.record hkeys ?_ (fun table h => ?_) "struct InputConfig"
  · simp only [entries, List.forall_mem_cons]
    exact ⟨⟨_, rfl, (Reads.variant _ _).check⟩, ⟨_, rfl, (Reads.string _).check⟩,
      ⟨_, rfl, input.channel.reads.check⟩, ⟨_, rfl, (Reads.boolean _).check⟩, nofun⟩
  · have hmode : field table "mode" InputMode.variants.read = .ok input.mode :=
      Reads.field hkeys h (by simp [entries]) (.variant _ _)
    have hstableId : field table "stable_id" Tree.asString = .ok input.stableId :=
      Reads.field hkeys h (by simp [entries]) (.string _)
    have hchannel : field table "channel" ChannelSelection.deserialize = .ok input.channel :=
      Reads.field hkeys h (by simp [entries]) input.channel.reads
    have hfallback : field table "fallback_to_default" Tree.asBoolean =
        .ok input.fallbackToDefault := Reads.field hkeys h (by simp [entries]) (.boolean _)
    rw [hmode, hstableId, hchannel, hfallback]
    rfl

/-- `[output]` is read back. -/
theorem OutputConfig.reads (output : OutputConfig) :
    Reads OutputConfig.deserialize (.table output.entries) output := by
  have hkeys : (output.entries.map Prod.fst).Nodup := by simp [entries]
  refine Reads.record hkeys ?_ (fun table h => ?_) "struct OutputConfig"
  · simp only [entries, List.forall_mem_cons]
    exact ⟨⟨_, rfl, (Reads.variant _ _).check⟩, nofun⟩
  · have hlatency : field table "latency_profile" LatencyProfile.variants.read =
        .ok output.latencyProfile := Reads.field hkeys h (by simp [entries]) (.variant _ _)
    rw [hlatency]
    rfl

/-- `[suppression]` is read back. -/
theorem SuppressionConfig.reads (suppression : SuppressionConfig) :
    Reads SuppressionConfig.deserialize (.table suppression.entries) suppression := by
  have hkeys : (suppression.entries.map Prod.fst).Nodup := by simp [entries]
  refine Reads.record hkeys ?_ (fun table h => ?_) "struct SuppressionConfig"
  · simp only [entries, List.forall_mem_cons]
    exact ⟨⟨_, rfl, (Reads.boolean _).check⟩, ⟨_, rfl, (Reads.float _ _ _).check⟩,
      ⟨_, rfl, (Reads.variant _ _).check⟩, nofun⟩
  · have henabled : field table "enabled" Tree.asBoolean = .ok suppression.enabled :=
      Reads.field hkeys h (by simp [entries]) (.boolean _)
    have hstrength : field table "strength" asF64 = .ok suppression.strength :=
      Reads.field hkeys h (by simp [entries]) (.float _ _ _)
    have hfailMode : field table "fail_mode" FailMode.variants.read = .ok suppression.failMode :=
      Reads.field hkeys h (by simp [entries]) (.variant _ _)
    rw [henabled, hstrength, hfailMode]
    rfl

/-- `[diagnostics]` is read back. -/
theorem DiagnosticsConfig.reads (diagnostics : DiagnosticsConfig) :
    Reads DiagnosticsConfig.deserialize (.table diagnostics.entries) diagnostics := by
  have hkeys : (diagnostics.entries.map Prod.fst).Nodup := by simp [entries]
  refine Reads.record hkeys ?_ (fun table h => ?_) "struct DiagnosticsConfig"
  · simp only [entries, List.forall_mem_cons]
    exact ⟨⟨_, rfl, (Reads.variant _ _).check⟩, ⟨_, rfl, (Reads.boolean _).check⟩, nofun⟩
  · have hlogLevel : field table "log_level" LogLevel.variants.read = .ok diagnostics.logLevel :=
      Reads.field hkeys h (by simp [entries]) (.variant _ _)
    have hmetering : field table "metering" Tree.asBoolean = .ok diagnostics.metering :=
      Reads.field hkeys h (by simp [entries]) (.boolean _)
    rw [hlogLevel, hmetering]
    rfl

/-- **A configuration** is read back from its document, whatever the order of its entries. -/
theorem Config.reads {config : Config} (hschema : config.schemaVersion ≤ u32Max)
    {table : Table F64} (h : Reordered (.table config.entries) (.table table)) :
    Config.deserialize table = .ok config := by
  have hkeys : (config.entries.map Prod.fst).Nodup := by simp [entries]
  have hvisit : visitMap fields table = .ok () := by
    refine Reads.visitMap hkeys h ?_
    simp only [entries, List.forall_mem_cons]
    exact ⟨⟨_, rfl, (Reads.unsigned _ hschema).check⟩, ⟨_, rfl, (Reads.boolean _).check⟩,
      ⟨_, rfl, (Reads.boolean _).check⟩, ⟨_, rfl, (Reads.boolean _).check⟩,
      ⟨_, rfl, config.input.reads.check⟩, ⟨_, rfl, config.output.reads.check⟩,
      ⟨_, rfl, config.suppression.reads.check⟩, ⟨_, rfl, config.diagnostics.reads.check⟩, nofun⟩
  -- Each field reads back what was written, in whatever order.
  have hversion : field table "schema_version" asU32 = .ok config.schemaVersion :=
    Reads.field hkeys h (by simp [entries]) (.unsigned _ hschema)
  have hactive : field table "active" Tree.asBoolean = .ok config.active :=
    Reads.field hkeys h (by simp [entries]) (.boolean _)
  have hstart : fieldOr table "start_with_noise_reduction" false Tree.asBoolean =
      .ok config.startWithNoiseReduction :=
    Reads.fieldOr hkeys h (by simp [entries]) _ (.boolean _)
  have hlaunch : field table "launch_at_login" Tree.asBoolean = .ok config.launchAtLogin :=
    Reads.field hkeys h (by simp [entries]) (.boolean _)
  have hinput : field table "input" InputConfig.deserialize = .ok config.input :=
    Reads.field hkeys h (by simp [entries]) config.input.reads
  have houtput : field table "output" OutputConfig.deserialize = .ok config.output :=
    Reads.field hkeys h (by simp [entries]) config.output.reads
  have hsuppression : field table "suppression" SuppressionConfig.deserialize =
      .ok config.suppression := Reads.field hkeys h (by simp [entries]) config.suppression.reads
  have hdiagnostics : field table "diagnostics" DiagnosticsConfig.deserialize =
      .ok config.diagnostics := Reads.field hkeys h (by simp [entries]) config.diagnostics.reads
  unfold Config.deserialize
  rw [hvisit, hversion, hactive, hstart, hlaunch, hinput, houtput, hsuppression, hdiagnostics]
  rfl

/-- The version of a reordered document. -/
theorem Config.version_reads {config : Config} {table : Table F64}
    (h : Reordered (.table config.entries) (.table table)) :
    (table.get "schema_version").bind Tree.asInteger = some (config.schemaVersion : ℤ) := by
  have hkeys : (config.entries.map Prod.fst).Nodup := by simp [entries]
  obtain ⟨value, hget, hvalue⟩ :=
    (h.entries hkeys).1 "schema_version" (.integer config.schemaVersion) (by simp [entries])
  rw [hget, hvalue.eq_of_not_table nofun]
  rfl

variable {text : Text F64}

/-- A valid configuration whose document the library keeps is printed and read back. -/
theorem tomlOf_reads {config : Config} (hvalid : config.validate = .ok ())
    (hfaithful : text.Faithful config.entries) :
    ∃ document, (tomlOf text).toStringPretty config = .ok document ∧
      (tomlOf text).schemaVersion document = .ok (some config.schemaVersion) ∧
      (tomlOf text).config document = .ok config := by
  obtain ⟨document, table, hprint, hparse, hreordered⟩ := hfaithful
  have hschema : config.schemaVersion ≤ u32Max := by
    rw [((Config.validate_ok_iff config).mp hvalid).schema]
    decide
  refine ⟨document, hprint, ?_, ?_⟩
  · show (text.parse document).map _ = _
    rw [hparse]
    exact congrArg Except.ok (Config.version_reads hreordered)
  · show (text.parse document).bind _ = _
    rw [hparse]
    show (Config.deserialize table).mapError _ = _
    rw [Config.reads hschema hreordered]
    rfl

/-- **The library of the store reads back what it prints**, if the one below keeps the
    documents of valid configurations. -/
theorem tomlOf_readsBack
    (h : ∀ config : Config, config.validate = .ok () → text.Faithful config.entries) :
    (tomlOf text).ReadsBack := by
  intro config document hvalid hprint
  obtain ⟨document', hprint', hread⟩ := tomlOf_reads hvalid (h config hvalid)
  obtain rfl : document' = document := Except.ok.inj (hprint'.symm.trans hprint)
  exact hread

/-- **Format round trip.** A configuration that is valid, or that any text decodes to, of
    schema 0 or 1, is printed, and what is printed decodes to it. -/
theorem format_round_trip {config : Config}
    (hconfig : config.validate = .ok () ∨
      ∃ input, decodeAndMigrate (tomlOf text) input = .ok config)
    (hfaithful : text.Faithful config.entries) :
    ∃ document, config.toCanonicalToml (tomlOf text) = .ok document ∧
      decodeAndMigrate (tomlOf text) document = .ok config := by
  have hvalid : config.validate = .ok () := by
    rcases hconfig with hvalid | ⟨input, hdecode⟩
    · exact hvalid
    · exact (Config.validate_ok_iff config).mpr (decode_wellFormed hdecode)
  obtain ⟨document, hprint, hversion, hread⟩ := tomlOf_reads hvalid hfaithful
  refine ⟨document, ?_, decode_of_reads hvalid hversion hread⟩
  simp only [Config.toCanonicalToml, hvalid, hprint]

/-! ## A legacy document -/

/-- The canonical document of the default configuration. -/
def defaultDocument : String :=
  "schema_version = 1\nactive = false\nstart_with_noise_reduction = false\n" ++
  "launch_at_login = false\n\n[input]\nmode = \"follow-default\"\nstable_id = \"\"\n" ++
  "channel = \"auto\"\nfallback_to_default = false\n\n[output]\nlatency_profile = \"low\"\n\n" ++
  "[suppression]\nenabled = true\nstrength = 0.55\nfail_mode = \"closed\"\n\n" ++
  "[diagnostics]\nlog_level = \"info\"\nmetering = true\n"

/-- A legacy document of the same settings. -/
def legacyDocument : String :=
  "schema_version = 0\nactive = false\ninput_node = ''\nsuppression_enabled = true\n" ++
  "strength = 0.55\n"

/-- A library that knows these two documents. -/
def knownText : Text F64 where
  parse input :=
    if input = defaultDocument then .ok ({} : Config).entries
    else if input = legacyDocument then
      .ok
        [("schema_version", .integer 0), ("active", .boolean false), ("input_node", .string ""),
          ("suppression_enabled", .boolean true), ("strength", .float F64.fiftyFivePercent)]
    else .error "unexpected input"
  print table :=
    if (Config.deserialize table).toOption = some {} then .ok defaultDocument
    else .error "unsupported"
  message _ _ := "unexpected value"

/-- The legacy document is migrated to the defaults, which are printed and read back. -/
theorem format_round_trip_legacy :
    ∃ document, ({} : Config).toCanonicalToml (tomlOf knownText) = .ok document ∧
      decodeAndMigrate (tomlOf knownText) document = .ok {} := by
  have hdecode : decodeAndMigrate (tomlOf knownText) legacyDocument = .ok {} := by rfl
  have hread : Config.deserialize ({} : Config).entries = .ok {} :=
    Config.reads (by decide) (.refl _)
  have hprint : knownText.print ({} : Config).entries = .ok defaultDocument := by
    simp [knownText, hread, Except.toOption]
  have hparse : knownText.parse defaultDocument = .ok ({} : Config).entries := by
    simp [knownText]
  exact format_round_trip (.inr ⟨legacyDocument, hdecode⟩)
    ⟨defaultDocument, _, hprint, hparse, .refl _⟩

end Noire
