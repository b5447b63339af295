import Ballista.Core.Serde
import Ballista.Lib.Decimal
import Ballista.Lib.StateExcept
import Ballista.Lib.Table

/-! # Ballista's configuration

`BallistaConfig` (`config.rs`) holds the settings a client gives as text, by
key. `with_settings` takes each supported entry (`valid_entries`) and parses
the value given for it, or else its default, as the entry's data type
(`parse_value`): an unsigned type as a `usize`, a boolean as `true` or `false`,
a text as any text. A value that does not parse is a `General` error naming
the key and the value. The typed getters parse the value, or the default,
again and unwrap it, "infallible because we validate all configs in the
constructor".

Every default parses as its entry's type (`default_parses`), so settings build
a config exactly when every value given for a supported key parses
(`BallistaConfig.exists_withSettings_iff`); when they do not, the error names
such a key and its value, and the check for a mandatory setting never fires
(`BallistaConfig.withSettings_error`). A config carries its check as a field,
as the only way to build one is `with_settings`: so no getter panics on any
config (`BallistaConfig.getters_isSome`), and a number set through the builder
is read back (`BallistaConfigBuilder.set_build_getUsizeSetting`). The key-value
pairs a client sends with `create_session` build a config exactly when the
last value each supported key is given parses (`exists_sessionConfig_iff`).

`valid_entries` is a hash map, iterated in its own order; the model checks the
entries in the order of the vector it is built from. Which error is returned
when several values fail depends on that order; whether one is does not.
-/

namespace Ballista

/-- The data types `parse_value` is asked about: those of the supported
entries, and any other, which it refuses, by its display text. -/
inductive DataType where
  | uInt16
  | uInt32
  | uInt64
  | boolean
  | utf8
  | other (display : String)
  deriving DecidableEq, Repr

def ballistaJobName : String := "ballista.job.name"
def ballistaDefaultShufflePartitions : String := "ballista.shuffle.partitions"
def ballistaHashJoinSinglePartitionThreshold : String := "ballista.optimizer.hash_join_single_partition_threshold"
def ballistaDefaultBatchSize : String := "ballista.batch.size"
def ballistaRepartitionJoins : String := "ballista.repartition.joins"
def ballistaRepartitionAggregations : String := "ballista.repartition.aggregations"
def ballistaRepartitionWindows : String := "ballista.repartition.windows"
def ballistaParquetPruning : String := "ballista.parquet.pruning"
def ballistaCollectStatistics : String := "ballista.collect_statistics"
def ballistaWithInformationSchema : String := "ballista.with_information_schema"
def ballistaPluginDir : String := "ballista.plugin_dir"
def ballistaGrpcClientMaxMessageSize : String := "ballista.grpc_client_max_message_size"

/-- `ConfigEntry`: a supported setting's name, data type and default. Its
description is never read. -/
structure ConfigEntry where
  name : String
  dataType : DataType
  defaultValue : Option String
  deriving DecidableEq, Repr

/-- `bool::from_str`. -/
def parseBool : String → Option Bool
  | "true" => some true
  | "false" => some false
  | _ => none

/-- A `usize` as `str::parse` reads it: 64 bits on the platforms Ballista runs on. -/
def parseUsize (val : String) : Except Decimal.IntErrorKind Nat :=
  Decimal.parseUnsigned 64 val.toList

/-- `parse_value`: a value read as a data type, the error being the parse
error's `Debug` text. The unsigned types are all read as a `usize`. -/
def parseValue (val : String) : DataType → Except String Unit
  | .uInt16 | .uInt32 | .uInt64 =>
    match parseUsize val with
    | .ok _ => .ok ()
    | .error kind => .error ("ParseIntError \x7b kind: " ++ kind.debug ++ " \x7d")
  | .boolean =>
    match parseBool val with
    | some _ => .ok ()
    | none => .error "ParseBoolError"
  | .utf8 => .ok ()
  | .other display => .error ("not support data type: " ++ display)

/-- `valid_entries`, in the order of the vector it is built from. -/
def validEntries : List ConfigEntry :=
  [⟨ballistaJobName, .utf8, none⟩,
   ⟨ballistaDefaultShufflePartitions, .uInt16, some "16"⟩,
   ⟨ballistaDefaultBatchSize, .uInt16, some "8192"⟩,
   ⟨ballistaRepartitionJoins, .boolean, some "true"⟩,
   ⟨ballistaRepartitionAggregations, .boolean, some "true"⟩,
   ⟨ballistaRepartitionWindows, .boolean, some "true"⟩,
   ⟨ballistaParquetPruning, .boolean, some "true"⟩,
   ⟨ballistaWithInformationSchema, .boolean, some "false"⟩,
   ⟨ballistaHashJoinSinglePartitionThreshold, .uInt64, some (toString (1024 * 1024))⟩,
   ⟨ballistaCollectStatistics, .boolean, some "false"⟩,
   ⟨ballistaPluginDir, .utf8, some ""⟩,
   ⟨ballistaGrpcClientMaxMessageSize, .uInt64, some (toString (16 * 1024 * 1024))⟩]

/-- One supported entry's turn in `with_settings`: the value given for it, or
else its default, must parse as its data type. -/
def checkEntry (settings : Table String String) (entry : ConfigEntry) : Except BallistaError Unit :=
  match settings.get? entry.name with
  | some v =>
    (parseValue v entry.dataType).mapError fun e =>
      .general ("Failed to parse user-supplied value \x27" ++ entry.name ++ "\x27 for configuration setting \x27" ++
        v ++ "\x27: " ++ e)
  | none =>
    match entry.defaultValue with
    | some v =>
      (parseValue v entry.dataType).mapError fun e =>
        .general ("Failed to parse default value \x27" ++ entry.name ++ "\x27 for configuration setting \x27" ++
          v ++ "\x27: " ++ e)
    | none =>
      if entry.defaultValue.isNone then .ok ()
      else .error (.general ("No value specified for mandatory configuration setting \x27" ++ entry.name ++ "\x27"))

/-- `BallistaConfig`: settings that `with_settings`, the only way to build one,
checked. -/
structure BallistaConfig where
  settings : Table String String
  checked : validEntries.forM (checkEntry settings) = .ok ()

/-- `BallistaConfigBuilder`: the settings set so far. -/
structure BallistaConfigBuilder where
  settings : Table String String

namespace BallistaConfig

/-- `with_settings`: the settings, once every supported entry is checked. -/
def withSettings (settings : Table String String) : Except BallistaError BallistaConfig :=
  match checked : validEntries.forM (checkEntry settings) with
  | .ok () => .ok ⟨settings, checked⟩
  | .error e => .error e

/-- `BallistaConfig::new`: the defaults. -/
def new : Except BallistaError BallistaConfig := withSettings []

def builder : BallistaConfigBuilder := ⟨[]⟩

/-- The getters' shape (`get_usize_setting`, `get_bool_setting`,
`get_string_setting`): the value given for the key, or else its supported
entry's default, read; `none` where one of the source's `unwrap`s panics. -/
def getSetting {α : Type} (read : String → Option α) (config : BallistaConfig) (key : String) : Option α :=
  match config.settings.get? key with
  | some v => read v
  | none => do
    let entry ← validEntries.find? (·.name == key)
    read (← entry.defaultValue)

def getUsizeSetting (config : BallistaConfig) (key : String) : Option Nat :=
  config.getSetting (fun v => (parseUsize v).toOption) key

def getBoolSetting (config : BallistaConfig) (key : String) : Option Bool :=
  config.getSetting parseBool key

def getStringSetting (config : BallistaConfig) (key : String) : Option String :=
  config.getSetting some key

def defaultShufflePartitions (config : BallistaConfig) : Option Nat :=
  config.getUsizeSetting ballistaDefaultShufflePartitions

def defaultPluginDir (config : BallistaConfig) : Option String :=
  config.getStringSetting ballistaPluginDir

def defaultBatchSize (config : BallistaConfig) : Option Nat :=
  config.getUsizeSetting ballistaDefaultBatchSize

def hashJoinSinglePartitionThreshold (config : BallistaConfig) : Option Nat :=
  config.getUsizeSetting ballistaHashJoinSinglePartitionThreshold

def defaultGrpcClientMaxMessageSize (config : BallistaConfig) : Option Nat :=
  config.getUsizeSetting ballistaGrpcClientMaxMessageSize

def repartitionJoins (config : BallistaConfig) : Option Bool :=
  config.getBoolSetting ballistaRepartitionJoins

def repartitionAggregations (config : BallistaConfig) : Option Bool :=
  config.getBoolSetting ballistaRepartitionAggregations

def repartitionWindows (config : BallistaConfig) : Option Bool :=
  config.getBoolSetting ballistaRepartitionWindows

def parquetPruning (config : BallistaConfig) : Option Bool :=
  config.getBoolSetting ballistaParquetPruning

def collectStatistics (config : BallistaConfig) : Option Bool :=
  config.getBoolSetting ballistaCollectStatistics

def defaultWithInformationSchema (config : BallistaConfig) : Option Bool :=
  config.getBoolSetting ballistaWithInformationSchema

end BallistaConfig

namespace BallistaConfigBuilder

/-- `set`: the value written at the key, over any value before. -/
def set (builder : BallistaConfigBuilder) (k v : String) : BallistaConfigBuilder :=
  ⟨builder.settings.insert k v⟩

def build (builder : BallistaConfigBuilder) : Except BallistaError BallistaConfig :=
  BallistaConfig.withSettings builder.settings

end BallistaConfigBuilder

/-- The config `create_session` and `update_session` build from the client's
key-value pairs, each set in turn on a new builder. -/
def sessionConfig (settings : List (String × String)) : Except BallistaError BallistaConfig :=
  (settings.foldl (fun builder pair => builder.set pair.1 pair.2) BallistaConfig.builder).build

/-! ## What `with_settings` accepts -/

/-- Every default parses as its entry's data type. -/
theorem default_parses : ∀ entry ∈ validEntries, ∀ v ∈ entry.defaultValue, parseValue v entry.dataType = .ok () := by
  decide

/-- The supported entries have distinct names: the hash map finds each by its
name. -/
theorem find?_name : ∀ entry ∈ validEntries, validEntries.find? (·.name == entry.name) = some entry := by
  decide

theorem eq_of_name_eq : ∀ entry ∈ validEntries, ∀ other ∈ validEntries, other.name = entry.name → other = entry := by
  decide

/-- A supported entry passes its check exactly when the value given for it, if
any, parses: its default always does. -/
theorem checkEntry_eq_ok_iff {settings : Table String String} {entry : ConfigEntry} (supported : entry ∈ validEntries) :
    checkEntry settings entry = .ok () ↔
      ∀ v, settings.get? entry.name = some v → parseValue v entry.dataType = .ok () := by
  unfold checkEntry
  cases given : settings.get? entry.name with
  | some v =>
    simp only [Option.some.injEq, forall_eq']
    exact Except.mapError_eq_ok_iff
  | none =>
    simp only [reduceCtorEq, false_implies, implies_true, iff_true]
    cases defaulted : entry.defaultValue with
    | some v =>
      dsimp only
      rw [Except.mapError_eq_ok_iff]
      exact default_parses entry supported v defaulted
    | none => rfl

/-- A supported entry fails its check only on a value given for it that does
not parse, with an error naming the entry and the value. -/
theorem checkEntry_error {settings : Table String String} {entry : ConfigEntry} (supported : entry ∈ validEntries)
    {error : BallistaError} (failed : checkEntry settings entry = .error error) :
    ∃ v message, settings.get? entry.name = some v ∧ parseValue v entry.dataType = .error message ∧
      error = .general ("Failed to parse user-supplied value \x27" ++ entry.name ++
        "\x27 for configuration setting \x27" ++ v ++ "\x27: " ++ message) := by
  cases given : settings.get? entry.name with
  | none =>
    -- nothing given: the check passes on the default
    have passes : checkEntry settings entry = .ok () :=
      (checkEntry_eq_ok_iff supported).mpr fun v found => by
        rw [given] at found
        cases found
    rw [passes] at failed
    cases failed
  | some v =>
    unfold checkEntry at failed
    rw [given] at failed
    obtain ⟨message, parsed, named⟩ := Except.mapError_eq_error_iff.mp failed
    exact ⟨v, message, rfl, parsed, named⟩

namespace BallistaConfig

theorem withSettings_eq_error {settings : Table String String} {error : BallistaError} :
    withSettings settings = .error error ↔ validEntries.forM (checkEntry settings) = .error error := by
  unfold withSettings
  split <;> simp_all

theorem exists_withSettings_eq_ok {settings : Table String String} :
    (∃ config, withSettings settings = .ok config) ↔ validEntries.forM (checkEntry settings) = .ok () := by
  unfold withSettings
  split <;> simp_all

theorem settings_of_withSettings {settings : Table String String} {config : BallistaConfig}
    (built : withSettings settings = .ok config) : config.settings = settings := by
  unfold withSettings at built
  split at built
  · cases built
    rfl
  · cases built

/-- **What `with_settings` accepts.** Settings build a config exactly when
every value given for a supported key parses as that key's data type. The
defaults, and the keys no entry supports, play no part, and neither does the
order the hash map iterates the entries in. -/
theorem exists_withSettings_iff (settings : Table String String) :
    (∃ config, withSettings settings = .ok config) ↔
      ∀ entry ∈ validEntries, ∀ v, settings.get? entry.name = some v → parseValue v entry.dataType = .ok () := by
  rw [exists_withSettings_eq_ok, Except.forM_eq_ok_iff]
  exact forall₂_congr fun _ supported => checkEntry_eq_ok_iff supported

/-- **Every error names the setting it checks.** When `with_settings` fails,
it is a `General` error naming a supported key and the value given for it,
which does not parse as the key's data type, with the parse error's text: it
never fails on a default, nor for a mandatory setting. -/
theorem withSettings_error {settings : Table String String} {error : BallistaError}
    (failed : withSettings settings = .error error) :
    ∃ entry ∈ validEntries, ∃ v message, settings.get? entry.name = some v ∧
      parseValue v entry.dataType = .error message ∧
      error = .general ("Failed to parse user-supplied value \x27" ++ entry.name ++
        "\x27 for configuration setting \x27" ++ v ++ "\x27: " ++ message) := by
  obtain ⟨entry, supported, fails⟩ := Except.forM_eq_error (withSettings_eq_error.mp failed)
  exact ⟨entry, supported, checkEntry_error supported fails⟩

/-! ## The getters -/

theorem isSome_parseUsize_of_parseValue {v : String} {dataType : DataType}
    (unsigned : dataType = .uInt16 ∨ dataType = .uInt32 ∨ dataType = .uInt64)
    (parses : parseValue v dataType = .ok ()) : (parseUsize v).toOption.isSome := by
  cases parsed : parseUsize v with
  | ok n => rfl
  | error kind =>
    rcases unsigned with rfl | rfl | rfl <;> simp [parseValue, parsed] at parses

theorem isSome_parseBool_of_parseValue {v : String} (parses : parseValue v .boolean = .ok ()) :
    (parseBool v).isSome := by
  cases parsed : parseBool v with
  | some b => rfl
  | none => simp [parseValue, parsed] at parses

/-- A getter finds a value at a supported key with a default, and reads it
when it reads whatever parses as the key's data type: the config's check
covered the value given, and the default parses. -/
theorem getSetting_isSome {α : Type} {read : String → Option α} (config : BallistaConfig) {entry : ConfigEntry}
    (supported : entry ∈ validEntries) (defaulted : entry.defaultValue.isSome)
    (reads : ∀ v, parseValue v entry.dataType = .ok () → (read v).isSome) :
    (config.getSetting read entry.name).isSome := by
  have checkedHere := (checkEntry_eq_ok_iff supported).mp (Except.forM_eq_ok_iff.mp config.checked entry supported)
  unfold getSetting
  cases given : config.settings.get? entry.name with
  | some v => exact reads v (checkedHere v given)
  | none =>
    obtain ⟨v, default⟩ := Option.isSome_iff_exists.mp defaulted
    simp only [find?_name entry supported, Option.bind_eq_bind, Option.bind_some, default]
    exact reads v (default_parses entry supported v default)

theorem getUsizeSetting_isSome (config : BallistaConfig) (entry : ConfigEntry) (supported : entry ∈ validEntries)
    (defaulted : entry.defaultValue.isSome)
    (unsigned : entry.dataType = .uInt16 ∨ entry.dataType = .uInt32 ∨ entry.dataType = .uInt64) :
    (config.getUsizeSetting entry.name).isSome :=
  config.getSetting_isSome supported defaulted fun _ parses => isSome_parseUsize_of_parseValue unsigned parses

theorem getBoolSetting_isSome (config : BallistaConfig) (entry : ConfigEntry) (supported : entry ∈ validEntries)
    (defaulted : entry.defaultValue.isSome) (boolean : entry.dataType = .boolean) :
    (config.getBoolSetting entry.name).isSome :=
  config.getSetting_isSome supported defaulted fun _ parses => isSome_parseBool_of_parseValue (boolean ▸ parses)

theorem getStringSetting_isSome (config : BallistaConfig) (entry : ConfigEntry) (supported : entry ∈ validEntries)
    (defaulted : entry.defaultValue.isSome) :
    (config.getStringSetting entry.name).isSome :=
  config.getSetting_isSome supported defaulted fun _ _ => rfl

/-- **No getter panics.** "Infallible because we validate all configs in the
constructor": on every config, each typed getter finds a value, given or
default, and reads it as its type. -/
theorem getters_isSome (config : BallistaConfig) :
    config.defaultShufflePartitions.isSome ∧ config.defaultPluginDir.isSome ∧ config.defaultBatchSize.isSome ∧
      config.hashJoinSinglePartitionThreshold.isSome ∧ config.defaultGrpcClientMaxMessageSize.isSome ∧
      config.repartitionJoins.isSome ∧ config.repartitionAggregations.isSome ∧ config.repartitionWindows.isSome ∧
      config.parquetPruning.isSome ∧ config.collectStatistics.isSome ∧ config.defaultWithInformationSchema.isSome :=
  ⟨config.getUsizeSetting_isSome ⟨ballistaDefaultShufflePartitions, .uInt16, some "16"⟩ (by decide) rfl (.inl rfl),
   config.getStringSetting_isSome ⟨ballistaPluginDir, .utf8, some ""⟩ (by decide) rfl,
   config.getUsizeSetting_isSome ⟨ballistaDefaultBatchSize, .uInt16, some "8192"⟩ (by decide) rfl (.inl rfl),
   config.getUsizeSetting_isSome ⟨ballistaHashJoinSinglePartitionThreshold, .uInt64, some (toString (1024 * 1024))⟩
     (by decide) rfl (.inr (.inr rfl)),
   config.getUsizeSetting_isSome ⟨ballistaGrpcClientMaxMessageSize, .uInt64, some (toString (16 * 1024 * 1024))⟩
     (by decide) rfl (.inr (.inr rfl)),
   config.getBoolSetting_isSome ⟨ballistaRepartitionJoins, .boolean, some "true"⟩ (by decide) rfl rfl,
   config.getBoolSetting_isSome ⟨ballistaRepartitionAggregations, .boolean, some "true"⟩ (by decide) rfl rfl,
   config.getBoolSetting_isSome ⟨ballistaRepartitionWindows, .boolean, some "true"⟩ (by decide) rfl rfl,
   config.getBoolSetting_isSome ⟨ballistaParquetPruning, .boolean, some "true"⟩ (by decide) rfl rfl,
   config.getBoolSetting_isSome ⟨ballistaCollectStatistics, .boolean, some "false"⟩ (by decide) rfl rfl,
   config.getBoolSetting_isSome ⟨ballistaWithInformationSchema, .boolean, some "false"⟩ (by decide) rfl rfl⟩

end BallistaConfig

/-- The decimal text of a number that fits a `usize` reads back as the number. -/
theorem parseUsize_toString {n : Nat} (fits : n < 2 ^ 64) : parseUsize (toString n) = .ok n := by
  rw [parseUsize, Nat.toString_eq_repr, Nat.toList_repr]
  exact Decimal.parseUnsigned_toDigits fits

namespace BallistaConfigBuilder

/-- **A number set is read back.** On a builder that builds, setting a
supported unsigned key to the decimal text of a number that fits a `usize`
still builds, and the config's getter reads the number back. -/
theorem set_build_getUsizeSetting {builder : BallistaConfigBuilder} {config : BallistaConfig}
    (built : builder.build = .ok config) (entry : ConfigEntry) (supported : entry ∈ validEntries)
    (unsigned : entry.dataType = .uInt16 ∨ entry.dataType = .uInt32 ∨ entry.dataType = .uInt64)
    (n : Nat) (fits : n < 2 ^ 64) :
    ∃ config', (builder.set entry.name (toString n)).build = .ok config' ∧
      config'.getUsizeSetting entry.name = some n := by
  have parsed := parseUsize_toString fits
  have valid := (BallistaConfig.exists_withSettings_iff builder.settings).mp ⟨config, built⟩
  have parsesHere : parseValue (toString n) entry.dataType = .ok () := by
    rcases unsigned with same | same | same <;> rw [same] <;> simp only [parseValue, parsed]
  obtain ⟨config', built'⟩ := (BallistaConfig.exists_withSettings_iff _).mpr fun other mem v found => by
    rw [Table.get?_insert] at found
    split at found
    · -- the key set is this entry's alone
      cases found
      rw [eq_of_name_eq entry supported other mem ‹_›]
      exact parsesHere
    · exact valid other mem v found
  refine ⟨config', built', ?_⟩
  have settings := BallistaConfig.settings_of_withSettings built'
  simp only [BallistaConfig.getUsizeSetting, BallistaConfig.getSetting, settings, Table.get?_insert_self, parsed,
    Except.toOption]

theorem set_build_getUsizeSetting_shufflePartitions :
    ∃ config', (BallistaConfig.builder.set ballistaDefaultShufflePartitions (toString 123)).build = .ok config' ∧
      config'.getUsizeSetting ballistaDefaultShufflePartitions = some 123 := by
  obtain ⟨config, built⟩ : ∃ config, BallistaConfig.builder.build = .ok config := ⟨_, rfl⟩
  exact set_build_getUsizeSetting built ⟨ballistaDefaultShufflePartitions, .uInt16, some "16"⟩ (by decide) (.inl rfl)
    123 (by decide)

end BallistaConfigBuilder

theorem settings_foldl_set (pairs : List (String × String)) (builder : BallistaConfigBuilder) :
    (pairs.foldl (fun builder pair => builder.set pair.1 pair.2) builder).settings =
      pairs.foldl (fun table pair => table.insert pair.1 pair.2) builder.settings := by
  induction pairs generalizing builder with
  | nil => rfl
  | cons pair rest ih => exact ih (builder.set pair.1 pair.2)

/-- **The config a session is given.** The client's key-value pairs build a
config exactly when, for every supported key, the last pair that sets it, if
any, has a value that parses as the key's data type: an earlier pair for the
key is overridden and never checked. -/
theorem exists_sessionConfig_iff (pairs : List (String × String)) :
    (∃ config, sessionConfig pairs = .ok config) ↔
      ∀ entry ∈ validEntries, ∀ v,
        (pairs.filter fun pair => pair.1 = entry.name).getLast?.map Prod.snd = some v →
          parseValue v entry.dataType = .ok () := by
  rw [sessionConfig, BallistaConfigBuilder.build, BallistaConfig.exists_withSettings_iff, settings_foldl_set]
  simp only [Table.get?_foldl_insert_last Prod.fst Prod.snd, BallistaConfig.builder, Table.get?_nil,
    Option.or_none]

end Ballista
