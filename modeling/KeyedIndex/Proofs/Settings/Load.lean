import KeyedIndex.Proofs.Config.Layers
import KeyedIndex.Proofs.Success
import KeyedIndex.Settings.Load

/-!
Settings that are loaded. A setting has the value of the uppermost layer that gives one to it, and
only this value is converted and checked (`Settings.load_layers`).
-/
namespace KeyedIndex

open Config (valueOf? variableText? layer)

variable {home : String} {disk : Disk} {named : Option FilePath}
  {environment : List (String × String)} {settings : Settings} {config : Config.Value}

/-- The names of the settings. -/
def settingNames : List String :=
  ["index_path", "in_memory", "writer_memory_mb", "max_batch_size", "reload_policy"]

/-- A layer of settings gives single values to some of them, each at most once, and nothing else. -/
structure IsLayer (table : Config.Table) : Prop where
  names : ∀ entry ∈ table, Text.lower entry.1 ∈ settingNames
  once : (table.map fun entry => Text.lower entry.1).Nodup
  values : ∀ entry ∈ table, entry.2.isTable = false

theorem isLayer_iff {table : Config.Table} : IsLayer table ↔
    (∀ entry ∈ table, Text.lower entry.1 ∈ settingNames) ∧
      (table.map fun entry => Text.lower entry.1).Nodup ∧
      ∀ entry ∈ table, entry.2.isTable = false := by
  constructor
  · intro isLayer
    exact ⟨isLayer.names, isLayer.once, isLayer.values⟩
  · rintro ⟨names, once, values⟩
    exact ⟨names, once, values⟩

instance (table : Config.Table) : Decidable (IsLayer table) := decidable_of_iff _ isLayer_iff.symm

/-- The settings that can be used. -/
structure Settings.IsSound (settings : Settings) : Prop where
  batch : 1 ≤ settings.maxBatchSize
  memory : leastWriterMemory ≤ settings.writerMemory
  path : settings.inMemory = false → settings.indexPath ≠ ""

/-- The values that are given to settings are converted to them. -/
structure Settings.Converts (given : String → Option Config.Value) (settings : Settings) : Prop where
  indexPath : (given "index_path").bind Config.Value.text? = some settings.indexPath
  inMemory : (given "in_memory").bind Config.Value.truth? = some settings.inMemory
  writerMemory : (given "writer_memory_mb").bind Config.Value.natural? = some settings.writerMemory
  maxBatchSize : (given "max_batch_size").bind Config.Value.natural? = some settings.maxBatchSize
  reloadPolicy : (given "reload_policy").bind (Config.Value.choice? ReloadPolicy.choices) =
    some settings.reloadPolicy

/-- The value that the uppermost layer gives to a setting: the environment lies over the file that
    is named, which lies over the one in the home directory and the defaults. -/
def uppermost? (home : String) (homeTable namedTable : Config.Table)
    (environment : List (String × String)) (name : String) : Option Config.Value :=
  ((variableText? environmentMark name environment).map Config.Value.ofVariable).or
    ((valueOf? name namedTable).or
      ((valueOf? name homeTable).or ((Settings.default home).toTable.lookup name)))

/-! ### Names -/

theorem isSingle_of_mem_settingNames {name : String} (member : name ∈ settingNames) :
    Config.IsSingle name := by
  have all : ∀ name ∈ settingNames, Config.IsSingle name := by decide
  exact all name member

theorem IsLayer.isFlat {table : Config.Table} (isLayer : IsLayer table) : Config.IsFlat table where
  single entry member := .of_lower (isSingle_of_mem_settingNames (isLayer.names entry member))
  once := isLayer.once
  values := isLayer.values

/-! ### Conversions and checks -/

theorem setting_eq_ok {α : Type} {name : String} {convert : Config.Value → Option α} {value : α} :
    setting config name convert = .ok value ↔ (config.at? name).bind convert = some value := by
  unfold setting
  cases (config.at? name).bind convert <;> simp

theorem Settings.ofConfig_eq_ok :
    Settings.ofConfig config = .ok settings ↔ settings.Converts config.at? := by
  unfold Settings.ofConfig
  simp only [bind_eq_ok, setting_eq_ok]
  constructor
  · rintro ⟨_, path, _, inMemory, _, memory, _, batch, _, policy, made⟩
    obtain rfl := Except.ok.inj made
    exact ⟨path, inMemory, memory, batch, policy⟩
  · rintro ⟨path, inMemory, memory, batch, policy⟩
    exact ⟨_, path, _, inMemory, _, memory, _, batch, _, policy, rfl⟩

theorem Settings.check_eq_ok : settings.check = .ok () ↔ settings.IsSound := by
  have batch : settings.maxBatchSize = 0 ↔ ¬ 1 ≤ settings.maxBatchSize := by
    rw [UInt64.le_iff_toNat_le, ← UInt64.toNat_inj]
    simp
  unfold Settings.check
  constructor
  · intro checked
    split at checked
    · contradiction
    · rename_i someBatch
      split at checked
      · contradiction
      · rename_i enough
        split at checked
        · contradiction
        · rename_i placed
          refine ⟨not_not.mp (batch.not.mp someBatch), UInt64.not_lt.mp enough, ?_⟩
          simpa using placed
  · rintro ⟨someBatch, enough, placed⟩
    rw [if_neg (batch.not.mpr (not_not.mpr someBatch)), if_neg (UInt64.not_lt.mpr enough), if_neg]
    simpa using placed

theorem Settings.ofLayers_eq_ok {layers : List Config.Table} :
    Settings.ofLayers home layers = .ok settings ↔
      settings.Converts (layers.foldl layer (.table (Settings.default home).toTable)).at? ∧
        settings.IsSound := by
  unfold Settings.ofLayers
  rw [bind_eq_ok]
  constructor
  · rintro ⟨converted, made, checked⟩
    split at checked
    · rename_i sound
      obtain rfl := Except.ok.inj checked
      exact ⟨Settings.ofConfig_eq_ok.mp made, Settings.check_eq_ok.mp sound⟩
    · contradiction
  · rintro ⟨converts, sound⟩
    refine ⟨settings, Settings.ofConfig_eq_ok.mpr converts, ?_⟩
    rw [Settings.check_eq_ok.mpr sound]
    rfl

theorem Settings.load_eq_ok : Settings.load home disk named environment = .ok settings ↔
    ∃ homeTable, homeLayer home disk = .ok homeTable ∧
      ∃ namedTable, namedLayer disk named = .ok namedTable ∧
      Settings.ofLayers home
        [homeTable, namedTable, Config.ofEnvironment environmentMark environment] = .ok settings := by
  unfold Settings.load
  simp only [bind_eq_ok]

/-! ### Layers of settings -/

/-- Layers of settings give each setting the value of the uppermost of them. -/
theorem at?_layers {homeTable namedTable : Config.Table} (homeFlat : Config.IsFlat homeTable)
    (namedFlat : Config.IsFlat namedTable)
    (environmentFlat : Config.IsFlat (Config.ofEnvironment environmentMark environment)) :
    ([homeTable, namedTable, Config.ofEnvironment environmentMark environment].foldl layer
      (.table (Settings.default home).toTable)).at? =
        uppermost? home homeTable namedTable environment := by
  funext name
  simp only [List.foldl_cons, List.foldl_nil]
  rw [Config.at?_layer environmentFlat, Config.at?_layer namedFlat, Config.at?_layer homeFlat,
    Config.valueOf?_ofEnvironment]
  rfl

/-- Settings that are loaded can be used, whatever the layers are. If the files can be read, and the
    layers give single values to settings and to nothing else, settings are loaded if and only if
    the value that the uppermost layer gives to each of them can be converted and the settings that
    come out can be used; and these are the settings. So nothing depends on values over which others
    are laid. -/
theorem Settings.load_layers (home : String) (disk : Disk) (named : Option FilePath)
    (environment : List (String × String)) :
    (∀ settings, Settings.load home disk named environment = .ok settings → settings.IsSound) ∧
    ∀ homeTable namedTable, homeLayer home disk = .ok homeTable →
      namedLayer disk named = .ok namedTable → IsLayer homeTable → IsLayer namedTable →
      (∀ given ∈ environment, ∀ name,
        Config.variableName? environmentMark given.1 = some name → name ∈ settingNames) →
      ∀ settings, Settings.load home disk named environment = .ok settings ↔
        settings.Converts (uppermost? home homeTable namedTable environment) ∧ settings.IsSound := by
  constructor
  · intro settings loaded
    obtain ⟨_, _, _, _, made⟩ := Settings.load_eq_ok.mp loaded
    exact (Settings.ofLayers_eq_ok.mp made).2
  · intro homeTable namedTable homeRead namedRead homeSets namedSets environmentSets settings
    have environmentFlat := Config.isFlat_ofEnvironment fun given member name nameRead =>
      isSingle_of_mem_settingNames (environmentSets given member name nameRead)
    rw [← at?_layers homeSets.isFlat namedSets.isFlat environmentFlat, ← Settings.ofLayers_eq_ok,
      Settings.load_eq_ok]
    constructor
    · rintro ⟨_, homeRead', _, namedRead', made⟩
      obtain rfl := Except.ok.inj (homeRead.symm.trans homeRead')
      obtain rfl := Except.ok.inj (namedRead.symm.trans namedRead')
      exact made
    · exact fun made => ⟨homeTable, homeRead, namedTable, namedRead, made⟩

/-- Values that could not be used lie under others: the batches of both files and the policy of the
    one in the home directory. -/
theorem Settings.load_layers_files :
    let homeFile := "Max_Batch_Size = 0\nwriter_memory_mb = 99\nreload_policy = \"never\""
    let namedFile := "\x7b\"INDEX_PATH\": \"0.10\", \"max_batch_size\": \"off\", \"reload_policy\": \"Manual\"\x7d"
    let disk : Disk := .folder [("x.json", .file (.text namedFile)), ("h", .folder [(".config",
      .folder [("entity-index", .folder [("config.toml", .file (.text homeFile))])])])]
    let environment := [("ENTITY_INDEX_MAX_BATCH_SIZE", "9"), ("PATH", "/bin"),
      ("entity_index_in_memory", "no")]
    Settings.load "/h" disk (some ["x.json"]) environment = .ok ⟨"0.10", false, 99, 9, .manual⟩ := by
  intro homeFile namedFile disk environment
  let homeTable : Config.Table := (homeLayer "/h" disk).toOption.getD []
  let namedTable : Config.Table := (namedLayer disk (some ["x.json"])).toOption.getD []
  have read {table : Except LoadFault Config.Table} (isRead : table.toOption.isSome) :
      table = .ok (table.toOption.getD []) := by
    obtain ⟨value, found⟩ := Option.isSome_iff_exists.mp isRead
    rw [found, Option.getD_some, toOption_eq_some.mp found]
  have homeRead : homeLayer "/h" disk = .ok homeTable := read (by decide +kernel)
  have namedRead : namedLayer disk (some ["x.json"]) = .ok namedTable := read (by decide +kernel)
  have loads := (Settings.load_layers "/h" disk (some ["x.json"]) environment).2 homeTable namedTable
    homeRead namedRead (by decide +kernel) (by decide +kernel)
  refine (loads (by decide +kernel) _).mpr ⟨?_, ?_⟩
  · exact ⟨by decide +kernel, by decide +kernel, by decide +kernel, by decide +kernel,
      by decide +kernel⟩
  · exact ⟨by decide, by decide, by decide⟩

end KeyedIndex
