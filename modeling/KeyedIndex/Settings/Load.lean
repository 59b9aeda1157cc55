import KeyedIndex.Config.Value
import KeyedIndex.Config.Layer
import KeyedIndex.Config.File
import KeyedIndex.Settings.Basic

/-!
Settings from configurations that lie over one another: the defaults at the bottom, then
the file in the home directory, a file that is named, and the environment. Every setting
has the value that the uppermost of them gives to it (`Settings.load`).

In the source, `load` of `IndexSettings`.
-/
namespace KeyedIndex

/-- Why no settings could be loaded. -/
inductive LoadFault where
  /-- A file that is named cannot be found, or its format is unknown. -/
  | noFile
  /-- A file is not written as its format demands. -/
  | unreadable
  /-- The value of a setting is of the wrong kind. -/
  | unfit (name : String)
  | invalid (fault : SettingsFault)
deriving DecidableEq

/-- The mark with which the names of environment variables begin that are settings. -/
def environmentMark : String := "entity_index_"

/-- The path of the file in the home directory, without its extension. -/
def homeConfiguration (home : String) : FilePath :=
  FilePath.ofText home ++ [".config", "entity-index", "config"]

/-- Settings as a configuration. -/
def Settings.toTable (settings : Settings) : Config.Table :=
  [("index_path", .text settings.indexPath),
   ("in_memory", .bool settings.inMemory),
   ("writer_memory_mb", .integer settings.writerMemory.toNat),
   ("max_batch_size", .integer settings.maxBatchSize.toNat),
   ("reload_policy", .text settings.reloadPolicy.name)]

/-- The value of one setting. -/
def setting {α : Type} (config : Config.Value) (name : String) (convert : Config.Value → Option α) :
    Except LoadFault α :=
  match (config.at? name).bind convert with
  | some value => .ok value
  | none => .error (.unfit name)

def ReloadPolicy.choices : List (String × ReloadPolicy) :=
  [ReloadPolicy.onCommit, .manual].map (fun policy => (policy.name, policy))

/-- The settings that a configuration holds. -/
def Settings.ofConfig (config : Config.Value) : Except LoadFault Settings := do
  return {
    indexPath := ← setting config "index_path" Config.Value.text?
    inMemory := ← setting config "in_memory" Config.Value.truth?
    writerMemory := ← setting config "writer_memory_mb" Config.Value.natural?
    maxBatchSize := ← setting config "max_batch_size" Config.Value.natural?
    reloadPolicy := ← setting config "reload_policy" (Config.Value.choice? ReloadPolicy.choices) }

/-- The table of a file that has been found. -/
def readFile (found : Config.Format × String) : Except LoadFault Config.Table :=
  match found.1.read? found.2 with
  | some table => .ok table
  | none => .error .unreadable

/-- The table of the file in the home directory, if there is one. -/
def homeLayer (home : String) (disk : Disk) : Except LoadFault Config.Table :=
  match Config.findFile? disk (homeConfiguration home) with
  | some found => readFile found
  | none => .ok []

/-- The table of a file that is named, if one is. -/
def namedLayer (disk : Disk) : Option FilePath → Except LoadFault Config.Table
  | none => .ok []
  | some path =>
    match Config.findFile? disk path with
    | some found => readFile found
    | none => .error .noFile

/-- The settings of tables that lie over the defaults, from the lowest to the uppermost. -/
def Settings.ofLayers (home : String) (layers : List Config.Table) : Except LoadFault Settings := do
  let settings ← Settings.ofConfig
    (layers.foldl Config.layer (.table (Settings.default home).toTable))
  match settings.check with
  | .ok () => return settings
  | .error fault => throw (.invalid fault)

/-- Load settings from the files on a disk and the variables of an environment. -/
def Settings.load (home : String) (disk : Disk) (named : Option FilePath)
    (environment : List (String × String)) : Except LoadFault Settings := do
  let homeTable ← homeLayer home disk
  let namedTable ← namedLayer disk named
  Settings.ofLayers home [homeTable, namedTable, Config.ofEnvironment environmentMark environment]

end KeyedIndex
