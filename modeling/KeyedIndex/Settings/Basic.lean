import KeyedIndex.Json.Decode
import KeyedIndex.Json.Printer
import KeyedIndex.Number.Integer

/-!
Settings of an index, the memory that they give to a writer, and settings as JSON.

In the source, `IndexSettings` (`validate` is `Settings.check`, `expanded_index_path` is
`Settings.expandedPath`) and the budget of `spawn` (`Settings.writerBytes`).
-/
namespace KeyedIndex

/-! ### Settings

Settings of an index: where it is stored, how much memory and how many operations a
commit may take, and when readers see a commit. Settings can be read that make no
sense; they are checked before an index is opened (`Settings.check`).
-/

/-- When readers take up new commits. -/
inductive ReloadPolicy where
  | onCommit
  /-- Only when they are told to. -/
  | manual
deriving DecidableEq, Repr

structure Settings where
  /-- The directory that has one directory per kind and version. -/
  indexPath : String
  /-- Whether the index is not stored at all. -/
  inMemory : Bool
  /-- The memory of a writer in units of 2 ^ 20 bytes. -/
  writerMemory : UInt64
  /-- The most operations that share one commit. -/
  maxBatchSize : UInt64
  reloadPolicy : ReloadPolicy
deriving DecidableEq

/-- Where indexes are stored below a home directory if nothing else is said. -/
def defaultIndexPath (home : String) : String := home ++ "/.local/share/entity-index/index"

def Settings.default (home : String) : Settings where
  indexPath := defaultIndexPath home
  inMemory := false
  writerMemory := 50
  maxBatchSize := 64
  reloadPolicy := .onCommit

/-- The least memory that a writer takes. -/
def leastWriterMemory : UInt64 := 15

/-- Why settings make no sense. -/
inductive SettingsFault where
  | noBatch
  | littleMemory (memory : UInt64)
  | noPath
deriving DecidableEq

def SettingsFault.reason : SettingsFault → String
  | .noBatch => "max_batch_size must be > 0"
  | .littleMemory memory =>
    s!"writer_memory_mb must be >= {leastWriterMemory.toNat}, got {memory.toNat}"
  | .noPath => "index_path is required for on-disk indexes"

def SettingsFault.message (fault : SettingsFault) : String :=
  "Configuration error: " ++ fault.reason

def Settings.check (settings : Settings) : Except SettingsFault Unit :=
  if settings.maxBatchSize = 0 then .error .noBatch
  else if settings.writerMemory < leastWriterMemory then .error (.littleMemory settings.writerMemory)
  else if !settings.inMemory && settings.indexPath = "" then .error .noPath
  else .ok ()

/-- A path below a directory, or itself if it starts at the root. -/
def joinPath (directory path : String) : String :=
  if path.startsWith "/" then path else directory ++ "/" ++ path

/-- The index path with the home directory in place of a tilde at its start. -/
def Settings.expandedPath (home : String) (settings : Settings) : String :=
  match settings.indexPath.toList with
  | '~' :: '/' :: rest => joinPath home (String.ofList rest)
  | _ => settings.indexPath

/-! ### Memory of a writer

The memory of a writer. It is shared by up to eight workers, each of which needs some
and can use only so much.
-/

/-- The least number of bytes of a worker. -/
def leastWorkerMemory : Nat := 15000000

/-- The number of bytes that a worker cannot use any more. -/
def workerMemoryBound : Nat := 4293967295

def mostWorkers : Nat := 8

/-- The bytes of a writer, as far as a word of 64 bits can tell. -/
def Settings.writerBytes (settings : Settings) : Nat :=
  min (settings.writerMemory.toNat * Nat.pow 2 20) (Nat.pow 2 64 - 1)

/-- The number of workers that share some bytes. -/
def workers (bytes : Nat) : Nat := min mostWorkers (max (bytes / leastWorkerMemory) 1)

/-- Whether a writer can work with the memory of the settings. -/
def Settings.memoryFits (settings : Settings) : Bool :=
  let bytes := settings.writerBytes
  let share := bytes / workers bytes
  leastWorkerMemory ≤ share && share < workerMemoryBound

/-! ### JSON

What is not said has its default.
-/

def ReloadPolicy.name : ReloadPolicy → String
  | .onCommit => "on_commit"
  | .manual => "manual"

def Settings.toJson (settings : Settings) : Json.Value :=
  .object [
    ("index_path", .text settings.indexPath),
    ("in_memory", .bool settings.inMemory),
    ("writer_memory_mb", .integer settings.writerMemory.toNat),
    ("max_batch_size", .integer settings.maxBatchSize.toNat),
    ("reload_policy", .text settings.reloadPolicy.name)]

def decodeSize (doc : Json.Doc) : Except Json.DecodeError UInt64 :=
  (Json.decodeInteger Number.nat64 "usize" doc).map (fun size => UInt64.ofNat size.toNat)

def ReloadPolicy.decode : Json.Doc → Except Json.DecodeError ReloadPolicy :=
  Json.decodeVariant (ReloadPolicy.onCommit.name, .onCommit) (ReloadPolicy.manual.name, .manual)

/-- The settings that have been read so far. -/
structure SettingsDraft where
  indexPath : Option String := none
  inMemory : Option Bool := none
  writerMemory : Option UInt64 := none
  maxBatchSize : Option UInt64 := none
  reloadPolicy : Option ReloadPolicy := none

open Json in
/-- The settings in order. -/
def Settings.shape : Shape SettingsDraft where
  title := "struct IndexSettings"
  fields := [
    ⟨"index_path", true, fun draft => draft.indexPath.isSome, fun doc draft => do
      return { draft with indexPath := some (← decodeText doc) }⟩,
    ⟨"in_memory", true, fun draft => draft.inMemory.isSome, fun doc draft => do
      return { draft with inMemory := some (← decodeBool doc) }⟩,
    ⟨"writer_memory_mb", true, fun draft => draft.writerMemory.isSome, fun doc draft => do
      return { draft with writerMemory := some (← decodeSize doc) }⟩,
    ⟨"max_batch_size", true, fun draft => draft.maxBatchSize.isSome, fun doc draft => do
      return { draft with maxBatchSize := some (← decodeSize doc) }⟩,
    ⟨"reload_policy", true, fun draft => draft.reloadPolicy.isSome, fun doc draft => do
      return { draft with reloadPolicy := some (← ReloadPolicy.decode doc) }⟩]

/-- A draft with defaults for what it does not say. -/
def SettingsDraft.complete (draft : SettingsDraft) (defaults : Settings) : Settings where
  indexPath := draft.indexPath.getD defaults.indexPath
  inMemory := draft.inMemory.getD defaults.inMemory
  writerMemory := draft.writerMemory.getD defaults.writerMemory
  maxBatchSize := draft.maxBatchSize.getD defaults.maxBatchSize
  reloadPolicy := draft.reloadPolicy.getD defaults.reloadPolicy

/-- The settings of a JSON text. -/
def Settings.ofJsonText (home text : String) : Except Json.DecodeError Settings := do
  let draft ← Json.decode (Settings.shape.decode {}) text
  return draft.complete (Settings.default home)

end KeyedIndex
