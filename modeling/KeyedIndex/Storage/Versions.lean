import KeyedIndex.Error
import KeyedIndex.Group.Json
import KeyedIndex.Storage.Disk

/-!
Versions of a kind of entities on a disk. Every version has a directory of its own; one
file beside them says which versions are ready to serve queries, that is, which are
completely built.

In the source, `IndexVersions` (`Versions`), `VersionState` and `IndexVersion` (`FoundVersion`):
`state_path` (`stateFile`), `version_dir` (`directory`), `parse_dir_name`
(`readDirectoryName?`), `load_state` (`load`), `save_state` (`save`), `scan`, `mark_ready`
(`markReady`), `is_ready` (`isReady`), `latest_ready` (`latestReady`), `stale_versions`
(`stale`) and `remove_version` (`remove`, which first does `deleteDirectory` and then `forget`).
-/
namespace KeyedIndex

/-- Whether a version is ready, and since when that is so. -/
structure VersionState where
  ready : Bool
  updatedAt : Time.Instant
deriving DecidableEq

/-- The states of versions, sorted by version. -/
abbrev StateMap := List (Nat × VersionState)

/-- Set the state of a version. -/
def setState (version : Nat) (state : VersionState) : StateMap → StateMap
  | [] => [(version, state)]
  | (head, found) :: rest =>
    if version < head then (version, state) :: (head, found) :: rest
    else if version = head then (version, state) :: rest
    else (head, found) :: setState version state rest

/-! ### States as JSON -/

def VersionState.toJson (state : VersionState) : Json.Value :=
  .object [("ready", .bool state.ready), ("updated_at", .integer state.updatedAt.millis)]

def StateMap.toJson (states : StateMap) : Json.Value :=
  .object (states.map (fun (version, state) => (Number.decimal version, state.toJson)))

/-- The state of a version as far as it has been read. -/
structure VersionDraft where
  ready : Option Bool := none
  updatedAt : Option Time.Instant := none

open Json in
/-- The fields of the state of a version. -/
def VersionState.shape : Shape VersionDraft where
  title := "struct VersionState"
  fields := [
    ⟨"ready", false, fun draft => draft.ready.isSome, fun doc draft => do
      return { draft with ready := some (← decodeBool doc) }⟩,
    ⟨"updated_at", false, fun draft => draft.updatedAt.isSome, fun doc draft => do
      return { draft with updatedAt := some (← decodeInstant doc) }⟩]

def VersionState.decode? (doc : Json.Doc) : Option VersionState := do
  let draft ← (VersionState.shape.decode {} doc).toOption
  return ⟨← draft.ready, ← draft.updatedAt⟩

/-- The version that the name of a member stands for: a natural of 32 bits as JSON writes it. -/
def readVersionName? : Json.Key → Option Nat
  | .name content true =>
    match Number.nat32.read? content with
    | some version => if Number.decimal version = content then some version.toNat else none
    | none => none
  | _ => none

/-- The states of the members of an object; of members with one name, the last counts. -/
def decodeStates? : List (Json.Key × Json.Doc) → StateMap → Option StateMap
  | [], states => some states
  | (key, value) :: rest, states => do
    decodeStates? rest (setState (← readVersionName? key) (← VersionState.decode? value) states)

/-- The states of a text. -/
def StateMap.ofText? (text : String) : Option StateMap :=
  match Json.Doc.ofText text with
  | (.object members .closed, false) => decodeStates? members []
  | _ => none

/-! ### Directories -/

/-- The versions of one kind below a base directory. -/
structure Versions where
  base : FilePath
  kind : String

/-- A version that has a directory. -/
structure FoundVersion where
  version : Nat
  directory : String
  ready : Bool
deriving DecidableEq

/-- The order in which a folder lists its entries. Nothing is promised of it, and another call may
    see another one. -/
structure ReadOrder where
  arrange : List (String × Disk) → List (String × Disk)
  perm : ∀ entries, (arrange entries).Perm entries

/-- The order in which the entries stand in the tree. -/
def ReadOrder.standing : ReadOrder := ⟨id, fun _ => .refl _⟩

namespace Versions

/-- The file with the states. -/
def stateFile (versions : Versions) : FilePath :=
  .below versions.base (versions.kind ++ "_versions.json")

/-- The file under which new states are written before they take the place of the old ones. -/
def draftFile (versions : Versions) : FilePath :=
  .below versions.base (versions.kind ++ "_versions.json.tmp")

/-- The name of the directory of a version. -/
def directoryName (versions : Versions) (version : Nat) : String :=
  versions.kind ++ "_" ++ Number.padded 4 version

def directory (versions : Versions) (version : Nat) : FilePath :=
  .below versions.base (versions.directoryName version)

/-- The version that a directory with a name is for: the kind, a dash below and digits. -/
def readDirectoryName? (kind name : String) : Option Nat :=
  let start := (kind ++ "_").toList
  if start.isPrefixOf name.toList then
    let digits := name.toList.drop start.length
    if !digits.isEmpty && digits.all Char.isDigit then
      (Number.nat32.read? (String.ofList digits)).map Int.toNat
    else none
  else none

/-- The states that are on the disk, none if there is no file for them. -/
def load (versions : Versions) (disk : Disk) : Except Error StateMap :=
  match disk.find? versions.stateFile with
  | none => .ok []
  | some (.folder _) => .error .storage
  | some (.file (.index _)) => .error .serialization
  | some (.file (.text content)) =>
    match StateMap.ofText? content with
    | some states => .ok states
    | none => .error .serialization

/-- Write states to the disk: first beside the old ones, then in their place. The base directory
    is made if it is not there, even if the states cannot be written. -/
def save (versions : Versions) (states : StateMap) (disk : Disk) : Except Error Unit × Disk :=
  let content := FileContent.text states.toJson.printLines
  let disk := (disk.makeFolder versions.base).1
  match Node.writeFile? content versions.draftFile disk with
  | none => (.error .storage, disk)
  | some written =>
    let moved := (written.place? versions.draftFile).elim written (Node.remove · written)
    match Node.writeFile? content versions.stateFile moved with
    | none => (.error .storage, written)
    | some saved => (.ok (), saved)

/-- The version of an entry that is a directory of one. -/
def found? (versions : Versions) (states : StateMap) (entry : String × Disk) :
    Option FoundVersion := do
  if entry.2.isFolder then
    let version ← readDirectoryName? versions.kind entry.1
    return ⟨version, entry.1, (states.lookup version).any VersionState.ready⟩
  else none

/-- All versions that have directories, from the oldest to the newest; directories of one version
    stay in the order in which they are listed. -/
def scan (versions : Versions) (order : ReadOrder) (disk : Disk) :
    Except Error (List FoundVersion) := do
  match disk.find? versions.base with
  | none => return []
  | some node =>
    let states ← versions.load disk
    if !node.isFolder then throw .storage
    let found := (order.arrange node.entries).filterMap (versions.found? states)
    return found.mergeSort (fun left right => left.version ≤ right.version)

/-- Note whether a version is ready. -/
def markReady (versions : Versions) (version : Nat) (ready : Bool) (now : Time.Instant)
    (disk : Disk) : Except Error Unit × Disk :=
  match versions.load disk with
  | .ok states => versions.save (setState version ⟨ready, now⟩ states) disk
  | .error error => (.error error, disk)

def isReady (versions : Versions) (version : Nat) (disk : Disk) : Except Error Bool := do
  return ((← versions.load disk).lookup version).any VersionState.ready

/-- The newest version that is ready. -/
def latestReady (versions : Versions) (order : ReadOrder) (disk : Disk) :
    Except Error (Option FoundVersion) := do
  return (← versions.scan order disk).reverse.find? FoundVersion.ready

/-- The versions that are older than a current one. -/
def stale (versions : Versions) (order : ReadOrder) (current : Nat) (disk : Disk) :
    Except Error (List FoundVersion) := do
  return (← versions.scan order disk).filter (fun found => found.version < current)

/-- Delete the directory of a version, if there is one. -/
def deleteDirectory (versions : Versions) (version : Nat) (disk : Disk) : Except Error Disk :=
  match disk.place? (versions.directory version) with
  | none => .ok disk
  | some place => if disk.hasFolder place then .ok (disk.remove place) else .error .storage

/-- Forget the state of a version. -/
def forget (versions : Versions) (version : Nat) (disk : Disk) : Except Error Unit × Disk :=
  match versions.load disk with
  | .ok states =>
    if (states.lookup version).isSome then
      versions.save (states.filter (fun entry => entry.1 ≠ version)) disk
    else (.ok (), disk)
  | .error error => (.error error, disk)

/-- Delete the directory of a version and forget its state. The directory is gone even if the
    state cannot be forgotten. -/
def remove (versions : Versions) (version : Nat) (disk : Disk) : Except Error Unit × Disk :=
  match versions.deleteDirectory version disk with
  | .error error => (.error error, disk)
  | .ok rest => versions.forget version rest

end Versions

end KeyedIndex
