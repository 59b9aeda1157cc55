import KeyedIndex.Storage.Versions

/-!
Versions that are shared. Those who keep track of the versions of their kinds work over one base
directory. To set a state or to forget it is one step, since whoever reads the states in order to
write others keeps all others out meanwhile; but the directory of a version is deleted before its
state is forgotten, and much can happen in between (`SharedVersions.step?`).

In the source, `mark_ready` and `remove_version` of several threads, which `lock_state` lets
into the state file one by one.
-/
namespace KeyedIndex

/-- A change of the state of a version that has been completed. -/
structure VersionChange where
  kind : String
  version : UInt32
  /-- Whether the version has been noted to be ready; nothing if it has been removed. -/
  noted : Option Bool
deriving DecidableEq

structure SharedVersions where
  disk : Disk
  /-- The kinds and versions whose directories have been deleted, and whose states have yet to be
      forgotten. -/
  removals : List (String × UInt32)
  /-- The changes in the order in which they were completed. -/
  completed : List VersionChange

/-- Versions on a disk, before anybody has worked with them. -/
def SharedVersions.ofDisk (disk : Disk) : SharedVersions := ⟨disk, [], []⟩

/-- What those who keep track of versions of a kind can do. -/
inductive VersionEvent where
  /-- Note at a time whether a version is ready. -/
  | mark (kind : String) (version : UInt32) (ready : Bool) (now : Time.Instant)
  /-- Begin to remove a version: delete its directory. -/
  | delete (kind : String) (version : UInt32)
  /-- Forget the state of a version whose directory has been deleted. -/
  | forget (kind : String) (version : UInt32)

def VersionEvent.kind : VersionEvent → String
  | .mark kind _ _ _ | .delete kind _ | .forget kind _ => kind

def VersionEvent.version : VersionEvent → UInt32
  | .mark _ version _ _ | .delete _ version | .forget _ version => version

/-- The versions after a change of a state, which has been completed unless it failed. -/
def SharedVersions.change (versions : SharedVersions) (change : VersionChange) :
    Except Error Unit × Disk → SharedVersions
  | (.ok _, disk) => { versions with disk, completed := versions.completed ++ [change] }
  | (.error _, disk) => { versions with disk }

/-- What happens at an event, if it can happen. Who cannot delete a directory gives up. -/
def SharedVersions.step? (base : FilePath) (versions : SharedVersions) :
    VersionEvent → Option SharedVersions
  | .mark kind version ready now =>
    some (versions.change ⟨kind, version, some ready⟩
      (Versions.markReady ⟨base, kind⟩ version.toNat ready now versions.disk))
  | .delete kind version =>
    match Versions.deleteDirectory ⟨base, kind⟩ version.toNat versions.disk with
    | .ok disk => some { versions with disk, removals := (kind, version) :: versions.removals }
    | .error _ => some versions
  | .forget kind version =>
    if (kind, version) ∈ versions.removals then
      let started := { versions with removals := versions.removals.erase (kind, version) }
      some (started.change ⟨kind, version, none⟩
        (Versions.forget ⟨base, kind⟩ version.toNat versions.disk))
    else none

/-- The versions after events, if they can happen in their order. -/
def SharedVersions.run? (base : FilePath) (versions : SharedVersions)
    (events : List VersionEvent) : Option SharedVersions :=
  events.foldlM (SharedVersions.step? base) versions

/-- What the last change of a version says. -/
def lastNoted (changes : List VersionChange) (kind : String) (version : UInt32) : Option Bool :=
  (changes.reverse.find? (fun change => change.kind = kind && change.version = version)).bind
    VersionChange.noted

end KeyedIndex
