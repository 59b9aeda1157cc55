import KeyedIndex.Index.Files
import KeyedIndex.Query.Compiler
import KeyedIndex.Engine.Snapshot
import KeyedIndex.Search.Hits
import KeyedIndex.Settings.Basic
import KeyedIndex.Storage.IndexFile
import KeyedIndex.Storage.Versions
import KeyedIndex.Writer.Batch

/-!
Indexes of the entities of one schema. What is written is committed at once, to memory or
to a directory; what is read is the snapshot that was loaded last. An index that is
stored in a directory is the only one that writes there until it is closed.

In the source, `EntityIndex`: `open`, `replace_op` (`Binding.replacement`), `delete_op`
(`Binding.deletion`), `replace`, `delete`, `delete_all` (`Index.deleteAll`), `get_source`
(`Index.listing`), `query`, `query_raw` (`Index.queryRaw`), `get` (`Index.get?`), `refresh`,
`num_docs` (`Index.size`), `mark_ready` and `close`. Its calls go through `execute` of the
writer, one at a time or several at once (`Index.execute`).
-/
namespace KeyedIndex

/-- The right to write to a directory, as it is after a number of deletions. -/
structure Lock where
  directory : FilePath
  deletions : Nat
deriving DecidableEq

/-- What all indexes share: the disk, and what the engine knows of it in one process. -/
structure Host where
  disk : Disk
  /-- The rights that are taken. -/
  locks : List Lock
  /-- The directories that have been deleted. -/
  deleted : List FilePath
  /-- How many commits have been numbered. -/
  commits : Nat

def Host.ofDisk (disk : Disk) : Host := ⟨disk, [], [], 0⟩

/-- How often a directory has been deleted, by itself or with one that holds it. -/
def Host.deletions (host : Host) (directory : FilePath) : Nat :=
  (host.deleted.filter (fun place => place.isPrefixOf directory)).length

structure Index (α : Type) where
  binding : Binding α
  /-- The right to write to the directory in which the index is stored, none if it is in
      memory. -/
  lock : Option Lock
  /-- The versions of the kind, if the index is stored. -/
  versions : Option Versions
  /-- What is committed, if the index is in memory. -/
  memory : Snapshot
  files : Files
  writer : Writer
  readers : Readers

variable {α κ : Type} [Key κ]

/-- The directory in which the index is stored. -/
def Index.location (index : Index α) : Option FilePath := index.lock.map Lock.directory

/-! ### Opening and closing -/

/-- An index with what is committed, if the writer and the readers can be opened. -/
def Index.ofCommit (schema : Schema α) (commit : Commit) (settings : Settings)
    (directory : Option FilePath) (versions : Option Versions) (host : Host) :
    Except Error (Index α) × Host :=
  match schema.bind commit.layout with
  | .error fault => (.error (.schemaMismatch fault), host)
  | .ok binding =>
    let lock := directory.map (fun directory => Lock.mk directory (host.deletions directory))
    let (locked, disk) := directory.elim (true, host.disk) (host.disk.lockCommit · commit)
    let host := { host with disk }
    if !locked || lock.any (· ∈ host.locks) || !settings.memoryFits then (.error .engine, host)
    else
      (.ok {
        binding, lock, versions
        memory := commit.snapshot
        files := .ofCommit (lock.elim 0 Lock.deletions) commit
        writer := .ofSnapshot commit.snapshot settings.maxBatchSize.toNat
        readers := .ofSnapshot commit.snapshot }, { host with locks := lock.toList ++ host.locks })

/-- Open the index of a schema, or create it. -/
def Index.open (home : String) (schema : Schema α) (settings : Settings) (host : Host) :
    Except Error (Index α) × Host :=
  match settings.check with
  | .error fault => (.error (.settings fault), host)
  | .ok _ =>
    if settings.inMemory then ofCommit schema (.first schema.layout) settings none none host
    else
      let base := FilePath.ofText (settings.expandedPath home)
      match host.disk.openIndex (schema.directory base) schema with
      | (.error error, disk) => (.error error, { host with disk })
      | (.ok (directory, commit), disk) =>
        ofCommit schema commit settings (some directory) (some ⟨base, schema.name⟩)
          { host with disk }

/-- Take no more operations; what has been accepted is committed already. -/
def Index.close (index : Index α) (host : Host) : Index α × Host :=
  ({ index with writer := index.writer.close },
    if index.writer.closed then host
    else { host with locks := host.locks.filter (fun lock => index.lock ≠ some lock) })

/-! ### Writing -/

/-- What is committed and stored. -/
def Index.stored? (index : Index α) (host : Host) : Option Commit :=
  match index.location with
  | none => some ⟨index.binding.layout, index.memory, index.files.commit, true⟩
  | some directory => host.disk.commit? directory

/-- The index with a look at its files. -/
def Index.look (index : Index α) (host : Host) : Index α :=
  match index.location with
  | none => index
  | some directory => { index with
      files := index.files.look (host.deletions directory) index.writer.workspace.committed }

/-- Whether the commit of a batch must fail: the directory is gone, or files that it needs. -/
def Index.blocks (index : Index α) (batch : List Operation) (host : Host) : Bool :=
  index.location.any (fun directory =>
    !host.disk.hasFolder directory || index.files.block batch)

/-- Store what a batch has made of a snapshot. The commit gets a number of its own, unless
    nothing has changed. -/
def Index.publish (index : Index α) (before : Snapshot) (batch : List Operation) (host : Host) :
    Index α × Host :=
  let snapshot := index.writer.workspace.committed
  let same := addsNothing batch && snapshot.size = before.size
  let number := if same then index.files.commit else host.commits + 1
  let files := index.files.advance index.binding.layout batch number
  match index.location with
  | none => ({ index with memory := snapshot }, host)
  | some directory =>
    let commit : Commit := ⟨index.binding.layout, snapshot, number, files.lost.isEmpty⟩
    ({ index with files }, { host with
      disk := (host.disk.writeCommit? directory commit).getD host.disk
      commits := max host.commits number })

/-- Go back to what is stored. A writer that cannot do so takes no more operations. -/
def Index.rollBack (index : Index α) (host : Host) : Index α × Host :=
  match index.stored? host with
  | some commit =>
    let workspace := Workspace.ofSnapshot commit.snapshot
    ({ index with
      files := index.files.reload commit
      writer := { index.writer with workspace } }, host)
  | none => index.close host

/-- Carry out operations as one batch. -/
def Index.executeBatch (index : Index α) (batch : List Operation) (host : Host) :
    List Answer × Index α × Host :=
  if index.writer.closed then (batch.map (fun _ => .error .writerClosed), index, host)
  else
    let index := index.look host
    let before := index.writer.workspace
    let mishaps := { Mishaps.none with failsCommit := index.blocks batch host }
    let (workspace, answers) := before.applyBatch index.binding.layout mishaps batch
    if answers.any Except.isOk then
      let index := { index with writer := { index.writer with workspace } }
      (answers, index.publish before.committed batch host)
    else (answers, index.rollBack host)

/-- Carry out batches in order. -/
def Index.executeBatches (index : Index α) (host : Host) :
    List (List Operation) → List Answer × Index α × Host
  | [] => ([], index, host)
  | batch :: rest =>
    let (first, index, host) := index.executeBatch batch host
    let (later, index, host) := index.executeBatches host rest
    (first ++ later, index, host)

/-- Carry out operations that were asked for together. -/
def Index.execute (index : Index α) (queue : List Operation) (host : Host) :
    List Answer × Index α × Host :=
  index.executeBatches host (batches (index.writer.maxBatch - 1) queue)

/-- The operation that puts an entity in the place of those with its key. -/
def Binding.replacement [Entity α κ] (binding : Binding α) (entity : α) : Operation :=
  let key := Entity.key entity
  .replace (Key.text key) (binding.keyTerm key) (binding.document entity)

/-- The operation that deletes the entity with a key. -/
def Binding.deletion (binding : Binding α) (key : κ) : Operation :=
  .delete (Key.text key) (binding.keyTerm key)

/-- The answer to a single operation. -/
def Index.executeOne (index : Index α) (operation : Operation) (host : Host) :
    Answer × Index α × Host :=
  let (answers, index, host) := index.execute [operation] host
  (answers.head?.getD (.error .writerClosed), index, host)

def Index.replace [Entity α κ] (index : Index α) (entity : α) (host : Host) :
    Answer × Index α × Host :=
  index.executeOne (index.binding.replacement entity) host

def Index.delete (index : Index α) (key : κ) (host : Host) : Answer × Index α × Host :=
  index.executeOne (index.binding.deletion key) host

def Index.deleteAll (index : Index α) (host : Host) : Answer × Index α × Host :=
  index.executeOne .deleteAll host

/-! ### Reading -/

/-- Load what is committed for later reads, if its files can be read. -/
def Index.refresh (index : Index α) (host : Host) : Except Error (Index α) :=
  let index := index.look host
  match index.stored? host with
  | some commit =>
    if index.files.canLoad commit then
      .ok { index with
        files := index.files.load commit
        readers := index.readers.refresh commit.snapshot }
    else .error .engine
  | none => .error .engine

/-- The number of documents that reads see. -/
def Index.size (index : Index α) : Nat := index.readers.current.size

/-- A predicate as a listing; an invalid one fails before anything is read. -/
def Index.listing (index : Index α) (predicate : Predicate α) (options : SearchOptions) :
    Except Error (Listing α) :=
  match index.binding.compile predicate with
  | .ok query => .ok ⟨index.binding, query, options⟩
  | .error fault => .error (.query fault)

/-- The entities that satisfy a predicate, as far as a cache knows them. -/
def Index.query (index : Index α) (predicate : Predicate α) (options : SearchOptions)
    (known : κ → Option α) : Except Error (List α) := do
  (← index.listing predicate options).read known index.readers.current

/-- The stored values of the documents that satisfy a predicate. -/
def Index.queryRaw (index : Index α) (predicate : Predicate α) (options : SearchOptions) :
    Except Error (List Bundle) := do
  (← index.listing predicate options).readRaw index.readers.current

/-- The entity with a key, if the index has it and a cache knows it. -/
def Index.get? (index : Index α) (key : κ) (known : κ → Option α) :
    Except Error (Option α) := do
  let listing : Listing α := ⟨index.binding, index.binding.keyQuery key, .window 0 1⟩
  return (← listing.read known index.readers.current).head?

/-! ### Versions -/

/-- Note that the version of the index is completely built. -/
def Index.markReady (index : Index α) (now : Time.Instant) (host : Host) :
    Except Error Unit × Host :=
  match index.versions with
  | none => (.ok (), host)
  | some versions =>
    let (result, disk) :=
      versions.markReady index.binding.schema.version.toNat true now host.disk
    (result, { host with disk })

/-- Delete the directory of a version and forget its state. -/
def Host.removeVersion (host : Host) (versions : Versions) (version : Nat) :
    Except Error Unit × Host :=
  let (result, disk) := versions.remove version host.disk
  let deleted := (host.disk.place? (versions.directory version)).filter
    (fun place => !disk.hasFolder place && host.disk.hasFolder place)
  (result, { host with disk, deleted := deleted.toList ++ host.deleted })

/-- Whether the version of the index is completely built, if the index is stored. -/
def Index.isReady? (index : Index α) (host : Host) : Except Error (Option Bool) :=
  match index.versions with
  | none => .ok none
  | some versions => (versions.isReady index.binding.schema.version.toNat host.disk).map some

end KeyedIndex
