import KeyedIndex.Error
import KeyedIndex.Json.Decode
import KeyedIndex.Storage.Disk

/-!
Directories of indexes. An index is stored in a directory that is named for its kind
and version; its commits are in one file there, beside a list of files and the files by
which readers and writers lock the directory. An index that exists is opened with its
own layout if that goes with the schema, and is created otherwise, but never over
another one.

In the source, `index_dir` (`Schema.directory`), `open_or_create_index` with `open_index`
(`Disk.openIndex`), and the lock files and the list of files that the engine keeps.
-/
namespace KeyedIndex

/-- The file of a directory that holds what is committed. -/
def indexFile (directory : FilePath) : FilePath := directory ++ ["meta.json"]

/-- The file of a directory that lists the files of the index. -/
def listFile (directory : FilePath) : FilePath := directory ++ [".managed.json"]

/-- The file by which readers lock a directory while they are opened. -/
def readersLockFile (directory : FilePath) : FilePath := directory ++ [".tantivy-meta.lock"]

/-- The file by which the writer locks a directory. -/
def writerLockFile (directory : FilePath) : FilePath := directory ++ [".tantivy-writer.lock"]

/-- What is committed in the directory at a place. -/
def Disk.commit? (disk : Disk) (directory : FilePath) : Option Commit :=
  match disk.at? (indexFile directory) with
  | some (.file (.index commit)) => some commit
  | _ => none

/-- Whether the list of files in a directory can be read, or is missing. -/
def Disk.canReadList (disk : Disk) (directory : FilePath) : Bool :=
  match disk.at? (listFile directory) with
  | none => true
  | some (.file (.text content)) => (Json.decode (Json.decodeList Json.decodeText) content).isOk
  | some _ => false

/-- Write what is committed into a directory that is there, and a list of the files. -/
def Disk.writeCommit? (disk : Disk) (directory : FilePath) (commit : Commit) : Option Disk := do
  let disk ← Node.writeFile? (.text "[\"meta.json\"]") (listFile directory) disk
  Node.writeFile? (.index commit) (indexFile directory) disk

/-- Make a lock file if it is missing. It stays where it is when the lock ends. -/
def Disk.makeLockFile? (disk : Disk) (file : FilePath) : Option Disk :=
  match disk.at? file with
  | none => Node.writeFile? (.text "") file disk
  | some node => if node.isFolder then none else some disk

/-- Lock a directory for readers and, if all files of the commit are there, for the writer. The
    result says whether both went well. -/
def Disk.lockCommit (disk : Disk) (directory : FilePath) (commit : Commit) : Bool × Disk :=
  match disk.makeLockFile? (readersLockFile directory) with
  | none => (false, disk)
  | some disk =>
    if !commit.complete then (false, disk)
    else
      match Disk.makeLockFile? disk (writerLockFile directory) with
      | none => (false, disk)
      | some disk => (true, disk)

variable {α : Type}

/-- Open the index in a directory, or create it with the layout of the schema. The result is
    the place of the directory and what is committed there. -/
def Disk.openIndex (disk : Disk) (directory : FilePath) (schema : Schema α) :
    Except Error (FilePath × Commit) × Disk :=
  if disk.has (indexFile directory) then
    let found := (disk.place? directory).filter disk.canReadList
    match found.bind (fun place => (disk.commit? place).map (place, ·)) with
    | none => (.error .engine, disk)
    | some (place, commit) =>
      match schema.checkCompatible commit.layout with
      | .ok _ => (.ok (place, commit), disk)
      | .error fault => (.error (.schemaMismatch fault), disk)
  else
    match disk.makeFolder directory with
    | (disk, none) => (.error .storage, disk)
    | (disk, some place) =>
      let commit := Commit.first schema.layout
      let free := (Node.at? (indexFile place) disk).isNone && Disk.canReadList disk place
      match if free then Disk.writeCommit? disk place commit else none with
      | some disk => (.ok (place, commit), disk)
      | none => (.error .engine, disk)

/-- The directory of a schema below the directory of the settings. -/
def Schema.directory (schema : Schema α) (base : FilePath) : FilePath :=
  .below base schema.directoryName

end KeyedIndex
