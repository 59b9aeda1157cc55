import KeyedIndex.Proofs.Storage.Tree
import KeyedIndex.Proofs.Success
import KeyedIndex.Storage.IndexFile

/-!
Directories that hold an index. Where a commit is stored, the next one can be stored as well,
in its place (`Disk.Stores.write`); an index that has been made is found again at the place
where it was made (`Disk.openIndex_fresh`, `Disk.openIndex_stored`), and its lock files stay
where they are (`Disk.lockCommit_locked`). An index that exists is never changed by opening it
(`Disk.openIndex_found`).
-/
namespace KeyedIndex

variable {before after disk : Disk} {directory : FilePath} {commit : Commit}

/-- The list of files that is written beside every commit. -/
def listContent : FileContent := .text "[\"meta.json\"]"

/-- A commit is stored in the directory at a place. -/
structure Disk.Stores (disk : Disk) (directory : FilePath) (commit : Commit) : Prop where
  place : disk.place? directory = some directory
  folder : disk.hasFolder directory
  listed : disk.at? (listFile directory) = some (.file listContent)
  committed : disk.at? (indexFile directory) = some (.file (.index commit))
  listUsable : (listFile directory).isUsable
  indexUsable : (indexFile directory).isUsable

/-- What stands in a directory under some names is the same on two disks. -/
def SameExcept (names : List String) (directory : FilePath) (before after : Disk) : Prop :=
  ∀ other, other ∉ names → after.at? (directory ++ [other]) = before.at? (directory ++ [other])

theorem Disk.Stores.commit? (stores : disk.Stores directory commit) :
    disk.commit? directory = some commit := by
  rw [Disk.commit?, stores.committed]

theorem isOk_list :
    (Json.decode (Json.decodeList Json.decodeText) "[\"meta.json\"]").isOk := by
  decide +kernel

theorem Disk.Stores.canReadList (stores : disk.Stores directory commit) :
    disk.canReadList directory := by
  rw [Disk.canReadList, stores.listed]
  exact isOk_list

/-- A commit that is written is stored. -/
theorem Disk.writeCommit?_spec (place : before.place? directory = some directory)
    (folder : before.hasFolder directory)
    (written : before.writeCommit? directory commit = some after) :
    before.Grows after ∧ after.Stores directory commit ∧
      SameExcept [".managed.json", "meta.json"] directory before after := by
  obtain ⟨middle, list, index⟩ := Option.bind_eq_some_iff.mp written
  obtain ⟨listGrows, listed, listSame⟩ := Node.writeFile?_spec place list
  have middlePlace := listGrows.place? place
  obtain ⟨indexGrows, indexed, indexSame⟩ := Node.writeFile?_spec middlePlace index
  obtain ⟨_, _, _, listUsable, _⟩ := Node.writeFile?_eq_some.mp list
  obtain ⟨_, _, _, indexUsable, _⟩ := Node.writeFile?_eq_some.mp index
  refine ⟨listGrows.trans indexGrows, ?_, fun other apart => ?_⟩
  · exact {
      place := indexGrows.place? middlePlace
      folder := indexGrows.folder _ (listGrows.folder _ folder)
      listed := (indexSame ".managed.json" (by decide)).trans listed
      committed := indexed
      listUsable := listUsable
      indexUsable := indexUsable }
  · simp only [List.mem_cons, List.not_mem_nil, or_false, not_or] at apart
    rw [indexSame other apart.2, listSame other apart.1]

/-- Where a commit is stored, the next one can be stored. -/
theorem Disk.Stores.write (stores : before.Stores directory commit) (next : Commit) :
    ∃ after, before.writeCommit? directory next = some after := by
  have listFree : before.hasFolder (listFile directory) = false := by
    simp [Node.hasFolder, stores.listed, Node.isFolder]
  have indexFree : before.hasFolder (indexFile directory) = false := by
    simp [Node.hasFolder, stores.committed, Node.isFolder]
  have list : Node.writeFile? listContent (listFile directory) before =
      some (Node.put (.file listContent) (listFile directory) before) :=
    Node.writeFile?_eq_some.mpr ⟨directory, stores.place, stores.folder, stores.listUsable,
      by decide, listFree, rfl⟩
  obtain ⟨grows, _, same⟩ := Node.writeFile?_spec stores.place list
  have stillFree : (Node.put (.file listContent) (listFile directory) before).hasFolder
      (indexFile directory) = false := by
    rw [Node.hasFolder, indexFile, same "meta.json" (by decide)]
    exact indexFree
  exact ⟨_, Option.bind_eq_some_iff.mpr ⟨_, list, Node.writeFile?_eq_some.mpr
    ⟨directory, grows.place? stores.place, grows.folder _ stores.folder, stores.indexUsable,
      by decide, stillFree, rfl⟩⟩⟩

theorem Disk.Stores.grow (stores : before.Stores directory commit) (grows : before.Grows after)
    {names : List String} (same : SameExcept names directory before after)
    (list : ".managed.json" ∉ names) (index : "meta.json" ∉ names) :
    after.Stores directory commit where
  place := grows.place? stores.place
  folder := grows.folder _ stores.folder
  listed := (same _ list).trans stores.listed
  committed := (same _ index).trans stores.committed
  listUsable := stores.listUsable
  indexUsable := stores.indexUsable

/-! ### Locks -/

/-- A file that is no folder stands at a place. -/
def Disk.HasFile (disk : Disk) (file : FilePath) : Prop :=
  ∃ node, disk.at? file = some node ∧ node.isFolder = false

/-- The lock files of a directory are there. -/
structure Disk.Locked (disk : Disk) (directory : FilePath) : Prop where
  readers : disk.HasFile (readersLockFile directory)
  writer : disk.HasFile (writerLockFile directory)

theorem Disk.HasFile.same {names : List String} {name : String}
    (here : before.HasFile (directory ++ [name])) (same : SameExcept names directory before after)
    (apart : name ∉ names) : after.HasFile (directory ++ [name]) := by
  obtain ⟨node, found, noFolder⟩ := here
  exact ⟨node, (same name apart).trans found, noFolder⟩

/-- The next commit takes the place of the one that is stored, and nothing else changes. -/
theorem Disk.Stores.rewrite (stores : before.Stores directory commit) (locked : before.Locked directory)
    (next : Commit) :
    ∃ after, before.writeCommit? directory next = some after ∧ before.Grows after ∧
      after.Stores directory next ∧ after.Locked directory := by
  obtain ⟨after, written⟩ := stores.write next
  obtain ⟨grows, nextStores, same⟩ := Disk.writeCommit?_spec stores.place stores.folder written
  exact ⟨after, written, grows, nextStores,
    locked.readers.same same (by decide), locked.writer.same same (by decide)⟩

theorem Disk.makeLockFile?_hasFile {file : FilePath} (here : disk.HasFile file) :
    disk.makeLockFile? file = some disk := by
  obtain ⟨node, found, noFolder⟩ := here
  simp [Disk.makeLockFile?, found, noFolder]

theorem Disk.makeLockFile?_spec {name : String} (place : before.place? directory = some directory)
    (made : before.makeLockFile? (directory ++ [name]) = some after) :
    before.Grows after ∧ after.HasFile (directory ++ [name]) ∧
      SameExcept [name] directory before after := by
  unfold Disk.makeLockFile? at made
  split at made
  · obtain ⟨grows, written, same⟩ := Node.writeFile?_spec place made
    exact ⟨grows, ⟨_, written, rfl⟩, fun other apart => same other (by simpa using apart)⟩
  · rename_i node found
    split at made
    · contradiction
    · rename_i noFolder
      obtain rfl := Option.some.inj made
      exact ⟨.refl _, ⟨node, found, by simpa using noFolder⟩, fun _ _ => rfl⟩

/-- A directory that has been locked keeps what is stored there. -/
theorem Disk.lockCommit_spec (stores : before.Stores directory commit)
    (locked : before.lockCommit directory commit = (true, after)) :
    before.Grows after ∧ after.Stores directory commit ∧ after.Locked directory := by
  unfold Disk.lockCommit at locked
  split at locked
  · simp at locked
  · rename_i middle readers
    split at locked
    · simp at locked
    · split at locked
      · simp at locked
      · rename_i last writer
        obtain rfl : last = after := (Prod.mk.inj locked).2
        obtain ⟨firstGrows, readersFile, firstSame⟩ :=
          Disk.makeLockFile?_spec stores.place readers
        have middleStores := stores.grow firstGrows firstSame (by decide) (by decide)
        obtain ⟨secondGrows, writerFile, secondSame⟩ :=
          Disk.makeLockFile?_spec middleStores.place writer
        exact ⟨firstGrows.trans secondGrows,
          middleStores.grow secondGrows secondSame (by decide) (by decide),
          readersFile.same secondSame (by decide), writerFile⟩

/-- A directory with its lock files can be locked again, and nothing changes. -/
theorem Disk.lockCommit_locked (locked : disk.Locked directory) (complete : commit.complete) :
    disk.lockCommit directory commit = (true, disk) := by
  simp [Disk.lockCommit, Disk.makeLockFile?_hasFile locked.readers,
    Disk.makeLockFile?_hasFile locked.writer, complete]

/-! ### Opening -/

variable {α : Type} {schema : Schema α} {path : FilePath}

/-- An index that is made is stored where the path of its directory leads. -/
theorem Disk.openIndex_fresh (fresh : before.has (indexFile path) = false)
    (opened : before.openIndex path schema = (.ok (directory, commit), after)) :
    commit = .first schema.layout ∧ after.place? path = some directory ∧
      after.Stores directory commit := by
  rw [Disk.openIndex, if_neg (by simp [fresh])] at opened
  split at opened
  · simp at opened
  · rename_i made place reached
    dsimp only at opened
    split at opened
    · rename_i last written
      simp only [Prod.mk.injEq, Except.ok.injEq] at opened
      obtain ⟨⟨rfl, rfl⟩, rfl⟩ := opened
      split at written
      · obtain ⟨_, list, _⟩ := Option.bind_eq_some_iff.mp written
        obtain ⟨found, leads, folder, _⟩ := Node.writeFile?_eq_some.mp list
        have grown : (Node.makeFolder before path).1.isFolder := by
          rw [reached]
          exact Node.isFolder_of_hasFolder folder
        have isFolder := Node.isFolder_of_makeFolder grown
        obtain ⟨_, pathLeads, inside⟩ := Node.makeFolder_spec isFolder reached
        have here : made.place? place = some place :=
          Node.place?_self pathLeads inside leads
        obtain ⟨grows, stores, _⟩ := Disk.writeCommit?_spec here inside written
        exact ⟨rfl, grows.place? pathLeads, stores⟩
      · contradiction
    · simp at opened

/-- An index that can be read is found at the end of a path. -/
structure Disk.HasIndex (disk : Disk) (path directory : FilePath) (commit : Commit) : Prop where
  found : disk.has (indexFile path)
  leads : disk.place? path = some directory
  readable : disk.canReadList directory
  committed : disk.commit? directory = some commit

theorem Disk.Stores.has_indexFile (stores : disk.Stores directory commit)
    (leads : disk.place? path = some directory) :
    disk.has (indexFile path) = (indexFile path).isUsable :=
  Node.has_append leads stores.folder ⟨by decide, by decide⟩ (by
    rw [← indexFile, stores.committed]
    rfl)

theorem Disk.Stores.hasIndex (stores : disk.Stores directory commit)
    (leads : disk.place? path = some directory) (usable : (indexFile path).isUsable) :
    disk.HasIndex path directory commit where
  found := (stores.has_indexFile leads).trans usable
  leads := leads
  readable := stores.canReadList
  committed := stores.commit?

/-- An index that exists is opened as it is if it goes with the schema, and nothing is changed. -/
theorem Disk.openIndex_found (index : disk.HasIndex path directory commit) (schema : Schema α) :
    disk.openIndex path schema = (match schema.checkCompatible commit.layout with
      | .ok _ => .ok (directory, commit)
      | .error fault => .error (.schemaMismatch fault), disk) := by
  rw [Disk.openIndex, if_pos index.found]
  simp only [index.leads, Option.filter, index.readable, if_true, Option.bind_some, index.committed,
    Option.map_some]
  cases schema.checkCompatible commit.layout <;> rfl

/-- Where there is an index, no other one is opened. -/
theorem Disk.openIndex_hasIndex (found : before.has (indexFile path))
    (opened : before.openIndex path schema = (.ok (directory, commit), after)) :
    before.HasIndex path directory commit ∧ after = before := by
  rw [Disk.openIndex, if_pos found] at opened
  dsimp only at opened
  split at opened
  · simp at opened
  · rename_i place stored here
    split at opened
    · simp only [Prod.mk.injEq, Except.ok.injEq] at opened
      obtain ⟨⟨rfl, rfl⟩, rfl⟩ := opened
      obtain ⟨_, readable, committed⟩ := Option.bind_eq_some_iff.mp here
      obtain ⟨_, there, same⟩ := Option.map_eq_some_iff.mp committed
      obtain ⟨rfl, rfl⟩ := Prod.mk.inj same
      obtain ⟨leads, legible⟩ := Option.filter_eq_some_iff.mp readable
      exact ⟨⟨found, leads, legible, there⟩, rfl⟩
    · simp at opened

/-- An index that is stored is opened as it is, if the path of its file is not too long. -/
theorem Disk.openIndex_stored (leads : disk.place? path = some directory)
    (stores : disk.Stores directory commit) (layout : commit.layout = schema.layout) :
    disk.openIndex path schema =
      if (indexFile path).isUsable then (.ok (directory, commit), disk)
      else (.error .engine, disk) := by
  by_cases usable : (indexFile path).isUsable
  · have compatible : schema.checkCompatible commit.layout = .ok () := by
      simp [Schema.checkCompatible, layout]
    rw [if_pos usable, Disk.openIndex_found (stores.hasIndex leads usable), compatible]
  · rw [if_neg usable, Disk.openIndex, stores.has_indexFile leads, if_neg usable]
    simp [Node.makeFolder_of_place? leads stores.folder, stores.committed]

end KeyedIndex
