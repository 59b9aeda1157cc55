import KeyedIndex.Proofs.Index.Session

/-!
Opening, closing and refreshing. An index that has just been made holds the documents of an
empty store (`Origin.open_fresh`); it keeps its documents when it is refreshed or closed, and
finds them again when it is opened from its directory (`Origin.Keeps.open_closed`).
-/
namespace KeyedIndex

variable {α κ : Type} {origin : Origin α} {index : Index α} {host after : Host}

/-- The settings are legal, and the memory that they give to a writer is enough. -/
structure Origin.Valid (origin : Origin α) : Prop where
  checked : origin.settings.check = .ok ()
  memory : origin.settings.memoryFits = true

/-- What an index on a commit consists of. -/
structure Index.IsOn (index : Index α) (schema : Schema α) (commit : Commit) : Prop where
  binding : index.binding = schema.bound
  committed : index.writer.workspace = .ofSnapshot commit.snapshot
  taking : index.writer.closed = false
  memory : index.memory = commit.snapshot
  lost : index.files.lost = []

/-! ### Indexes on commits -/

theorem Index.ofCommit_memory {schema : Schema α} {settings : Settings}
    {commit : Commit} (layout : commit.layout = schema.layout)
    (opened : Index.ofCommit schema commit settings none none host = (.ok index, after)) :
    settings.memoryFits = true ∧ index.lock = none ∧ index.IsOn schema commit := by
  rw [Index.ofCommit, layout, schema.bind_layout] at opened
  dsimp only at opened
  split at opened
  · simp at opened
  · rename_i fits
    simp only [Prod.mk.injEq, Except.ok.injEq] at opened
    obtain ⟨rfl, -⟩ := opened
    exact ⟨by simpa using fits, rfl, rfl, rfl, rfl, rfl, rfl⟩

variable {schema : Schema α} {settings : Settings} {commit : Commit} {directory : FilePath}
  {versions : Option Versions}

theorem Index.ofCommit_disk (layout : commit.layout = schema.layout)
    (opened : Index.ofCommit schema commit settings (some directory) versions host =
      (.ok index, after)) :
    settings.memoryFits = true ∧ index.lock = some ⟨directory, host.deletions directory⟩ ∧
      index.IsOn schema commit ∧ index.files.deletions = host.deletions directory ∧
      host.disk.lockCommit directory commit = (true, after.disk) ∧ after.deleted = host.deleted := by
  rw [Index.ofCommit, layout, schema.bind_layout] at opened
  dsimp only at opened
  split at opened
  · simp at opened
  · rename_i ready
    simp only [Prod.mk.injEq, Except.ok.injEq] at opened
    obtain ⟨rfl, rfl⟩ := opened
    simp only [Bool.or_eq_true, Bool.not_eq_true', not_or, Bool.not_eq_false] at ready
    exact ⟨ready.2, rfl, ⟨rfl, rfl, rfl, rfl, rfl⟩, rfl, Prod.ext ready.1.1 rfl, rfl⟩

/-- An index that has been opened is stored where its commit is, which is what its readers see. -/
theorem Index.ofCommit_made {directory : Option FilePath}
    (opened : Index.ofCommit schema commit settings directory versions host = (.ok index, after)) :
    index.location = directory ∧
      index.readers.current = index.writer.workspace.committed := by
  unfold Index.ofCommit at opened
  split at opened
  · simp at opened
  · dsimp only at opened
    split at opened
    · simp at opened
    · simp only [Prod.mk.injEq, Except.ok.injEq] at opened
      obtain ⟨rfl, -⟩ := opened
      refine ⟨?_, rfl⟩
      cases directory <;> rfl

/-- The directory of an index is opened if it has its lock files and no one has locked it. -/
theorem Index.ofCommit_locked (layout : commit.layout = schema.layout)
    (fits : settings.memoryFits = true) (complete : commit.complete)
    (locked : host.disk.Locked directory)
    (free : ⟨directory, host.deletions directory⟩ ∉ host.locks) :
    ∃ index after, Index.ofCommit schema commit settings (some directory) versions host =
      (.ok index, after) := by
  simp [Index.ofCommit, layout, schema.bind_layout, Disk.lockCommit_locked locked complete, fits,
    free]

/-- An index that has been opened is on an empty commit in memory, or on the one that is found in its
    directory or made there. -/
theorem Origin.open_eq_ok (opened : origin.open host = (.ok index, after)) :
    origin.settings.check = .ok () ∧
    (origin.settings.inMemory = true ∧ Index.ofCommit origin.schema (.first origin.schema.layout)
        origin.settings none none host = (.ok index, after) ∨
      origin.settings.inMemory = false ∧ ∃ directory commit disk,
        host.disk.openIndex origin.directory origin.schema = (.ok (directory, commit), disk) ∧
        Index.ofCommit origin.schema commit origin.settings (some directory)
          (some ⟨.ofText (origin.settings.expandedPath origin.home), origin.schema.name⟩)
          { host with disk } = (.ok index, after)) := by
  unfold Origin.open Index.open at opened
  split at opened
  · simp at opened
  · rename_i checked legal
    refine ⟨legal, ?_⟩
    split at opened
    · rename_i inMemory
      exact .inl ⟨inMemory, opened⟩
    · rename_i stored
      dsimp only at opened
      split at opened
      · simp at opened
      · rename_i directory commit disk found
        exact .inr ⟨by simpa using stored, directory, commit, disk, found, opened⟩

/-! ### A new index -/

section

variable [Key κ] [Entity α κ]

/-- An index on a commit in its directory keeps the documents of the commit. -/
theorem Origin.ofCommit_keeps {store : Cache α}
    (opened : Index.ofCommit origin.schema commit origin.settings (some directory) versions host =
      (.ok index, after)) (onDisk : origin.settings.inMemory = false)
    (keyed : origin.schema.Keyed store)
    (layout : commit.layout = origin.schema.layout) (complete : commit.complete)
    (documents : commit.snapshot.documents = origin.schema.documents store)
    (leads : host.disk.place? origin.directory = some directory)
    (stores : host.disk.Stores directory commit) :
    origin.settings.memoryFits = true ∧ origin.Keeps index after store ∧
      index.writer.closed = false := by
  obtain ⟨fits, lock, isOn, seen, locked, deleted⟩ := Index.ofCommit_disk layout opened
  obtain ⟨grows, afterStores, afterLocked⟩ := Disk.lockCommit_spec stores locked
  have deletions : after.deletions directory = host.deletions directory := by
    rw [Host.deletions, Host.deletions, deleted]
  have committed : index.writer.workspace.committed = commit.snapshot := by
    rw [isOn.committed]
    rfl
  refine ⟨fits, ⟨keyed, isOn.binding, ?_, ?_, ?_⟩, isOn.taking⟩
  · rw [committed, isOn.committed]
  · rw [committed, documents]
  · exact .disk onDisk (deletions ▸ lock) (grows.place? leads) afterStores afterLocked layout
      committed.symm complete isOn.lost (seen.trans deletions.symm)
      (fun closed => absurd closed (by simp [isOn.taking]))

/-- An index that has just been made holds the documents of an empty store. -/
theorem Origin.open_fresh (opened : origin.open host = (.ok index, after))
    (fresh : origin.settings.inMemory = false →
      host.disk.has (indexFile origin.directory) = false) :
    origin.Valid ∧ origin.Keeps index after (Cache.empty : Cache α) ∧
      index.writer.closed = false := by
  obtain ⟨legal, ⟨inMemory, made⟩ | ⟨onDisk, directory, commit, disk, found, made⟩⟩ :=
    Origin.open_eq_ok opened
  · obtain ⟨fits, lock, isOn⟩ := Index.ofCommit_memory rfl made
    have committed : index.writer.workspace.committed = [] := by
      rw [isOn.committed]
      rfl
    refine ⟨⟨legal, fits⟩, ⟨Schema.keyed_empty, isOn.binding, ?_, ?_, ?_⟩, isOn.taking⟩
    · rw [committed, isOn.committed]
      rfl
    · rw [committed]
      rfl
    · exact .memory inMemory lock (isOn.memory.trans committed.symm)
  · obtain ⟨rfl, leads, stores⟩ := Disk.openIndex_fresh (fresh onDisk) found
    have kept := Origin.ofCommit_keeps made onDisk Schema.keyed_empty rfl rfl rfl leads stores
    exact ⟨⟨legal, kept.1⟩, kept.2⟩

/-! ### An index that is there -/

variable {store : Cache α}

/-- The readers can load what is committed. -/
theorem Origin.Keeps.refresh (keeps : origin.Keeps index host store) :
    ∃ refreshed, index.refresh host = .ok refreshed ∧ origin.Keeps refreshed host store ∧
      refreshed.readers.current = index.writer.workspace.committed ∧
      refreshed.writer = index.writer := by
  obtain ⟨stored, found, same, complete⟩ := keeps.secures.stored?
  let refreshed : Index α := { index with
    files := index.files.load stored
    readers := index.readers.refresh stored.snapshot }
  have loaded : index.refresh host = .ok refreshed := by
    simp only [Index.refresh, keeps.secures.look, found, Files.canLoad, complete, Bool.true_or,
      if_true, refreshed]
  refine ⟨refreshed, loaded, ?_, same, rfl⟩
  refine ⟨keeps.keyed, keeps.binding, keeps.settled, keeps.documents, ?_⟩
  cases keeps.secures with
  | memory inMemory lock memory => exact .memory inMemory lock memory
  | disk onDisk lock leads stores locked layout snapshot complete lost seen released =>
    exact .disk onDisk lock leads stores locked layout snapshot complete lost seen released

/-- A closed index gives its lock back and keeps its documents. -/
theorem Origin.Keeps.close (keeps : origin.Keeps index host store) :
    origin.Keeps (index.close host).1 (index.close host).2 store ∧
      (index.close host).1.writer.closed = true := by
  refine ⟨⟨keeps.keyed, keeps.binding, keeps.settled, keeps.documents, ?_⟩, rfl⟩
  cases keeps.secures with
  | memory inMemory lock memory => exact .memory inMemory lock memory
  | disk onDisk lock leads stores locked layout snapshot complete lost seen released =>
    unfold Index.close
    split
    · rename_i closed
      exact .disk onDisk lock leads stores locked layout snapshot complete lost seen
        (fun _ => released closed)
    · refine .disk onDisk lock leads stores locked layout snapshot complete lost seen
        fun _ inside => ?_
      exact of_decide_eq_true (List.mem_filter.mp inside).2 lock

/-- A closed index is opened from its directory with the documents that it had, unless the path of
    its file is too long. -/
theorem Origin.Keeps.open_closed (keeps : origin.Keeps index host store) (valid : origin.Valid)
    (onDisk : origin.settings.inMemory = false) (closed : index.writer.closed = true) :
    if (indexFile origin.directory).isUsable then
      ∃ opened after, origin.open host = (.ok opened, after) ∧ origin.Keeps opened after store ∧
        opened.writer.closed = false
    else origin.open host = (.error .engine, host) := by
  cases keeps.secures with
  | memory inMemory lock memory => simp [inMemory] at onDisk
  | @disk directory commit onDisk lock leads stores locked layout snapshot complete lost seen
      released =>
    have path : origin.schema.directory (.ofText (origin.settings.expandedPath origin.home)) =
        origin.directory := rfl
    have found := Disk.openIndex_stored leads stores layout
    unfold Origin.open Index.open
    simp only [valid.checked, onDisk, Bool.false_eq_true, if_false, path, found]
    split
    · obtain ⟨opened, after, made⟩ := Index.ofCommit_locked layout valid.memory complete locked
        (released closed)
      have kept := Origin.ofCommit_keeps made onDisk keeps.keyed layout complete
        (snapshot ▸ keeps.documents) leads stores
      exact ⟨opened, after, made, kept.2⟩
    · rfl

end

end KeyedIndex
