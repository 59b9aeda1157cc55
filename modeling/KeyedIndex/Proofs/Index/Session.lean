import KeyedIndex.Proofs.Storage.IndexFile
import KeyedIndex.Proofs.Writer.Changes

/-!
Sessions of one index. An index that has been opened is changed, refreshed, closed and opened
again; what it has committed are at any time the documents of a store of entities, in memory
or in its directory (`Origin.Keeps`), and each call keeps it so.
-/
namespace KeyedIndex

variable {α κ : Type}

/-- What an index is opened with: what `open` is given in the source, and the home directory. -/
structure Origin (α : Type) where
  home : String
  schema : Schema α
  settings : Settings

/-- The path of the directory in which the index is stored. -/
def Origin.directory (origin : Origin α) : FilePath :=
  origin.schema.directory (.ofText (origin.settings.expandedPath origin.home))

def Origin.open (origin : Origin α) (host : Host) : Except Error (Index α) × Host :=
  Index.open origin.home origin.schema origin.settings host

/-- What is committed is stored, all files of it are there, and the index can be opened again once
    it is closed. -/
inductive Origin.Secures (origin : Origin α) (index : Index α) (host : Host) : Prop
  | memory (inMemory : origin.settings.inMemory = true) (lock : index.lock = none)
      (memory : index.memory = index.writer.workspace.committed) : Secures origin index host
  | disk {directory : FilePath} {commit : Commit} (onDisk : origin.settings.inMemory = false)
      (lock : index.lock = some ⟨directory, host.deletions directory⟩)
      (leads : host.disk.place? origin.directory = some directory)
      (stores : host.disk.Stores directory commit) (locked : host.disk.Locked directory)
      (layout : commit.layout = origin.schema.layout)
      (snapshot : commit.snapshot = index.writer.workspace.committed) (complete : commit.complete)
      (lost : index.files.lost = []) (seen : index.files.deletions = host.deletions directory)
      (released : index.writer.closed = true → ⟨directory, host.deletions directory⟩ ∉ host.locks) :
      Secures origin index host

/-- The index has committed the documents of a store, and no other changes are pending. -/
structure Origin.Keeps [Key κ] [Entity α κ] (origin : Origin α) (index : Index α) (host : Host)
    (store : Cache α) : Prop where
  keyed : origin.schema.Keyed store
  binding : index.binding = origin.schema.bound
  settled : index.writer.workspace = .ofSnapshot index.writer.workspace.committed
  documents : index.writer.workspace.committed.documents = origin.schema.documents store
  secures : origin.Secures index host

variable {origin : Origin α} {index : Index α} {host : Host}

/-! ### What is stored -/

theorem Index.location_eq {lock : Option Lock} (same : index.lock = lock) :
    index.location = lock.map Lock.directory := congrArg _ same

/-- What is stored is what the writer has committed. -/
theorem Origin.Secures.stored? (secures : origin.Secures index host) :
    ∃ commit, index.stored? host = some commit ∧
      commit.snapshot = index.writer.workspace.committed ∧ commit.complete = true := by
  cases secures with
  | memory inMemory lock memory =>
    refine ⟨⟨index.binding.layout, index.memory, index.files.commit, true⟩, ?_, memory, rfl⟩
    simp [Index.stored?, Index.location_eq lock]
  | disk onDisk lock leads stores locked layout snapshot complete lost seen released =>
    refine ⟨_, ?_, snapshot, complete⟩
    simp [Index.stored?, Index.location_eq lock, stores.commit?]

theorem Origin.Secures.look (secures : origin.Secures index host) : index.look host = index := by
  cases secures with
  | memory inMemory lock memory => simp [Index.look, Index.location_eq lock]
  | disk onDisk lock leads stores locked layout snapshot complete lost seen released =>
    simp [Index.look, Index.location_eq lock, Files.look, seen]

theorem Origin.Secures.blocks (secures : origin.Secures index host) (batch : List Operation) :
    index.blocks batch host = false := by
  cases secures with
  | memory inMemory lock memory => simp [Index.blocks, Index.location_eq lock]
  | disk onDisk lock leads stores locked layout snapshot complete lost seen released =>
    simp [Index.blocks, Index.location_eq lock, stores.folder, Files.block, lost]

/-- No files are lost of an index that has lost none. -/
theorem survivors_nil (layout : Layout) (batch : List Operation) :
    batch.foldl (Operation.survivors layout) [] = [] := by
  induction batch with
  | nil => rfl
  | cons operation rest ih =>
    cases operation <;> exact ih

theorem Files.advance_lost {files : Files} (none : files.lost = []) (layout : Layout)
    (batch : List Operation) (number : Nat) : (files.advance layout batch number).lost = [] := by
  rw [Files.advance, none, survivors_nil]

/-! ### Steps -/

/-- To publish a workspace is to store it. -/
theorem Origin.Secures.publish (secures : origin.Secures index host)
    (binding : index.binding = origin.schema.bound) (taking : index.writer.closed = false)
    (workspace : Workspace) (before : Snapshot) (batch : List Operation) :
    let writer := { index.writer with workspace }
    let published := Index.publish { index with writer } before batch host
    origin.Secures published.1 published.2 ∧ published.1.binding = index.binding ∧
      published.1.writer = writer := by
  intro writer
  cases secures with
  | memory inMemory lock memory =>
    have location : Index.location { index with writer } = none := Index.location_eq lock
    simp only [Index.publish, location]
    exact ⟨.memory inMemory lock rfl, trivial, trivial⟩
  | @disk directory commit onDisk lock leads stores locked layout snapshot complete lost seen
      released =>
    have location : Index.location { index with writer } = some directory := Index.location_eq lock
    simp only [Index.publish, location, Files.advance_lost lost, List.isEmpty_nil]
    refine ⟨?_, trivial, trivial⟩
    let same := addsNothing batch && workspace.committed.size = before.size
    obtain ⟨after, written, grows, nextStores, nextLocked⟩ := stores.rewrite locked
      ⟨index.binding.layout, workspace.committed,
        if same then index.files.commit else host.commits + 1, true⟩
    have bound : index.binding.layout = origin.schema.layout := by rw [binding]; rfl
    rw [written, Option.getD_some]
    exact .disk onDisk lock (grows.place? leads) nextStores nextLocked bound rfl rfl
      (Files.advance_lost lost _ _ _) seen (fun closed => absurd closed (by simp [writer, taking]))

theorem Files.reload_lost {files : Files} {commit : Commit} (none : files.lost = [])
    (complete : commit.complete) : (files.reload commit).lost = [] := by
  unfold Files.reload
  split
  · exact none
  · rfl

theorem Files.reload_deletions (files : Files) (commit : Commit) :
    (files.reload commit).deletions = files.deletions := by
  unfold Files.reload
  split <;> rfl

/-- To go back to what is stored is to go back to what the writer has committed. -/
theorem Origin.Secures.rollBack (secures : origin.Secures index host)
    (settled : index.writer.workspace = .ofSnapshot index.writer.workspace.committed) :
    let rolled := index.rollBack host
    origin.Secures rolled.1 rolled.2 ∧ rolled.1.binding = index.binding ∧
      rolled.1.writer = index.writer := by
  obtain ⟨stored, found, same, _⟩ := secures.stored?
  have writer : { index.writer with workspace := Workspace.ofSnapshot stored.snapshot } =
      index.writer := by rw [same, ← settled]
  simp only [Index.rollBack, found, writer]
  refine ⟨?_, trivial, trivial⟩
  cases secures with
  | memory inMemory lock memory => exact .memory inMemory lock memory
  | disk onDisk lock leads stores locked layout snapshot complete lost seen released =>
    have isStored := found
    simp only [Index.stored?, Index.location_eq lock, Option.map_some, stores.commit?] at isStored
    obtain rfl := Option.some.inj isStored
    exact .disk onDisk lock leads stores locked layout snapshot complete
      (Files.reload_lost lost complete) ((Files.reload_deletions _ _).trans seen) released

/-! ### Batches -/

theorem Index.executeBatch_closed (closed : index.writer.closed = true) (batch : List Operation) :
    index.executeBatch batch host = (batch.map (fun _ => .error .writerClosed), index, host) := by
  rw [Index.executeBatch, if_pos closed]

/-- Nothing but the batch itself decides whether it is committed. -/
theorem Origin.Secures.executeBatch (secures : origin.Secures index host)
    (taking : index.writer.closed = false) {batch : List Operation} {workspace : Workspace}
    {answers : List Answer}
    (applied : index.writer.workspace.applyBatch index.binding.layout .none batch =
      (workspace, answers)) :
    index.executeBatch batch host =
      if answers.any Except.isOk then
        (answers, Index.publish { index with writer := { index.writer with workspace } }
          index.writer.workspace.committed batch host)
      else (answers, index.rollBack host) := by
  have mishaps : ({ Mishaps.none with failsCommit := index.blocks batch host } : Mishaps) =
      .none := by
    rw [secures.blocks]
    rfl
  rw [Index.executeBatch, if_neg (by simp [taking])]
  simp only [secures.look, mishaps, applied]

section

variable {store : Cache α} {changes : List (Change α κ)}

theorem any_isOk_ok (some : changes ≠ []) :
    (changes.map (fun _ => (.ok () : Answer))).any Except.isOk = true := by
  obtain ⟨change, rest, rfl⟩ := List.exists_cons_of_ne_nil some
  simp [Except.isOk, Except.toBool]

theorem any_isOk_error (error : Change α κ → Error) :
    (changes.map (fun change => (.error (error change) : Answer))).any Except.isOk = false := by
  simp [Except.isOk, Except.toBool]

variable [Key κ] [Entity α κ]

/-- An index that publishes the documents of a store keeps them. -/
theorem Origin.Keeps.publish {after : Cache α} (keeps : origin.Keeps index host store)
    (taking : index.writer.closed = false) (keyed : origin.schema.Keyed after) {next : Snapshot}
    (documents : next.documents = origin.schema.documents after) (before : Snapshot)
    (batch : List Operation) :
    let writer := { index.writer with workspace := Workspace.ofSnapshot next }
    let published := Index.publish { index with writer } before batch host
    origin.Keeps published.1 published.2 after ∧ published.1.writer.closed = false := by
  intro writer published
  obtain ⟨secures, binding, same⟩ :=
    keeps.secures.publish keeps.binding taking (.ofSnapshot next) before batch
  have written : published.1.writer = writer := same
  refine ⟨⟨keyed, binding.trans keeps.binding, ?_, ?_, secures⟩, ?_⟩
  · rw [written]
    rfl
  · rw [written]
    exact documents
  · rw [written]
    exact taking

/-- An index that goes back to what is stored keeps its documents. -/
theorem Origin.Keeps.rollBack (keeps : origin.Keeps index host store) :
    let rolled := index.rollBack host
    origin.Keeps rolled.1 rolled.2 store ∧ rolled.1.writer = index.writer := by
  intro rolled
  obtain ⟨secures, binding, same⟩ := keeps.secures.rollBack keeps.settled
  have writer : rolled.1.writer = index.writer := same
  refine ⟨⟨keeps.keyed, binding.trans keeps.binding, ?_, ?_, secures⟩, writer⟩
  · rw [writer]
    exact keeps.settled
  · rw [writer]
    exact keeps.documents

variable [LawfulKey κ] [DecidableEq κ]

/-- A batch is carried out on the store as its answers say. -/
theorem Origin.Keeps.executeBatch (keeps : origin.Keeps index host store)
    (identified : ∀ change ∈ changes, change.Identified origin.schema) (some : changes ≠ []) :
    let answers := changes.map (Change.reply origin.schema index.writer.closed changes)
    let done := index.executeBatch (changes.map (Change.operation origin.schema.bound)) host
    done.1 = answers ∧ origin.Keeps done.2.1 done.2.2 (store.record (changes.zip answers)) ∧
      done.2.1.writer.closed = index.writer.closed := by
  intro answers done
  have layout : index.binding.layout = origin.schema.layout := by rw [keeps.binding]; rfl
  have batch := Workspace.applyBatch_changes keeps.keyed identified some keeps.documents
  rw [← keeps.settled, ← layout] at batch
  rw [← List.map_prod_left_eq_zip]
  cases closed : index.writer.closed with
  | true =>
    simp only [done, Index.executeBatch_closed closed, Change.reply_closed, List.map_map,
      Cache.record_error]
    refine ⟨?_, keeps, closed⟩
    simp only [answers, closed, Change.reply_closed]
    rfl
  | false =>
    by_cases fit : changes.all (Change.fits origin.schema)
    · rw [if_pos fit] at batch
      obtain ⟨next, applied, documents⟩ := batch
      obtain ⟨kept, taking⟩ := keeps.publish closed (keeps.keyed.foldl_after identified) documents
        index.writer.workspace.committed (changes.map (Change.operation origin.schema.bound))
      simp only [done, keeps.secures.executeBatch closed applied, any_isOk_ok some, if_true,
        Change.reply_fit fit, Cache.record_ok]
      refine ⟨?_, kept, taking⟩
      simp only [answers, closed, Change.reply_fit fit]
    · rw [if_neg fit] at batch
      obtain ⟨kept, writer⟩ := keeps.rollBack
      simp only [done, keeps.secures.executeBatch closed batch, any_isOk_error,
        Bool.false_eq_true, if_false, Change.reply_unfit fit, Cache.record_error]
      refine ⟨?_, kept, (congrArg Writer.closed writer).trans closed⟩
      simp only [answers, closed, Change.reply_unfit fit]

theorem batches_cons (size : Nat) (first : Operation) (rest : List Operation) :
    batches size (first :: rest) =
      (first :: rest.take size) :: batches size (rest.drop size) := by
  rw [batches]

/-- Batches are carried out on the store as their answers say. -/
theorem Origin.Keeps.executeBatches (size : Nat) {index : Index α} {host : Host} {store : Cache α}
    (keeps : origin.Keeps index host store) (changes : List (Change α κ))
    (identified : ∀ change ∈ changes, change.Identified origin.schema) :
    let done := index.executeBatches host
      (batches size (changes.map (Change.operation origin.schema.bound)))
    done.1.length = changes.length ∧
      origin.Keeps done.2.1 done.2.2 (store.record (changes.zip done.1)) ∧
      done.2.1.writer.closed = index.writer.closed := by
  match changes with
  | [] =>
    rw [List.map_nil, batches]
    exact ⟨rfl, keeps, rfl⟩
  | change :: rest =>
    have parts : change :: rest = (change :: rest.take size) ++ rest.drop size := by simp
    have first (other : Change α κ) (member : other ∈ change :: rest.take size) :
        other.Identified origin.schema :=
      identified other (parts ▸ List.mem_append_left _ member)
    have later (other : Change α κ) (member : other ∈ rest.drop size) :
        other.Identified origin.schema :=
      identified other (parts ▸ List.mem_append_right _ member)
    obtain ⟨replies, keepsFirst, closedFirst⟩ := keeps.executeBatch first (by simp)
    obtain ⟨count, keepsLater, closedLater⟩ :=
      Origin.Keeps.executeBatches size keepsFirst (rest.drop size) later
    rw [List.map_cons, batches_cons, ← List.map_take, ← List.map_drop, ← List.map_cons]
    simp only [Index.executeBatches, replies]
    refine ⟨?_, ?_, closedLater.trans closedFirst⟩
    · rw [List.length_append, count, parts, List.length_append, List.length_map]
    · rw [parts, List.zip_append (by simp), Cache.record_append]
      exact keepsLater
termination_by changes.length
decreasing_by simp only [List.length_drop, List.length_cons]; omega

/-- Changes that are asked for together are carried out on the store as their answers say. -/
theorem Origin.Keeps.execute (keeps : origin.Keeps index host store)
    (identified : ∀ change ∈ changes, change.Identified origin.schema) :
    let done := index.execute (changes.map (Change.operation index.binding)) host
    done.1.length = changes.length ∧
      origin.Keeps done.2.1 done.2.2 (store.record (changes.zip done.1)) ∧
      done.2.1.writer.closed = index.writer.closed := by
  rw [keeps.binding]
  exact keeps.executeBatches _ changes identified

/-- A single change is acknowledged if the writer is not closed and the values fit. -/
theorem Origin.Keeps.execute_one (keeps : origin.Keeps index host store) {change : Change α κ}
    (identified : change.Identified origin.schema) :
    (index.execute [change.operation index.binding] host).1 =
      [change.reply origin.schema index.writer.closed [change]] := by
  have only : ∀ other ∈ [change], other.Identified origin.schema := by simpa using identified
  obtain ⟨replies, _, _⟩ := keeps.executeBatch only (by simp)
  rw [keeps.binding, Index.execute, batches_cons]
  simp only [List.take_nil, List.drop_nil, batches, Index.executeBatches, List.append_nil]
  exact replies

end

end KeyedIndex
