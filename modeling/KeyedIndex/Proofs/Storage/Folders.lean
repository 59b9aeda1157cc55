import KeyedIndex.Proofs.Storage.Listing

/-!
Folders of a base folder. To open an index makes the folder of its version, if need be, and writes
into that folder only, so nothing else in the base folder changes (`Disk.Enters`), whether the index
is opened in the end or not (`Disk.openIndex_enters`, `Disk.lockCommit_enters`). A base folder that
has nothing but folders with distinct names in it stays so (`Node.Tidy`).
-/
namespace KeyedIndex

/-! ### Entries below a place -/

section

variable {γ : Type} {root : Node γ} {place : FilePath} {name : String}

theorem Node.isFolder_put (node : Node γ) (place : FilePath) (root : Node γ) :
    (Node.put node place root).isFolder = root.isFolder := by
  cases root with
  | file content => cases place <;> rfl
  | folder entries =>
    rcases place with _ | ⟨step, _ | ⟨next, rest⟩⟩ <;> rfl

/-- What is put below a place changes what stands there as if that were the root. -/
theorem Node.at?_put_below (node : Node γ) {rest : FilePath} (inner : rest ≠ []) {found : Node γ}
    (stands : root.at? place = some found) :
    (Node.put node (place ++ rest) root).at? place = some (Node.put node rest found) := by
  induction place generalizing root with
  | nil =>
    obtain rfl := Option.some.inj stands
    rfl
  | cons step more ih =>
    cases root with
    | file content => cases stands
    | folder entries =>
      rw [Node.at?] at stands
      obtain ⟨child, here, inside⟩ := Option.bind_eq_some_iff.mp stands
      simp only [Node.entries] at here
      rw [List.cons_append, Node.put_cons (by simp [inner]), Node.at?, here, Option.getD_some]
      simp only [Node.entries, lookup_setEntry_self, Option.bind_some]
      exact ih inside

/-- If something stands at a place, it is a folder with nothing but folders in it, and no two of them
    have one name. -/
def Node.Tidy (root : Node γ) (place : FilePath) : Prop :=
  ∀ found, root.at? place = some found → ∃ entries, found = .folder entries ∧
    (entries.map Prod.fst).Nodup ∧ ∀ entry ∈ entries, entry.2.isFolder = true

theorem Node.Tidy.hasFolder (tidy : root.Tidy place)
    (present : (root.at? (place ++ [name])).isSome) : root.hasFolder (place ++ [name]) := by
  rw [Node.hasFolder]
  obtain ⟨node, stands⟩ := Option.isSome_iff_exists.mp present
  rw [stands]
  rw [Node.at?_concat] at stands
  obtain ⟨found, here, inside⟩ := Option.bind_eq_some_iff.mp stands
  obtain ⟨entries, rfl, distinct, folders⟩ := tidy found here
  exact folders _ ((lookup_eq_some_iff distinct).mp inside)

/-- A folder stays tidy if only folders are put into it. -/
theorem Node.Tidy.put (tidy : root.Tidy place) (node : Node γ) {rest : FilePath}
    (present : (root.at? place).isSome) (folder : rest = [] → node.isFolder = true) :
    (Node.put node (place ++ name :: rest) root).Tidy place := by
  intro found stands
  obtain ⟨before, here⟩ := Option.isSome_iff_exists.mp present
  obtain ⟨entries, rfl, distinct, folders⟩ := tidy before here
  rw [Node.at?_put_below node (by simp) here] at stands
  obtain rfl := Option.some.inj stands
  cases rest with
  | nil =>
    refine ⟨_, rfl, nodup_setEntry distinct, ?_⟩
    intro entry member
    rcases mem_setEntry member with rfl | old
    · exact folder rfl
    · exact folders entry old
  | cons next more =>
    refine ⟨_, rfl, nodup_setEntry distinct, ?_⟩
    intro entry member
    rcases mem_setEntry member with rfl | old
    · rw [Node.isFolder_put]
      cases inside : entries.lookup name with
      | none => rfl
      | some child => exact folders _ ((lookup_eq_some_iff distinct).mp inside)
    · exact folders entry old

end

/-! ### Changes under one name -/

/-- Under one name only something has been put into the folder of a path, and nothing has been taken
    away. What stands there afterwards stood there before, or the path leads to it. -/
structure Disk.Enters (name : String) (base : FilePath) (before after : Disk) : Prop where
  grows : before.Grows after
  others : SameExcept [name] base.goal before after
  tidy : before.Tidy base.goal → after.Tidy base.goal
  leads : (after.at? (base.goal ++ [name])).isSome → (before.at? (base.goal ++ [name])).isSome ∨
    after.Reaches base ∧ FilePath.isUsable (base ++ [name])

section

variable {base : FilePath} {name file : String} {before middle after : Disk}

theorem Disk.Enters.refl (name : String) (base : FilePath) (disk : Disk) :
    Disk.Enters name base disk disk :=
  ⟨.refl disk, fun _ _ => rfl, id, .inl⟩

theorem Disk.Enters.trans (first : Disk.Enters name base before middle)
    (second : Disk.Enters name base middle after) : Disk.Enters name base before after where
  grows := first.grows.trans second.grows
  others other apart := (second.others other apart).trans (first.others other apart)
  tidy here := second.tidy (first.tidy here)
  leads present := by
    rcases second.leads present with inside | new
    · rcases first.leads inside with old | ⟨reaches, usable⟩
      · exact .inl old
      · exact .inr ⟨second.grows.reaches reaches, usable⟩
    · exact .inr new

/-- To make the base folder puts nothing into it. -/
theorem Disk.Enters.makeBase (direct : base.Direct) (name : String) (disk : Disk) :
    Disk.Enters name base disk (disk.makeFolder base).1 where
  grows := disk.grows_makeFolder base
  others other _ := Node.at?_makeFolder direct disk other
  tidy tidy := by
    have stands : (disk.makeFolder base).1.at? base.goal = disk.at? base.goal ∨
        (disk.makeFolder base).1.at? base.goal = some (.folder []) := by
      unfold Node.makeFolder
      split
      · exact (Node.at?_foldl_enter_goal direct).imp_right And.right
      · exact .inl rfl
    intro found here
    rcases stands with same | made
    · exact tidy found (same ▸ here)
    · exact ⟨[], Option.some.inj (here.symm.trans made), List.nodup_nil, by simp⟩
  leads present := .inl (Node.at?_makeFolder direct disk name ▸ present)

theorem Disk.Enters.putFolder (reaches : before.Reaches base)
    (usable : FilePath.isUsable (base ++ [name]))
    (absent : before.at? (base.goal ++ [name]) = none) :
    Disk.Enters name base before (Node.put (.folder []) (base.goal ++ [name]) before) := by
  have grows := Node.grows_put_folder reaches.2 absent
  exact {
    grows := grows
    others := fun other apart =>
      Node.at?_put_sibling _ reaches.2 (List.mem_singleton.not.mp apart)
    tidy := fun tidy =>
      tidy.put (.folder []) (Node.isSome_at?_of_hasFolder reaches.2) (fun _ => rfl)
    leads := fun _ => .inr ⟨grows.reaches reaches, usable⟩ }

/-- The folder that is made under the name is the only entry that is new. -/
theorem Disk.Enters.makeFolder (direct : base.Direct) (disk : Disk) :
    Disk.Enters name base disk (disk.makeFolder (base ++ [name])).1 := by
  by_cases usable : FilePath.isUsable (base ++ [name])
  · have made : disk.makeFolder (base ++ [name]) = Node.enter (disk.makeFolder base) name := by
      simp only [Node.makeFolder, if_pos usable, if_pos (FilePath.isUsable_of_append usable),
        List.foldl_append, List.foldl_cons, List.foldl_nil]
    rw [made]
    refine (Disk.Enters.makeBase direct name disk).trans ?_
    rcases reached : disk.makeFolder base with ⟨root, _ | place⟩
    · exact .refl name base root
    · have entered := root.entered place name
      generalize Node.enter (root, some place) name = state at entered ⊢
      cases entered with
      | lost => exact .refl name base root
      | found => exact .refl name base root
      | made folder plain absent =>
        have isFolder : (disk.makeFolder base).1.isFolder := by
          rw [reached]
          exact Node.isFolder_of_hasFolder folder
        obtain ⟨-, leads, -⟩ :=
          Node.makeFolder_spec (Node.isFolder_of_makeFolder isFolder) reached
        obtain rfl := Node.place?_goal leads
        exact .putFolder ⟨leads, folder⟩ usable absent
  · have none : disk.makeFolder (base ++ [name]) = (disk, none) := by
      rw [Node.makeFolder, if_neg usable]
    rw [none]
    exact .refl name base disk

theorem Disk.hasFolder_of_commit {disk : Disk} {directory : FilePath} {commit : Commit}
    (committed : disk.commit? directory = some commit) : disk.hasFolder directory := by
  unfold Disk.commit? at committed
  split at committed
  · rename_i stands
    exact Node.hasFolder_of_entry (Option.isSome_of_eq_some stands)
  · contradiction

section

variable (plain : IsPlain name)
include plain

/-- A file that is written into the folder with the name is no concern of the other entries. -/
theorem Disk.Enters.writeFile {content : FileContent}
    (written : Node.writeFile? content (base.goal ++ [name] ++ [file]) before = some after) :
    Disk.Enters name base before after := by
  obtain ⟨reaches, _, _, free, rfl⟩ := Node.writeFile?_append_eq_some.mp written
  rw [FilePath.goal_goal_append plain] at free ⊢
  have folder : before.hasFolder (base.goal ++ [name]) :=
    FilePath.goal_goal_append plain base ▸ reaches.2
  exact {
    grows := Node.grows_put _ folder free
    others := by
      intro other apart
      have differs : other ≠ name := List.mem_singleton.not.mp apart
      rw [List.append_assoc]
      refine Node.at?_put_apart _ ?_ ?_
      · rw [List.prefix_append_right_inj]
        intro through
        exact differs (List.cons_prefix_cons.mp through).1.symm
      · rw [List.prefix_append_right_inj]
        intro through
        exact differs (List.cons_prefix_cons.mp through).1
    tidy := by
      intro tidy
      rw [List.append_assoc]
      have stands := Node.isSome_at?_of_hasFolder (Node.hasFolder_of_append folder)
      exact tidy.put _ stands (by simp)
    leads := fun _ => .inl (Node.isSome_at?_of_hasFolder folder) }

theorem Disk.hasFolder_of_writeCommit {commit : Commit}
    (written : before.writeCommit? (base.goal ++ [name]) commit = some after) :
    before.hasFolder (base.goal ++ [name]) := by
  obtain ⟨_, list, _⟩ := Option.bind_eq_some_iff.mp written
  obtain ⟨reaches, _⟩ := Node.writeFile?_append_eq_some.mp list
  exact FilePath.goal_goal_append plain base ▸ reaches.2

theorem Disk.Enters.makeLockFile
    (made : before.makeLockFile? (base.goal ++ [name] ++ [file]) = some after) :
    Disk.Enters name base before after := by
  unfold Disk.makeLockFile? at made
  split at made
  · exact .writeFile plain made
  · split at made
    · contradiction
    · exact Option.some.inj made ▸ .refl name base before

theorem Disk.Enters.writeCommit {commit : Commit}
    (written : before.writeCommit? (base.goal ++ [name]) commit = some after) :
    Disk.Enters name base before after := by
  obtain ⟨middle, list, index⟩ := Option.bind_eq_some_iff.mp written
  exact (Disk.Enters.writeFile plain list).trans (.writeFile plain index)

/-- To lock the folder of a version changes nothing else. -/
theorem Disk.lockCommit_enters (disk : Disk) (commit : Commit) :
    Disk.Enters name base disk (disk.lockCommit (base.goal ++ [name]) commit).2 := by
  unfold Disk.lockCommit
  split
  · exact .refl name base disk
  · rename_i first readers
    have locked : Disk.Enters name base disk first := .makeLockFile plain readers
    split
    · exact locked
    · split
      · exact locked
      · rename_i second writer
        exact locked.trans (.makeLockFile plain writer)

/-- To open the index in the folder of a version changes nothing else, even if that fails. -/
theorem Disk.openIndex_enters {α : Type} (direct : base.Direct) (disk : Disk) (schema : Schema α) :
    Disk.Enters name base disk (disk.openIndex (base ++ [name]) schema).2 := by
  unfold Disk.openIndex
  split
  · dsimp only
    split
    · exact .refl name base disk
    · split <;> exact .refl name base disk
  · have entered : Disk.Enters name base disk (disk.makeFolder (base ++ [name])).1 :=
      .makeFolder direct disk
    split
    · rename_i root made
      rwa [made] at entered
    · rename_i root place made
      rw [made] at entered
      dsimp only
      split
      · rename_i last written
        split at written
        · obtain rfl := Node.makeFolder_goal made
          rw [FilePath.goal_append plain] at written
          exact entered.trans (.writeCommit plain written)
        · contradiction
      · exact entered

/-- An index that is opened is stored in the folder with the name. -/
theorem Disk.openIndex_place {α : Type} {schema : Schema α} {place : FilePath} {commit : Commit}
    (opened : before.openIndex (base ++ [name]) schema = (.ok (place, commit), after)) :
    place = base.goal ++ [name] ∧ after.hasFolder (base.goal ++ [name]) := by
  by_cases found : before.has (indexFile (base ++ [name]))
  · obtain ⟨index, rfl⟩ := Disk.openIndex_hasIndex found opened
    obtain rfl := Node.place?_goal index.leads
    have folder := Disk.hasFolder_of_commit index.committed
    rw [FilePath.goal_append plain] at folder ⊢
    exact ⟨rfl, folder⟩
  · obtain ⟨-, leads, stores⟩ := Disk.openIndex_fresh (Bool.eq_false_iff.mpr found) opened
    obtain rfl := Node.place?_goal leads
    have folder := stores.folder
    rw [FilePath.goal_append plain] at folder ⊢
    exact ⟨rfl, folder⟩

end

end

end KeyedIndex
