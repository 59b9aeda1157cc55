import KeyedIndex.Proofs.Storage.StateFile

/-!
Changes of versions that fail. When a state cannot be set, nothing has changed but the draft of the
new states. When a version cannot be removed, the states are what they were, but the directory of
the version may be gone all the same, since it is deleted before the states are read
(`Versions.failure_keeps`); then the version can still be noted as ready
(`Versions.removed_still_ready`).
-/
namespace KeyedIndex

/-- What other names stand for is found as before. -/
theorem ChangesOnly.find?_eq {names : List String} {base : FilePath} {before after : Disk}
    {name : String} (changes : ChangesOnly names base before after) (apart : name ∉ names)
    (plain : IsPlain name) (here : before.Reaches base) :
    after.find? (base ++ [name]) = before.find? (base ++ [name]) := by
  by_cases usable : FilePath.isUsable (base ++ [name])
  · rw [Node.find?_append (changes.reaches here) plain usable, Node.find?_append here plain usable,
      changes.others name apart]
  · have nowhere (disk : Disk) : disk.find? (base ++ [name]) = none := by
      rw [Node.find?, Node.place?, if_neg usable, Option.bind_none]
    rw [nowhere, nowhere]

namespace Versions

variable {versions : Versions} {states : StateMap} {before after disk : Disk} {version : Nat}
  {names : List String} {fault : Error}

section Named

variable (named : versions.IsNamed)
include named

/-- States can only be read in a folder to which the path of the base directory leads. -/
theorem IsNamed.reaches_of_load (loaded : versions.load disk ≠ .ok []) :
    disk.Reaches versions.base := by
  unfold load at loaded
  rw [named.stateFile] at loaded
  split at loaded
  · exact absurd rfl loaded
  all_goals
    rename_i found
    exact (Node.find?_eq_some versions.isPlain_stateName found).1

/-- The states are read as before if their file has not changed. -/
theorem IsNamed.load_eq (changes : ChangesOnly names versions.base before after)
    (apart : versions.stateName ∉ names) (here : before.Reaches versions.base) :
    versions.load after = versions.load before := by
  unfold load
  rw [named.stateFile, changes.find?_eq apart versions.isPlain_stateName here]

/-! ### States that cannot be written -/

theorem IsNamed.markReady_error {ready : Bool} {now : Time.Instant}
    (marked : versions.markReady version ready now before = (.error fault, after)) :
    ChangesOnly [versions.draftName] versions.base before after := by
  unfold markReady at marked
  split at marked
  · exact (named.save marked).2
  · obtain ⟨_, rfl⟩ := Prod.mk.inj marked
    exact ChangesOnly.refl _ _ _

/-- To forget a state fails only where states are read. -/
theorem IsNamed.forget_error (forgot : versions.forget version before = (.error fault, after)) :
    ChangesOnly [versions.draftName] versions.base before after ∧ before.Reaches versions.base := by
  unfold forget at forgot
  split at forgot
  · rename_i states loaded
    split at forgot
    · rename_i known
      refine ⟨(named.save forgot).2, named.reaches_of_load ?_⟩
      intro empty
      obtain rfl := Except.ok.inj (loaded.symm.trans empty)
      simp at known
    · simp at forgot
  · rename_i reason loaded
    obtain ⟨_, rfl⟩ := Prod.mk.inj forgot
    refine ⟨ChangesOnly.refl _ _ _, named.reaches_of_load ?_⟩
    simp [loaded]

/-! ### Directories that are deleted before -/

theorem IsNamed.find?_deleted
    (deleted : versions.deleteDirectory version before = .ok after) :
    after.find? (versions.directory version) = none ∧
      (after = before ∨ before.Reaches versions.base ∧
        before.find? (versions.directory version) ≠ none) := by
  have plain := versions.isPlain_directoryName version
  unfold deleteDirectory at deleted
  split at deleted
  · rename_i nowhere
    obtain rfl := Except.ok.inj deleted
    refine ⟨?_, .inl rfl⟩
    rw [Node.find?, nowhere, Option.bind_none]
  · rename_i place leads
    rw [named.directory] at leads ⊢
    obtain ⟨here, usable, rfl, present⟩ := Node.place?_eq_some plain leads
    split at deleted
    · obtain rfl := Except.ok.inj deleted
      refine ⟨?_, .inr ⟨here, ?_⟩⟩
      · rw [Node.find?_append (here.remove named.direct _) plain usable, Node.at?_remove_self]
      · rw [Node.find?_append here plain usable]
        exact Option.isSome_iff_ne_none.mp present
    · contradiction

/-- When a version cannot be removed, either its directory could not be deleted and nothing has
    changed, or nothing is found any more where the directory would be. -/
theorem IsNamed.remove_error (removed : versions.remove version before = (.error fault, after)) :
    versions.load after = versions.load before ∧
    ChangesOnly [versions.directoryName version, versions.draftName] versions.base before after ∧
    (after = before ∨ after.find? (versions.directory version) = none) ∧
    (before.find? (versions.directory version) = none →
      ChangesOnly [versions.draftName] versions.base before after) := by
  unfold remove at removed
  split at removed
  · obtain ⟨_, rfl⟩ := Prod.mk.inj removed
    exact ⟨rfl, ChangesOnly.refl _ _ _, .inl rfl, fun _ => ChangesOnly.refl _ _ _⟩
  · rename_i middle deleted
    obtain ⟨gone, kept⟩ := named.find?_deleted deleted
    obtain ⟨drafted, reached⟩ := named.forget_error removed
    have noDirectory : versions.directoryName version ∉ [versions.draftName] := by
      rw [List.mem_singleton]
      exact (versions.directoryName_ne version versions.getLast?_draftName (by decide)).symm
    have noState : versions.stateName ∉ [versions.directoryName version, versions.draftName] := by
      rw [List.mem_cons, List.mem_singleton, not_or]
      exact ⟨versions.directoryName_ne version versions.getLast?_stateName (by decide),
        stateName_ne_draftName versions versions⟩
    have changes : ChangesOnly [versions.directoryName version, versions.draftName] versions.base
        before after :=
      ((deleteDirectory_changes named deleted).mono (by simp)).trans (drafted.mono (by simp))
    have still : after.find? (versions.directory version) = none := by
      rw [named.directory] at gone ⊢
      rw [drafted.find?_eq noDirectory (versions.isPlain_directoryName version) reached, gone]
    rcases kept with rfl | ⟨here, stood⟩
    · exact ⟨named.load_eq changes noState reached, changes, .inr still, fun _ => drafted⟩
    · exact ⟨named.load_eq changes noState here, changes, .inr still, fun none => absurd none stood⟩

end Named

/-- For every content of the base directory, whatever the states are written like: when noting
    whether a version is ready fails, everything in the base directory is as before but the draft of
    the states, and so is everything when the removal of a version fails whose directory is not
    there. When the removal of another version fails, the states of all versions and all other
    directories are as before; but unless the failure is that the directory could not be deleted, in
    which case nothing has changed, the directory is gone. -/
theorem failure_keeps (named : versions.IsNamed) (before : Disk) (version : UInt32) :
    (∀ (ready : Bool) (now : Time.Instant) (fault : Error) (after : Disk),
      versions.markReady version.toNat ready now before = (.error fault, after) →
      SameExcept [versions.draftName] versions.base.goal before after ∧
        (before.Reaches versions.base → versions.load after = versions.load before)) ∧
    ∀ (fault : Error) (after : Disk),
      versions.remove version.toNat before = (.error fault, after) →
      versions.load after = versions.load before ∧
      SameExcept [versions.directoryName version.toNat, versions.draftName] versions.base.goal
        before after ∧
      (after = before ∨ after.find? (versions.directory version.toNat) = none) ∧
      (before.find? (versions.directory version.toNat) = none →
        SameExcept [versions.draftName] versions.base.goal before after) := by
  constructor
  · intro ready now fault after marked
    have changes := named.markReady_error marked
    refine ⟨changes.others, named.load_eq changes ?_⟩
    simpa using stateName_ne_draftName versions versions
  · intro fault after removed
    obtain ⟨loaded, changes, directory, absent⟩ := named.remove_error removed
    exact ⟨loaded, changes.others, directory, fun none => (absent none).others⟩

/-- A folder stands where the draft of the states would be written, so that neither version can be
    noted as ready or be removed. -/
theorem failure_keeps_folder :
    let versions : Versions := ⟨["data"], "groups"⟩
    let states : StateMap := [(1, ⟨true, .epoch⟩), (2, ⟨false, .epoch⟩)]
    let disk : Disk := .folder [("data", .folder [("groups_0001", .folder []),
      ("groups_versions.json", .file (.text states.toJson.printLines)),
      ("groups_versions.json.tmp", .folder [])])]
    (versions.markReady 2 true .epoch disk).1 = .error .storage ∧
      (versions.remove 2 disk).1 = .error .storage ∧
      versions.load (versions.markReady 2 true .epoch disk).2 = versions.load disk ∧
      (versions.remove 2 disk).2.at? ["data", "groups_0001"] = disk.at? ["data", "groups_0001"] := by
  intro versions states disk
  have marked : (versions.markReady 2 true .epoch disk).1 = .error .storage :=
    fault?_eq_some.mp (by decide +kernel)
  have removed : (versions.remove 2 disk).1 = .error .storage :=
    fault?_eq_some.mp (by decide +kernel)
  have named : versions.IsNamed := ⟨by decide, by decide⟩
  have keeps := failure_keeps named disk 2
  have markKeeps := keeps.1 true .epoch .storage _ (Prod.ext marked rfl)
  have removeKeeps := keeps.2 .storage _ (Prod.ext removed rfl)
  refine ⟨marked, removed, markKeeps.2 ⟨by decide +kernel, by decide +kernel⟩, ?_⟩
  exact removeKeeps.2.2.2 (Option.isNone_iff_eq_none.mp (by decide +kernel)) "groups_0001" (by decide)

/-- Two versions that cannot be removed: the states of the first kind cannot be written, and those of
    the second cannot be read. Their directories are gone, and the first version is still noted as
    ready. -/
theorem removed_still_ready :
    let groups : Versions := ⟨["data"], "groups"⟩
    let teams : Versions := ⟨["data"], "teams"⟩
    let states : StateMap := [(1, ⟨true, .epoch⟩)]
    let disk : Disk := .folder [("data", .folder [("groups_0001", .folder []),
      ("groups_versions.json", .file (.text states.toJson.printLines)),
      ("groups_versions.json.tmp", .folder []),
      ("teams_0001", .folder []), ("teams_versions.json", .file (.text "ready"))])]
    (∃ after, groups.remove 1 disk = (.error .storage, after) ∧
      disk.hasFolder ["data", "groups_0001"] ∧ ¬ after.hasFolder ["data", "groups_0001"] ∧
      groups.isReady 1 after = .ok true) ∧
    ∃ after, teams.remove 1 disk = (.error .serialization, after) ∧
      disk.hasFolder ["data", "teams_0001"] ∧ ¬ after.hasFolder ["data", "teams_0001"] := by
  intro groups teams states disk
  have unwritten : (groups.remove 1 disk).1 = .error .storage :=
    fault?_eq_some.mp (by decide +kernel)
  have unread : (teams.remove 1 disk).1 = .error .serialization :=
    fault?_eq_some.mp (by decide +kernel)
  refine ⟨⟨_, Prod.ext unwritten rfl, by decide, by decide +kernel, ?_⟩,
    ⟨_, Prod.ext unread rfl, by decide, by decide +kernel⟩⟩
  exact toOption_eq_some.mp (by decide +kernel)

end Versions

end KeyedIndex
