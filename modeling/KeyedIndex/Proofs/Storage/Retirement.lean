import KeyedIndex.Proofs.Storage.Listing

/-!
Versions that are removed. When a version has been removed, its state and the directory with the
name that is written for it are gone, and all others are found as before
(`Versions.remove_spec`). So where directories have the names that are written for their
versions, nothing is left of versions that were removed because they are older than a current
one, and the newest version that is ready is the greatest of the others
(`Versions.scan_retired`).
-/
namespace KeyedIndex.Versions

variable {versions : Versions} {states : StateMap} {before after disk : Disk} {version : Nat}
  {order : ReadOrder}

/-! ### What is left -/

section Named

variable (named : versions.IsNamed)
include named

theorem IsNamed.holds (orderly : disk.Orderly versions.base)
    (loaded : versions.load disk = .ok states) : versions.Holds states disk := by
  unfold Versions.load at loaded
  split at loaded
  · rename_i nothing
    refine .inl ⟨(Except.ok.inj loaded).symm, ?_⟩
    by_contra present
    have usable := orderly.usable _ (Option.isSome_iff_ne_none.mpr present)
    rw [named.stateFile, Node.find?_append orderly.reaches versions.isPlain_stateName usable]
      at nothing
    exact present nothing
  · contradiction
  · contradiction
  · rename_i content found
    split at loaded
    · rename_i given read
      exact .inr ⟨content, found, Except.ok.inj loaded ▸ read⟩
    · contradiction

theorem IsNamed.orderly_save {result : Except Error Unit} (orderly : before.Orderly versions.base)
    (saved : versions.save states before = (result, after)) : after.Orderly versions.base := by
  have made : (before.makeFolder versions.base).1 = before := by
    rw [Node.makeFolder_of_place? orderly.reaches.1 orderly.reaches.2]
  obtain ⟨_, rfl⟩ | ⟨drafted, draft, ⟨_, rfl⟩ | ⟨_, state⟩⟩ := named.save_cases saved
  · rwa [made]
  · rw [made] at draft
    exact orderly.writeFile draft
  · rw [made] at draft
    exact ((orderly.writeFile draft).remove named.direct versions.draftName).writeFile state

theorem IsNamed.orderly_forget {result : Except Error Unit} (orderly : before.Orderly versions.base)
    (forgot : versions.forget version before = (result, after)) : after.Orderly versions.base := by
  unfold forget at forgot
  split at forgot
  · split at forgot
    · exact named.orderly_save orderly forgot
    · exact (Prod.mk.inj forgot).2 ▸ orderly
  · exact (Prod.mk.inj forgot).2 ▸ orderly

/-- When the directory of a version has been deleted, nothing has its name. -/
theorem IsNamed.deleteDirectory_spec (orderly : before.Orderly versions.base)
    (deleted : versions.deleteDirectory version before = .ok after) :
    after.Orderly versions.base ∧
      after.at? (versions.base.goal ++ [versions.directoryName version]) = none := by
  have plain := versions.isPlain_directoryName version
  unfold deleteDirectory at deleted
  rw [named.directory] at deleted
  split at deleted
  · rename_i lost
    obtain rfl := Except.ok.inj deleted
    refine ⟨orderly, ?_⟩
    by_contra stands
    have present := Option.isSome_iff_ne_none.mpr stands
    rw [Node.place?_append orderly.reaches plain (orderly.usable _ present) present] at lost
    contradiction
  · rename_i place leads
    split at deleted
    · obtain rfl := Except.ok.inj deleted
      obtain ⟨_, _, rfl, _⟩ := Node.place?_eq_some plain leads
      exact ⟨orderly.remove named.direct _, before.at?_remove_self _ _⟩
    · contradiction

/-- When a version has been removed, its state is gone, and of the directories that are read as
    directories of versions the one with the name that is written for the version. -/
theorem IsNamed.remove_spec (orderly : before.Orderly versions.base)
    (loaded : versions.load before = .ok states)
    (removed : versions.remove version before = (.ok (), after)) :
    after.Orderly versions.base ∧
      versions.load after = .ok (states.filter (fun entry => entry.1 ≠ version)) ∧
      ∀ name number, readDirectoryName? versions.kind name = some number →
        (after.hasFolder (versions.base.goal ++ [name]) ↔
          name ≠ versions.directoryName version ∧
            before.hasFolder (versions.base.goal ++ [name])) := by
  unfold remove at removed
  split at removed
  · simp at removed
  · rename_i middle deleted
    obtain ⟨middleOrderly, gone⟩ := named.deleteDirectory_spec orderly deleted
    have directoryOnly := deleteDirectory_changes named deleted
    have filesOnly := forget_changes named version middle
    rw [removed] at filesOnly
    have noDirectory : versions.stateName ∉ [versions.directoryName version] :=
      List.mem_singleton.not.mpr
        (versions.directoryName_ne version versions.getLast?_stateName (by decide))
    have holds := ((named.holds orderly loaded).beside named directoryOnly noDirectory).forget named
      removed
    refine ⟨named.orderly_forget middleOrderly removed, holds.load named, fun name number read => ?_⟩
    obtain ⟨char, last, digit⟩ := getLast?_of_readDirectoryName? read
    -- The name of a directory ends with a digit, so it is none of the files of the kind.
    have noFile : name ∉ [versions.stateName, versions.draftName] := by
      have apart {other : String} {ending : Char} (otherLast : other.toList.getLast? = some ending)
          (noDigit : ending.isDigit = false) : name ≠ other := by
        rintro rfl
        obtain rfl := Option.some.inj (last.symm.trans otherLast)
        rw [digit] at noDigit
        contradiction
      simpa using ⟨apart versions.getLast?_stateName (by decide),
        apart versions.getLast?_draftName (by decide)⟩
    rw [Node.hasFolder, Node.hasFolder, filesOnly.others name noFile]
    by_cases same : name = versions.directoryName version
    · simp [same, gone]
    · rw [directoryOnly.others name (List.mem_singleton.not.mpr same)]
      simp [same]

theorem IsNamed.remove_canonical (orderly : before.Orderly versions.base)
    (loaded : versions.load before = .ok states) (canonical : versions.Canonical before)
    (removed : versions.remove version before = (.ok (), after)) : versions.Canonical after := by
  obtain ⟨_, _, folders⟩ := named.remove_spec orderly loaded removed
  exact fun name number folder read => canonical name number ((folders name number read).mp folder).2 read

/-- Every other version is found as before. -/
theorem IsNamed.finds_remove (word : Number.nat32.has version) (orderly : before.Orderly versions.base)
    (loaded : versions.load before = .ok states)
    (removed : versions.remove version before = (.ok (), after)) {item : FoundVersion}
    (differs : item.version ≠ version) :
    versions.Finds (states.filter (fun entry => entry.1 ≠ version)) after item ↔
      versions.Finds states before item := by
  obtain ⟨_, _, folders⟩ := named.remove_spec orderly loaded removed
  have apart (read : readDirectoryName? versions.kind item.directory = some item.version) :
      item.directory ≠ versions.directoryName version := by
    intro same
    rw [same, readDirectoryName?_directoryName versions word] at read
    exact differs (Option.some.inj read).symm
  constructor
  · rintro ⟨folder, read, ready⟩
    rw [lookup_filter_ne _ differs] at ready
    exact ⟨((folders _ _ read).mp folder).2, read, ready⟩
  · rintro ⟨folder, read, ready⟩
    refine ⟨(folders _ _ read).mpr ⟨apart read, folder⟩, read, ?_⟩
    rw [ready, lookup_filter_ne _ differs]

/-- Of the version itself only directories under other names are found, and it is not ready. -/
theorem IsNamed.finds_removed (orderly : before.Orderly versions.base)
    (loaded : versions.load before = .ok states)
    (removed : versions.remove version before = (.ok (), after)) {item : FoundVersion}
    (finds : versions.Finds (states.filter (fun entry => entry.1 ≠ version)) after item)
    (same : item.version = version) :
    item.directory ≠ versions.directoryName version ∧ item.ready = false := by
  obtain ⟨_, _, folders⟩ := named.remove_spec orderly loaded removed
  refine ⟨((folders _ _ finds.named).mp finds.folder).1, ?_⟩
  rw [finds.ready, same, lookup_filter_self]
  rfl

/-! ### Versions that are removed one after the other -/

omit named in
/-- The disk after versions have been removed, if none of that fails. -/
def removeEach? (versions : Versions) (retired : List Nat) (disk : Disk) : Option Disk :=
  retired.foldlM (fun disk version =>
    match versions.remove version disk with
    | (.ok _, after) => some after
    | (.error _, _) => none) disk

theorem IsNamed.scan_remove (word : Number.nat32.has version)
    (orderly : before.Orderly versions.base) (loaded : versions.load before = .ok states)
    (canonical : versions.Canonical before) {found : List FoundVersion}
    (scanned : versions.scan order before = .ok found)
    (removed : versions.remove version before = (.ok (), after)) (later : ReadOrder) :
    versions.scan later after = .ok (found.filter (fun item => item.version ≠ version)) := by
  obtain ⟨items, here, distinct, sorted, finds⟩ := scan_spec order orderly loaded
  obtain rfl := Except.ok.inj (scanned.symm.trans here)
  obtain ⟨afterOrderly, afterLoaded, _⟩ := named.remove_spec orderly loaded removed
  obtain ⟨left, there, leftDistinct, leftSorted, leftFinds⟩ :=
    scan_spec later afterOrderly afterLoaded
  have afterCanonical := named.remove_canonical orderly loaded canonical removed
  -- Both are in the order of their versions, so it is enough that they have the same members.
  have same : left = found.filter (fun item => item.version ≠ version) := by
    refine eq_of_mem_iff (scan_canonical afterCanonical leftDistinct leftSorted leftFinds)
      ((scan_canonical canonical distinct sorted finds).filter _) fun item => ?_
    rw [leftFinds item, List.mem_filter, finds item, decide_eq_true_eq]
    by_cases retired : item.version = version
    · -- Its directory would have another name than the one that is written for it.
      refine iff_of_false (fun still => ?_) (fun kept => kept.2 retired)
      have other := (named.finds_removed orderly loaded removed still retired).1
      exact other (retired ▸ afterCanonical.directory still)
    · rw [named.finds_remove word orderly loaded removed retired]
      simp [retired]
  rw [there, same]

/-- When versions have been removed one after the other, the others are left. -/
theorem IsNamed.scan_removeEach {retired : List Nat} (words : ∀ version ∈ retired,
      Number.nat32.has version) (orderly : before.Orderly versions.base)
    (loaded : versions.load before = .ok states) (canonical : versions.Canonical before)
    {found : List FoundVersion} (scanned : versions.scan order before = .ok found)
    (removed : versions.removeEach? retired before = some after) (later : ReadOrder) :
    versions.scan later after = .ok (found.filter (fun item => item.version ∉ retired)) := by
  -- What is left can be listed and read again, so that the next version can be removed.
  have kept := keeps_foldlM (fun gone disk => disk.Orderly versions.base ∧
      (∃ states, versions.load disk = .ok states) ∧ versions.Canonical disk ∧
      ∀ later, versions.scan later disk = .ok (found.filter (fun item => item.version ∉ gone)))
    ?_ ⟨orderly, ⟨states, loaded⟩, canonical, fun later => ?_⟩ removed
  · exact kept.2.2.2 later
  · rintro gone disk _ ⟨orderly, ⟨states, loaded⟩, canonical, scanned⟩ version member next stepped
    split at stepped
    · rename_i left step
      obtain rfl := Option.some.inj stepped
      obtain ⟨nextOrderly, nextLoaded, _⟩ := named.remove_spec orderly loaded step
      refine ⟨nextOrderly, ⟨_, nextLoaded⟩, named.remove_canonical orderly loaded canonical step,
        fun later => ?_⟩
      rw [named.scan_remove (words version member) orderly loaded canonical (scanned later) step later,
        List.filter_filter]
      refine congrArg Except.ok (List.filter_congr fun item _ => ?_)
      simp [not_or, and_comm]
    · contradiction
  · simpa using scan_reordered orderly loaded canonical scanned later

omit named in
theorem stale_of_scan {found : List FoundVersion} (scanned : versions.scan order disk = .ok found)
    (current : Nat) : versions.stale order current disk =
      .ok (found.filter (fun item => item.version < current)) := by
  rw [Versions.stale, scanned]
  rfl

omit named in
/-- The newest version that is ready is the greatest of those that are found and are ready. -/
theorem latestReady_of_scan {found : List FoundVersion}
    (scanned : versions.scan order disk = .ok found)
    (strict : found.Pairwise (fun older newer => older.version < newer.version)) :
    ∃ newest, versions.latestReady order disk = .ok newest ∧ ∀ item, newest = some item ↔
      item ∈ found ∧ item.ready ∧ ∀ other ∈ found, other.ready → other.version ≤ item.version := by
  refine ⟨found.reverse.find? FoundVersion.ready, ?_, fun item => ?_⟩
  · rw [latestReady, scanned]
    rfl
  · rw [find?_eq_some_newest (List.pairwise_reverse.mpr strict)]
    simp only [List.mem_reverse]

/-- When all versions have been removed that are older than a current one, the others are left. -/
theorem IsNamed.scan_removeStale (orderly : before.Orderly versions.base)
    (loaded : versions.load before = .ok states) (canonical : versions.Canonical before)
    {found stale : List FoundVersion} (scanned : versions.scan order before = .ok found)
    {current : Nat} (reported : versions.stale order current before = .ok stale) {retired : List Nat}
    (all : ∀ version, version ∈ retired ↔ ∃ item ∈ stale, item.version = version)
    (removed : versions.removeEach? retired before = some after) (later : ReadOrder) :
    versions.scan later after = .ok (found.filter (fun item => current ≤ item.version)) := by
  obtain ⟨items, here, _, _, finds⟩ := scan_spec order orderly loaded
  obtain rfl := Except.ok.inj (scanned.symm.trans here)
  obtain rfl := Except.ok.inj (reported.symm.trans (stale_of_scan scanned current))
  simp only [List.mem_filter, decide_eq_true_eq] at all
  have words : ∀ version ∈ retired, Number.nat32.has version := by
    intro version member
    obtain ⟨item, ⟨itemIn, _⟩, rfl⟩ := (all version).mp member
    exact readDirectoryName?_has ((finds item).mp itemIn).named
  rw [named.scan_removeEach words orderly loaded canonical scanned removed later]
  refine congrArg Except.ok (List.filter_congr fun item member => decide_eq_decide.mpr ?_)
  rw [all, ← Nat.not_lt, not_iff_not]
  constructor
  · rintro ⟨other, ⟨_, older⟩, same⟩
    exact same ▸ older
  · exact fun older => ⟨item, ⟨member, older⟩, rfl⟩

end Named

/-- For every base directory that can be listed, in whatever order its entries come, and whose
    states can be read, the directories that are read as directories of versions are found. When a
    version has been removed, it is not ready, every other version is found and ready as before,
    and of the version at most directories are found whose names are not the one that is written
    for it. If there are no such directories, every version is found once, in its directory and
    the older ones first; when a version has been removed, all but that are found, and when all
    have been removed that are older than a current one, all others, of which the greatest that is
    ready is the newest that is ready. -/
theorem scan_retired (order later : ReadOrder) (named : versions.IsNamed)
    (orderly : disk.Orderly versions.base) (loaded : versions.load disk = .ok states) :
    ∃ found, versions.scan order disk = .ok found ∧
      (∀ item, item ∈ found ↔ versions.Finds states disk item) ∧
      found.Pairwise (fun older newer => older.version ≤ newer.version) ∧
      (∀ (version : UInt32) (after : Disk), versions.remove version.toNat disk = (.ok (), after) →
        versions.isReady version.toNat after = .ok false ∧
        (∀ other, other ≠ version.toNat →
          versions.isReady other after = versions.isReady other disk) ∧
        ∃ left, versions.scan later after = .ok left ∧
          (∀ item, item.version ≠ version.toNat → (item ∈ left ↔ item ∈ found)) ∧
          ∀ item ∈ left, item.version = version.toNat →
            item.directory ≠ versions.directoryName version.toNat ∧ item.ready = false) ∧
      (versions.Canonical disk →
        found.Pairwise (fun older newer => older.version < newer.version) ∧
        (∀ item ∈ found,
          versions.base ++ [item.directory] = versions.directory item.version) ∧
        (∀ (version : UInt32) (after : Disk),
          versions.remove version.toNat disk = (.ok (), after) →
          versions.scan later after = .ok (found.filter (fun item => item.version ≠ version.toNat))) ∧
        ∀ (current : UInt32) (stale : List FoundVersion) (retired : List Nat) (after : Disk),
          versions.stale order current.toNat disk = .ok stale →
          (∀ version, version ∈ retired ↔ ∃ item ∈ stale, item.version = version) →
          versions.removeEach? retired disk = some after →
          versions.stale later current.toNat after = .ok [] ∧
          ∃ left, left = found.filter (fun item => current.toNat ≤ item.version) ∧
            versions.scan later after = .ok left ∧
            ∃ newest, versions.latestReady later after = .ok newest ∧ ∀ item, newest = some item ↔
              item ∈ left ∧ item.ready ∧ ∀ other ∈ left, other.ready →
                other.version ≤ item.version) := by
  obtain ⟨found, scanned, distinct, sorted, finds⟩ := scan_spec order orderly loaded
  refine ⟨found, scanned, finds, sorted, fun version after removed => ?_, fun canonical => ?_⟩
  · obtain ⟨afterOrderly, afterLoaded, _⟩ := named.remove_spec orderly loaded removed
    obtain ⟨left, there, _, _, leftFinds⟩ := scan_spec later afterOrderly afterLoaded
    refine ⟨?_, fun other differs => ?_, left, there, fun item differs => ?_, fun item member => ?_⟩
    · rw [isReady_of_load afterLoaded, lookup_filter_self]
      rfl
    · rw [isReady_of_load afterLoaded, isReady_of_load loaded, lookup_filter_ne _ differs]
    · rw [leftFinds item, finds item,
        named.finds_remove (nat32_has version) orderly loaded removed differs]
    · exact named.finds_removed orderly loaded removed ((leftFinds item).mp member)
  · have strict := scan_canonical canonical distinct sorted finds
    refine ⟨strict, fun item member => ?_, fun version after removed =>
      named.scan_remove (nat32_has version) orderly loaded canonical scanned removed later,
      fun current stale retired after reported all removed => ?_⟩
    · rw [named.directory, canonical.directory ((finds item).mp member)]
    · have left := named.scan_removeStale orderly loaded canonical scanned reported all removed
        later
      refine ⟨?_, _, rfl, left, latestReady_of_scan left (strict.filter _)⟩
      rw [stale_of_scan left]
      refine congrArg Except.ok (List.filter_eq_nil_iff.mpr fun item member => ?_)
      have newer := of_decide_eq_true (List.mem_filter.mp member).2
      simpa using newer

/-- Version 1 is older than version 2 and is removed; version 10 is not ready, and version 3 is no
    directory. -/
theorem scan_retired_groups :
    let versions : Versions := ⟨["data"], "groups"⟩
    let states : StateMap := [(1, ⟨true, .epoch⟩), (2, ⟨true, .epoch⟩)]
    let entries : List (String × Disk) := [("groups_0001", .folder []), ("groups_0010", .folder []),
      ("groups_0002", .folder []), ("groups_0003", .file (.text "")),
      ("groups_versions.json", .file (.text states.toJson.printLines))]
    let disk : Disk := .folder [("data", .folder entries)]
    let order : ReadOrder := .standing
    ∃ after, versions.removeEach? [1] disk = some after ∧ versions.stale order 2 after = .ok [] ∧
      versions.latestReady order after = .ok (some ⟨2, "groups_0002", true⟩) := by
  intro versions states entries disk order
  have stands : disk.at? versions.base.goal = some (.folder entries) := rfl
  have orderly : disk.Orderly versions.base :=
    Disk.orderly_of_entries ⟨rfl, rfl⟩ stands (by decide) (by decide)
  have canonical : versions.Canonical disk := .of_entries orderly stands (by decide)
  have loaded : versions.load disk = .ok states := toOption_eq_some.mp (by decide +kernel)
  obtain ⟨found, scanned, finds, _, _, canonically⟩ :=
    scan_retired order order ⟨by decide, by decide⟩ orderly loaded
  obtain ⟨_, _, _, retires⟩ := canonically canonical
  obtain ⟨after, removed⟩ : ∃ after, versions.removeEach? [1] disk = some after :=
    Option.isSome_iff_exists.mp (by decide +kernel)
  have one : ⟨1, "groups_0001", true⟩ ∈ found := (finds _).mpr ⟨rfl, by decide, by decide⟩
  have two : ⟨2, "groups_0002", true⟩ ∈ found := (finds _).mpr ⟨rfl, by decide, by decide⟩
  have all (version : Nat) : version ∈ [1] ↔
      ∃ item ∈ found.filter (fun item => item.version < 2), item.version = version := by
    rw [List.mem_singleton]
    constructor
    · rintro rfl
      exact ⟨_, List.mem_filter.mpr ⟨one, by decide⟩, rfl⟩
    · rintro ⟨item, member, rfl⟩
      obtain ⟨itemIn, older⟩ := List.mem_filter.mp member
      have folder := ((finds item).mp itemIn).folder
      rw [canonical.directory ((finds item).mp itemIn)] at folder
      by_contra other
      obtain zero : item.version = 0 := by
        have below := of_decide_eq_true older
        omega
      rw [zero] at folder
      exact absurd folder (by decide)
  obtain ⟨gone, left, rfl, _, newest, latest, greatest⟩ :=
    retires 2 _ [1] after (stale_of_scan scanned 2) all removed
  refine ⟨after, removed, gone, ?_⟩
  rw [latest, (greatest ⟨2, "groups_0002", true⟩).mpr ⟨List.mem_filter.mpr ⟨two, by decide⟩, rfl, ?_⟩]
  intro other member ready
  rw [((finds other).mp (List.mem_filter.mp member).1).ready] at ready
  by_contra newer
  have unknown : states.lookup other.version = none := by
    refine List.lookup_eq_none_iff.mpr fun entry entryIn => bne_iff_ne.mpr ?_
    simp only [states, List.mem_cons, List.not_mem_nil, or_false] at entryIn
    rcases entryIn with rfl | rfl <;> dsimp only at newer ⊢ <;> omega
  rw [unknown] at ready
  contradiction

/-- A directory with fewer zeros in its name is found as one of version 1, and is still found when
    that version has been removed. -/
theorem scan_unpadded :
    let versions : Versions := ⟨["data"], "groups"⟩
    let disk : Disk := .folder [("data", .folder [("groups_1", .folder [])])]
    let order : ReadOrder := .standing
    ∃ after, versions.scan order disk = .ok [⟨1, "groups_1", false⟩] ∧
      versions.base ++ ["groups_1"] ≠ versions.directory 1 ∧
      versions.remove 1 disk = (.ok (), after) ∧
      versions.scan order after = .ok [⟨1, "groups_1", false⟩] := by
  intro versions disk order
  have removed : (versions.remove 1 disk).1 = .ok () := toOption_eq_some.mp (by decide +kernel)
  exact ⟨_, toOption_eq_some.mp (by decide +kernel), by decide +kernel, Prod.ext removed rfl,
    toOption_eq_some.mp (by decide +kernel)⟩

end KeyedIndex.Versions
