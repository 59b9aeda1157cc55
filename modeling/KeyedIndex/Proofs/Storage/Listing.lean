import KeyedIndex.Proofs.Storage.StateFile
import Mathlib.Data.List.Nodup
import Mathlib.Data.List.Perm.Lattice

/-!
Versions that are found in the base directory. All directories are found whose names are the
kind, a dash below and a number, each with the state of that number (`Versions.scan_spec`). The
name that is written for a version is read as that version
(`Versions.readDirectoryName?_directoryName`), but other names with more or fewer zeros are read
so too; only where there are none are no two directories for one version
(`Versions.scan_canonical`).
-/
namespace KeyedIndex

variable {disk before after : Disk} {base : FilePath} {name : String}

/-! ### Folders that can be listed -/

/-- A path leads to a folder in which no two entries have one name, and to all of its entries. -/
structure Disk.Orderly (disk : Disk) (base : FilePath) : Prop where
  reaches : disk.Reaches base
  distinct : ∀ entries, disk.at? base.goal = some (.folder entries) →
    (entries.map Prod.fst).Nodup
  usable : ∀ name, (disk.at? (base.goal ++ [name])).isSome → FilePath.isUsable (base ++ [name])

theorem Disk.Orderly.entries (orderly : disk.Orderly base) :
    ∃ entries, disk.at? base.goal = some (.folder entries) := by
  have folder := orderly.reaches.2
  rw [Node.hasFolder] at folder
  obtain ⟨node, stands, isFolder⟩ := (Option.any_eq_true _ _).mp folder
  obtain ⟨entries, rfl⟩ := Node.isFolder_iff.mp isFolder
  exact ⟨entries, stands⟩

/-- The entries of a folder are what stands in it. -/
theorem Disk.Orderly.mem_entries (orderly : disk.Orderly base) {entries : List (String × Disk)}
    (stands : disk.at? base.goal = some (.folder entries)) {node : Disk} :
    (name, node) ∈ entries ↔ disk.at? (base.goal ++ [name]) = some node := by
  rw [Node.at?_concat, stands, Option.bind_some]
  exact (lookup_eq_some_iff (orderly.distinct entries stands)).symm

theorem Disk.orderly_of_entries {entries : List (String × Disk)} (reaches : disk.Reaches base)
    (stands : disk.at? base.goal = some (.folder entries)) (distinct : (entries.map Prod.fst).Nodup)
    (usable : ∀ entry ∈ entries, FilePath.isUsable (base ++ [entry.1])) : disk.Orderly base where
  reaches := reaches
  distinct others found := Node.folder.inj (Option.some.inj (stands.symm.trans found)) ▸ distinct
  usable name present := by
    obtain ⟨node, found⟩ := Option.isSome_iff_exists.mp present
    rw [Node.at?_concat, stands, Option.bind_some] at found
    exact usable _ ((lookup_eq_some_iff distinct).mp found)

theorem Disk.Orderly.writeFile {content : FileContent} (orderly : before.Orderly base)
    (written : Node.writeFile? content (base ++ [name]) before = some after) :
    after.Orderly base := by
  have changes := ChangesOnly.writeFile written
  obtain ⟨reaches, usable, _, _, rfl⟩ := Node.writeFile?_append_eq_some.mp written
  obtain ⟨entries, stands⟩ := orderly.entries
  refine ⟨changes.reaches reaches, fun others found => ?_, fun other present => ?_⟩
  · rw [Node.at?_put_parent (.file content) name stands] at found
    obtain rfl := Node.folder.inj (Option.some.inj found)
    exact nodup_setEntry (orderly.distinct entries stands)
  · by_cases same : other = name
    · exact same ▸ usable
    · rw [changes.others other (List.mem_singleton.not.mpr same)] at present
      exact orderly.usable other present

theorem Disk.Orderly.remove (orderly : disk.Orderly base) (direct : base.Direct) (name : String) :
    Disk.Orderly (disk.remove (base.goal ++ [name])) base := by
  have changes := ChangesOnly.remove direct disk name
  obtain ⟨entries, stands⟩ := orderly.entries
  have left : (disk.remove (base.goal ++ [name])).at? base.goal =
      some (.folder (entries.filter (fun entry => entry.1 ≠ name))) := by
    rw [Node.at?_remove, stands]
    rfl
  refine ⟨changes.reaches orderly.reaches, fun others found => ?_, fun other present => ?_⟩
  · obtain rfl := Node.folder.inj (Option.some.inj (left.symm.trans found))
    exact (orderly.distinct entries stands).sublist (List.filter_sublist.map _)
  · by_cases same : other = name
    · rw [same, Node.at?_concat, left, Option.bind_some, Node.entries, lookup_filter_self] at present
      contradiction
    · rw [changes.others other (List.mem_singleton.not.mpr same)] at present
      exact orderly.usable other present

namespace Versions

/-! ### Names of directories -/

theorem readDirectoryName?_eq_some {kind : String} {version : Nat} :
    readDirectoryName? kind name = some version ↔
      ∃ digits : List Char, digits ≠ [] ∧ (∀ char ∈ digits, char.isDigit) ∧
        name.toList = (kind ++ "_").toList ++ digits ∧
        Number.nat32.read? (String.ofList digits) = some (version : Int) := by
  have number (digits : List Char) :
      (Number.nat32.read? (String.ofList digits)).map Int.toNat = some version ↔
        Number.nat32.read? (String.ofList digits) = some (version : Int) := by
    rw [Option.map_eq_some_iff]
    constructor
    · rintro ⟨number, read, rfl⟩
      have inside := Number.Interval.read?_has Number.nat32_hasZero read
      rw [read, Int.toNat_of_nonneg (Number.Interval.has_iff.mp inside).1]
    · exact fun read => ⟨_, read, Int.toNat_natCast version⟩
  unfold readDirectoryName?
  dsimp only
  constructor
  · intro read
    split at read
    · rename_i begins
      obtain ⟨digits, split⟩ := List.isPrefixOf_iff_prefix.mp begins
      rw [← split, List.drop_left] at read
      split at read
      · rename_i legal
        simp only [Bool.and_eq_true, Bool.not_eq_true', List.isEmpty_eq_false_iff,
          List.all_eq_true] at legal
        exact ⟨digits, legal.1, legal.2, split.symm, (number digits).mp read⟩
      · contradiction
    · contradiction
  · rintro ⟨digits, present, legal, split, read⟩
    have begins : (kind ++ "_").toList.isPrefixOf name.toList :=
      List.isPrefixOf_iff_prefix.mpr ⟨digits, split.symm⟩
    have all : (!digits.isEmpty && digits.all Char.isDigit) = true := by
      simpa [present] using legal
    rw [if_pos begins, split, List.drop_left, if_pos all]
    exact (number digits).mpr read

/-- A name that is read as a version ends with a digit. -/
theorem getLast?_of_readDirectoryName? {kind : String} {version : Nat}
    (read : readDirectoryName? kind name = some version) :
    ∃ char, name.toList.getLast? = some char ∧ char.isDigit := by
  obtain ⟨digits, present, legal, split, _⟩ := readDirectoryName?_eq_some.mp read
  refine ⟨digits.getLast present, ?_, legal _ (List.getLast_mem present)⟩
  rw [split, List.getLast?_append, List.getLast?_eq_getLast_of_ne_nil present]
  rfl

theorem readDirectoryName?_has {kind : String} {version : Nat}
    (read : readDirectoryName? kind name = some version) : Number.nat32.has version := by
  obtain ⟨_, _, _, _, number⟩ := readDirectoryName?_eq_some.mp read
  exact Number.Interval.read?_has Number.nat32_hasZero number

/-- The name that is written for a version is read as the version. -/
theorem readDirectoryName?_directoryName (versions : Versions) {version : Nat}
    (word : Number.nat32.has version) :
    readDirectoryName? versions.kind (versions.directoryName version) = some version := by
  refine readDirectoryName?_eq_some.mpr ⟨(Number.padded 4 version).toList,
    Number.padded_ne_nil 4 version, fun char member => Number.isDigit_of_mem_padded member, ?_, ?_⟩
  · rw [Versions.directoryName, String.toList_append]
  · rw [String.ofList_toList]
    exact Number.Interval.read?_padded (Number.Interval.has_iff.mp word).2 4

/-- Behind the last separator stands what has none in it. -/
theorem eq_of_append_separator {separator : Char} {first second digits others : List Char}
    (clean : separator ∉ digits) (cleanToo : separator ∉ others)
    (same : first ++ separator :: digits = second ++ separator :: others) :
    first = second ∧ digits = others := by
  rcases List.append_eq_append_iff.mp same with ⟨more, longer, rest⟩ | ⟨more, longer, rest⟩
  · cases more with
    | nil => exact ⟨by simpa using longer.symm, (List.cons.inj rest).2⟩
    | cons char more =>
      obtain ⟨-, tail⟩ := List.cons.inj rest
      exact absurd (tail ▸ List.mem_append_right more List.mem_cons_self) clean
  · cases more with
    | nil => exact ⟨by simpa using longer, (List.cons.inj rest).2.symm⟩
    | cons char more =>
      obtain ⟨-, tail⟩ := List.cons.inj rest
      exact absurd (tail ▸ List.mem_append_right more List.mem_cons_self) cleanToo

/-- The name that is written for a version of a kind is read as this version of this kind only. -/
theorem readDirectoryName?_written (kind other : String) (version : Nat) (number : UInt32) :
    readDirectoryName? kind (KeyedIndex.directoryName other number) = some version ↔
      kind = other ∧ version = number.toNat := by
  constructor
  · intro read
    obtain ⟨digits, _, legal, split, value⟩ := readDirectoryName?_eq_some.mp read
    have clean : '_' ∉ (Number.padded 4 number.toNat).toList := fun member =>
      absurd (Number.isDigit_of_mem_padded member) (by decide)
    have cleanToo : '_' ∉ digits := fun member => absurd (legal '_' member) (by decide)
    simp only [KeyedIndex.directoryName, String.toList_append, List.append_assoc] at split
    obtain ⟨kinds, rfl⟩ := eq_of_append_separator clean cleanToo split
    have bound := (Number.Interval.has_iff.mp (nat32_has number)).2
    rw [String.ofList_toList, Number.Interval.read?_padded bound 4] at value
    have same : (number.toNat : Int) = version := Option.some.inj value
    exact ⟨(String.toList_inj.mp kinds).symm, by omega⟩
  · rintro ⟨rfl, rfl⟩
    exact readDirectoryName?_directoryName ⟨[], kind⟩ (nat32_has number)

variable {versions : Versions} {states : StateMap} {found : List FoundVersion}

/-! ### Versions that are found -/

/-- A version is found: its directory stands in the base directory under a name for it. -/
structure Finds (versions : Versions) (states : StateMap) (disk : Disk) (item : FoundVersion) :
    Prop where
  folder : disk.hasFolder (versions.base.goal ++ [item.directory])
  named : readDirectoryName? versions.kind item.directory = some item.version
  ready : item.ready = (states.lookup item.version).any VersionState.ready

theorem found?_eq_some {entry : String × Disk} {item : FoundVersion} :
    versions.found? states entry = some item ↔ entry.1 = item.directory ∧ entry.2.isFolder ∧
      readDirectoryName? versions.kind item.directory = some item.version ∧
      item.ready = (states.lookup item.version).any VersionState.ready := by
  obtain ⟨name, node⟩ := entry
  obtain ⟨version, directory, ready⟩ := item
  simp only [found?]
  split
  · rename_i folder
    simp only [bind, Option.bind_eq_some_iff, pure, Option.some.injEq, FoundVersion.mk.injEq]
    constructor
    · rintro ⟨number, read, rfl, rfl, rfl⟩
      exact ⟨rfl, folder, read, rfl⟩
    · rintro ⟨rfl, _, read, rfl⟩
      exact ⟨version, read, rfl, rfl, rfl⟩
  · rename_i noFolder
    simp [noFolder]

/-- All versions with directories are found, each directory once and the older versions first. -/
theorem scan_spec (order : ReadOrder) (orderly : disk.Orderly versions.base)
    (loaded : versions.load disk = .ok states) :
    ∃ found, versions.scan order disk = .ok found ∧ (found.map FoundVersion.directory).Nodup ∧
      found.Pairwise (fun first second => first.version ≤ second.version) ∧
      ∀ item, item ∈ found ↔ versions.Finds states disk item := by
  obtain ⟨entries, stands⟩ := orderly.entries
  let listed := order.arrange entries
  have sameEntries : listed.Perm entries := order.perm entries
  refine ⟨(listed.filterMap (versions.found? states)).mergeSort
    (fun left right => left.version ≤ right.version), ?_, ?_, ?_, fun item => ?_⟩
  · have here : disk.find? versions.base = some (.folder entries) := by
      rw [Node.find?, orderly.reaches.1, Option.bind_some, stands]
    simp only [scan, here, loaded]
    rfl
  · refine ((List.mergeSort_perm _ _).map _).nodup_iff.mpr ?_
    have names : (listed.map Prod.fst).Nodup :=
      (sameEntries.map _).nodup_iff.mpr (orderly.distinct entries stands)
    refine List.pairwise_map.mpr ((List.pairwise_map.mp names).filterMap _ ?_)
    intro first second apart item here other there
    rwa [← (found?_eq_some.mp here).1, ← (found?_eq_some.mp there).1]
  · refine (List.pairwise_mergeSort ?_ ?_ _).imp of_decide_eq_true
    · exact fun first second third => by simpa using Nat.le_trans
    · exact fun first second => by simpa using Nat.le_total first.version second.version
  · rw [List.mem_mergeSort, List.mem_filterMap]
    constructor
    · rintro ⟨⟨name, node⟩, member, here⟩
      obtain ⟨rfl, folder, named, ready⟩ := found?_eq_some.mp here
      refine ⟨?_, named, ready⟩
      rw [Node.hasFolder, (orderly.mem_entries stands).mp (sameEntries.mem_iff.mp member)]
      exact folder
    · rintro ⟨folder, named, ready⟩
      rw [Node.hasFolder] at folder
      obtain ⟨node, inside, isFolder⟩ := (Option.any_eq_true _ _).mp folder
      exact ⟨(item.directory, node),
        sameEntries.mem_iff.mpr ((orderly.mem_entries stands).mpr inside),
        found?_eq_some.mpr ⟨rfl, isFolder, named, ready⟩⟩

/-! ### Directories with the names that are written for their versions -/

/-- Every directory that is read as one of a version has the name that is written for the version. -/
def Canonical (versions : Versions) (disk : Disk) : Prop :=
  ∀ name version, disk.hasFolder (versions.base.goal ++ [name]) →
    readDirectoryName? versions.kind name = some version → name = versions.directoryName version

theorem Canonical.of_entries {entries : List (String × Disk)} (orderly : disk.Orderly versions.base)
    (stands : disk.at? versions.base.goal = some (.folder entries))
    (named : ∀ entry ∈ entries, ∀ version ∈ readDirectoryName? versions.kind entry.1,
      entry.1 = versions.directoryName version) : versions.Canonical disk := by
  intro name version folder read
  obtain ⟨node, found⟩ := Option.isSome_iff_exists.mp (Node.isSome_at?_of_hasFolder folder)
  exact named _ ((orderly.mem_entries stands).mpr found) version read

theorem Canonical.directory {item : FoundVersion} (canonical : versions.Canonical disk)
    (finds : versions.Finds states disk item) :
    item.directory = versions.directoryName item.version :=
  canonical _ _ finds.folder finds.named

/-- If names are those that are written, every version is found once at most. -/
theorem scan_canonical (canonical : versions.Canonical disk)
    (distinct : (found.map FoundVersion.directory).Nodup)
    (sorted : found.Pairwise (fun first second => first.version ≤ second.version))
    (finds : ∀ item, item ∈ found ↔ versions.Finds states disk item) :
    found.Pairwise (fun first second => first.version < second.version) := by
  refine (sorted.and (List.pairwise_map.mp distinct)).imp_of_mem ?_
  rintro first second firstIn secondIn ⟨older, apart⟩
  refine Nat.lt_of_le_of_ne older fun same => apart ?_
  rw [canonical.directory ((finds first).mp firstIn),
    canonical.directory ((finds second).mp secondIn), same]

/-- Versions in their order are determined by which they are. -/
theorem eq_of_mem_iff {first second : List FoundVersion}
    (firstSorted : first.Pairwise (fun left right => left.version < right.version))
    (secondSorted : second.Pairwise (fun left right => left.version < right.version))
    (same : ∀ item, item ∈ first ↔ item ∈ second) : first = second := by
  have distinct {items : List FoundVersion}
      (sorted : items.Pairwise (fun left right => left.version < right.version)) : items.Nodup :=
    sorted.imp fun {left right} older equal => absurd (congrArg FoundVersion.version equal) (by omega)
  have perm := (List.perm_ext_iff_of_nodup (distinct firstSorted) (distinct secondSorted)).mpr same
  exact perm.eq_of_pairwise (fun _ _ _ _ older newer => absurd older (by omega)) firstSorted secondSorted

/-- If names are those that are written, it makes no difference in which order a folder lists its
    entries. -/
theorem scan_reordered (orderly : disk.Orderly versions.base)
    (loaded : versions.load disk = .ok states) (canonical : versions.Canonical disk)
    {order : ReadOrder} (scanned : versions.scan order disk = .ok found) (other : ReadOrder) :
    versions.scan other disk = .ok found := by
  obtain ⟨items, here, distinct, sorted, finds⟩ := scan_spec order orderly loaded
  obtain rfl := Except.ok.inj (scanned.symm.trans here)
  obtain ⟨others, there, othersDistinct, othersSorted, findsOthers⟩ :=
    scan_spec other orderly loaded
  rw [there, eq_of_mem_iff (scan_canonical canonical othersDistinct othersSorted findsOthers)
    (scan_canonical canonical distinct sorted finds) fun item => (findsOthers item).trans
    (finds item).symm]

/-- The first version that is ready is the newest one, if newer versions come first. -/
theorem find?_eq_some_newest {item : FoundVersion}
    (sorted : found.Pairwise (fun left right => right.version < left.version)) :
    found.find? FoundVersion.ready = some item ↔ item ∈ found ∧ item.ready ∧
      ∀ other ∈ found, other.ready → other.version ≤ item.version := by
  induction found with
  | nil => simp
  | cons head rest ih =>
    obtain ⟨newer, others⟩ := List.pairwise_cons.mp sorted
    cases ready : head.ready with
    | true =>
      rw [List.find?_cons_of_pos ready, Option.some.injEq]
      constructor
      · rintro rfl
        refine ⟨List.mem_cons_self, ready, fun other member _ => ?_⟩
        rcases List.mem_cons.mp member with rfl | later
        · exact Nat.le_refl _
        · exact Nat.le_of_lt (newer other later)
      · rintro ⟨member, _, newest⟩
        rcases List.mem_cons.mp member with rfl | later
        · rfl
        · have below := newest head List.mem_cons_self ready
          have above := newer item later
          omega
    | false =>
      rw [List.find?_cons_of_neg (by simp [ready]), ih others]
      constructor
      · rintro ⟨member, itemReady, newest⟩
        refine ⟨List.mem_cons_of_mem _ member, itemReady, List.forall_mem_cons.mpr ⟨?_, newest⟩⟩
        exact fun headReady => absurd headReady (by simp [ready])
      · rintro ⟨member, itemReady, newest⟩
        rcases List.mem_cons.mp member with rfl | later
        · exact absurd itemReady (by simp [ready])
        · exact ⟨later, itemReady, (List.forall_mem_cons.mp newest).2⟩

end Versions

end KeyedIndex
