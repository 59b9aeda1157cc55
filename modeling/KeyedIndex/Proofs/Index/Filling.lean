import KeyedIndex.Proofs.Index.Opening
import KeyedIndex.Proofs.Storage.Folders

/-!
Base folders that are filled by opening indexes. However many indexes of whatever kinds and versions
are opened below a base folder, each version has a folder of its own there and nothing else has one
(`Disk.Shelves`), so what is found of a kind are exactly the versions of it that were opened, each
once and in their order, where they are stored (`Filled.scan_openings`).
-/
namespace KeyedIndex

variable {α : Type}

/-- The path below which the directories of versions stand. -/
def Origin.base (origin : Origin α) : FilePath :=
  .ofText (origin.settings.expandedPath origin.home)

/-- What is known of a call of `open` that was to open an index. -/
structure Opening where
  kind : String
  version : UInt32
  /-- The path of the directory of the version. -/
  path : FilePath
  /-- Where the index is stored, if it has been opened. -/
  location : Option FilePath
  /-- Whether there is something at the end of the path after the call. -/
  entered : Bool

def Origin.opening (origin : Origin α) (host : Host) : Opening where
  kind := origin.schema.name
  version := origin.schema.version
  path := origin.directory
  location := (origin.open host).1.toOption.bind Index.location
  entered := (origin.open host).2.disk.has origin.directory

/-- A base folder is filled by calls that open indexes, and by nothing else. At first it is empty
    or not there; its path leads through none of its entries, as that would make the entry. In
    between the indexes may commit, and what is not on the disk may change. -/
inductive Filled (base : FilePath) : Host → List Opening → Prop
  | vacant {host} (direct : base.Direct)
    (empty : host.disk.at? base.goal = none ∨ host.disk.at? base.goal = some (.folder [])) :
    Filled base host []
  | opening {host openings} {α : Type} (filled : Filled base host openings) (origin : Origin α)
    (onDisk : origin.settings.inMemory = false) (below : origin.base = base) :
    Filled base (origin.open host).2 (openings ++ [origin.opening host])
  | commit {host after openings} {kind : String} {version : UInt32} {commit : Commit}
    (filled : Filled base host openings)
    (written : host.disk.writeCommit? (base.goal ++ [directoryName kind version]) commit =
      some after.disk) : Filled base after openings
  | meanwhile {host after openings} (filled : Filled base host openings)
    (same : after.disk = host.disk) : Filled base after openings

/-- The entries of a base folder are the directories of the versions that were opened. -/
structure Disk.Shelves (base : FilePath) (disk : Disk) (openings : List Opening) : Prop where
  tidy : disk.Tidy base.goal
  entry : ∀ name, (disk.at? (base.goal ++ [name])).isSome ↔
    ∃ opening ∈ openings, opening.entered = true ∧ name = directoryName opening.kind opening.version
  leads : ∀ name, (disk.at? (base.goal ++ [name])).isSome →
    disk.Reaches base ∧ FilePath.isUsable (base ++ [name])
  located : ∀ opening ∈ openings,
    opening.path = base ++ [directoryName opening.kind opening.version] ∧
    ∀ location ∈ opening.location, opening.entered = true ∧
      location = base.goal ++ [directoryName opening.kind opening.version]

variable {origin : Origin α} {index : Index α} {host after : Host}

/-! ### Calls that open an index -/

theorem Schema.isPlain_directoryName (schema : Schema α) : IsPlain schema.directoryName :=
  Versions.isPlain_directoryName ⟨[], schema.name⟩ schema.version.toNat

theorem Schema.directory_eq (schema : Schema α) (base : FilePath) :
    schema.directory base = base ++ [schema.directoryName] :=
  have solid : '/' ∉ (⟨base, schema.name⟩ : Versions).kind.toList :=
    solid_of_isKindName schema.isKindName_name
  Versions.directory_eq solid schema.version.toNat

theorem Origin.directory_eq (origin : Origin α) :
    origin.directory = origin.base ++ [origin.schema.directoryName] :=
  origin.schema.directory_eq origin.base

theorem Index.ofCommit_enters {name : String} (plain : IsPlain name) (base : FilePath)
    (schema : Schema α) (commit : Commit) (settings : Settings) (versions : Option Versions)
    (host : Host) :
    Disk.Enters name base host.disk (Index.ofCommit schema commit settings
      (some (base.goal ++ [name])) versions host).2.disk := by
  have locked : Disk.Enters name base host.disk
      (host.disk.lockCommit (base.goal ++ [name]) commit).2 :=
    Disk.lockCommit_enters plain host.disk commit
  unfold Index.ofCommit
  split
  · exact .refl name base host.disk
  · dsimp only [Option.elim_some]
    split
    · exact locked
    · exact locked

section

variable (onDisk : origin.settings.inMemory = false)
include onDisk

/-- To open an index changes nothing in the base folder but the directory of its version, even if it
    cannot be opened. -/
theorem Origin.open_enters (direct : origin.base.Direct) (host : Host) :
    Disk.Enters origin.schema.directoryName origin.base host.disk (origin.open host).2.disk := by
  have plain := origin.schema.isPlain_directoryName
  have entered := Disk.openIndex_enters plain direct host.disk origin.schema
  rw [← origin.directory_eq] at entered
  unfold Origin.open Index.open
  split
  · exact .refl _ _ host.disk
  · rw [if_neg (by simp [onDisk])]
    dsimp only
    split
    · rename_i error disk failed
      have opened : host.disk.openIndex origin.directory origin.schema = (.error error, disk) := failed
      rwa [opened] at entered
    · rename_i directory commit disk found
      have opened : host.disk.openIndex origin.directory origin.schema =
        (.ok (directory, commit), disk) := found
      rw [opened] at entered
      rw [origin.directory_eq] at opened
      obtain ⟨rfl, -⟩ := Disk.openIndex_place plain opened
      exact entered.trans (Index.ofCommit_enters plain origin.base _ _ _ _ { host with disk })

/-- An index that has been opened is stored in the directory of its version. -/
theorem Origin.open_location (opened : origin.open host = (.ok index, after)) :
    index.location = some (origin.base.goal ++ [origin.schema.directoryName]) ∧
      after.disk.hasFolder (origin.base.goal ++ [origin.schema.directoryName]) := by
  have plain := origin.schema.isPlain_directoryName
  obtain ⟨-, ⟨inMemory, -⟩ | ⟨-, directory, commit, disk, found, made⟩⟩ := Origin.open_eq_ok opened
  · simp [onDisk] at inMemory
  · rw [origin.directory_eq] at found
    obtain ⟨rfl, folder⟩ := Disk.openIndex_place plain found
    have entered := Index.ofCommit_enters plain origin.base origin.schema commit origin.settings
      (some ⟨origin.base, origin.schema.name⟩) { host with disk }
    have last : (Index.ofCommit origin.schema commit origin.settings
        (some (origin.base.goal ++ [origin.schema.directoryName]))
        (some ⟨origin.base, origin.schema.name⟩) { host with disk }).2 = after :=
      congrArg Prod.snd made
    rw [last] at entered
    exact ⟨(Index.ofCommit_made made).1, entered.grows.folder _ folder⟩

end

/-! ### Folders that are filled -/

section

variable {base : FilePath} {name : String} {disk before next : Disk} {openings : List Opening}

theorem Disk.Shelves.vacant
    (empty : disk.at? base.goal = none ∨ disk.at? base.goal = some (.folder [])) :
    Disk.Shelves base disk [] := by
  have nothing (name : String) : disk.at? (base.goal ++ [name]) = none := by
    rw [Node.at?_concat]
    rcases empty with none | folder
    · rw [none, Option.bind_none]
    · rw [folder, Option.bind_some]
      rfl
  refine ⟨?_, ?_, ?_, by simp⟩
  · intro found stands
    rcases empty with none | folder
    · exact absurd (none.symm.trans stands) (Option.some_ne_none found).symm
    · exact ⟨[], Option.some.inj (stands.symm.trans folder), List.nodup_nil, by simp⟩
  · intro name
    simp [nothing name]
  · intro name present
    simp [nothing name] at present

/-- What is put into the folder of one version, be it new or not, is of no concern to the others. -/
theorem Disk.Shelves.leads_enters (shelves : Disk.Shelves base before openings)
    (entered : Disk.Enters name base before next) (other : String)
    (present : (next.at? (base.goal ++ [other])).isSome) :
    next.Reaches base ∧ FilePath.isUsable (base ++ [other]) := by
  have old (there : (before.at? (base.goal ++ [other])).isSome) :
      next.Reaches base ∧ FilePath.isUsable (base ++ [other]) :=
    (shelves.leads other there).imp_left entered.grows.reaches
  by_cases same : other = name
  · subst same
    exact (entered.leads present).elim old id
  · rw [entered.others other (List.mem_singleton.not.mpr same)] at present
    exact old present

/-- In the folder of a version that is there, anything may be put. -/
theorem Disk.Shelves.inside (shelves : Disk.Shelves base before openings)
    (entered : Disk.Enters name base before next)
    (there : (before.at? (base.goal ++ [name])).isSome) : Disk.Shelves base next openings where
  tidy := entered.tidy shelves.tidy
  entry other := by
    rw [← shelves.entry other]
    by_cases same : other = name
    · subst same
      exact iff_of_true (entered.grows.entry _ there) there
    · rw [entered.others other (List.mem_singleton.not.mpr same)]
  leads := shelves.leads_enters entered
  located := shelves.located

/-- A call that opens an index makes the entry of its version, if any. -/
theorem Disk.Shelves.opening {origin : Origin α} {host : Host}
    (shelves : Disk.Shelves origin.base host.disk openings) (direct : origin.base.Direct)
    (onDisk : origin.settings.inMemory = false) :
    Disk.Shelves origin.base (origin.open host).2.disk (openings ++ [origin.opening host]) := by
  have plain := origin.schema.isPlain_directoryName
  have entered := Origin.open_enters onDisk direct host
  have leads := shelves.leads_enters entered
  have here : ((origin.open host).2.disk.at?
      (origin.base.goal ++ [origin.schema.directoryName])).isSome ↔
        (origin.opening host).entered = true := by
    rw [Origin.opening, origin.directory_eq, Node.has]
    constructor
    · intro present
      obtain ⟨reaches, usable⟩ := leads _ present
      rw [Node.place?_append reaches plain usable present]
      rfl
    · intro has
      obtain ⟨place, walked⟩ := Option.isSome_iff_exists.mp has
      obtain ⟨-, -, rfl, present⟩ := Node.place?_eq_some plain walked
      exact present
  refine ⟨entered.tidy shelves.tidy, ?_, leads, ?_⟩
  · intro other
    simp only [List.mem_append, List.mem_singleton, or_and_right, exists_or, exists_eq_left]
    rw [← shelves.entry other]
    by_cases same : other = origin.schema.directoryName
    · subst same
      rw [here]
      constructor
      · exact fun new => .inr ⟨new, rfl⟩
      · rintro (old | ⟨new, -⟩)
        · exact here.mp (entered.grows.entry _ old)
        · exact new
    · rw [entered.others other (List.mem_singleton.not.mpr same)]
      exact (or_iff_left fun new => same new.2).symm
  · intro opening member
    rcases List.mem_append.mp member with old | new
    · exact shelves.located opening old
    · obtain rfl := List.mem_singleton.mp new
      refine ⟨origin.directory_eq, ?_⟩
      intro location stored
      obtain ⟨index, opened, located⟩ := Option.bind_eq_some_iff.mp stored
      have result : origin.open host = (.ok index, (origin.open host).2) :=
        Prod.ext (toOption_eq_some.mp opened) rfl
      obtain ⟨place, folder⟩ := Origin.open_location onDisk result
      refine ⟨here.mp (Node.isSome_at?_of_hasFolder folder), ?_⟩
      exact Option.some.inj (located.symm.trans place)

theorem Filled.shelves {host : Host} (filled : Filled base host openings) :
    base.Direct ∧ Disk.Shelves base host.disk openings := by
  induction filled with
  | vacant direct empty => exact ⟨direct, .vacant empty⟩
  | opening _ origin onDisk below ih =>
    subst below
    exact ⟨ih.1, ih.2.opening ih.1 onDisk⟩
  | @commit _ _ _ kind version _ _ written ih =>
    have plain : IsPlain (directoryName kind version) :=
      Versions.isPlain_directoryName ⟨[], kind⟩ version.toNat
    have folder := Disk.hasFolder_of_writeCommit plain written
    exact ⟨ih.1, ih.2.inside (.writeCommit plain written) (Node.isSome_at?_of_hasFolder folder)⟩
  | meanwhile _ same ih => exact ⟨ih.1, same ▸ ih.2⟩

/-! ### What is found -/

/-- No state is noted by opening indexes. -/
theorem Disk.Shelves.load (shelves : Disk.Shelves base disk openings) {versions : Versions}
    (named : versions.IsNamed) (below : versions.base = base) : versions.load disk = .ok [] := by
  subst below
  refine Versions.Holds.load named (.inl ⟨rfl, ?_⟩)
  by_contra present
  obtain ⟨opening, -, -, same⟩ := (shelves.entry _).mp (Option.isSome_iff_ne_none.mpr present)
  exact Versions.directoryName_ne ⟨[], opening.kind⟩ opening.version.toNat
    versions.getLast?_stateName (by decide) same

theorem Disk.Shelves.orderly (shelves : Disk.Shelves base disk openings)
    (reaches : disk.Reaches base) : disk.Orderly base where
  reaches := reaches
  distinct entries stands := by
    obtain ⟨others, same, distinct, -⟩ := shelves.tidy _ stands
    obtain rfl := Node.folder.inj same
    exact distinct
  usable name present := (shelves.leads name present).2

/-- Of a kind are found the versions with directories, each once and in their order. -/
theorem Disk.Shelves.scan (shelves : Disk.Shelves base disk openings) {kind : String}
    (named : (⟨base, kind⟩ : Versions).IsNamed) (order : ReadOrder) :
    ∃ found, Versions.scan ⟨base, kind⟩ order disk = .ok found ∧
      found.Pairwise (fun first second => first.version < second.version) ∧
      ∀ item, item ∈ found ↔ ∃ opening ∈ openings, opening.entered = true ∧ opening.kind = kind ∧
        item = ⟨opening.version.toNat, directoryName kind opening.version, false⟩ := by
  have loaded := shelves.load named rfl
  by_cases reaches : disk.Reaches base
  · have canonical : Versions.Canonical ⟨base, kind⟩ disk := by
      intro name version folder read
      obtain ⟨opening, -, -, rfl⟩ := (shelves.entry name).mp (Node.isSome_at?_of_hasFolder folder)
      obtain ⟨rfl, rfl⟩ := (Versions.readDirectoryName?_written _ _ _ _).mp read
      rfl
    obtain ⟨found, scanned, distinct, sorted, finds⟩ :=
      Versions.scan_spec order (shelves.orderly reaches) loaded
    refine ⟨found, scanned, Versions.scan_canonical canonical distinct sorted finds, ?_⟩
    intro item
    rw [finds]
    constructor
    · rintro ⟨folder, read, ready⟩
      obtain ⟨opening, member, entered, name⟩ :=
        (shelves.entry _).mp (Node.isSome_at?_of_hasFolder folder)
      rw [name] at read
      obtain ⟨rfl, version⟩ := (Versions.readDirectoryName?_written _ _ _ _).mp read
      refine ⟨opening, member, entered, rfl, ?_⟩
      have unready : item.ready = false := ready
      rw [← version, ← name, ← unready]
    · rintro ⟨opening, member, entered, rfl, rfl⟩
      have present := (shelves.entry _).mpr ⟨opening, member, entered, rfl⟩
      exact ⟨shelves.tidy.hasFolder present,
        (Versions.readDirectoryName?_written _ _ _ _).mpr ⟨rfl, rfl⟩, rfl⟩
  · have nothing : disk.find? base = none := by
      by_contra present
      obtain ⟨node, found⟩ := Option.ne_none_iff_exists'.mp present
      obtain ⟨place, walked, stands⟩ := Option.bind_eq_some_iff.mp found
      obtain rfl := Node.place?_goal walked
      obtain ⟨entries, rfl, -⟩ := shelves.tidy node stands
      exact reaches ⟨walked, by rw [Node.hasFolder, stands]; rfl⟩
    refine ⟨[], by rw [Versions.scan, nothing]; rfl, .nil, ?_⟩
    intro item
    refine iff_of_false (by simp) ?_
    rintro ⟨opening, member, entered, -⟩
    exact reaches (shelves.leads _ ((shelves.entry _).mpr ⟨opening, member, entered, rfl⟩)).1

end

/-- The name of a directory tells the kind and the version, so no two versions share one. In a
    base folder that only calls to open indexes have filled, exactly the versions that they
    entered are found, each once, in their order and with its path, whatever the order in which
    the folder is listed. Every index that has been opened is among them, and its path leads where
    it is stored. -/
theorem Filled.scan_openings (base : FilePath) :
    (∀ (kind other : String) (version : Nat) (number : UInt32),
      Versions.readDirectoryName? kind (directoryName other number) = some version ↔
        kind = other ∧ version = number.toNat) ∧
    (∀ {α β : Type} (first : Schema α) (second : Schema β),
      first.directory base = second.directory base ↔
        first.name = second.name ∧ first.version = second.version) ∧
    ∀ {host : Host} {openings : List Opening}, Filled base host openings →
      (∀ kind order, isKindName kind → ∃ found,
        Versions.scan ⟨base, kind⟩ order host.disk = .ok found ∧
        found.Pairwise (fun first second => first.version < second.version) ∧
        ∀ item, item ∈ found ↔ ∃ opening ∈ openings, opening.entered = true ∧
          opening.kind = kind ∧ item.version = opening.version.toNat ∧
          base ++ [item.directory] = opening.path ∧ item.ready = false) ∧
      ∀ opening ∈ openings, ∀ location ∈ opening.location, opening.entered = true ∧
        host.disk.place? opening.path = some location := by
  refine ⟨Versions.readDirectoryName?_written, ?_, ?_⟩
  · intro α β first second
    rw [first.directory_eq base, second.directory_eq base]
    constructor
    · intro same
      have name : second.directoryName = first.directoryName := by simpa using same.symm
      have read := (Versions.readDirectoryName?_written first.name first.name _ first.version).mpr
        ⟨rfl, rfl⟩
      rw [← Schema.directoryName, ← name] at read
      obtain ⟨kind, version⟩ := (Versions.readDirectoryName?_written _ _ _ _).mp read
      exact ⟨kind, UInt32.toNat_inj.mp version⟩
    · rintro ⟨kind, version⟩
      rw [Schema.directoryName, Schema.directoryName, kind, version]
  · intro host openings filled
    obtain ⟨direct, shelves⟩ := filled.shelves
    constructor
    · intro kind order legal
      obtain ⟨found, scanned, sorted, finds⟩ :=
        shelves.scan (Versions.isNamed_of_isKindName direct legal) order
      refine ⟨found, scanned, sorted, ?_⟩
      intro item
      rw [finds]
      refine exists_congr fun opening => and_congr_right fun member => and_congr_right fun _ => ?_
      refine and_congr_right ?_
      rintro rfl
      rw [(shelves.located opening member).1]
      obtain ⟨version, directory, ready⟩ := item
      simp
    · intro opening member location stored
      obtain ⟨path, stands⟩ := shelves.located opening member
      obtain ⟨entered, rfl⟩ := stands location stored
      refine ⟨entered, ?_⟩
      have present := (shelves.entry _).mpr ⟨opening, member, entered, rfl⟩
      obtain ⟨reaches, usable⟩ := shelves.leads _ present
      have plain : IsPlain (directoryName opening.kind opening.version) :=
        Versions.isPlain_directoryName ⟨[], opening.kind⟩ opening.version.toNat
      rw [path, Node.place?_append reaches plain usable present]

/-- The directory of another kind is not found, although its name begins like one of the kind. -/
theorem Filled.scan_openings_twoKinds :
    let settings := { Settings.default "/" with indexPath := "/data" }
    let second : Origin Group := ⟨"/", GroupSchema.second, settings⟩
    let other : Origin Group := ⟨"/", { GroupSchema.first with
      name := "groups_0002", version := 70000, isKindName_name := by decide }, settings⟩
    let first : Origin Group := ⟨"/", GroupSchema.first, settings⟩
    let host := (first.open (other.open (second.open (.ofDisk .empty)).2).2).2
    ∃ found, Versions.scan ⟨second.base, "groups"⟩ .standing host.disk = .ok found ∧
      found.Pairwise (fun first second => first.version < second.version) ∧
      ∀ version, (∃ item ∈ found, item.version = version) ↔ version = 1 ∨ version = 2 := by
  intro settings second other first host
  have base : second.base = ["data"] := by decide +kernel
  have vacant : Filled ["data"] (.ofDisk .empty) [] :=
    .vacant (FilePath.direct_of_straight (by decide)) (.inl rfl)
  have filled := ((vacant.opening second rfl base).opening other rfl base).opening first rfl base
  obtain ⟨found, scanned, sorted, finds⟩ :=
    ((Filled.scan_openings ["data"]).2.2 filled).1 "groups" .standing (by decide)
  rw [base]
  refine ⟨found, scanned, sorted, ?_⟩
  have newer : (second.opening (.ofDisk .empty)).entered = true := by decide +kernel
  have older : (first.opening (other.open (second.open (.ofDisk .empty)).2).2).entered = true := by
    decide +kernel
  intro version
  simp only [finds, List.nil_append, List.mem_append, List.mem_singleton]
  constructor
  · rintro ⟨item, ⟨opening, (rfl | rfl) | rfl, -, kind, number, -⟩, rfl⟩
    · exact .inr number
    · exact absurd kind (by decide)
    · exact .inl number
  · rintro (rfl | rfl)
    · exact ⟨⟨1, first.schema.directoryName, false⟩,
        ⟨_, .inr rfl, older, rfl, rfl, base ▸ first.directory_eq.symm, rfl⟩, rfl⟩
    · exact ⟨⟨2, second.schema.directoryName, false⟩,
        ⟨_, .inl (.inl rfl), newer, rfl, rfl, base ▸ second.directory_eq.symm, rfl⟩, rfl⟩

end KeyedIndex
