import KeyedIndex.Proofs.Storage.IndexFile
import KeyedIndex.Proofs.Storage.Paths
import KeyedIndex.Proofs.Storage.StateMap
import KeyedIndex.Proofs.Text.Runs

/-!
The files in which the states of versions are kept. To set or to forget a state changes two
entries of the base directory that belong to the kind alone, and to delete the directory of a
version changes that directory (`Versions.markReady_changes`, `Versions.forget_changes`,
`Versions.deleteDirectory_changes`). What has been written is what the next reader finds, and
after a failure it finds what was there before (`Versions.Holds.markReady`,
`Versions.Holds.forget`).
-/
namespace KeyedIndex

/-! ### Folders in which some entries change -/

/-- Of what stands in the folder of a path only entries with some names have changed, and the path
    still leads there. -/
structure ChangesOnly (names : List String) (base : FilePath) (before after : Disk) : Prop where
  others : SameExcept names base.goal before after
  reaches : before.Reaches base → after.Reaches base

section ChangesOnly

variable {names more : List String} {base : FilePath} {before middle after : Disk} {name : String}

theorem ChangesOnly.refl (names : List String) (base : FilePath) (disk : Disk) :
    ChangesOnly names base disk disk := ⟨fun _ _ => rfl, id⟩

theorem ChangesOnly.trans (first : ChangesOnly names base before middle)
    (second : ChangesOnly names base middle after) : ChangesOnly names base before after where
  others other apart := (second.others other apart).trans (first.others other apart)
  reaches here := second.reaches (first.reaches here)

theorem ChangesOnly.mono (changes : ChangesOnly names base before after)
    (subset : names ⊆ more) : ChangesOnly more base before after where
  others other apart := changes.others other fun member => apart (subset member)
  reaches := changes.reaches

theorem ChangesOnly.makeFolder (direct : base.Direct) (disk : Disk) :
    ChangesOnly [] base disk (disk.makeFolder base).1 where
  others other _ := Node.at?_makeFolder direct disk other
  reaches here := by rwa [Node.makeFolder_of_place? here.1 here.2]

theorem ChangesOnly.writeFile {content : FileContent}
    (written : Node.writeFile? content (base ++ [name]) before = some after) :
    ChangesOnly [name] base before after := by
  obtain ⟨here, _, _, free, rfl⟩ := Node.writeFile?_append_eq_some.mp written
  exact {
    others := fun other apart => Node.at?_put_sibling _ here.2 (List.mem_singleton.not.mp apart)
    reaches := (Node.grows_put _ here.2 free).reaches }

theorem ChangesOnly.remove (direct : base.Direct) (disk : Disk) (name : String) :
    ChangesOnly [name] base disk (disk.remove (base.goal ++ [name])) where
  others _ apart := disk.at?_remove_sibling base.goal (List.mem_singleton.not.mp apart)
  reaches here := here.remove direct name

theorem ChangesOnly.find? (changes : ChangesOnly names base before after) (apart : name ∉ names)
    (plain : IsPlain name) {node : Disk} (found : before.find? (base ++ [name]) = some node) :
    after.find? (base ++ [name]) = some node := by
  obtain ⟨here, usable, stands⟩ := Node.find?_eq_some plain found
  rw [Node.find?_append (changes.reaches here) plain usable, changes.others name apart, stands]

end ChangesOnly

/-! ### Names of files -/

/-- A name without a slash is one step. -/
theorem FilePath.below_name {name : String} (solid : '/' ∉ name.toList) (present : name ≠ "")
    (base : FilePath) : FilePath.below base name = base ++ [name] := by
  have relative : name.startsWith "/" = false := by
    refine Bool.eq_false_iff.mpr fun absolute => ?_
    obtain ⟨rest, split⟩ := String.startsWith_string_iff.mp absolute
    exact solid (split ▸ List.mem_cons_self)
  have inside : ∀ char ∈ name.toList, decide (char = '/') = false := by
    intro char member
    refine decide_eq_false fun slash => ?_
    exact solid (slash ▸ member)
  rw [FilePath.below, relative, if_neg Bool.false_ne_true, FilePath.ofText,
    Text.pieces_of_inside inside]
  simp [present]

theorem solid_of_isKindName {kind : String} (named : isKindName kind) : '/' ∉ kind.toList := by
  simp only [isKindName, Bool.and_eq_true, List.all_eq_true, decide_eq_true_eq] at named
  exact fun member => named.2 '/' member (by simp)

/-- A name that does not end with a point is no step that stays or leads up. -/
theorem isPlain_of_getLast? {name : String} {char : Char}
    (last : name.toList.getLast? = some char) (noPoint : char ≠ '.') : IsPlain name := by
  constructor
  · rintro rfl
    exact noPoint (Option.some.inj last).symm
  · rintro rfl
    exact noPoint (Option.some.inj last).symm

namespace Versions

variable {versions : Versions} {version : Nat} {states : StateMap} {before after : Disk}

/-- The name of the file with the states. -/
def stateName (versions : Versions) : String := versions.kind ++ "_versions.json"

/-- The name of the file under which new states are written. -/
def draftName (versions : Versions) : String := versions.kind ++ "_versions.json.tmp"

/-- The names of a kind stand for entries of the base directory. -/
structure IsNamed (versions : Versions) : Prop where
  direct : versions.base.Direct
  solid : '/' ∉ versions.kind.toList

theorem isNamed_of_isKindName {base : FilePath} {kind : String} (direct : base.Direct)
    (named : isKindName kind) : (⟨base, kind⟩ : Versions).IsNamed where
  direct := direct
  solid := solid_of_isKindName named

theorem getLast?_stateName (versions : Versions) :
    versions.stateName.toList.getLast? = some 'n' := by
  rw [stateName, String.toList_append, List.getLast?_append]
  rfl

theorem getLast?_draftName (versions : Versions) :
    versions.draftName.toList.getLast? = some 'p' := by
  rw [draftName, String.toList_append, List.getLast?_append]
  rfl

theorem getLast?_directoryName (versions : Versions) (version : Nat) :
    ∃ char, (versions.directoryName version).toList.getLast? = some char ∧ char.isDigit := by
  have present := Number.padded_ne_nil 4 version
  refine ⟨_, ?_, Number.isDigit_of_mem_padded (List.getLast_mem present)⟩
  rw [directoryName, String.toList_append, List.getLast?_append,
    List.getLast?_eq_getLast_of_ne_nil present]
  rfl

theorem isPlain_stateName (versions : Versions) : IsPlain versions.stateName :=
  isPlain_of_getLast? versions.getLast?_stateName (by decide)

theorem isPlain_draftName (versions : Versions) : IsPlain versions.draftName :=
  isPlain_of_getLast? versions.getLast?_draftName (by decide)

theorem isPlain_directoryName (versions : Versions) (version : Nat) :
    IsPlain (versions.directoryName version) := by
  obtain ⟨char, last, digit⟩ := versions.getLast?_directoryName version
  refine isPlain_of_getLast? last ?_
  rintro rfl
  exact absurd digit (by decide)

theorem stateName_ne_draftName (versions others : Versions) :
    versions.stateName ≠ others.draftName := by
  intro same
  have last := versions.getLast?_stateName
  rw [same, others.getLast?_draftName] at last
  exact absurd last (by decide)

theorem directoryName_ne {name : String} {char : Char} (versions : Versions) (version : Nat)
    (last : name.toList.getLast? = some char) (noDigit : char.isDigit = false) :
    name ≠ versions.directoryName version := by
  rintro rfl
  obtain ⟨digit, here, isDigit⟩ := versions.getLast?_directoryName version
  obtain rfl := Option.some.inj (last.symm.trans here)
  exact absurd isDigit (by simp [noDigit])

/-- Kinds do not share the file of their states. -/
theorem stateName_ne (versions others : Versions) (differs : versions.kind ≠ others.kind) :
    versions.stateName ≠ others.stateName := fun same => differs (String.append_left_inj _ |>.mp same)

section Solid

variable (solid : '/' ∉ versions.kind.toList)
include solid

/-- A name that begins with the kind is one step below the base directory. -/
theorem below_kind {ending : String} (solidEnding : '/' ∉ ending.toList) (present : ending ≠ "") :
    FilePath.below versions.base (versions.kind ++ ending) =
      versions.base ++ [versions.kind ++ ending] := by
  refine FilePath.below_name ?_ ?_ versions.base
  · rw [String.toList_append]
    exact fun member => (List.mem_append.mp member).elim solid solidEnding
  · exact fun empty => present (String.append_eq_empty_iff.mp empty).2

theorem directory_eq (version : Nat) :
    versions.directory version = versions.base ++ [versions.directoryName version] := by
  have digits : '/' ∉ (Number.padded 4 version).toList := fun member =>
    absurd (Number.isDigit_of_mem_padded member) (by decide)
  have solidEnding : '/' ∉ ("_" ++ Number.padded 4 version).toList := by
    rw [String.toList_append]
    exact fun member => (List.mem_append.mp member).elim (by decide) digits
  have present : "_" ++ Number.padded 4 version ≠ "" := fun empty =>
    absurd (String.append_eq_empty_iff.mp empty).1 (by decide)
  rw [Versions.directory, directoryName, String.append_assoc]
  exact below_kind solid solidEnding present

end Solid

section Named

variable (named : versions.IsNamed)
include named

theorem IsNamed.stateFile : versions.stateFile = versions.base ++ [versions.stateName] :=
  below_kind named.solid (by decide) (by decide)

theorem IsNamed.draftFile : versions.draftFile = versions.base ++ [versions.draftName] :=
  below_kind named.solid (by decide) (by decide)

theorem IsNamed.directory (version : Nat) :
    versions.directory version = versions.base ++ [versions.directoryName version] :=
  directory_eq named.solid version

/-! ### What is changed -/

/-- To write states fails before the draft is written or before it takes the place of the old ones,
    or it does not fail. -/
theorem IsNamed.save_cases {result : Except Error Unit}
    (saved : versions.save states before = (result, after)) :
    (result = .error .storage ∧ after = (before.makeFolder versions.base).1) ∨
    ∃ drafted, Node.writeFile? (.text states.toJson.printLines) (versions.base ++ [versions.draftName])
        (before.makeFolder versions.base).1 = some drafted ∧
      ((result = .error .storage ∧ after = drafted) ∨
        (result = .ok () ∧
          Node.writeFile? (.text states.toJson.printLines) (versions.base ++ [versions.stateName])
            (drafted.remove (versions.base.goal ++ [versions.draftName])) = some after)) := by
  unfold Versions.save at saved
  dsimp only at saved
  rw [named.draftFile, named.stateFile] at saved
  split at saved
  · obtain ⟨rfl, rfl⟩ := Prod.mk.inj saved
    exact .inl ⟨rfl, rfl⟩
  · rename_i drafted draft
    refine .inr ⟨drafted, draft, ?_⟩
    -- The draft is found where it has been written, so it is what is taken away.
    obtain ⟨here, usable, _, free, rfl⟩ := Node.writeFile?_append_eq_some.mp draft
    have reached := (Node.grows_put (.file (.text states.toJson.printLines)) here.2 free).reaches here
    have place := Node.place?_append reached versions.isPlain_draftName usable (by
      rw [Node.at?_put_self _ _ here.2]
      rfl)
    rw [place, Option.elim_some] at saved
    split at saved
    · obtain ⟨rfl, rfl⟩ := Prod.mk.inj saved
      exact .inl ⟨rfl, rfl⟩
    · rename_i last state
      obtain ⟨rfl, rfl⟩ := Prod.mk.inj saved
      exact .inr ⟨rfl, state⟩

/-- To write states changes nothing but the files of the kind, and only the draft if it fails. If it
    does not fail, the states are found. -/
theorem IsNamed.save {result : Except Error Unit}
    (saved : versions.save states before = (result, after)) :
    ChangesOnly [versions.stateName, versions.draftName] versions.base before after ∧
      match result with
      | .error _ => ChangesOnly [versions.draftName] versions.base before after
      | .ok _ => after.find? versions.stateFile = some (.file (.text states.toJson.printLines)) := by
  have made := (ChangesOnly.makeFolder named.direct before).mono
    (List.nil_subset [versions.draftName])
  have draftOnly : [versions.draftName] ⊆ [versions.stateName, versions.draftName] :=
    List.subset_cons_self _ _
  have stateOnly : [versions.stateName] ⊆ [versions.stateName, versions.draftName] := by
    simp
  obtain ⟨rfl, rfl⟩ | ⟨drafted, draft, ⟨rfl, rfl⟩ | ⟨rfl, state⟩⟩ := named.save_cases saved
  · exact ⟨made.mono draftOnly, made⟩
  · have changes := made.trans (ChangesOnly.writeFile draft)
    exact ⟨changes.mono draftOnly, changes⟩
  · have moved := (made.trans (ChangesOnly.writeFile draft)).trans
      (ChangesOnly.remove named.direct drafted versions.draftName)
    refine ⟨(moved.mono draftOnly).trans ((ChangesOnly.writeFile state).mono stateOnly), ?_⟩
    obtain ⟨here, usable, _, free, rfl⟩ := Node.writeFile?_append_eq_some.mp state
    have reached := (Node.grows_put (.file (.text states.toJson.printLines)) here.2 free).reaches here
    rw [named.stateFile, Node.find?_append reached versions.isPlain_stateName usable]
    exact Node.at?_put_self _ _ here.2

theorem markReady_changes (version : Nat) (ready : Bool) (now : Time.Instant) (disk : Disk) :
    ChangesOnly [versions.stateName, versions.draftName] versions.base disk
      (versions.markReady version ready now disk).2 := by
  unfold markReady
  split
  · exact (named.save rfl).1
  · exact ChangesOnly.refl _ _ _

theorem forget_changes (version : Nat) (disk : Disk) :
    ChangesOnly [versions.stateName, versions.draftName] versions.base disk
      (versions.forget version disk).2 := by
  unfold forget
  split
  · split
    · exact (named.save rfl).1
    · exact ChangesOnly.refl _ _ _
  · exact ChangesOnly.refl _ _ _

theorem deleteDirectory_changes (deleted : versions.deleteDirectory version before = .ok after) :
    ChangesOnly [versions.directoryName version] versions.base before after := by
  unfold deleteDirectory at deleted
  split at deleted
  · exact Except.ok.inj deleted ▸ ChangesOnly.refl _ _ _
  · rename_i place leads
    split at deleted
    · rw [named.directory] at leads
      obtain ⟨_, _, rfl, _⟩ := Node.place?_eq_some (versions.isPlain_directoryName version) leads
      exact Except.ok.inj deleted ▸ ChangesOnly.remove named.direct before _
    · contradiction

/-! ### What is found -/

omit named in
/-- The states are those on the disk; if there are none, no file stands where one would be found. -/
def Holds (versions : Versions) (states : StateMap) (disk : Disk) : Prop :=
  (states = [] ∧ disk.at? (versions.base.goal ++ [versions.stateName]) = none) ∨
    ∃ content, disk.find? versions.stateFile = some (.file (.text content)) ∧
      StateMap.ofText? content = some states

theorem Holds.load {disk : Disk} (holds : versions.Holds states disk) :
    versions.load disk = .ok states := by
  unfold Versions.load
  rcases holds with ⟨rfl, absent⟩ | ⟨content, found, read⟩
  · have nothing : disk.find? versions.stateFile = none := by
      by_contra present
      obtain ⟨node, found⟩ := Option.ne_none_iff_exists'.mp present
      rw [named.stateFile] at found
      rw [(Node.find?_eq_some versions.isPlain_stateName found).2.2] at absent
      contradiction
    rw [nothing]
  · rw [found]
    simp only [read]

omit named in
theorem isReady_of_load {disk : Disk} (loaded : versions.load disk = .ok states) (version : Nat) :
    versions.isReady version disk = .ok ((states.lookup version).any VersionState.ready) := by
  rw [isReady, loaded]
  rfl

omit named in
theorem Holds.legal {disk : Disk} (holds : versions.Holds states disk) : states.Legal := by
  rcases holds with ⟨rfl, _⟩ | ⟨_, _, read⟩
  · exact StateMap.legal_nil
  · exact StateMap.ofText?_legal read

/-- States stay what they are while other entries change. -/
theorem Holds.beside {names : List String} (holds : versions.Holds states before)
    (changes : ChangesOnly names versions.base before after) (apart : versions.stateName ∉ names) :
    versions.Holds states after := by
  rcases holds with ⟨rfl, absent⟩ | ⟨content, found, read⟩
  · exact .inl ⟨rfl, (changes.others _ apart).trans absent⟩
  · rw [named.stateFile] at found
    refine .inr ⟨content, ?_, read⟩
    rw [named.stateFile]
    exact changes.find? apart versions.isPlain_stateName found

theorem Holds.save {next : StateMap} (holds : versions.Holds states before) (legal : next.Legal)
    {result : Except Error Unit} (saved : versions.save next before = (result, after)) :
    versions.Holds (if result.isOk then next else states) after := by
  have written := (named.save saved).2
  cases result with
  | error fault =>
    have apart : versions.stateName ∉ [versions.draftName] := by
      simpa using stateName_ne_draftName versions versions
    exact holds.beside named written apart
  | ok => exact .inr ⟨_, written, StateMap.ofText?_printLines legal⟩

/-- The state that is set is on the disk, unless that fails. -/
theorem Holds.markReady (holds : versions.Holds states before)
    (word : Number.nat32.has version) {ready : Bool} {now : Time.Instant} {result : Except Error Unit}
    (marked : versions.markReady version ready now before = (result, after)) :
    versions.Holds (if result.isOk then setState version ⟨ready, now⟩ states else states) after := by
  unfold Versions.markReady at marked
  rw [holds.load named] at marked
  exact holds.save named (holds.legal.set word _) marked

/-- The state that is forgotten is not on the disk any more, unless that fails. -/
theorem Holds.forget (holds : versions.Holds states before) {result : Except Error Unit}
    (forgot : versions.forget version before = (result, after)) :
    versions.Holds
      (if result.isOk then states.filter (fun entry => entry.1 ≠ version) else states) after := by
  unfold Versions.forget at forgot
  rw [holds.load named] at forgot
  dsimp only at forgot
  split at forgot
  · exact holds.save named (holds.legal.drop version) forgot
  · rename_i unknown
    obtain ⟨rfl, rfl⟩ := Prod.mk.inj forgot
    have absent : states.lookup version = none := Option.not_isSome_iff_eq_none.mp unknown
    have same : states.filter (fun entry => entry.1 ≠ version) = states := by
      refine List.filter_eq_self.mpr fun entry member => ?_
      have differs := List.lookup_eq_none_iff.mp absent entry member
      simpa using Ne.symm (bne_iff_ne.mp differs)
    rw [same, ite_self]
    exact holds

end Named

end Versions

end KeyedIndex
