import KeyedIndex.Proofs.Group.Json
import KeyedIndex.Storage.Versions

/-!
States of versions and the text of them. Only the version whose state is set or dropped has
another state then (`lookup_setState_self`, `lookup_setState_of_ne`). The states that are read
from any text are sorted and are those of versions of 32 bits (`StateMap.ofText?_legal`); such
states are read back from the text that is written for them (`StateMap.ofText?_printLines`).
-/
namespace KeyedIndex

open Json

variable {version other : Nat} {state : VersionState} {states before : StateMap}

/-- States of versions of 32 bits, of which each has one and the older come first. -/
structure StateMap.Legal (states : StateMap) : Prop where
  sorted : states.Pairwise (fun first second => first.1 < second.1)
  words : ∀ entry ∈ states, Number.nat32.has entry.1

theorem nat32_has (version : UInt32) : Number.nat32.has version.toNat := by
  have small := version.toNat_lt
  rw [Number.Interval.has_iff]
  simp only [Number.nat32]
  omega

theorem StateMap.legal_nil : StateMap.Legal [] := ⟨.nil, by simp⟩

/-! ### States that are set -/

theorem lookup_setState_self (version : Nat) (state : VersionState) (states : StateMap) :
    (setState version state states).lookup version = some state := by
  fun_induction setState version state states with
  | case1 => simp
  | case2 => simp
  | case3 => simp
  | case4 head found rest newer differs ih => simp [List.lookup_cons, beq_false_of_ne differs, ih]

theorem lookup_setState_of_ne (differs : other ≠ version) (state : VersionState) (states : StateMap) :
    (setState version state states).lookup other = states.lookup other := by
  fun_induction setState version state states with
  | case1 => simp [List.lookup_cons, beq_false_of_ne differs]
  | case2 => rw [List.lookup_cons, beq_false_of_ne differs]
  | case3 => simp [List.lookup_cons, beq_false_of_ne differs]
  | case4 head found rest _ _ ih => simp [List.lookup_cons, ih]

theorem mem_setState {entry : Nat × VersionState} (member : entry ∈ setState version state states) :
    entry = (version, state) ∨ entry ∈ states := by
  fun_induction setState version state states with
  | case1 => exact .inl (List.mem_singleton.mp member)
  | case2 => exact List.mem_cons.mp member
  | case3 =>
    rcases List.mem_cons.mp member with here | later
    · exact .inl here
    · exact .inr (List.mem_cons_of_mem _ later)
  | case4 head found rest _ _ ih =>
    rcases List.mem_cons.mp member with here | later
    · exact .inr (here ▸ List.mem_cons_self)
    · exact (ih later).imp_right (List.mem_cons_of_mem _)

theorem sorted_setState (sorted : states.Pairwise (fun first second => first.1 < second.1)) :
    (setState version state states).Pairwise (fun first second => first.1 < second.1) := by
  fun_induction setState version state states with
  | case1 => exact List.pairwise_singleton _ _
  | case2 head found rest older =>
    refine List.pairwise_cons.mpr ⟨fun entry member => ?_, sorted⟩
    rcases List.mem_cons.mp member with rfl | later
    · exact older
    · exact Nat.lt_trans older ((List.pairwise_cons.mp sorted).1 entry later)
  | case3 found rest _ => exact List.pairwise_cons.mpr (List.pairwise_cons.mp sorted)
  | case4 head found rest newer differs ih =>
    obtain ⟨first, others⟩ := List.pairwise_cons.mp sorted
    refine List.pairwise_cons.mpr ⟨fun entry member => ?_, ih others⟩
    rcases mem_setState member with rfl | later
    · dsimp only
      omega
    · exact first entry later

theorem StateMap.Legal.set (legal : states.Legal) (word : Number.nat32.has version)
    (state : VersionState) : StateMap.Legal (setState version state states) where
  sorted := sorted_setState legal.sorted
  words entry member := by
    rcases mem_setState member with rfl | old
    · exact word
    · exact legal.words entry old

theorem StateMap.Legal.drop (legal : states.Legal) (version : Nat) :
    StateMap.Legal (states.filter (fun entry => entry.1 ≠ version)) where
  sorted := legal.sorted.filter _
  words entry member := legal.words entry (List.mem_filter.mp member).1

/-- The state of a version that is newer than all others comes last. -/
theorem setState_newest (newest : ∀ entry ∈ states, entry.1 < version) (state : VersionState) :
    setState version state states = states ++ [(version, state)] := by
  induction states with
  | nil => rfl
  | cons entry rest ih =>
    obtain ⟨older, others⟩ := List.forall_mem_cons.mp newest
    rw [setState, if_neg (by omega), if_neg (by omega), ih others, List.cons_append]

/-! ### States that are read -/

theorem Number.nat32_hasZero : Number.nat32.HasZero := ⟨by decide, by decide⟩

theorem readVersionName?_has {key : Json.Key} (read : readVersionName? key = some version) :
    Number.nat32.has version := by
  unfold readVersionName? at read
  split at read
  · split at read
    · rename_i number here
      have inside := Number.Interval.read?_has Number.nat32_hasZero here
      have natural : 0 ≤ number := (Number.Interval.has_iff.mp inside).1
      split at read
      · obtain rfl := Option.some.inj read
        rwa [Int.toNat_of_nonneg natural]
      · contradiction
    · contradiction
  · contradiction

theorem decodeStates?_legal {members : List (Json.Key × Doc)} (legal : before.Legal)
    (read : decodeStates? members before = some states) : states.Legal := by
  induction members generalizing before with
  | nil => exact Option.some.inj read ▸ legal
  | cons member rest ih =>
    obtain ⟨version, named, later⟩ := Option.bind_eq_some_iff.mp read
    obtain ⟨state, _, last⟩ := Option.bind_eq_some_iff.mp later
    exact ih (legal.set (readVersionName?_has named) state) last

/-- The states of any text are legal. -/
theorem StateMap.ofText?_legal {text : String} (read : StateMap.ofText? text = some states) :
    states.Legal := by
  unfold StateMap.ofText? at read
  split at read
  · exact decodeStates?_legal StateMap.legal_nil read
  · contradiction

/-! ### What is written is read -/

theorem isPlain_decimal (version : Nat) : (Number.decimal version).toList.all Json.isPlain := by
  refine List.all_eq_true.mpr fun char member => ?_
  have digit : char.isDigit := Number.isDigit_of_mem_repr member
  have range : 48 ≤ char.toNat ∧ char.toNat ≤ 57 := Char.isDigit_iff_toNat.mp digit
  have quote : char ≠ '"' := by
    rintro rfl
    exact absurd digit (by decide)
  have backslash : char ≠ '\\' := by
    rintro rfl
    exact absurd digit (by decide)
  have solid : 0x20 ≤ char.toNat := by omega
  simp [Json.isPlain, quote, backslash, solid]

theorem readVersionName?_decimal (word : Number.nat32.has version) :
    readVersionName? (.name (Number.decimal version)
      ((Number.decimal version).toList.all Json.isPlain)) = some version := by
  rw [isPlain_decimal, readVersionName?, Number.Interval.read?_decimal word]
  simp

theorem VersionState.decode?_doc (state : VersionState) :
    VersionState.decode? state.toJson.doc = some state := by
  rw [VersionState.toJson, Value.doc]
  simp only [memberDocs, VersionState.decode?, Shape.decode, VersionState.shape]
  rw [fillMembers_name rfl _ _ _ rfl rfl,
    fillMembers_name rfl _ _ _ rfl (by simp only [decodeInstant_doc]; rfl), fillMembers]
  rfl

theorem decodeStates?_docs (legal : StateMap.Legal (before ++ states)) :
    decodeStates? (memberDocs (states.map (fun entry =>
      (Number.decimal entry.1, entry.2.toJson)))) before = some (before ++ states) := by
  induction states generalizing before with
  | nil => simp [memberDocs, decodeStates?]
  | cons entry rest ih =>
    obtain ⟨version, state⟩ := entry
    have newest : ∀ entry ∈ before, entry.1 < version := fun entry member =>
      (List.pairwise_append.mp legal.sorted).2.2 entry member _ List.mem_cons_self
    have word : Number.nat32.has version := legal.words (version, state) (by simp)
    have grouped : before ++ (version, state) :: rest = (before ++ [(version, state)]) ++ rest := by
      simp
    rw [grouped] at legal ⊢
    rw [List.map_cons, memberDocs, decodeStates?, readVersionName?_decimal word,
      VersionState.decode?_doc, Option.bind_eq_bind, Option.bind_some, Option.bind_eq_bind,
      Option.bind_some, setState_newest newest]
    exact ih legal

theorem StateMap.toJson_fits (states : StateMap) : states.toJson.Fits := by
  refine (membersFit_iff _).mpr fun member inside => ?_
  obtain ⟨⟨version, state⟩, _, rfl⟩ := List.mem_map.mp inside
  exact ⟨trivial, words_millis state.updatedAt, trivial⟩

/-- Legal states are read back from their text. -/
theorem StateMap.ofText?_printLines (legal : states.Legal) :
    StateMap.ofText? states.toJson.printLines = some states := by
  have start : StateMap.Legal ([] ++ states) := legal
  rw [StateMap.ofText?, Value.printLines, Value.ofText_write _ states.toJson_fits, StateMap.toJson, Value.doc]
  exact decodeStates?_docs start

end KeyedIndex
