import KeyedIndex.Proofs.Index.Answers
import KeyedIndex.Proofs.Index.Runs
import KeyedIndex.Proofs.Query.Written

/-!
Lookups of single entities. Whatever is asked of an index, its readers see the documents of some
store of entities (`Origin.Shows`), one for each key. So the lookup of a key, which goes past the
compiler, finds what the predicate finds that asks for the text of the key
(`Origin.run_lookups`), unless this text is empty.
-/
namespace KeyedIndex

variable {α κ : Type}

/-- The readers of an index see the documents of a store. -/
structure Origin.Shows [Key κ] [Entity α κ] (origin : Origin α) (index : Index α)
    (seen : Cache α) : Prop where
  keyed : origin.schema.Keyed seen
  binding : index.binding = origin.schema.bound
  documents : index.readers.current.documents = origin.schema.documents seen

variable {origin : Origin α} {index : Index α} {host : Host}

/-! ### What the readers see -/

theorem Index.publish_readers (before : Snapshot) (batch : List Operation) :
    (index.publish before batch host).1.readers = index.readers := by
  unfold Index.publish
  cases index.location <;> rfl

theorem Index.rollBack_readers : (index.rollBack host).1.readers = index.readers := by
  unfold Index.rollBack
  cases index.stored? host <;> rfl

theorem Index.look_readers : (index.look host).readers = index.readers := by
  unfold Index.look
  cases index.location <;> rfl

/-- To carry out a batch loads nothing. -/
theorem Index.executeBatch_readers (batch : List Operation) :
    (index.executeBatch batch host).2.1.readers = index.readers := by
  unfold Index.executeBatch
  by_cases closed : index.writer.closed
  · rw [if_pos closed]
  · rw [if_neg closed]
    dsimp only
    split
    · rw [Index.publish_readers, Index.look_readers]
    · rw [Index.rollBack_readers, Index.look_readers]

theorem Index.executeBatches_readers (batches : List (List Operation)) :
    (index.executeBatches host batches).2.1.readers = index.readers := by
  induction batches generalizing index host with
  | nil => rfl
  | cons batch rest ih =>
    simp only [Index.executeBatches]
    rw [ih, Index.executeBatch_readers]

theorem Index.execute_readers (queue : List Operation) :
    (index.execute queue host).2.1.readers = index.readers :=
  Index.executeBatches_readers _

theorem Index.change_readers [Key κ] [Entity α κ] (change : Change α κ) :
    (index.change host change).2.1.readers = index.readers := by
  rw [Index.change_eq, Index.executeOne]
  exact Index.execute_readers _

/-- The readers of an index that has just been opened see what is committed. -/
theorem Origin.open_current {after : Host} (opened : origin.open host = (.ok index, after)) :
    index.readers.current = index.writer.workspace.committed := by
  obtain ⟨-, ⟨-, made⟩ | ⟨-, directory, commit, disk, -, made⟩⟩ := Origin.open_eq_ok opened
  · exact (Index.ofCommit_made made).2
  · exact (Index.ofCommit_made made).2

section

variable [Key κ] [Entity α κ] {store : Cache α}

theorem Origin.Keeps.shows (keeps : origin.Keeps index host store)
    (current : index.readers.current = index.writer.workspace.committed) :
    origin.Shows index store :=
  ⟨keeps.keyed, keeps.binding, current ▸ keeps.documents⟩

/-- An index that loads nothing shows what it has shown before. -/
theorem Origin.Shows.unloaded {seen : Cache α} {next : Index α} (shows : origin.Shows index seen)
    (kept : origin.Keeps next host store) (same : next.readers = index.readers) :
    origin.Shows next seen :=
  ⟨shows.keyed, kept.binding, same ▸ shows.documents⟩

variable [LawfulKey κ] [DecidableEq κ]

theorem Session.step_shows {session : Session α} (valid : origin.Valid)
    (keeps : origin.Keeps session.index session.host store)
    (shows : ∃ seen : Cache α, origin.Shows session.index seen) {call : Call α κ}
    (legal : call.Legal origin) :
    ∃ seen : Cache α, origin.Shows (session.step origin call).1.index seen := by
  obtain ⟨seen, shows⟩ := shows
  obtain ⟨kept, -, -⟩ := Session.step_keeps valid keeps legal
  cases call with
  | one change => exact ⟨seen, shows.unloaded kept (Index.change_readers change)⟩
  | several changes => exact ⟨seen, shows.unloaded kept (Index.execute_readers _)⟩
  | refresh =>
    obtain ⟨refreshed, done, keptToo, current, writer⟩ := keeps.refresh
    simp only [Session.step, done]
    exact ⟨store, keptToo.shows (writer ▸ current)⟩
  | close => exact ⟨seen, shows.unloaded kept rfl⟩
  | reopen =>
    obtain ⟨closedKeeps, closed⟩ := keeps.close
    have again := closedKeeps.open_closed valid (legal.2 rfl) closed
    by_cases usable : (indexFile origin.directory).isUsable
    · rw [if_pos usable] at again
      obtain ⟨opened, after, done, keptAgain, -⟩ := again
      simp only [Session.step, done]
      exact ⟨store, keptAgain.shows (Origin.open_current done)⟩
    · rw [if_neg usable] at again
      simp only [Session.step, again]
      exact ⟨seen, shows.unloaded closedKeeps rfl⟩

theorem Session.run_shows {session : Session α} {calls : List (Call α κ)} (valid : origin.Valid)
    (keeps : origin.Keeps session.index session.host store)
    (shows : ∃ seen : Cache α, origin.Shows session.index seen)
    (legal : ∀ call ∈ calls, call.Legal origin) :
    ∃ seen : Cache α, origin.Shows (session.run origin calls).1.index seen := by
  induction calls generalizing session store with
  | nil => exact shows
  | cons call rest ih =>
    obtain ⟨here, later⟩ := List.forall_mem_cons.mp legal
    obtain ⟨kept, -, -⟩ := Session.step_keeps valid keeps here
    exact ih kept (Session.step_shows valid keeps shows here) later

/-! ### Lookups -/

variable {seen : Cache α} (shows : origin.Shows index seen) (key : κ)
include shows

/-- The readers see a document of a key if the store has an entity with the key. -/
theorem Origin.Shows.live_iff :
    (∃ document ∈ index.readers.current.documents,
      origin.schema.bound.key? document = some key) ↔ (seen.get? key).isSome = true := by
  have found := shows.keyed.documents_of_key key
  rw [← shows.documents] at found
  constructor
  · rintro ⟨document, member, keyed⟩
    have inside : document ∈ ((seen.get? key).map origin.schema.bound.document).toList := by
      rw [← found]
      exact List.mem_filter.mpr ⟨member, decide_eq_true keyed⟩
    cases entity : seen.get? key with
    | none => simp [entity] at inside
    | some entity => rfl
  · intro some
    obtain ⟨entity, here⟩ := Option.isSome_iff_exists.mp some
    have inside : origin.schema.bound.document entity ∈ index.readers.current.documents.filter
        (fun document => origin.schema.bound.key? document = .some key) := by
      rw [found, here]
      exact List.mem_singleton_self _
    obtain ⟨member, keyed⟩ := List.mem_filter.mp inside
    exact ⟨_, member, of_decide_eq_true keyed⟩

/-- The query of a key is for the entity with the key. -/
theorem Origin.Shows.selected (options : SearchOptions) :
    origin.schema.selected ⟨origin.schema.bound, origin.schema.bound.keyQuery key, options⟩ seen =
      (seen.get? key).toList := by
  rw [Schema.selected, ← Cache.filter_key shows.keyed.distinct key]
  refine List.filter_congr ?_
  intro entity member
  have identifies := shows.keyed.identified entity member
  rw [Bool.eq_iff_iff, decide_eq_true_iff, ← identifies.mem_terms key, ← List.contains_iff_mem]
  rfl

/-- The query of a key finds the entity with the key, as far as a cache knows it. -/
theorem Origin.Shows.read_key (known : κ → Option α) (order : SortOrder)
    (fields : Option (List String)) :
    Listing.read ⟨origin.schema.bound, origin.schema.bound.keyQuery key, ⟨0, 1, order, fields⟩⟩
        known index.readers.current =
      .ok ((seen.get? key).bind (fun _ => known key)).toList := by
  let listing : Listing α :=
    ⟨origin.schema.bound, origin.schema.bound.keyQuery key, ⟨0, 1, order, fields⟩⟩
  obtain ⟨ranking, ranked, perm, -⟩ := shows.keyed.ranking listing shows.documents
  rw [shows.selected key] at perm
  have few : (listing.ranking origin.schema.keySort index.readers.current).length <
      UInt64.size := by
    have count := congrArg List.length ranked
    rw [List.length_map, perm.length_eq, Listing.rankedDocuments, List.length_map] at count
    have one : (seen.get? key).toList.length ≤ 1 := by cases seen.get? key <;> simp
    exact count ▸ one.trans_lt (by decide)
  have read : listing.read known index.readers.current = .ok ((listing.options.cut
      (listing.rankedDocuments origin.schema.keySort index.readers.current)).filterMap
        (fun document => (listing.documentKey? origin.schema.keySort document).bind known)) :=
    listing.read_of_few known origin.schema.sortColumn?_keyField few
  rw [read, ← ranked]
  cases found : seen.get? key with
  | none =>
    rw [found] at perm
    obtain rfl := perm.eq_nil
    rfl
  | some entity =>
    rw [found] at perm
    obtain rfl : ranking = [entity] := List.perm_singleton.mp perm
    have member : entity ∈ seen.entities := List.mem_of_find?_eq_some found
    have same : Entity.key entity = key := by simpa using List.find?_some found
    have keyed : listing.documentKey? origin.schema.keySort (origin.schema.bound.document entity) =
        some key := by
      simp only [Listing.documentKey?, (shows.keyed.identified entity member).sortKey?,
        LawfulKey.ofText?_text, same]
    have window : listing.options.cut [origin.schema.bound.document entity] =
        [origin.schema.bound.document entity] := SearchOptions.cut_eq_self rfl (Nat.le_refl 1)
    rw [List.map_cons, List.map_nil, window, List.filterMap_cons, keyed, Option.bind_some,
      Option.bind_some]
    cases known key <;> rfl

theorem Origin.Shows.get?_eq (known : κ → Option α) :
    index.get? key known = .ok ((seen.get? key).bind (fun _ => known key)) := by
  unfold Index.get?
  rw [shows.binding]
  refine (congrArg (· >>= fun found => pure found.head?)
    (shows.read_key key known .ascending none)).trans ?_
  cases seen.get? key with
  | none => rfl
  | some entity => cases known key <;> rfl

theorem Origin.Shows.query_key (known : κ → Option α) (filled : Key.text key ≠ "")
    (order : SortOrder) (fields : Option (List String)) :
    index.query (.onField origin.schema.keyField.name .equals (Key.text key)) ⟨0, 1, order, fields⟩
        known = .ok ((seen.get? key).bind (fun _ => known key)).toList := by
  have compiled : origin.schema.bound.compile
      (.onField origin.schema.keyField.name .equals (Key.text key)) =
        .ok (origin.schema.bound.keyQuery key) := by
    refine (Schema.compile_leaf origin.schema.keyField_mem rfl filled).trans ?_
    simp only [Binding.valueQuery, origin.schema.keyField_fit.1]
    rfl
  rw [Index.query, Index.listing, shows.binding, compiled]
  exact shows.read_key key known order fields

omit [LawfulKey κ] [DecidableEq κ] in
/-- An empty text is not looked for by the compiler. -/
theorem Origin.Shows.query_empty (known : κ → Option α) (empty : Key.text key = "")
    (options : SearchOptions) :
    index.query (.onField origin.schema.keyField.name .equals (Key.text key)) options known =
      .error (.query (.emptyValue origin.schema.keyField.name)) := by
  have field : origin.schema.bound.schema.field? origin.schema.keyField.name =
      some origin.schema.keyField := Schema.field?_name origin.schema.keyField_mem
  have refused : origin.schema.bound.compile
      (.onField origin.schema.keyField.name .equals (Key.text key)) =
        .error (.emptyValue origin.schema.keyField.name) := by
    simp only [Predicate.onField, Binding.compile, Binding.leafQuery, field, empty, if_true]
  rw [Index.query, Index.listing, shows.binding, refused]
  rfl

end

/-- After any calls on an index that was new, the lookup of a key asks the cache for the key if the
    readers see a document with it, and finds nothing else. The predicate that asks for the text of
    the key finds the same in either order, and is refused exactly if the text is empty. -/
theorem Origin.run_lookups [Key κ] [Entity α κ] [LawfulKey κ] [DecidableEq κ] {after : Host}
    (opened : origin.open host = (.ok index, after))
    (fresh : origin.settings.inMemory = false →
      host.disk.has (indexFile origin.directory) = false)
    {calls : List (Call α κ)} (legal : ∀ call ∈ calls, call.Legal origin)
    (known : κ → Option α) (key : κ) :
    let last := (Session.run origin ⟨index, after⟩ calls).1.index
    let live := ∃ document ∈ last.readers.current.documents,
      origin.schema.bound.key? document = some key
    (live → last.get? key known = .ok (known key)) ∧
    (¬ live → last.get? key known = .ok none) ∧
    ∀ (order : SortOrder) (fields : Option (List String)),
      let answer := last.query
        (.onField origin.schema.keyField.name .equals (Key.text key)) ⟨0, 1, order, fields⟩ known
      (Key.text key ≠ "" →
        ∃ found, answer = .ok found ∧ last.get? key known = .ok found.head?) ∧
      ((∃ fault, answer = .error (.query fault)) ↔ Key.text key = "") := by
  intro last live
  obtain ⟨valid, keeps, -⟩ := Origin.open_fresh opened fresh
  let first : Session α := ⟨index, after⟩
  have keepsFirst : origin.Keeps first.index first.host Cache.empty := keeps
  obtain ⟨seen, shows⟩ := Session.run_shows valid keepsFirst
    ⟨_, keeps.shows (Origin.open_current opened)⟩ legal
  have lookup : last.get? key known = .ok ((seen.get? key).bind (fun _ => known key)) :=
    shows.get?_eq key known
  refine ⟨?_, ?_, ?_⟩
  · intro isLive
    obtain ⟨entity, found⟩ := Option.isSome_iff_exists.mp ((shows.live_iff key).mp isLive)
    rw [lookup, found, Option.bind_some]
  · intro absent
    have lacks : seen.get? key = none :=
      Option.not_isSome_iff_eq_none.mp (fun found => absent ((shows.live_iff key).mpr found))
    rw [lookup, lacks, Option.bind_none]
  · intro order fields answer
    constructor
    · intro filled
      refine ⟨_, shows.query_key key known filled order fields, ?_⟩
      rw [lookup, Option.head?_toList]
    · constructor
      · rintro ⟨fault, failed⟩
        by_contra filled
        cases failed.symm.trans (shows.query_key key known filled order fields)
      · intro empty
        exact ⟨_, shows.query_empty key known empty ⟨0, 1, order, fields⟩⟩

/-- A group is found until the readers are refreshed, although it has been deleted. -/
theorem Origin.run_lookups_deleted :
    let origin : Origin Group :=
      ⟨"/", GroupSchema.second, { Settings.default "/" with inMemory := true }⟩
    let group := Group.ofName 1 ⟨"g1", by decide, by decide⟩ "admins" .epoch
    let calls : List (Call Group GroupUuid) :=
      [.one (.replace group), .refresh, .one (.delete group.uuid)]
    let known := (Cache.ofList [group]).get?
    ∃ index after, origin.open (.ofDisk .empty) = (.ok index, after) ∧
      let last := (Session.run origin ⟨index, after⟩ calls).1.index
      last.get? group.uuid known = .ok (some group) ∧
        ∃ found, last.query (.onField "uuid" .equals "g1") ⟨0, 1, .descending, none⟩ known =
          .ok found ∧ found.head? = some group := by
  intro origin group calls known
  let index := (origin.open (.ofDisk .empty)).1.toOption.get (by decide +kernel)
  have opened : origin.open (.ofDisk .empty) = (.ok index, (origin.open (.ofDisk .empty)).2) :=
    Prod.ext (toOption_eq_some.mp (Option.some_get _).symm) rfl
  have legal : ∀ call ∈ calls, call.Legal origin := by
    have identified : origin.schema.Identifies group := ⟨rfl, by decide⟩
    simp [calls, Call.Legal, Call.changes, Change.Identified, identified]
  obtain ⟨live, -, queries⟩ := Origin.run_lookups opened (fun onDisk => by simp [origin] at onDisk)
    legal known group.uuid
  have found := live (by decide +kernel)
  obtain ⟨answer, answered, same⟩ := (queries .descending none).1 (by decide)
  refine ⟨index, _, opened, found, answer, answered, ?_⟩
  exact Except.ok.inj (same.symm.trans found)

end KeyedIndex
