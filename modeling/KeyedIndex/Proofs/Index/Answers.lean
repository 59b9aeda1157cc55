import KeyedIndex.Proofs.Index.Opening
import KeyedIndex.Proofs.Query.Meaning
import KeyedIndex.Proofs.Search.Window

/-!
Answers of an index that keeps the documents of a store. Once the index is refreshed, a predicate
is answered with the entities of the store of which it holds, in the order of the texts of
their keys and cut to the window (`Origin.Keeps.query_eq`).
-/
namespace KeyedIndex

variable {α κ : Type} [Key κ] [Entity α κ] {schema : Schema α} {store : Cache α} {entity : α}

/-- The column of the key, by which hits are ordered. -/
def Schema.keySort (schema : Schema α) : SortColumn := some schema.bound.keyColumn

/-- Whether an entity comes before another one by the text of its key. -/
def SortOrder.PrecedesByKey (order : SortOrder) (left right : α) : Prop :=
  order.Precedes (Key.text (Entity.key left)) (Key.text (Entity.key right))

/-! ### Keys of documents -/

theorem Schema.Identifies.sortKey? (identifies : schema.Identifies entity) :
    schema.keySort.key? (schema.bound.document entity) =
      some (Key.text (Entity.key entity)) := by
  have values : (schema.bound.document entity).values schema.bound.keyColumn =
      [.text (Key.text (Entity.key entity))] :=
    (schema.values_document entity schema.keyField_mem).trans identifies.values
  simp [SortColumn.key?, Schema.keySort, values, FieldValue.text?]

/-- Documents are ranked as their entities are. -/
theorem Schema.Identifies.precedes {left right : α} {order : SortOrder}
    (leftIdentifies : schema.Identifies left) (rightIdentifies : schema.Identifies right)
    (precedes : schema.keySort.Precedes order (schema.bound.document left)
      (schema.bound.document right)) : order.PrecedesByKey left right := by
  obtain ⟨leftKey, leftSame, rightKey, rightSame, before⟩ := precedes
  rw [leftIdentifies.sortKey?] at leftSame
  rw [rightIdentifies.sortKey?] at rightSame
  obtain rfl := Option.some.inj leftSame
  obtain rfl := Option.some.inj rightSame
  exact before

/-- By their keys, the documents of a store are put in one order. -/
theorem Schema.Keyed.distinguishes [LawfulKey κ] (keyed : schema.Keyed store) :
    schema.keySort.Distinguishes (schema.documents store) := by
  have keys : (schema.documents store).map schema.keySort.key? =
      (store.entities.map Entity.key).map (fun key => some (Key.text key)) := by
    rw [Schema.documents, List.map_map, List.map_map]
    exact List.map_congr_left fun entity member => (keyed.identified entity member).sortKey?
  constructor
  · intro document member
    obtain ⟨entity, entityIn, rfl⟩ := List.mem_map.mp member
    rw [(keyed.identified entity entityIn).sortKey?]
    rfl
  · rw [keys]
    refine keyed.distinct.map fun first second same => ?_
    exact Key.text_injective (Option.some.inj same)

/-- The entity of a document of a store is found by the key of the document. -/
theorem Schema.Keyed.known [LawfulKey κ] [DecidableEq κ] (keyed : schema.Keyed store)
    (member : entity ∈ store.entities) (listing : Listing α) :
    (listing.documentKey? schema.keySort (schema.bound.document entity)).bind store.get? =
      some entity := by
  have identifies := keyed.identified entity member
  simp only [Listing.documentKey?, identifies.sortKey?, LawfulKey.ofText?_text, Option.bind_some]
  exact Cache.get?_of_mem keyed.distinct member

/-! ### Rankings -/

/-- The entities of a store whose documents a listing is for. -/
def Schema.selected (schema : Schema α) (listing : Listing α) (store : Cache α) : List α :=
  store.entities.filter (fun entity => listing.wants (schema.bound.document entity))

theorem Schema.rankedDocuments_perm (listing : Listing α) {snapshot : Snapshot}
    (same : snapshot.documents = schema.documents store) :
    (listing.rankedDocuments schema.keySort snapshot).Perm
      ((schema.selected listing store).map schema.bound.document) := by
  have wanted : (schema.documents store).filter listing.wants =
      (schema.selected listing store).map schema.bound.document := by
    rw [Schema.documents, List.filter_map]
    rfl
  rw [← wanted, ← same]
  exact listing.rankedDocuments_perm

/-- The entities of the ranked documents of a store: those that the listing is for, in the order of
    their keys. -/
theorem Schema.Keyed.ranking [LawfulKey κ] [DecidableEq κ] (keyed : schema.Keyed store)
    (listing : Listing α) {snapshot : Snapshot}
    (same : snapshot.documents = schema.documents store) :
    ∃ ranking : List α,
      ranking.map schema.bound.document = listing.rankedDocuments schema.keySort snapshot ∧
      ranking.Perm (schema.selected listing store) ∧
      ranking.Pairwise listing.options.order.PrecedesByKey := by
  let find (document : Document) : Option α :=
    (listing.documentKey? schema.keySort document).bind store.get?
  have perm := schema.rankedDocuments_perm listing same
  have found : ∀ entity ∈ schema.selected listing store,
      find (schema.bound.document entity) = some entity :=
    fun entity member => keyed.known (List.mem_of_mem_filter member) listing
  have identified : ∀ entity ∈ schema.selected listing store, schema.Identifies entity :=
    fun entity member => keyed.identified entity (List.mem_of_mem_filter member)
  refine ⟨(listing.rankedDocuments schema.keySort snapshot).filterMap find, ?_, ?_, ?_⟩
  · rw [List.map_filterMap]
    refine (List.filterMap_congr fun document member => ?_).trans List.filterMap_some
    obtain ⟨entity, entityIn, rfl⟩ := List.mem_map.mp (perm.mem_iff.mp member)
    rw [found entity entityIn]
    rfl
  · refine (perm.filterMap find).trans (List.Perm.of_eq ?_)
    rw [List.filterMap_map]
    exact (List.filterMap_congr found).trans List.filterMap_some
  · have sorted := listing.rankedDocuments_sorted (same ▸ keyed.distinguishes)
    refine List.pairwise_filterMap.mpr (sorted.imp_of_mem ?_)
    intro left right leftIn rightIn precedes first firstHere second secondHere
    obtain ⟨one, oneIn, rfl⟩ := List.mem_map.mp (perm.mem_iff.mp leftIn)
    obtain ⟨other, otherIn, rfl⟩ := List.mem_map.mp (perm.mem_iff.mp rightIn)
    obtain rfl := Option.some.inj ((found one oneIn).symm.trans firstHere)
    obtain rfl := Option.some.inj ((found other otherIn).symm.trans secondHere)
    exact (identified one oneIn).precedes (identified other otherIn) precedes

/-! ### Answers -/

/-- An index whose readers see what is committed answers with the entities whose documents match,
    in the order of their keys and cut to the window. -/
theorem Origin.Keeps.query_eq [LawfulKey κ] [DecidableEq κ] {origin : Origin α} {index : Index α}
    {host : Host} (keeps : origin.Keeps index host store)
    (current : index.readers.current = index.writer.workspace.committed)
    (countable : store.size < UInt64.size) {predicate : Predicate α} {query : Query}
    (compiled : origin.schema.bound.compile predicate = .ok query) (options : SearchOptions) :
    ∃ ranking : List α,
      ranking.Perm (store.entities.filter (fun entity =>
        query.matches (origin.schema.layout.terms (origin.schema.bound.document entity)))) ∧
      ranking.Pairwise options.order.PrecedesByKey ∧
      index.query predicate options store.get? = .ok (options.cut ranking) := by
  let listing : Listing α := ⟨origin.schema.bound, query, options⟩
  have documents : index.readers.current.documents = origin.schema.documents store := by
    rw [current, keeps.documents]
  have counted : index.readers.current.size < UInt64.size := by
    rw [Snapshot.size, documents, Schema.documents, List.length_map]
    exact countable
  obtain ⟨ranking, ranked, perm, sorted⟩ := keeps.keyed.ranking listing documents
  refine ⟨ranking, perm, sorted, ?_⟩
  have listed : index.listing predicate options = .ok listing := by
    rw [Index.listing, keeps.binding, compiled]
  rw [Index.query, listed]
  refine (listing.read_eq store.get? origin.schema.sortColumn?_keyField counted).trans ?_
  have known : ∀ entity ∈ options.cut ranking, (listing.documentKey? origin.schema.keySort
      (origin.schema.bound.document entity)).bind store.get? = some entity := by
    intro entity member
    have selected := perm.mem_iff.mp (SearchOptions.mem_of_mem_cut member)
    exact keeps.keyed.known (List.mem_of_mem_filter selected) listing
  change Except.ok ((options.cut (listing.rankedDocuments origin.schema.keySort _)).filterMap _) = _
  rw [← ranked, SearchOptions.cut_map, List.filterMap_map]
  exact congrArg Except.ok ((List.filterMap_congr known).trans List.filterMap_some)

end KeyedIndex
