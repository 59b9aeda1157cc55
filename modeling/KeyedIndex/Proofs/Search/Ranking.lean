import KeyedIndex.Proofs.Search.Segment
import KeyedIndex.Search.Hits

/-!
Listings and the ranking of all documents. The documents that a listing matches, put in the order
of their hits, are its ranking (`Listing.ranking`); whatever the segments are, the hits of
the listing are the window of the ranking (`Listing.hits_eq`), and so are the entities
and the bundles that it reads (`Listing.read_eq`, `Listing.readRaw_eq`).
-/
namespace KeyedIndex

/-- The documents of a snapshot with their addresses. -/
def Snapshot.located (snapshot : Snapshot) : List (Address × Document) :=
  snapshot.zipIdx.flatMap (fun (segment, place) =>
    segment.documents.zipIdx.map (fun (document, position) => (⟨place, position⟩, document)))

/-- The hit of a document at an address. -/
def SortColumn.hit (column : SortColumn) (entry : Address × Document) : Hit :=
  ⟨column.key? entry.2, entry.1⟩

/-! ### Documents and addresses -/

theorem flatMap_zipIdx_map_snd (snapshot : List Segment) (place : Nat) :
    ((snapshot.zipIdx place).flatMap (fun (segment, place) =>
      segment.documents.zipIdx.map (fun (document, position) =>
        ((⟨place, position⟩ : Address), document)))).map Prod.snd =
      snapshot.flatMap Segment.documents := by
  induction snapshot generalizing place with
  | nil => rfl
  | cons segment rest ih =>
    have here : ((fun entry : Address × Document => entry.2) ∘ fun entry : Document × Nat =>
        ((⟨place, entry.2⟩ : Address), entry.1)) = Prod.fst := rfl
    simp only [List.zipIdx_cons, List.flatMap_cons, List.map_append, List.map_map, ih]
    rw [here, List.zipIdx_map_fst]

/-- Every document of a snapshot has an address. -/
theorem Snapshot.located_map_snd (snapshot : Snapshot) :
    snapshot.located.map Prod.snd = snapshot.documents :=
  flatMap_zipIdx_map_snd snapshot 0

/-- At the address of a document stands the document. -/
theorem Snapshot.document?_of_mem {snapshot : Snapshot} {entry : Address × Document}
    (member : entry ∈ snapshot.located) : snapshot.document? entry.1 = some entry.2 := by
  obtain ⟨⟨segment, place⟩, segmentIn, inside⟩ := List.mem_flatMap.mp member
  obtain ⟨⟨document, position⟩, documentIn, rfl⟩ := List.mem_map.mp inside
  have segmentAt := List.mk_mem_zipIdx_iff_getElem?.mp segmentIn
  have documentAt := List.mk_mem_zipIdx_iff_getElem?.mp documentIn
  simp [Snapshot.document?, segmentAt, documentAt]

theorem zipIdx_pairwise {α : Type} (items : List α) :
    items.zipIdx.Pairwise (fun left right => left.2 < right.2) := by
  apply List.pairwise_map.mp
  rw [List.zipIdx_map_snd]
  exact List.pairwise_lt_range'

/-- Documents stand in the order of their addresses. -/
theorem Snapshot.located_pairwise (snapshot : Snapshot) :
    snapshot.located.Pairwise (fun left right => left.1.Precedes right.1) := by
  refine List.pairwise_flatMap.mpr ⟨fun (segment, place) _ => ?_, ?_⟩
  · refine List.pairwise_map.mpr ((zipIdx_pairwise segment.documents).imp fun less => ?_)
    exact .inr ⟨rfl, less⟩
  · refine (zipIdx_pairwise snapshot).imp fun {left right} less first firstIn second secondIn => ?_
    obtain ⟨_, _, rfl⟩ := List.mem_map.mp firstIn
    obtain ⟨_, _, rfl⟩ := List.mem_map.mp secondIn
    exact .inl less

/-! ### The ranking -/

variable {α κ : Type}

/-- Whether a listing is for a document. -/
def Listing.wants (listing : Listing α) (document : Document) : Bool :=
  listing.query.matches (listing.binding.layout.terms document)

/-- The documents of a snapshot that a listing is for, with their addresses. -/
def Listing.wanted (listing : Listing α) (snapshot : Snapshot) : List (Address × Document) :=
  snapshot.located.filter (fun entry => listing.wants entry.2)

/-- The hits of a listing in a snapshot, whatever the window. -/
def Listing.matching (listing : Listing α) (column : SortColumn) (snapshot : Snapshot) :
    List Hit :=
  (listing.wanted snapshot).map column.hit

/-- The documents that a listing is for, in the order of their hits. -/
def Listing.ranking (listing : Listing α) (column : SortColumn) (snapshot : Snapshot) :
    List (Address × Document) :=
  (listing.wanted snapshot).mergeSort (fun left right =>
    Hit.notAfter listing.options.order (column.hit left) (column.hit right))

/-- The window of a list that the options ask for. -/
def SearchOptions.cut {β : Type} (options : SearchOptions) (items : List β) : List β :=
  (items.drop options.start.toNat).take options.limit.toNat

variable (listing : Listing α) (column : SortColumn) (snapshot : Snapshot)

theorem Listing.ranking_perm :
    (listing.ranking column snapshot).Perm (listing.wanted snapshot) :=
  List.mergeSort_perm _ _

theorem Listing.ranking_map_hit :
    (listing.ranking column snapshot).map column.hit =
      (listing.matching column snapshot).mergeSort (Hit.notAfter listing.options.order) :=
  List.map_mergeSort fun _ _ _ _ => rfl

/-- No two hits have the same address. -/
theorem Listing.matching_nodup : (listing.matching column snapshot).Nodup := by
  refine List.pairwise_map.mpr ((snapshot.located_pairwise.filter _).imp fun {left right} less => ?_)
  intro same
  have sameAddress : left.1 = right.1 := congrArg Hit.address same
  rw [sameAddress] at less
  exact Address.precedes_irrefl _ less

/-- The hits of a ranking come one before the other. -/
theorem Listing.ranking_sorted :
    ((listing.ranking column snapshot).map column.hit).Pairwise
      (Hit.Precedes listing.options.order) := by
  rw [listing.ranking_map_hit]
  have order := Hit.isTotalOrder listing.options.order
  have sorted := mergeSort_sorted order (listing.matching column snapshot)
  have distinct := (List.mergeSort_perm (listing.matching column snapshot)
    (Hit.notAfter listing.options.order)).symm.nodup (listing.matching_nodup column snapshot)
  refine (sorted.and distinct).imp fun {left right} ⟨before, apart⟩ => ?_
  exact ((Hit.notAfter_iff _ _ _).mp before).resolve_left apart

theorem Listing.length_ranking_le :
    (listing.ranking column snapshot).length ≤ snapshot.size := by
  rw [(listing.ranking_perm column snapshot).length_eq]
  calc
    (listing.wanted snapshot).length ≤ snapshot.located.length := List.length_filter_le _ _
    _ = (snapshot.located.map Prod.snd).length := (List.length_map _).symm
    _ = snapshot.size := by rw [snapshot.located_map_snd]; rfl

/-! ### Windows -/

/-- The hits of a search are the first of all hits, whatever the segments are. -/
theorem Search.hits_eq (search : Search) (snapshot : Snapshot) :
    search.hits snapshot = least (Hit.notAfter search.order) search.limit
      (snapshot.zipIdx.flatMap (fun entry => search.matching entry.1 entry.2)) := by
  rw [Search.hits]
  simp only [Search.segmentHits_eq]
  exact least_flatMap_least (Hit.isTotalOrder search.order) search.limit
    (fun entry : Segment × Nat => search.matching entry.1 entry.2) snapshot.zipIdx

theorem Listing.matching_eq_flatMap (limit : Nat) :
    snapshot.zipIdx.flatMap (fun entry => Search.matching
      ⟨listing.binding.layout, listing.query, column, listing.options.order, limit⟩
      entry.1 entry.2) = listing.matching column snapshot := by
  simp only [Listing.matching, Listing.wanted, Snapshot.located, List.filter_flatMap,
    List.map_flatMap, List.filter_map, List.map_map]
  rfl

/-- All hits of a listing in their order, as if there were no window. -/
def Listing.allHits : Except Error (List Hit) :=
  match listing.binding.layout.sortColumn? listing.binding.schema.keyField.name with
  | some column => .ok ((listing.ranking column snapshot).map column.hit)
  | none => if snapshot.isEmpty then .ok [] else .error .execution

/-- The items that a search reaches, less those before its window. -/
def SearchOptions.reached {β : Type} (options : SearchOptions) (items : List β) : List β :=
  (items.take options.reach.toNat).drop options.start.toNat

/-- The hits of a listing are those of all hits that it reaches; an empty window is not searched. -/
theorem Listing.hits_eq_reached :
    listing.hits snapshot = if listing.options.limit = 0 then .ok []
      else (listing.allHits snapshot).map listing.options.reached := by
  rw [Listing.hits]
  by_cases empty : listing.options.limit = 0
  · rw [if_pos empty, if_pos empty]
  · rw [if_neg empty, if_neg empty, sortedHits?, Listing.allHits]
    cases listing.binding.layout.sortColumn? listing.binding.schema.keyField.name with
    | none => by_cases bare : snapshot.isEmpty <;> simp [bare, Except.map, SearchOptions.reached]
    | some column =>
      simp only [Search.hits_eq, Listing.matching_eq_flatMap, least, ← listing.ranking_map_hit]
      rfl

/-- What is reached is the window, unless there are more items than a word of 64 bits can count. -/
theorem SearchOptions.reached_eq_cut {β : Type} (options : SearchOptions) {items : List β}
    (countable : items.length < UInt64.size) : options.reached items = options.cut items := by
  have start := options.start.toNat_lt
  have reach : options.reach.toNat =
      min (options.start.toNat + options.limit.toNat) (UInt64.size - 1) := by
    apply UInt64.toNat_ofNat_of_lt'
    have positive : 0 < UInt64.size := by decide
    omega
  rw [SearchOptions.reached, List.drop_take, reach, SearchOptions.cut]
  by_cases small : options.start.toNat + options.limit.toNat ≤ UInt64.size - 1
  · rw [min_eq_left small, Nat.add_sub_cancel_left]
  · rw [List.take_of_length_le, List.take_of_length_le]
    · rw [List.length_drop]; omega
    · rw [List.length_drop]; omega

variable {column snapshot}

/-- The hits of a listing are the window of its ranking if a word of 64 bits can count them. -/
theorem Listing.hits_of_few
    (sortable : listing.binding.layout.sortColumn? listing.binding.schema.keyField.name =
      some column)
    (few : (listing.ranking column snapshot).length < UInt64.size) :
    listing.hits snapshot =
      .ok (listing.options.cut ((listing.ranking column snapshot).map column.hit)) := by
  rw [listing.hits_eq_reached]
  by_cases empty : listing.options.limit = 0
  · simp [SearchOptions.cut, empty]
  · simp only [if_neg empty, Listing.allHits, sortable, Except.map]
    rw [SearchOptions.reached_eq_cut _ (by rwa [List.length_map])]

theorem Listing.hits_eq
    (sortable : listing.binding.layout.sortColumn? listing.binding.schema.keyField.name =
      some column)
    (countable : snapshot.size < UInt64.size) :
    listing.hits snapshot =
      .ok (listing.options.cut ((listing.ranking column snapshot).map column.hit)) :=
  listing.hits_of_few sortable ((listing.length_ranking_le column snapshot).trans_lt countable)

/-! ### What is read -/

theorem SearchOptions.cut_map {β γ : Type} (options : SearchOptions) (image : β → γ)
    (items : List β) : options.cut (items.map image) = (options.cut items).map image := by
  simp [SearchOptions.cut, List.map_drop, List.map_take]

theorem SearchOptions.mem_of_mem_cut {β : Type} {options : SearchOptions} {items : List β} {item : β}
    (member : item ∈ options.cut items) : item ∈ items :=
  List.mem_of_mem_drop (List.mem_of_mem_take member)

/-- What is ranked are documents of the snapshot. -/
theorem Listing.mem_located {entry : Address × Document}
    (ranked : entry ∈ listing.ranking column snapshot) : entry ∈ snapshot.located :=
  List.mem_of_mem_filter ((listing.ranking_perm column snapshot).mem_iff.mp ranked)

/-- The key of a document, by which a cache is asked for its entity. -/
def Listing.documentKey? [Key κ] (column : SortColumn) (document : Document) : Option κ :=
  match column.key? document with
  | some text => Key.ofText? text
  | none => listing.binding.key? document

/-- The documents of a ranking. -/
def Listing.rankedDocuments (column : SortColumn) (snapshot : Snapshot) : List Document :=
  (listing.ranking column snapshot).map Prod.snd

theorem Listing.document?_of_mem_cut {entry : Address × Document}
    (member : entry ∈ listing.options.cut (listing.ranking column snapshot)) :
    snapshot.document? entry.1 = some entry.2 :=
  Snapshot.document?_of_mem (listing.mem_located (SearchOptions.mem_of_mem_cut member))

/-- Entities are read in the window of the ranked documents. -/
theorem Listing.read_of_few [Key κ] (known : κ → Option α)
    (sortable : listing.binding.layout.sortColumn? listing.binding.schema.keyField.name =
      some column)
    (few : (listing.ranking column snapshot).length < UInt64.size) :
    listing.read known snapshot =
      .ok ((listing.options.cut (listing.rankedDocuments column snapshot)).filterMap
        (fun document => (listing.documentKey? column document).bind known)) := by
  have keys : ∀ entry ∈ listing.options.cut (listing.ranking column snapshot),
      (listing.key? snapshot (column.hit entry) : Option κ).bind known =
        (listing.documentKey? column entry.2 : Option κ).bind known := by
    intro entry member
    have here := listing.document?_of_mem_cut member
    cases keyed : column.key? entry.2 <;>
      simp [Listing.key?, Listing.documentKey?, SortColumn.hit, keyed, here]
  simp only [Listing.read, listing.hits_of_few sortable few, SearchOptions.cut_map,
    Listing.rankedDocuments]
  change Except.ok _ = Except.ok _
  rw [List.filterMap_map, List.filterMap_map]
  exact congrArg Except.ok (List.filterMap_congr keys)

theorem Listing.read_eq [Key κ] (known : κ → Option α)
    (sortable : listing.binding.layout.sortColumn? listing.binding.schema.keyField.name =
      some column)
    (countable : snapshot.size < UInt64.size) :
    listing.read known snapshot =
      .ok ((listing.options.cut (listing.rankedDocuments column snapshot)).filterMap
        (fun document => (listing.documentKey? column document).bind known)) :=
  listing.read_of_few known sortable
    ((listing.length_ranking_le column snapshot).trans_lt countable)

/-- Bundles are read in the window of the ranked documents. -/
theorem Listing.readRaw_eq
    (sortable : listing.binding.layout.sortColumn? listing.binding.schema.keyField.name =
      some column)
    (countable : snapshot.size < UInt64.size) :
    listing.readRaw snapshot =
      .ok ((listing.options.cut (listing.rankedDocuments column snapshot)).map
        (fun document => listing.binding.bundle document listing.options.fields)) := by
  have found : ∀ entry ∈ listing.options.cut (listing.ranking column snapshot),
      (snapshot.document? (column.hit entry).address).map
          (fun document => listing.binding.bundle document listing.options.fields) =
        some (listing.binding.bundle entry.2 listing.options.fields) := by
    intro entry member
    simp [SortColumn.hit, listing.document?_of_mem_cut member]
  simp only [Listing.readRaw, listing.hits_eq sortable countable, SearchOptions.cut_map,
    Listing.rankedDocuments]
  change Except.ok _ = Except.ok _
  rw [List.filterMap_map, List.map_map, ← List.filterMap_eq_map]
  exact congrArg Except.ok (List.filterMap_congr found)

end KeyedIndex
