import KeyedIndex.Group.Schema
import KeyedIndex.Proofs.Schema.Columns
import KeyedIndex.Proofs.Search.Ranking

/-!
Windows of a listing over any segments. The hits of a listing are the window of all hits in
their order. If every document has a key of its own, what is read does not depend on how
the documents are spread over segments, and one direction is the reverse of the other
(`Listing.hits_window`).
-/
namespace KeyedIndex

/-- Every document has a key in the column, and no two have the same. -/
structure SortColumn.Distinguishes (column : SortColumn) (documents : List Document) : Prop where
  keyed : ∀ document ∈ documents, (column.key? document).isSome
  distinct : (documents.map column.key?).Nodup

/-- Whether a document comes before another one by its key. -/
def SortColumn.Precedes (column : SortColumn) (order : SortOrder) (left right : Document) : Prop :=
  ∃ first ∈ column.key? left, ∃ second ∈ column.key? right, order.Precedes first second

/-- Segments are numbered by words of 32 bits. -/
def Snapshot.Numbered (snapshot : Snapshot) : Prop := snapshot.length ≤ UInt32.size

instance (snapshot : Snapshot) : Decidable snapshot.Numbered :=
  inferInstanceAs (Decidable (snapshot.length ≤ UInt32.size))

/-- The listing in an order. -/
def Listing.inOrder {α : Type} (listing : Listing α) (order : SortOrder) : Listing α :=
  { listing with options := { listing.options with order } }

theorem SortColumn.precedes_asymm {column : SortColumn} {order : SortOrder} {left right : Document}
    (forth : column.Precedes order left right) : ¬ column.Precedes order right left := by
  obtain ⟨first, firstKey, second, secondKey, less⟩ := forth
  rintro ⟨third, thirdKey, fourth, fourthKey, greater⟩
  obtain rfl := Option.mem_unique secondKey thirdKey
  obtain rfl := Option.mem_unique firstKey fourthKey
  exact order.precedes_irrefl _ (SortOrder.precedes_trans less greater)

theorem SortColumn.precedes_swap (column : SortColumn) (left right : Document) :
    column.Precedes .descending left right ↔ column.Precedes .ascending right left := by
  constructor <;>
  · rintro ⟨first, firstKey, second, secondKey, less⟩
    exact ⟨second, secondKey, first, firstKey, less⟩

theorem SortColumn.Distinguishes.perm {column : SortColumn} {first second : List Document}
    (distinguishes : column.Distinguishes first) (same : first.Perm second) :
    column.Distinguishes second where
  keyed document member := distinguishes.keyed document (same.mem_iff.mpr member)
  distinct := (same.map _).nodup_iff.mp distinguishes.distinct

theorem Snapshot.size_le (snapshot : Snapshot) : snapshot.size ≤ segmentLimit * snapshot.length := by
  induction snapshot with
  | nil => simp [Snapshot.size, Snapshot.documents]
  | cons segment rest ih =>
    have full := segment.length_le
    simp only [Snapshot.size, Snapshot.documents, List.flatMap_cons, List.length_append,
      List.length_cons, Nat.mul_add, Nat.mul_one] at ih ⊢
    omega

/-- A word of 64 bits counts the documents of all segments. -/
theorem Snapshot.Numbered.countable {snapshot : Snapshot} (numbered : snapshot.Numbered) :
    snapshot.size < UInt64.size := by
  calc
    snapshot.size ≤ segmentLimit * snapshot.length := snapshot.size_le
    _ ≤ segmentLimit * UInt32.size := Nat.mul_le_mul_left _ numbered
    _ < UInt64.size := by decide

variable {α : Type} (listing : Listing α) {column : SortColumn} {snapshot : Snapshot}

/-! ### The order of the documents -/

/-- The ranked documents are those that the listing is for. -/
theorem Listing.rankedDocuments_perm :
    (listing.rankedDocuments column snapshot).Perm (snapshot.documents.filter listing.wants) := by
  have wanted : (listing.wanted snapshot).map Prod.snd = snapshot.documents.filter listing.wants := by
    rw [← snapshot.located_map_snd, List.filter_map]
    rfl
  rw [← wanted]
  exact (listing.ranking_perm column snapshot).map Prod.snd

/-- Documents with distinct keys are ranked by their keys. -/
theorem Listing.rankedDocuments_sorted (distinguishes : column.Distinguishes snapshot.documents) :
    (listing.rankedDocuments column snapshot).Pairwise (column.Precedes listing.options.order) := by
  have inside : ∀ document ∈ listing.rankedDocuments column snapshot,
      document ∈ snapshot.documents := by
    intro document member
    exact List.mem_of_mem_filter (listing.rankedDocuments_perm.mem_iff.mp member)
  have distinct : ((listing.rankedDocuments column snapshot).map column.key?).Nodup := by
    apply (listing.rankedDocuments_perm.map column.key?).nodup_iff.mpr
    exact distinguishes.distinct.sublist (List.filter_sublist.map _)
  have sorted := List.pairwise_map.mp (listing.ranking_sorted column snapshot)
  have apart := List.pairwise_map.mp (List.pairwise_map.mp distinct)
  refine List.pairwise_map.mpr ((sorted.and apart).imp_of_mem ?_)
  rintro ⟨leftAddress, left⟩ ⟨rightAddress, right⟩ leftIn rightIn ⟨before, otherKey⟩
  obtain ⟨leftKey, leftHere⟩ := Option.isSome_iff_exists.mp
    (distinguishes.keyed left (inside left (List.mem_map_of_mem leftIn)))
  obtain ⟨rightKey, rightHere⟩ := Option.isSome_iff_exists.mp
    (distinguishes.keyed right (inside right (List.mem_map_of_mem rightIn)))
  simp only [SortColumn.hit, leftHere, rightHere] at before otherKey
  rcases (Hit.precedes_some_iff _ _ _ _ _).mp before with less | ⟨same, _⟩
  · exact ⟨leftKey, leftHere, rightKey, rightHere, less⟩
  · exact absurd (congrArg some same) otherKey

/-- There is one way only to rank documents with distinct keys. -/
theorem rankedDocuments_unique {order : SortOrder} {first second : List Document}
    (same : first.Perm second) (firstSorted : first.Pairwise (column.Precedes order))
    (secondSorted : second.Pairwise (column.Precedes order)) : first = second :=
  List.Perm.eq_of_pairwise (fun _ _ _ _ forth back => absurd back (SortColumn.precedes_asymm forth))
    firstSorted secondSorted same

/-- The ranking of distinct keys does not depend on the segments. -/
theorem Listing.rankedDocuments_congr {first second : Snapshot}
    (same : first.documents.Perm second.documents)
    (distinguishes : column.Distinguishes first.documents) :
    listing.rankedDocuments column first = listing.rankedDocuments column second := by
  apply rankedDocuments_unique _ (listing.rankedDocuments_sorted distinguishes)
    (listing.rankedDocuments_sorted (distinguishes.perm same))
  exact listing.rankedDocuments_perm.trans
    ((same.filter _).trans listing.rankedDocuments_perm.symm)

/-- The ranking of distinct keys in one direction is the reverse of the other. -/
theorem Listing.rankedDocuments_reverse (distinguishes : column.Distinguishes snapshot.documents) :
    (listing.inOrder .descending).rankedDocuments column snapshot =
      ((listing.inOrder .ascending).rankedDocuments column snapshot).reverse := by
  have ascending := (listing.inOrder .ascending).rankedDocuments_sorted distinguishes
  have descending := (listing.inOrder .descending).rankedDocuments_sorted distinguishes
  refine rankedDocuments_unique ?_ descending ?_
  · refine (listing.inOrder .descending).rankedDocuments_perm.trans ?_
    refine List.Perm.trans ?_ (List.reverse_perm _).symm
    exact (listing.inOrder .ascending).rankedDocuments_perm.symm
  · refine List.pairwise_reverse.mpr (ascending.imp fun {left right} less => ?_)
    exact (column.precedes_swap right left).mpr less

theorem Listing.length_rankedDocuments_le :
    (listing.rankedDocuments column snapshot).length ≤ snapshot.size := by
  rw [Listing.rankedDocuments, List.length_map]
  exact listing.length_ranking_le column snapshot

theorem SearchOptions.cut_eq_self {β : Type} {options : SearchOptions} {items : List β}
    (whole : options.start = 0) (enough : items.length ≤ options.limit.toNat) :
    options.cut items = items := by
  simp [SearchOptions.cut, whole, List.take_of_length_le enough]

/-! ### The main result -/

/-- Over any segments, the hits of a listing are the window of all hits in their order. Reads of
    documents with distinct keys are the same for all segments that hold the documents, and
    the whole result in descending order is the reverse of that in ascending order. -/
theorem Listing.hits_window
    (sortable : listing.binding.layout.sortColumn? listing.binding.schema.keyField.name =
      some column) :
    (∀ snapshot : Snapshot, snapshot.Numbered →
      ∃ ranked : List Hit, ranked.Perm (listing.matching column snapshot) ∧
        ranked.Pairwise (Hit.Precedes listing.options.order) ∧
        listing.hits snapshot = .ok
          ((ranked.drop listing.options.start.toNat).take listing.options.limit.toNat)) ∧
    (∀ first second : Snapshot, first.Numbered → second.Numbered →
      first.documents.Perm second.documents → column.Distinguishes first.documents →
      (∀ (κ : Type) [Key κ] (known : κ → Option α),
        listing.read known first = listing.read known second) ∧
      listing.readRaw first = listing.readRaw second) ∧
    (∀ snapshot : Snapshot, column.Distinguishes snapshot.documents →
      listing.options.start = 0 → snapshot.size ≤ listing.options.limit.toNat →
      (∀ (κ : Type) [Key κ] (known : κ → Option α),
        (listing.inOrder .descending).read known snapshot =
          ((listing.inOrder .ascending).read known snapshot).map List.reverse) ∧
      (listing.inOrder .descending).readRaw snapshot =
        ((listing.inOrder .ascending).readRaw snapshot).map List.reverse) := by
  refine ⟨fun snapshot numbered => ?_,
    fun first second firstNumbered secondNumbered same distinguishes => ?_,
    fun snapshot distinguishes whole enough => ?_⟩
  · refine ⟨(listing.ranking column snapshot).map column.hit, ?_,
      listing.ranking_sorted column snapshot, listing.hits_eq sortable numbered.countable⟩
    exact (listing.ranking_perm column snapshot).map column.hit
  · have ranked := listing.rankedDocuments_congr same distinguishes
    refine ⟨fun κ _ known => ?_, ?_⟩
    · rw [listing.read_eq known sortable firstNumbered.countable,
        listing.read_eq known sortable secondNumbered.countable, ranked]
    · rw [listing.readRaw_eq sortable firstNumbered.countable,
        listing.readRaw_eq sortable secondNumbered.countable, ranked]
  · have countable : snapshot.size < UInt64.size := by
      have limit := listing.options.limit.toNat_lt
      have size : UInt64.size = 2 ^ 64 := rfl
      omega
    have ranked := listing.rankedDocuments_reverse distinguishes
    have all (order : SortOrder) {β : Type} (items : List β) (few : items.length ≤ snapshot.size) :
        (listing.inOrder order).options.cut items = items :=
      SearchOptions.cut_eq_self whole (few.trans enough)
    have bounded (order : SortOrder) :
        ((listing.inOrder order).rankedDocuments column snapshot).length ≤ snapshot.size :=
      (listing.inOrder order).length_rankedDocuments_le
    refine ⟨fun κ _ known => ?_, ?_⟩
    · rw [(listing.inOrder .descending).read_eq known sortable countable,
        (listing.inOrder .ascending).read_eq known sortable countable,
        all _ _ (bounded .descending), all _ _ (bounded .ascending), ranked, List.filterMap_reverse]
      rfl
    · rw [(listing.inOrder .descending).readRaw_eq sortable countable,
        (listing.inOrder .ascending).readRaw_eq sortable countable,
        all _ _ (bounded .descending), all _ _ (bounded .ascending), ranked, List.map_reverse]
      rfl

/-- A document with nothing but the identifier of a group. -/
def identified (uuid : String) : Document := [(GroupSchema.first.bound.keyColumn, .text uuid)]

/-- Two groups in segments of their own, and the same in one segment. -/
theorem Listing.hits_window_groups :
    let groups : Listing Group := ⟨GroupSchema.first.bound, .everything, .default⟩
    let apart : Snapshot := [⟨[identified "b"], by decide⟩, ⟨[identified "a"], by decide⟩]
    let together : Snapshot := [⟨[identified "a", identified "b"], by decide⟩]
    groups.readRaw apart = groups.readRaw together ∧
      (groups.inOrder .descending).readRaw apart =
        ((groups.inOrder .ascending).readRaw apart).map List.reverse := by
  intro groups apart together
  obtain ⟨_, spread, turned⟩ := groups.hits_window GroupSchema.first.sortColumn?_keyField
  have distinguishes : SortColumn.Distinguishes (some GroupSchema.first.bound.keyColumn)
      apart.documents := ⟨by decide, by decide⟩
  have same : apart.documents.Perm together.documents := List.Perm.swap _ _ _
  exact ⟨(spread apart together (by decide) (by decide) same distinguishes).2,
    (turned apart distinguishes (by decide) (by decide)).2⟩

end KeyedIndex
