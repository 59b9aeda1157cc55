import KeyedIndex.Proofs.Search.Buffer
import KeyedIndex.Proofs.Search.Order

/-!
The first hits of one segment. The keys of a segment are numbered in their order, so that the
ranks of its documents are in the order of their hits (`Finding.rank_before_iff`), and a search
that keeps the best ranks finds the first of all hits (`Search.segmentHits_eq`).
-/
namespace KeyedIndex

variable {dictionary : List String}

/-! ### Numbers of keys -/

theorem getElem_before_iff (sorted : dictionary.Pairwise (Text.before · ·)) {left right : Nat}
    (leftInside : left < dictionary.length) (rightInside : right < dictionary.length) :
    Text.before dictionary[left] dictionary[right] = true ↔ left < right := by
  have inOrder := List.pairwise_iff_getElem.mp sorted
  rcases Nat.lt_trichotomy left right with less | same | greater
  · simp [inOrder left right leftInside rightInside less, less]
  · subst same
    simp [Text.before_irrefl]
  · have back := Text.before_asymm (inOrder right left rightInside leftInside greater)
    simp only [back, Bool.false_eq_true, false_iff]
    omega

/-- A key of a sorted dictionary has a number, under which it stands there. -/
theorem ordinal?_of_mem (small : dictionary.length < UInt64.size) {key : String}
    (member : key ∈ dictionary) :
    ∃ ordinal, ordinal? dictionary key = some ordinal ∧
      ∃ inside : ordinal.toNat < dictionary.length, dictionary[ordinal.toNat] = key := by
  have some : (dictionary.findIdx? (· = key)).isSome := by
    rw [List.findIdx?_isSome, List.any_eq_true]
    exact ⟨key, member, by simp⟩
  obtain ⟨place, found⟩ := Option.isSome_iff_exists.mp some
  obtain ⟨inside, here, _⟩ := List.findIdx?_eq_some_iff_getElem.mp found
  have kept : (UInt64.ofNat place).toNat = place := UInt64.toNat_ofNat_of_lt' (by omega)
  refine ⟨UInt64.ofNat place, by simp [ordinal?, found], by omega, ?_⟩
  simpa [kept] using here

/-- Places are in the order of the numbers, in one direction or the other. -/
theorem SortOrder.place_lt_iff (order : SortOrder) (left right : UInt64) :
    (order.place left).toNat < (order.place right).toNat ↔
      match order with
      | .ascending => left.toNat < right.toNat
      | .descending => right.toNat < left.toNat := by
  cases order with
  | ascending => rfl
  | descending =>
    have last : lastPlace.toNat = 18446744073709551615 := rfl
    have leftBound := left.toNat_lt
    have rightBound := right.toNat_lt
    rw [SortOrder.place, SortOrder.place, UInt64.toNat_sub_of_le, UInt64.toNat_sub_of_le]
    · omega
    · rw [UInt64.le_iff_toNat_le]; omega
    · rw [UInt64.le_iff_toNat_le]; omega

/-- The place of the place of a key is its number. -/
theorem SortOrder.place_place (order : SortOrder) (ordinal : UInt64) :
    order.place (order.place ordinal) = ordinal := by
  cases order with
  | ascending => rfl
  | descending => simp [SortOrder.place]

theorem SortOrder.place_injective (order : SortOrder) : Function.Injective order.place :=
  Function.LeftInverse.injective order.place_place

/-! ### Ranks and hits -/

theorem Hit.precedes_some_iff (order : SortOrder) (left right : String) (first second : Address) :
    Hit.Precedes order ⟨some left, first⟩ ⟨some right, second⟩ ↔
      order.Precedes left right ∨ left = right ∧ first.Precedes second := by
  constructor
  · intro before
    cases before with
    | byKey less => exact .inl less
    | byAddress less => exact .inr ⟨rfl, less⟩
  · rintro (less | ⟨rfl, less⟩)
    · exact .byKey less
    · exact .byAddress less

theorem Hit.precedes_none_iff (order : SortOrder) (first second : Address) :
    Hit.Precedes order ⟨none, first⟩ ⟨none, second⟩ ↔ first.Precedes second := by
  constructor
  · intro before
    cases before with
    | byAddress less => exact less
  · exact .byAddress

/-- A document that is found in a segment, with the number of its key if it has one; in the
    source, what `collect` is called for. -/
structure Finding where
  ordinal : Option UInt64
  document : Nat

def Finding.rank (order : SortOrder) (found : Finding) : Rank := .of order found.ordinal found.document

/-- The hit that is found, in a segment that stands at a place and has a dictionary. -/
def Finding.hit (dictionary : List String) (segment : Nat) (found : Finding) : Hit where
  key := found.ordinal.bind (fun ordinal => dictionary[ordinal.toNat]?)
  address := ⟨segment, found.document⟩

/-- The number of a key is one of the dictionary. -/
def Finding.Within (dictionary : List String) (found : Finding) : Prop :=
  ∀ ordinal ∈ found.ordinal, ordinal.toNat < dictionary.length

theorem Finding.ordinal?_rank (order : SortOrder) (found : Finding) :
    (found.rank order).ordinal? order = found.ordinal := by
  obtain ⟨ordinal, document⟩ := found
  cases ordinal <;> simp [Finding.rank, Rank.of, Rank.ordinal?, SortOrder.place_place]

theorem Finding.document_rank (order : SortOrder) (found : Finding) :
    (found.rank order).document = found.document := by
  obtain ⟨ordinal, document⟩ := found
  cases ordinal <;> rfl

/-- What is looked up for a rank is the hit that was found. -/
theorem Finding.hit_rank (order : SortOrder) (segment : Nat) (found : Finding) :
    Rank.hit order dictionary segment (found.rank order) = found.hit dictionary segment := by
  rw [Rank.hit, found.ordinal?_rank, found.document_rank, Finding.hit]

/-- Ranks are in the order of the hits for which they stand. -/
theorem Finding.rank_before_iff (order : SortOrder) (sorted : dictionary.Pairwise (Text.before · ·))
    {left right : Finding} (leftWithin : left.Within dictionary) (rightWithin : right.Within dictionary)
    (segment : Nat) :
    (left.rank order).before (right.rank order) = true ↔
      Hit.Precedes order (left.hit dictionary segment) (right.hit dictionary segment) := by
  obtain ⟨leftOrdinal, leftDocument⟩ := left
  obtain ⟨rightOrdinal, rightDocument⟩ := right
  simp only [Finding.rank, Finding.hit]
  cases leftOrdinal with
  | none =>
    cases rightOrdinal with
    | none => simp [Rank.of, Rank.before_iff, Hit.precedes_none_iff, Address.Precedes]
    | some ordinal =>
      simp only [Rank.of, Rank.before_iff, Option.bind_none, Option.bind_some,
        List.getElem?_eq_getElem (rightWithin ordinal rfl)]
      refine ⟨by simp, fun before => ?_⟩
      cases before
  | some leftOrdinal =>
    have leftInside := leftWithin leftOrdinal rfl
    cases rightOrdinal with
    | none =>
      simp only [Rank.of, Rank.before_iff, Option.bind_none, Option.bind_some,
        List.getElem?_eq_getElem leftInside]
      exact ⟨fun _ => .keyFirst, fun _ => by simp⟩
    | some rightOrdinal =>
      have rightInside := rightWithin rightOrdinal rfl
      have byNumber : (order.place leftOrdinal).toNat < (order.place rightOrdinal).toNat ↔
          order.Precedes dictionary[leftOrdinal.toNat] dictionary[rightOrdinal.toNat] := by
        rw [SortOrder.place_lt_iff, ← SortOrder.before_iff]
        cases order with
        | ascending => exact (getElem_before_iff sorted leftInside rightInside).symm
        | descending => exact (getElem_before_iff sorted rightInside leftInside).symm
      have samePlace : (order.place leftOrdinal).toNat = (order.place rightOrdinal).toNat ↔
          dictionary[leftOrdinal.toNat] = dictionary[rightOrdinal.toNat] := by
        have distinct : dictionary.Nodup := sorted.imp fun before same => by
          simp [same, Text.before_irrefl] at before
        rw [distinct.getElem_inj_iff, UInt64.toNat_inj, UInt64.toNat_inj]
        exact (order.place_injective).eq_iff
      simp only [Option.bind_some, List.getElem?_eq_getElem leftInside,
        List.getElem?_eq_getElem rightInside]
      rw [Hit.precedes_some_iff, ← byNumber, ← samePlace]
      simp [Rank.of, Rank.before_iff, Address.Precedes]

/-- Ranks are compared as the hits for which they stand. -/
theorem Finding.rank_notAfter_eq (order : SortOrder) (sorted : dictionary.Pairwise (Text.before · ·))
    {left right : Finding} (leftWithin : left.Within dictionary) (rightWithin : right.Within dictionary)
    (segment : Nat) :
    (left.rank order).notAfter (right.rank order) =
      Hit.notAfter order (left.hit dictionary segment) (right.hit dictionary segment) := by
  rw [Bool.eq_iff_iff, Rank.notAfter_iff,
    Finding.rank_before_iff order sorted rightWithin leftWithin segment, Hit.notAfter_iff]
  constructor
  · intro notBack
    rcases Hit.precedes_trichotomy order (left.hit dictionary segment)
      (right.hit dictionary segment) with less | same | greater
    · exact .inr less
    · exact .inl same
    · exact absurd greater notBack
  · rintro (same | less)
    · rw [same]
      exact Hit.precedes_irrefl order _
    · exact Hit.precedes_asymm less

/-! ### Collecting -/

/-- The buffer after documents have been found one after the other. -/
def collected (order : SortOrder) (limit : Nat) (found : List Finding) : List Rank :=
  (found.map (Finding.rank order)).foldl (push limit) []

/-- What is handed over of a buffer: its hits in order. -/
def harvested (order : SortOrder) (limit : Nat) (dictionary : List String) (segment : Nat)
    (buffer : List Rank) : List Hit :=
  firstHits order limit (buffer.map (Rank.hit order dictionary segment))

/-- What is handed over are the first of all hits. -/
theorem harvested_collected (order : SortOrder) (limit : Nat)
    (sorted : dictionary.Pairwise (Text.before · ·)) {found : List Finding}
    (within : ∀ item ∈ found, item.Within dictionary) (segment : Nat) :
    harvested order limit dictionary segment (collected order limit found) =
      least (Hit.notAfter order) limit (found.map (Finding.hit dictionary segment)) := by
  have hits : (found.map (Finding.rank order)).map (Rank.hit order dictionary segment) =
      found.map (Finding.hit dictionary segment) := by
    rw [List.map_map]
    exact List.map_congr_left fun item _ => item.hit_rank order segment
  have keeps : ∀ left ∈ found.map (Finding.rank order), ∀ right ∈ found.map (Finding.rank order),
      left.notAfter right = Hit.notAfter order (Rank.hit order dictionary segment left)
        (Rank.hit order dictionary segment right) := by
    intro _ leftMember _ rightMember
    obtain ⟨left, leftIn, rfl⟩ := List.mem_map.mp leftMember
    obtain ⟨right, rightIn, rfl⟩ := List.mem_map.mp rightMember
    rw [left.hit_rank, right.hit_rank]
    exact Finding.rank_notAfter_eq order sorted (within left leftIn) (within right rightIn) segment
  rw [harvested, collected, foldl_push, map_least keeps, hits]
  exact least_least (Hit.isTotalOrder order) _ _

/-! ### Segments -/

/-- The hits of all documents of a segment that a search is for. -/
def Search.matching (search : Search) (segment : Segment) (place : Nat) : List Hit :=
  (segment.documents.zipIdx.filter (fun entry => search.wants entry.1)).map
    (fun entry => ⟨search.column.key? entry.1, ⟨place, entry.2⟩⟩)

theorem SortColumn.key?_mem_dictionary (column : SortColumn) {segment : Segment}
    {document : Document} (member : document ∈ segment.documents) :
    ∀ text ∈ column.key? document, text ∈ column.dictionary segment := by
  intro text here
  rw [SortColumn.dictionary, Text.mem_sortDistinct]
  exact List.mem_filterMap.mpr ⟨document, member, here⟩

theorem SortColumn.length_dictionary_lt (column : SortColumn) (segment : Segment) :
    (column.dictionary segment).length < UInt64.size := by
  have distinct := Text.length_sortDistinct_le (segment.documents.filterMap column.key?)
  have keyed := List.length_filterMap_le column.key? segment.documents
  have bound := segment.length_le
  have small : segmentLimit < UInt64.size := by decide
  simp only [SortColumn.dictionary]
  omega

/-- What a search finds in a segment, in the order of the documents. -/
def Search.found (search : Search) (segment : Segment) : List Finding :=
  (segment.documents.zipIdx.filter (fun entry => search.wants entry.1)).map (fun entry =>
    ⟨(search.column.key? entry.1).bind (ordinal? (search.column.dictionary segment)), entry.2⟩)

/-- A search of a segment collects what it finds and hands it over. -/
theorem Search.segmentHits_eq_harvested (search : Search) (segment : Segment) (place : Nat) :
    search.segmentHits segment place =
      harvested search.order search.limit (search.column.dictionary segment) place
        (collected search.order search.limit (search.found segment)) := by
  have ranks : search.ranks segment = (search.found segment).map (Finding.rank search.order) := by
    rw [Search.found, List.map_map]
    rfl
  rw [Search.segmentHits, ranks]
  rfl

/-- Every key that is found has a number, under which it stands in the dictionary. -/
theorem SortColumn.numbered (column : SortColumn) {segment : Segment} {document : Document}
    (member : document ∈ segment.documents) (segmentPlace place : Nat) :
    let dictionary := column.dictionary segment
    let found : Finding := ⟨(column.key? document).bind (ordinal? dictionary), place⟩
    found.Within dictionary ∧
      found.hit dictionary segmentPlace = ⟨column.key? document, ⟨segmentPlace, place⟩⟩ := by
  intro dictionary found
  cases keyed : column.key? document with
  | none => simp [found, keyed, Finding.Within, Finding.hit]
  | some text =>
    obtain ⟨ordinal, numbered, inside, here⟩ := ordinal?_of_mem (column.length_dictionary_lt segment)
      (column.key?_mem_dictionary member text keyed)
    have same : found = ⟨some ordinal, place⟩ := by simp [found, keyed, dictionary, numbered]
    rw [same]
    refine ⟨fun other is => Option.some.inj is ▸ inside, ?_⟩
    simp [Finding.hit, dictionary, List.getElem?_eq_getElem inside, here]

/-- A segment hands over the first of its hits. -/
theorem Search.segmentHits_eq (search : Search) (segment : Segment) (place : Nat) :
    search.segmentHits segment place =
      least (Hit.notAfter search.order) search.limit (search.matching segment place) := by
  have numbered : ∀ entry ∈ segment.documents.zipIdx.filter (fun entry => search.wants entry.1),
      entry.1 ∈ segment.documents :=
    fun entry member => List.fst_mem_of_mem_zipIdx (List.mem_of_mem_filter member)
  have within : ∀ item ∈ search.found segment, item.Within (search.column.dictionary segment) := by
    intro item member
    obtain ⟨entry, inside, rfl⟩ := List.mem_map.mp member
    exact (search.column.numbered (numbered entry inside) place entry.2).1
  have hits : (search.found segment).map (Finding.hit (search.column.dictionary segment) place) =
      search.matching segment place := by
    rw [Search.found, List.map_map]
    exact List.map_congr_left fun entry inside =>
      (search.column.numbered (numbered entry inside) place entry.2).2
  have sorted : (search.column.dictionary segment).Pairwise (Text.before · ·) :=
    Text.sortDistinct_pairwise _
  rw [search.segmentHits_eq_harvested, harvested_collected search.order search.limit sorted within,
    hits]

end KeyedIndex
