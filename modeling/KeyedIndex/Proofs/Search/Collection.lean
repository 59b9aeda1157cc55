import KeyedIndex.Proofs.Search.Segment

/-!
What a buffer holds while a segment is searched. After each document it has the best ranks so
far, as many as its limit allows, and what it hands over in the end are the first hits of the
segment in order (`collected_best`). The numbers of keys may be any of 64 bits: in descending
order they are counted from the last one, which loses nothing (`SortOrder.place_descending`).
-/
namespace KeyedIndex

variable {α : Type}

/-- Some items are the first ones of all: as many as the limit allows, and each of them comes before
    all others. -/
structure AreFirst (before : α → α → Prop) (limit : Nat) (all first : List α) : Prop where
  length : first.length = min limit all.length
  split : ∃ others, (first ++ others).Perm all ∧
    ∀ item ∈ first, ∀ other ∈ others, before item other

/-- The least items come before all others, and before one another. -/
theorem least_areFirst {le : α → α → Bool} {before : α → α → Prop} (order : IsTotalOrder le)
    (strict : ∀ left right, le left right = true → left = right ∨ before left right)
    {items : List α} (distinct : items.Nodup) (limit : Nat) :
    AreFirst before limit items (least le limit items) ∧
      (least le limit items).Pairwise before := by
  set sorted := items.mergeSort le with isSorted
  have same : sorted.Perm items := List.mergeSort_perm items le
  have inOrder : sorted.Pairwise before := by
    have apart : sorted.Pairwise (· ≠ ·) := same.nodup_iff.mpr distinct
    refine ((mergeSort_sorted order items).and apart).imp ?_
    rintro left right ⟨compared, unequal⟩
    exact (strict left right compared).resolve_left unequal
  have split : sorted.take limit ++ sorted.drop limit = sorted := List.take_append_drop limit sorted
  obtain ⟨first, _, across⟩ := List.pairwise_append.mp (split.symm ▸ inOrder)
  refine ⟨⟨?_, sorted.drop limit, ?_, across⟩, first⟩
  · rw [least, List.length_take, ← isSorted, same.length_eq]
  · rw [least, ← isSorted, split]
    exact same

/-- In descending order keys are counted from the last one; there is always a place to count to. -/
theorem SortOrder.place_descending (ordinal : UInt64) :
    (SortOrder.descending.place ordinal).toNat + ordinal.toNat = 2 ^ 64 - 1 := by
  have last : lastPlace.toNat = 2 ^ 64 - 1 := rfl
  have bound := ordinal.toNat_lt
  have le : ordinal ≤ lastPlace := by
    rw [UInt64.le_iff_toNat_le, last]
    omega
  rw [SortOrder.place, UInt64.toNat_sub_of_le _ _ le, last]
  omega

theorem Rank.before_of_notAfter {left right : Rank} (notAfter : left.notAfter right = true) :
    left = right ∨ left.before right = true := by
  by_contra neither
  rw [not_or] at neither
  have back : right.notAfter left = true := (Rank.notAfter_iff right left).mpr neither.2
  exact neither.1 (Rank.isTotalOrder.antisymm left right notAfter back)

/-- What is made of distinct documents is distinct, if it still tells the document. -/
theorem Finding.nodup_map {β : Type} (make : Finding → β) (document : β → Nat)
    (tells : ∀ found, document (make found) = found.document) {found : List Finding}
    (distinct : (found.map Finding.document).Nodup) : (found.map make).Nodup := by
  have documents : (found.map make).map document = found.map Finding.document := by
    rw [List.map_map]
    exact List.map_congr_left fun item _ => tells item
  exact List.Nodup.of_map document (documents ▸ distinct)

/-- Whatever distinct documents are found one after the other, with keys of any numbers or without
    keys: after each of them the buffer holds the least ranks that have been seen, as many as the
    limit allows. The number of a key is read back from its rank in both directions. If the
    numbers are those of a sorted dictionary, ranks are in the order of the hits that are looked up
    for them, and what is handed over in the end are the first hits of all, in order. -/
theorem collected_best (order : SortOrder) (limit : Nat) (found : List Finding)
    (distinct : (found.map Finding.document).Nodup) :
    (∀ seen, seen <+: found →
      AreFirst (fun best other => best.before other = true) limit (seen.map (Finding.rank order))
          (collected order limit seen) ∧
        (collected order limit seen).length ≤ limit) ∧
    (∀ ordinal, (SortOrder.descending.place ordinal).toNat + ordinal.toNat = 2 ^ 64 - 1) ∧
    (∀ item ∈ found, (item.rank order).ordinal? order = item.ordinal) ∧
    ∀ (dictionary : List String) (segment : Nat), dictionary.Pairwise (Text.before · ·) →
      (∀ item ∈ found, item.Within dictionary) →
      (∀ item ∈ found,
        Rank.hit order dictionary segment (item.rank order) = item.hit dictionary segment) ∧
      (∀ left ∈ found, ∀ right ∈ found,
        ((left.rank order).before (right.rank order) = true ↔
          Hit.Precedes order (left.hit dictionary segment) (right.hit dictionary segment)) ∧
        (left.rank order).before (right.rank order) =
          !Hit.notAfter order (right.hit dictionary segment) (left.hit dictionary segment)) ∧
      let handed := harvested order limit dictionary segment (collected order limit found)
      handed.Pairwise (Hit.Precedes order) ∧
        AreFirst (Hit.Precedes order) limit (found.map (Finding.hit dictionary segment)) handed := by
  refine ⟨?_, SortOrder.place_descending, fun item _ => item.ordinal?_rank order, ?_⟩
  · intro seen earlier
    have seenDistinct : (seen.map Finding.document).Nodup :=
      distinct.sublist (earlier.sublist.map Finding.document)
    have ranksDistinct : (seen.map (Finding.rank order)).Nodup :=
      Finding.nodup_map _ Rank.document (Finding.document_rank order) seenDistinct
    have best := (least_areFirst Rank.isTotalOrder (fun _ _ => Rank.before_of_notAfter)
      ranksDistinct limit).1
    rw [collected, foldl_push]
    exact ⟨best, best.length ▸ Nat.min_le_left _ _⟩
  · intro dictionary segment sorted within
    refine ⟨fun item _ => item.hit_rank order segment, ?_, ?_⟩
    · intro left leftIn right rightIn
      refine ⟨Finding.rank_before_iff order sorted (within left leftIn) (within right rightIn) segment,
        ?_⟩
      rw [← Finding.rank_notAfter_eq order sorted (within right rightIn) (within left leftIn) segment,
        Rank.notAfter, Bool.not_not]
    · intro handed
      have hitsDistinct : (found.map (Finding.hit dictionary segment)).Nodup :=
        Finding.nodup_map _ (fun hit => hit.address.document) (fun _ => rfl) distinct
      obtain ⟨first, inOrder⟩ := least_areFirst (Hit.isTotalOrder order)
        (fun left right => (Hit.notAfter_iff order left right).mp) hitsDistinct limit
      have hits : handed = least (Hit.notAfter order) limit
          (found.map (Finding.hit dictionary segment)) :=
        harvested_collected order limit sorted within segment
      rw [hits]
      exact ⟨inOrder, first⟩

/-- Four documents compete for two places in descending order, two of them with the same key and one
    without a key. -/
theorem collected_best_descending :
    let found : List Finding := [⟨some 0, 0⟩, ⟨none, 1⟩, ⟨some 1, 3⟩, ⟨some 1, 2⟩]
    let dictionary := ["a", "b"]
    let kept := collected .descending 2 (found.take 3)
    let handed := harvested .descending 2 dictionary 5 (collected .descending 2 found)
    (found.map Finding.document).Nodup ∧ dictionary.Pairwise (Text.before · ·) ∧
      (∀ item ∈ found, item.Within dictionary) ∧
      AreFirst (fun best other => best.before other = true) 2
        ((found.take 3).map (Finding.rank .descending)) kept ∧
      kept = [⟨false, lastPlace - 1, 3⟩, ⟨false, lastPlace, 0⟩] ∧
      AreFirst (Hit.Precedes .descending) 2 (found.map (Finding.hit dictionary 5)) handed ∧
      handed = [⟨some "b", ⟨5, 2⟩⟩, ⟨some "b", ⟨5, 3⟩⟩] := by
  intro found dictionary kept handed
  have distinct : (found.map Finding.document).Nodup := by decide
  have sorted : dictionary.Pairwise (Text.before · ·) := by decide +kernel
  have within : ∀ item ∈ found, item.Within dictionary := by
    simp [found, dictionary, Finding.Within]
  have hits : (collected .descending 2 found).map (Rank.hit .descending dictionary 5) =
      [⟨some "b", ⟨5, 2⟩⟩, ⟨some "b", ⟨5, 3⟩⟩] := by decide +kernel
  have inOrder : handed = [⟨some "b", ⟨5, 2⟩⟩, ⟨some "b", ⟨5, 3⟩⟩] := by
    change firstHits .descending 2 ((collected .descending 2 found).map _) = _
    rw [hits, firstHits,
      mergeSort_eq_of_sorted (Hit.isTotalOrder .descending) (by decide +kernel) (.refl _)]
    rfl
  obtain ⟨steps, _, _, looked⟩ := collected_best .descending 2 found distinct
  obtain ⟨_, _, _, first⟩ := looked dictionary 5 sorted within
  exact ⟨distinct, sorted, within, (steps _ (List.take_prefix 3 found)).1, by decide +kernel, first,
    inOrder⟩

end KeyedIndex
