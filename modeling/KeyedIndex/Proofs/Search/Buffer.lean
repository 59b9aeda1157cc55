import KeyedIndex.Proofs.Search.Least
import KeyedIndex.Search.Rank

/-!
The buffer of the best ranks. Ranks are put in one order by their numbers
(`Rank.isTotalOrder`), and a buffer holds the least ranks of all that have been put
into it, as many as its limit allows (`foldl_push`).
-/
namespace KeyedIndex

/-- Whether a rank comes before another one or is the same. -/
def Rank.notAfter (left right : Rank) : Bool := !right.before left

/-- Ranks without a key are last, then places count, then documents. -/
theorem Rank.before_iff (left right : Rank) :
    left.before right = true ↔
      left.missing = false ∧ right.missing = true ∨
        left.missing = right.missing ∧ (left.place.toNat < right.place.toNat ∨
          left.place.toNat = right.place.toNat ∧ left.document < right.document) := by
  obtain ⟨leftMissing, leftPlace, leftDocument⟩ := left
  obtain ⟨rightMissing, rightPlace, rightDocument⟩ := right
  by_cases samePlace : leftPlace = rightPlace
  · subst samePlace
    cases leftMissing <;> cases rightMissing <;> simp [Rank.before]
  · have apart : leftPlace.toNat ≠ rightPlace.toNat := by
      simpa [UInt64.toNat_inj] using samePlace
    cases leftMissing <;> cases rightMissing <;>
      simp [Rank.before, samePlace, apart, UInt64.lt_iff_toNat_lt]

theorem Rank.notAfter_iff (left right : Rank) :
    left.notAfter right = true ↔ ¬ right.before left = true := by
  simp [Rank.notAfter]

theorem Rank.isTotalOrder : IsTotalOrder Rank.notAfter where
  trans first second third left right := by
    rw [Rank.notAfter_iff, Rank.before_iff] at *
    cases hfirst : first.missing <;> cases hsecond : second.missing <;>
      cases hthird : third.missing <;> simp_all <;> omega
  total left right := by
    rw [Bool.or_eq_true, Rank.notAfter_iff, Rank.notAfter_iff, Rank.before_iff, Rank.before_iff]
    cases hleft : left.missing <;> cases hright : right.missing <;> simp <;> omega
  antisymm left right forth back := by
    rw [Rank.notAfter_iff, Rank.before_iff] at *
    obtain ⟨leftMissing, leftPlace, leftDocument⟩ := left
    obtain ⟨rightMissing, rightPlace, rightDocument⟩ := right
    have samePlace : leftPlace.toNat = rightPlace.toNat → leftPlace = rightPlace :=
      UInt64.toNat_inj.mp
    cases leftMissing <;> cases rightMissing <;> simp_all <;> constructor <;>
      first | omega | exact samePlace (by omega)

/-! ### Insertions -/

theorem insertRank_perm (rank : Rank) (ranks : List Rank) :
    (insertRank rank ranks).Perm (rank :: ranks) := by
  induction ranks with
  | nil => exact .refl _
  | cons head tail ih =>
    rw [insertRank]
    split
    · exact .refl _
    · exact (ih.cons head).trans (.swap rank head tail)

theorem insertRank_sorted (rank : Rank) {ranks : List Rank}
    (sorted : ranks.Pairwise (Rank.notAfter · · = true)) :
    (insertRank rank ranks).Pairwise (Rank.notAfter · · = true) := by
  induction ranks with
  | nil => simp [insertRank]
  | cons head tail ih =>
    have behind := (List.pairwise_cons.mp sorted).1
    rw [insertRank]
    split
    · rename_i before
      have first : rank.notAfter head = true :=
        (Bool.or_eq_true _ _ ▸ Rank.isTotalOrder.total rank head).resolve_right
          (by simp [Rank.notAfter, before])
      refine List.pairwise_cons.mpr ⟨fun other member => ?_, sorted⟩
      rcases List.mem_cons.mp member with rfl | later
      · exact first
      · exact Rank.isTotalOrder.trans _ _ _ first (behind other later)
    · rename_i notBefore
      refine List.pairwise_cons.mpr ⟨fun other member => ?_, ih sorted.of_cons⟩
      rcases List.mem_cons.mp ((insertRank_perm rank tail).mem_iff.mp member) with rfl | later
      · simpa [Rank.notAfter] using notBefore
      · exact behind other later

theorem mergeSort_cons_rank (rank : Rank) {ranks : List Rank}
    (sorted : ranks.Pairwise (Rank.notAfter · · = true)) :
    (rank :: ranks).mergeSort Rank.notAfter = insertRank rank ranks :=
  mergeSort_eq_of_sorted Rank.isTotalOrder (insertRank_sorted rank sorted)
    (insertRank_perm rank ranks)

/-- A rank that is better than the last one takes its place before that. -/
theorem insertRank_concat_of_before {rank worst : Rank} (better : rank.before worst = true)
    (ranks : List Rank) : insertRank rank (ranks ++ [worst]) = insertRank rank ranks ++ [worst] := by
  induction ranks with
  | nil => simp [insertRank, better]
  | cons head tail ih =>
    rw [List.cons_append, insertRank, insertRank, ih]
    split <;> rfl

theorem insertRank_eq_concat {rank : Rank} {ranks : List Rank}
    (worse : ∀ other ∈ ranks, ¬ rank.before other = true) :
    insertRank rank ranks = ranks ++ [rank] := by
  induction ranks with
  | nil => rfl
  | cons head tail ih =>
    rw [insertRank, if_neg (worse head (by simp)), ih (fun other member => worse other (by simp [member]))]
    rfl

/-! ### The buffer -/

/-- To push a rank into a sorted buffer is to insert it and to give up what is too much. -/
theorem push_eq_take {limit : Nat} {buffer : List Rank} (rank : Rank)
    (sorted : buffer.Pairwise (Rank.notAfter · · = true)) (bounded : buffer.length ≤ limit) :
    push limit buffer rank = (insertRank rank buffer).take limit := by
  have size : (insertRank rank buffer).length = buffer.length + 1 :=
    (insertRank_perm rank buffer).length_eq
  rw [push]
  split
  · exact (List.take_of_length_le (by omega)).symm
  · rename_i notShort
    have full : buffer.length = limit := by omega
    split
    · rename_i empty
      have nothing : buffer = [] := List.getLast?_eq_none_iff.mp empty
      have zero : limit = 0 := by simpa [nothing] using full.symm
      simp [nothing, zero]
    · rename_i worst last
      obtain ⟨front, rfl⟩ : ∃ front, buffer = front ++ [worst] :=
        List.getLast?_eq_some_iff.mp last
      have frontSize : (insertRank rank front).length = limit := by
        rw [(insertRank_perm rank front).length_eq, ← full]
        simp
      split
      · rename_i better
        rw [insertRank_concat_of_before better, List.dropLast_concat, List.take_append_of_le_length
          (by omega), List.take_of_length_le (by omega)]
      · rename_i notBetter
        -- All ranks of the buffer come before its last one, which the new rank does not.
        have worse : ∀ other ∈ front ++ [worst], ¬ rank.before other = true := by
          intro other member
          rcases List.mem_append.mp member with inFront | inLast
          · have beforeWorst := (List.pairwise_append.mp sorted).2.2 other inFront worst (by simp)
            exact (Rank.notAfter_iff _ _).mp (Rank.isTotalOrder.trans other worst rank beforeWorst
              ((Rank.notAfter_iff _ _).mpr notBetter))
          · rw [List.mem_singleton.mp inLast]
            exact notBetter
        rw [insertRank_eq_concat worse, List.take_append_of_le_length (by omega),
          List.take_of_length_le (by omega)]

theorem push_least (limit : Nat) (ranks : List Rank) (rank : Rank) :
    push limit (least Rank.notAfter limit ranks) rank =
      least Rank.notAfter limit (ranks ++ [rank]) := by
  have sorted := least_sorted Rank.isTotalOrder ranks limit
  rw [push_eq_take rank sorted (by simp [least]), ← mergeSort_cons_rank rank sorted]
  change least Rank.notAfter limit ([rank] ++ least Rank.notAfter limit ranks) = _
  rw [least_append_least Rank.isTotalOrder]
  exact least_congr Rank.isTotalOrder List.perm_append_comm limit

/-- A buffer holds the least of the ranks that have been put into it. -/
theorem foldl_push (limit : Nat) (ranks : List Rank) :
    ranks.foldl (push limit) [] = least Rank.notAfter limit ranks := by
  induction ranks using List.reverseRecOn with
  | nil => simp [least]
  | append_singleton ranks rank ih => rw [List.foldl_concat, ih, push_least]

end KeyedIndex
