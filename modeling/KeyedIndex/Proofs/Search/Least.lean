import Mathlib

/-!
The first items of a list in an order. Which items are the first ones of several lists can be
told from the first ones of each of them (`least_append_least`, `least_flatMap_least`), and
one more item takes its place among the first ones, or none (`least_cons`).
-/
namespace KeyedIndex

variable {α β : Type}

/-- A comparison that puts any two items in one order. -/
structure IsTotalOrder (le : α → α → Bool) : Prop where
  trans : ∀ first second third, le first second = true → le second third = true →
    le first third = true
  total : ∀ left right, (le left right || le right left) = true
  antisymm : ∀ left right, le left right = true → le right left = true → left = right

/-- The first items in order, at most `limit` of them. -/
def least (le : α → α → Bool) (limit : Nat) (items : List α) : List α :=
  (items.mergeSort le).take limit

section
variable {le : α → α → Bool} (order : IsTotalOrder le)
include order

theorem mergeSort_sorted (items : List α) : (items.mergeSort le).Pairwise (le · · = true) :=
  List.pairwise_mergeSort order.trans order.total items

/-- There is one way only to put items in order. -/
theorem mergeSort_eq_of_sorted {sorted items : List α} (inOrder : sorted.Pairwise (le · · = true))
    (same : sorted.Perm items) : items.mergeSort le = sorted := by
  apply List.Perm.eq_of_pairwise (fun left right _ _ => order.antisymm left right)
    (mergeSort_sorted order items) inOrder
  exact (List.mergeSort_perm items le).trans same.symm

theorem mergeSort_congr {left right : List α} (same : left.Perm right) :
    left.mergeSort le = right.mergeSort le := by
  apply mergeSort_eq_of_sorted order (mergeSort_sorted order right)
  exact (List.mergeSort_perm right le).trans same.symm

theorem mergeSort_cons_eq (item : α) (items : List α) :
    (item :: items).mergeSort le = (items.mergeSort le).orderedInsert (le · · = true) item := by
  have : Std.Total (fun left right => le left right = true) :=
    ⟨fun left right => by simpa using order.total left right⟩
  have : IsTrans α (fun left right => le left right = true) := ⟨order.trans⟩
  apply mergeSort_eq_of_sorted order
  · exact (mergeSort_sorted order items).orderedInsert item _
  · exact (List.perm_orderedInsert _ item _).trans ((List.mergeSort_perm items le).cons item)

omit order in
/-- What an insertion puts among the first items depends on the first items alone. -/
theorem take_orderedInsert_take (item : α) (items : List α) (limit : Nat) :
    ((items.take limit).orderedInsert (le · · = true) item).take limit =
      (items.orderedInsert (le · · = true) item).take limit := by
  induction items generalizing limit with
  | nil => simp
  | cons head tail ih =>
    cases limit with
    | zero => simp
    | succ limit =>
      by_cases fits : le item head = true
      · cases limit <;> simp [fits, List.take_take]
      · simpa [fits] using ih limit

theorem least_congr {left right : List α} (same : left.Perm right) (limit : Nat) :
    least le limit left = least le limit right := by
  rw [least, least, mergeSort_congr order same]

theorem least_cons (item : α) (items : List α) (limit : Nat) :
    least le limit (item :: items) =
      ((least le limit items).orderedInsert (le · · = true) item).take limit := by
  rw [least, least, mergeSort_cons_eq order, take_orderedInsert_take]

theorem least_sorted (items : List α) (limit : Nat) :
    (least le limit items).Pairwise (le · · = true) :=
  (mergeSort_sorted order items).sublist (List.take_sublist limit _)

theorem least_least (items : List α) (limit : Nat) :
    least le limit (least le limit items) = least le limit items := by
  have inOrder := mergeSort_eq_of_sorted order (least_sorted order items limit) (List.Perm.refl _)
  rw [least, inOrder, least, List.take_take, min_self]

theorem least_append_least (left right : List α) (limit : Nat) :
    least le limit (left ++ least le limit right) = least le limit (left ++ right) := by
  induction left with
  | nil => simpa using least_least order right limit
  | cons item rest ih => rw [List.cons_append, List.cons_append, least_cons order, ih, ← least_cons order]

/-- The first items of all lists are among the first items of each. -/
theorem least_flatMap_least (limit : Nat) (items : β → List α) (sources : List β) :
    least le limit (sources.flatMap (fun source => least le limit (items source))) =
      least le limit (sources.flatMap items) := by
  induction sources with
  | nil => rfl
  | cons source rest ih =>
    simp only [List.flatMap_cons]
    calc
      _ = least le limit (least le limit (items source) ++ rest.flatMap items) := by
        rw [← least_append_least order, ih, least_append_least order]
      _ = least le limit (rest.flatMap items ++ least le limit (items source)) :=
        least_congr order List.perm_append_comm limit
      _ = least le limit (rest.flatMap items ++ items source) := least_append_least order _ _ _
      _ = least le limit (items source ++ rest.flatMap items) :=
        least_congr order List.perm_append_comm limit

end

/-- Items can be put in order before or after they are mapped, if the map keeps their order. -/
theorem map_least {le : α → α → Bool} {leMapped : β → β → Bool} {image : α → β} {items : List α}
    (keeps : ∀ left ∈ items, ∀ right ∈ items, le left right = leMapped (image left) (image right))
    (limit : Nat) : (least le limit items).map image = least leMapped limit (items.map image) := by
  rw [least, least, List.map_take, List.map_mergeSort keeps]

end KeyedIndex
