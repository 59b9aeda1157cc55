import KeyedIndex.Proofs.Predicate.ShortCircuit
import Mathlib.Algebra.GroupWithZero.Nat
import Mathlib.Algebra.Order.BigOperators.Group.List
import Mathlib.Algebra.Order.Group.Nat
import Mathlib.Data.List.Flatten
import Mathlib.Data.List.Perm.Subperm

/-!
Costs of predicates. Although every node cuts the costs of its children off at the greatest
cost, the cost of a predicate is the exact sum of what its leaves cost, cut off once
(`Predicate.cost_toNat`). So the way in which children are put together makes no difference
(`Rearranged`), more children never cost less (`Extended`), and an evaluation, which comes to
some of the leaves once each, never costs more (`Predicate.evaluated_subperm`).
-/
namespace KeyedIndex

variable {α : Type}

/-- What a leaf costs; one without a matcher counts for one. -/
def Leaf.price (condition : Leaf α) : Nat :=
  match condition.matcher with
  | some matcher => matcher.cost.toNat
  | none => 1

/-- What leaves cost together. -/
def totalPrice (conditions : List (Leaf α)) : Nat := (conditions.map Leaf.price).sum

/-- A sum of costs, cut off at the greatest cost. -/
def capped (sum : Nat) : Nat := min sum (2 ^ 32 - 1)

theorem capped_mono {less more : Nat} (le : less ≤ more) : capped less ≤ capped more := by
  simp only [capped]
  omega

/-- Whoever cuts off a part and then the whole has cut off the whole. -/
theorem capped_add_capped (left right : Nat) :
    capped (left + capped right) = capped (left + right) := by
  simp only [capped]
  omega

/-! ### The cost is a sum -/

theorem toNat_addCost (left right : UInt32) :
    (addCost left right).toNat = capped (left.toNat + right.toNat) := by
  have small : min (left.toNat + right.toNat) (UInt32.size - 1) < UInt32.size := by
    have : 0 < UInt32.size := by decide
    omega
  rw [addCost, UInt32.toNat_ofNat_of_lt' small]
  rfl

theorem Leaf.toNat_cost (condition : Leaf α) : condition.cost.toNat = condition.price := by
  cases matcher : condition.matcher <;> simp [Leaf.cost, Leaf.price, matcher, usualCost]

theorem totalPrice_append (left right : List (Leaf α)) :
    totalPrice (left ++ right) = totalPrice left + totalPrice right := by
  simp [totalPrice]

theorem toNat_addCosts (children : List (Predicate α))
    (each : ∀ child ∈ children, child.cost.toNat = capped (totalPrice child.leaves))
    (sum : UInt32) : (addCosts sum children).toNat =
      capped (sum.toNat + totalPrice (children.flatMap Predicate.leaves)) := by
  induction children generalizing sum with
  | nil =>
    have bound := sum.toNat_lt
    simp only [addCosts, List.flatMap_nil, totalPrice, List.map_nil, List.sum_nil, capped]
    omega
  | cons child rest ih =>
    obtain ⟨first, later⟩ := List.forall_mem_cons.mp each
    -- Both the child and the sum so far are cut off; the cut in front of the rest takes them in.
    rw [addCosts, ih later, toNat_addCost, first, capped_add_capped, Nat.add_comm (capped _),
      capped_add_capped, List.flatMap_cons, totalPrice_append]
    congr 1
    omega

/-- The cost of a predicate is what its leaves cost together, cut off once. -/
theorem Predicate.cost_toNat (predicate : Predicate α) :
    predicate.cost.toNat = capped (totalPrice predicate.leaves) := by
  induction predicate using Predicate.induct with
  | any => rfl
  | leaf condition =>
    have bound := condition.cost.toNat_lt
    rw [Predicate.cost, Predicate.leaves, totalPrice, List.map_singleton, List.sum_singleton,
      ← Leaf.toNat_cost, capped]
    omega
  | and children ih =>
    rw [Predicate.cost, toNat_addCosts children ih, Predicate.leaves_and, UInt32.toNat_zero,
      Nat.zero_add]
  | or children ih =>
    rw [Predicate.cost, toNat_addCosts children ih, Predicate.leaves_or, UInt32.toNat_zero,
      Nat.zero_add]
  | not child ih =>
    rw [Predicate.cost, toNat_addCost, ih, UInt32.toNat_zero, capped_add_capped, Nat.zero_add,
      Predicate.leaves]

/-! ### Nesting -/

/-- Conjunctions and disjunctions are made of any number of children. -/
def Joins (join : List (Predicate α) → Predicate α) : Prop := join = .and ∨ join = .or

/-- One predicate has come from another one by permuting the children of a node, by putting children
    together in a node of their own or taking them out of it, or by negating them, at any places and
    any number of times. -/
inductive Rearranged : Predicate α → Predicate α → Prop
  | refl (predicate : Predicate α) : Rearranged predicate predicate
  | symm {left right : Predicate α} : Rearranged left right → Rearranged right left
  | trans {first second third : Predicate α} :
    Rearranged first second → Rearranged second third → Rearranged first third
  | permuted {join} {left right : List (Predicate α)} (joins : Joins join) (same : left.Perm right) :
    Rearranged (join left) (join right)
  | regrouped {outer inner} {before group after : List (Predicate α)} (around : Joins outer)
    (within : Joins inner) :
    Rearranged (outer (before ++ group ++ after)) (outer (before ++ inner group :: after))
  | wrapped {join} (child : Predicate α) (joins : Joins join) : Rearranged child (join [child])
  | negated (child : Predicate α) : Rearranged child (.not child)
  | inside {join} {before after : List (Predicate α)} {left right : Predicate α} (joins : Joins join) :
    Rearranged left right → Rearranged (join (before ++ left :: after)) (join (before ++ right :: after))

/-- One predicate has come from another one by adding a child to a node at some place. -/
inductive Extended : Predicate α → Predicate α → Prop
  | added {join} {before after : List (Predicate α)} (child : Predicate α) (joins : Joins join) :
    Extended (join (before ++ after)) (join (before ++ child :: after))
  | inside {join} {before after : List (Predicate α)} {left right : Predicate α} (joins : Joins join) :
    Extended left right → Extended (join (before ++ left :: after)) (join (before ++ right :: after))
  | negated {left right : Predicate α} : Extended left right → Extended (.not left) (.not right)

theorem Joins.leaves {join : List (Predicate α) → Predicate α} (joins : Joins join)
    (children : List (Predicate α)) :
    (join children).leaves = children.flatMap Predicate.leaves := by
  rcases joins with rfl | rfl
  · exact Predicate.leaves_and children
  · exact Predicate.leaves_or children

theorem Rearranged.leaves_perm {left right : Predicate α} (rearranged : Rearranged left right) :
    left.leaves.Perm right.leaves := by
  induction rearranged with
  | refl => exact .refl _
  | symm _ ih => exact ih.symm
  | trans _ _ first second => exact first.trans second
  | permuted joins same =>
    rw [joins.leaves, joins.leaves]
    exact same.flatMap_right _
  | regrouped around within => simp [around.leaves, within.leaves]
  | wrapped child joins => simp [joins.leaves]
  | negated child => simp [Predicate.leaves]
  | inside joins _ ih =>
    simp only [joins.leaves, List.flatMap_append, List.flatMap_cons]
    exact (ih.append_right _).append_left _

theorem Extended.leaves_sublist {left right : Predicate α} (extended : Extended left right) :
    left.leaves.Sublist right.leaves := by
  induction extended with
  | added child joins =>
    simp only [joins.leaves, List.flatMap_append, List.flatMap_cons]
    exact (List.sublist_append_right _ _).append_left _
  | inside joins _ ih =>
    simp only [joins.leaves, List.flatMap_append, List.flatMap_cons]
    exact (ih.append_right _).append_left _
  | negated _ ih => simpa [Predicate.leaves] using ih

theorem totalPrice_perm {left right : List (Leaf α)} (same : left.Perm right) :
    totalPrice left = totalPrice right :=
  (same.map Leaf.price).sum_eq

/-- Some of the leaves do not cost more than all of them. -/
theorem totalPrice_le {some all : List (Leaf α)} (among : some.Subperm all) :
    totalPrice some ≤ totalPrice all := by
  obtain ⟨chosen, same, within⟩ := among
  rw [← totalPrice_perm same]
  exact (within.map Leaf.price).sum_le_sum (fun _ _ => Nat.zero_le _)

/-! ### Evaluation -/

/-- The leaves that an evaluation comes to, one after the other. -/
def Predicate.evaluated (entity : α) (predicate : Predicate α) : List (Leaf α) :=
  (predicate.evaluate entity).trace.filterMap (fun path => (predicate.at? path).bind Predicate.leaf?)

/-- At every place of a trace there is a leaf. -/
theorem Predicate.map_at?_trace (entity : α) (predicate : Predicate α) :
    (predicate.evaluate entity).trace.map (fun path => predicate.at? path) =
      (predicate.evaluated entity).map (fun condition => some (.leaf condition)) := by
  have leaf : ∀ path ∈ (predicate.evaluate entity).trace,
      ∃ condition, predicate.at? path = some (.leaf condition) :=
    fun path member => ((predicate.mem_trace entity path).mp member).2
  rw [Predicate.evaluated]
  generalize (predicate.evaluate entity).trace = trace at leaf
  induction trace with
  | nil => rfl
  | cons path rest ih =>
    obtain ⟨⟨condition, found⟩, later⟩ := List.forall_mem_cons.mp leaf
    simp [found, Predicate.leaf?, ih later]

/-- A node evaluates what the children evaluate that are tried. -/
theorem Predicate.evaluated_node {entity : α} {node : Predicate α} {decisive : Bool}
    {tried left : List (Predicate α × Nat)} (tries : Tries entity decisive node.children tried left)
    (trace : (node.evaluate entity).trace = joinTraces entity tried) :
    node.evaluated entity = tried.flatMap (fun child => child.1.evaluated entity) := by
  rw [Predicate.evaluated, trace, joinTraces, List.filterMap_flatMap]
  refine List.flatMap_congr fun child member => ?_
  have place := tries.mem_zipIdx member
  rw [List.filterMap_map, Predicate.evaluated]
  exact List.filterMap_congr fun path _ => by simp [Predicate.at?, place]

theorem subperm_flatMap {β γ : Type} {items : List β} {fewer more : β → List γ}
    (each : ∀ item ∈ items, (fewer item).Subperm (more item)) :
    (items.flatMap fewer).Subperm (items.flatMap more) := by
  induction items with
  | nil => exact .refl _
  | cons item rest ih =>
    obtain ⟨first, later⟩ := List.forall_mem_cons.mp each
    exact first.append (ih later)

theorem Predicate.leaves_node {node : Predicate α} {decisive : Bool}
    (decides : node.decisive? = some decisive) :
    node.leaves = node.children.flatMap Predicate.leaves := by
  cases node with
  | and children => exact Predicate.leaves_and children
  | or children => exact Predicate.leaves_or children
  | any | leaf | not => cases decides

/-- An evaluation comes to some of the leaves, to each of them once at most. -/
theorem Predicate.evaluated_subperm (entity : α) (predicate : Predicate α) :
    (predicate.evaluated entity).Subperm predicate.leaves := by
  induction predicate using Predicate.induct_nodes with
  | any => exact .refl _
  | leaf condition => exact .refl _
  | node node decisive decides ih =>
    obtain ⟨tried, left, tries, trace⟩ := Predicate.evaluate_tries entity decides
    have each : ∀ child ∈ tried, (child.1.evaluated entity).Subperm child.1.leaves :=
      fun child member => ih child.1 (List.mem_of_getElem? (tries.mem_zipIdx member))
    -- The children that are tried are not a part of the list of children but of it in order of cost.
    have within : (tried.flatMap (fun child => child.1.leaves)).Subperm
        (node.children.zipIdx.flatMap (fun child => child.1.leaves)) :=
      ((List.sublist_append_left tried left).flatMap _).subperm.trans
        (tries.all.flatMap_right _).subperm
    have all : node.children.zipIdx.flatMap (fun child => child.1.leaves) = node.leaves := by
      rw [Predicate.leaves_node decides, ← List.flatMap_map Prod.fst, List.zipIdx_map_fst]
    rw [Predicate.evaluated_node tries trace, ← all]
    exact (subperm_flatMap each).trans within
  | not child ih =>
    have below : (Predicate.not child).evaluated entity = child.evaluated entity := by
      simp only [Predicate.evaluated, Predicate.evaluate, Outcome.below, List.filterMap_map]
      exact List.filterMap_congr fun path _ => by simp [Predicate.at?, Predicate.children]
    rwa [below, Predicate.leaves]

/-- Whatever its leaves cost and however it is nested, the cost of a predicate is what its leaves
    cost together, cut off once at the greatest cost. So it stays the same when children are
    permuted, regrouped or negated, and is not less with one more child; and what an evaluation
    comes to does not cost more than the predicate. -/
theorem Predicate.cost_capped (predicate : Predicate α) :
    predicate.cost.toNat = capped (totalPrice predicate.leaves) ∧
    (∀ other, Rearranged predicate other → other.cost = predicate.cost) ∧
    (∀ other, Extended predicate other → predicate.cost ≤ other.cost) ∧
    ∀ entity outcome, predicate.outcome? entity = some outcome →
      ∃ evaluated : List (Leaf α),
        outcome.trace.map (fun path => predicate.at? path) =
          evaluated.map (fun condition => some (.leaf condition)) ∧
        capped (totalPrice evaluated) ≤ predicate.cost.toNat := by
  refine ⟨predicate.cost_toNat, ?_, ?_, ?_⟩
  · intro other rearranged
    rw [← UInt32.toNat_inj, other.cost_toNat, predicate.cost_toNat,
      totalPrice_perm rearranged.leaves_perm]
  · intro other extended
    rw [UInt32.le_iff_toNat_le, other.cost_toNat, predicate.cost_toNat]
    exact capped_mono (totalPrice_le extended.leaves_sublist.subperm)
  · intro entity outcome evaluates
    obtain rfl := Predicate.outcome?_eq_some evaluates
    refine ⟨predicate.evaluated entity, predicate.map_at?_trace entity, ?_⟩
    rw [predicate.cost_toNat]
    exact capped_mono (totalPrice_le (predicate.evaluated_subperm entity))

/-- A disjunction and a leaf whose costs exceed the greatest cost together: regrouped and negated the
    tree costs as much, another child adds nothing, and neither does the evaluation exceed it. -/
theorem Predicate.cost_capped_exceeding :
    let dear := pricedLeaf 4294967290 true
    let cheap := pricedLeaf 7 true
    let other := pricedLeaf 9 true
    let plain := Predicate.onField "name" .equals "a"
    let tree := Predicate.and [dear, .or [cheap, other]]
    let flat := Predicate.and [dear, .not cheap, other]
    let longer := Predicate.and [dear, .or [cheap, plain, other]]
    tree.cost.toNat = 4294967295 ∧ Rearranged tree flat ∧ flat.cost = tree.cost ∧
      Extended tree longer ∧ tree.cost ≤ longer.cost ∧
      ∃ outcome, tree.outcome? () = some outcome ∧ outcome.trace = [[1, 0], [0]] ∧
        ∃ evaluated : List (Leaf Unit), outcome.trace.map (fun path => tree.at? path) =
            evaluated.map (fun condition => some (.leaf condition)) ∧
          capped (totalPrice evaluated) ≤ tree.cost.toNat := by
  intro dear cheap other plain tree flat longer
  have conjunction : @Joins Unit .and := .inl rfl
  have disjunction : @Joins Unit .or := .inr rfl
  have ungrouped : Rearranged (.and [dear, cheap, other]) tree :=
    @Rearranged.regrouped _ _ _ [dear] [cheap, other] [] conjunction disjunction
  have negated : Rearranged (.and [dear, cheap, other]) flat :=
    @Rearranged.inside _ _ [dear] [other] _ _ conjunction (.negated cheap)
  have lengthened : Extended tree longer :=
    @Extended.inside _ _ [dear] [] _ _ conjunction
      (@Extended.added _ _ [cheap] [other] plain disjunction)
  have outcome : tree.outcome? () = some ⟨true, [[1, 0], [0]]⟩ := by
    simp [tree, dear, cheap, other, pricedLeaf, Predicate.outcome?, Predicate.isMatchable,
      allMatchable, Predicate.evaluate, evaluateAll, byCost, Predicate.cost, addCosts, addCost,
      Leaf.cost, settle, Outcome.below, List.mergeSort, List.MergeSort.Internal.splitInTwo]
  have flattened : Rearranged tree flat := ungrouped.symm.trans negated
  obtain ⟨cost, rearranged, extended, evaluated⟩ := Predicate.cost_capped tree
  refine ⟨?_, flattened, rearranged _ flattened, lengthened, extended _ lengthened, _, outcome, rfl,
    evaluated () _ outcome⟩
  rw [cost]
  rfl

end KeyedIndex
