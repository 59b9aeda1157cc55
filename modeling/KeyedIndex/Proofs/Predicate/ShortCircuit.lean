import KeyedIndex.Proofs.Predicate.Truth
import Mathlib.Data.List.Nodup

/-!
Evaluation that stops early. The children of a node are tried in the order of their costs, those
of equal cost as they stand, and none is tried after the first that decides the node (`Tries`).
So exactly those leaves are evaluated to which tried children lead (`Evaluates`), each of them
once, and the value is that of the predicate when nothing is left out
(`Predicate.outcome?_tries`).
-/
namespace KeyedIndex

variable {α : Type}

/-! ### Values -/

mutual
/-- The value of a predicate on an entity, for which the values of all its leaves are taken as they
    stand. -/
def Predicate.value (entity : α) : Predicate α → Bool
  | .any => true
  | .leaf condition => condition.matcher.any (fun matcher => matcher.test entity)
  | .and children => (allValues entity children).all id
  | .or children => (allValues entity children).any id
  | .not child => !child.value entity

def allValues (entity : α) : List (Predicate α) → List Bool
  | [] => []
  | child :: rest => child.value entity :: allValues entity rest
end

theorem allValues_eq_map (entity : α) (children : List (Predicate α)) :
    allValues entity children = children.map (Predicate.value entity) := by
  induction children with
  | nil => rfl
  | cons child rest ih => rw [allValues, ih, List.map_cons]

theorem Predicate.value_eq_true_iff (entity : α) (predicate : Predicate α) :
    predicate.value entity = true ↔ predicate.Holds (Leaf.Matches entity) := by
  induction predicate using Predicate.induct with
  | any => simp [Predicate.value, Predicate.Holds]
  | leaf condition =>
    cases matcher : condition.matcher <;> simp [Predicate.value, Leaf.Matches, matcher]
  | and children ih =>
    rw [Predicate.holds_and, Predicate.value, allValues_eq_map, List.all_map, List.all_eq_true]
    exact forall₂_congr ih
  | or children ih =>
    rw [Predicate.holds_or, Predicate.value, allValues_eq_map, List.any_map, List.any_eq_true]
    exact exists_congr fun child => and_congr_right (ih child)
  | not child ih => simp [Predicate.value, ← ih]

theorem Predicate.evaluate_value (entity : α) (predicate : Predicate α) :
    (predicate.evaluate entity).holds = predicate.value entity := by
  rw [Bool.eq_iff_iff, Predicate.evaluate_holds, Predicate.value_eq_true_iff]

/-! ### Children that are tried -/

/-- The value of a child that decides a node. -/
def Predicate.decisive? : Predicate α → Option Bool
  | .and _ => some false
  | .or _ => some true
  | .any | .leaf _ | .not _ => none

/-- Predicates are built from their children; what holds of nodes that a child can decide is proved
    for conjunctions and disjunctions at once. -/
theorem Predicate.induct_nodes {motive : Predicate α → Prop} (any : motive .any)
    (leaf : ∀ condition, motive (.leaf condition))
    (node : ∀ node decisive, node.decisive? = some decisive →
      (∀ child ∈ node.children, motive child) → motive node)
    (not : ∀ child, motive child → motive (.not child)) (predicate : Predicate α) :
    motive predicate :=
  Predicate.induct any leaf (fun children => node (.and children) false rfl)
    (fun children => node (.or children) true rfl) not predicate

/-- A child, which stands at a position, comes before another one: it costs less, or it costs as
    much and stands before it. -/
def Cheaper (first second : Predicate α × Nat) : Prop :=
  first.1.cost < second.1.cost ∨ first.1.cost = second.1.cost ∧ first.2 < second.2

/-- Some children of a node are tried, in the order of their costs, and the others are left: none
    that is tried before the last one decides, and if children are left, the last one does. -/
structure Tries (entity : α) (decisive : Bool) (children : List (Predicate α))
    (tried left : List (Predicate α × Nat)) : Prop where
  all : (tried ++ left).Perm children.zipIdx
  ordered : (tried ++ left).Pairwise Cheaper
  undecided : ∀ child ∈ tried.dropLast, child.1.value entity ≠ decisive
  stops : left = [] ∨ ∃ child, tried.getLast? = some child ∧ child.1.value entity = decisive

/-- The evaluation of a predicate comes to a place in it. -/
inductive Evaluates (entity : α) : Predicate α → Path → Prop
  | here {predicate} : Evaluates entity predicate []
  | negated {child path} (below : Evaluates entity child path) :
    Evaluates entity (.not child) (0 :: path)
  | tried {node child : Predicate α} {decisive tried left position path}
    (decides : node.decisive? = some decisive)
    (tries : Tries entity decisive node.children tried left) (member : (child, position) ∈ tried)
    (below : Evaluates entity child path) : Evaluates entity node (position :: path)

theorem Cheaper.asymm {first second : Predicate α × Nat} (before : Cheaper first second) :
    ¬ Cheaper second first := by
  unfold Cheaper at before ⊢
  simp only [UInt32.lt_iff_toNat_lt, ← UInt32.toNat_inj] at before ⊢
  omega

/-- Children with their positions, from the cheapest to the dearest. -/
def inTurn (children : List (Predicate α)) : List (Predicate α × Nat) :=
  children.zipIdx.mergeSort (fun first second => first.1.cost ≤ second.1.cost)

theorem inTurn_perm (children : List (Predicate α)) : (inTurn children).Perm children.zipIdx :=
  List.mergeSort_perm _ _

theorem positions_nodup (children : List (Predicate α)) :
    (children.zipIdx.map Prod.snd).Nodup := by
  rw [List.zipIdx_map_snd]
  exact List.nodup_range'

theorem cost_trans (first second third : Predicate α × Nat) :
    decide (first.1.cost ≤ second.1.cost) = true → decide (second.1.cost ≤ third.1.cost) = true →
      decide (first.1.cost ≤ third.1.cost) = true := by
  simpa using UInt32.le_trans

theorem cost_total (first second : Predicate α × Nat) :
    (decide (first.1.cost ≤ second.1.cost) || decide (second.1.cost ≤ first.1.cost)) = true := by
  simpa using UInt32.le_total first.1.cost second.1.cost

/-- Children of equal cost stay as they stand. -/
theorem inTurn_filter (children : List (Predicate α)) (cost : UInt32) :
    (inTurn children).filter (fun child => child.1.cost = cost) =
      children.zipIdx.filter (fun child => child.1.cost = cost) := by
  have level : (children.zipIdx.filter (fun child => child.1.cost = cost)).Pairwise
      (fun first second => decide (first.1.cost ≤ second.1.cost) = true) := by
    refine List.pairwise_of_forall_mem_list ?_
    intro first firstIn second secondIn
    have firstCost : first.1.cost = cost := by simpa using (List.mem_filter.mp firstIn).2
    have secondCost : second.1.cost = cost := by simpa using (List.mem_filter.mp secondIn).2
    simp [firstCost, secondCost]
  have within := (List.sublist_mergeSort cost_trans cost_total level List.filter_sublist).filter
    (fun child => decide (child.1.cost = cost))
  rw [List.filter_filter] at within
  simp only [Bool.and_self] at within
  exact (within.eq_of_length ((inTurn_perm children).filter _).length_eq.symm).symm

theorem inTurn_ordered (children : List (Predicate α)) : (inTurn children).Pairwise Cheaper := by
  have standing : children.zipIdx.Pairwise (fun first second => first.2 < second.2) := by
    rw [← List.pairwise_map, List.zipIdx_map_snd]
    exact List.pairwise_lt_range'
  refine List.pairwise_iff_forall_sublist.mpr ?_
  intro first second inOrder
  have sorted : first.1.cost ≤ second.1.cost := by
    simpa using List.pairwise_iff_forall_sublist.mp
      (List.pairwise_mergeSort cost_trans cost_total children.zipIdx) inOrder
  by_cases same : first.1.cost = second.1.cost
  · -- Among the children of this cost the two are in the order in which they stand.
    have both := inOrder.filter (fun child => decide (child.1.cost = second.1.cost))
    rw [inTurn_filter] at both
    simp only [same, decide_true, List.filter_cons_of_pos, List.filter_nil] at both
    exact .inr ⟨same, List.pairwise_iff_forall_sublist.mp standing
      (both.trans List.filter_sublist)⟩
  · exact .inl (UInt32.lt_of_le_of_ne sorted same)

/-! ### What is evaluated -/

theorem evaluateAll_eq_map (entity : α) (position : Nat) (children : List (Predicate α)) :
    evaluateAll entity position children = (children.zipIdx position).map
      (fun child => (child.1.cost, (child.1.evaluate entity).below child.2)) := by
  induction children generalizing position with
  | nil => rfl
  | cons child rest ih => rw [evaluateAll, ih, List.zipIdx_cons, List.map_cons]

theorem byCost_evaluateAll (entity : α) (children : List (Predicate α)) :
    byCost (evaluateAll entity 0 children) =
      (inTurn children).map (fun child => (child.1.evaluate entity).below child.2) := by
  have sorted := List.map_mergeSort (l := children.zipIdx)
    (r := fun first second => decide (first.1.cost ≤ second.1.cost))
    (s := fun first second => decide (first.1 ≤ second.1))
    (f := fun child => (child.1.cost, (child.1.evaluate entity).below child.2))
    (fun _ _ _ _ => rfl)
  rw [byCost, evaluateAll_eq_map, ← sorted, List.map_map]
  rfl

/-- Of outcomes in a row, those are used up to the first one that decides. -/
theorem settle_trace {β : Type} (decisive : Bool) (outcome : β → Outcome) (items : List β) :
    ∃ tried left, items = tried ++ left ∧
      (settle decisive (items.map outcome)).trace = tried.flatMap (fun item => (outcome item).trace) ∧
      (∀ item ∈ tried.dropLast, (outcome item).holds ≠ decisive) ∧
      (left = [] ∨ ∃ item, tried.getLast? = some item ∧ (outcome item).holds = decisive) := by
  induction items with
  | nil => exact ⟨[], [], rfl, rfl, by simp, .inl rfl⟩
  | cons first rest ih =>
    rw [List.map_cons, settle]
    by_cases decides : (outcome first).holds = decisive
    · rw [if_pos decides]
      exact ⟨[first], rest, rfl, by simp, by simp, .inr ⟨first, rfl, decides⟩⟩
    · obtain ⟨tried, left, split, trace, undecided, stops⟩ := ih
      rw [if_neg decides]
      refine ⟨first :: tried, left, by rw [split, List.cons_append], ?_, ?_, ?_⟩
      · simp only [List.flatMap_cons, trace]
      · intro item member
        cases tried with
        | nil => simp at member
        | cons second later =>
          rw [List.dropLast_cons_cons] at member
          rcases List.mem_cons.mp member with rfl | later
          · exact decides
          · exact undecided item later
      · rcases stops with none | ⟨item, last, found⟩
        · exact .inl none
        · refine .inr ⟨item, ?_, found⟩
          rw [List.getLast?_cons, last, Option.getD_some]

/-- The places in the children that were tried, seen from their parent. -/
def joinTraces (entity : α) (tried : List (Predicate α × Nat)) : List Path :=
  tried.flatMap (fun child => (child.1.evaluate entity).trace.map (child.2 :: ·))

theorem settle_tries (entity : α) (decisive : Bool) (children : List (Predicate α)) :
    ∃ tried left, Tries entity decisive children tried left ∧
      (settle decisive (byCost (evaluateAll entity 0 children))).trace = joinTraces entity tried := by
  rw [byCost_evaluateAll]
  obtain ⟨tried, left, split, trace, undecided, stops⟩ := settle_trace decisive
    (fun child : Predicate α × Nat => (child.1.evaluate entity).below child.2) (inTurn children)
  have value : ∀ child : Predicate α × Nat,
      ((child.1.evaluate entity).below child.2).holds = child.1.value entity :=
    fun child => child.1.evaluate_value entity
  simp only [value] at undecided stops
  refine ⟨tried, left, ⟨?_, ?_, undecided, stops⟩, trace⟩
  · exact split ▸ inTurn_perm children
  · exact split ▸ inTurn_ordered children

/-- A node that a child can decide tries its children in turn. -/
theorem Predicate.evaluate_tries (entity : α) {node : Predicate α} {decisive : Bool}
    (decides : node.decisive? = some decisive) :
    ∃ tried left, Tries entity decisive node.children tried left ∧
      (node.evaluate entity).trace = joinTraces entity tried := by
  cases node with
  | and children =>
    obtain rfl : false = decisive := Option.some.inj decides
    rw [Predicate.evaluate]
    exact settle_tries entity false children
  | or children =>
    obtain rfl : true = decisive := Option.some.inj decides
    rw [Predicate.evaluate]
    exact settle_tries entity true children
  | any => cases decides
  | leaf condition => cases decides
  | not child => cases decides

/-- Nothing is tried after a child that decides. -/
theorem Tries.nil_of_append {entity : α} {decisive : Bool} {children : List (Predicate α)}
    {tried left more rest : List (Predicate α × Nat)}
    (shorter : Tries entity decisive children tried (more ++ left))
    (longer : Tries entity decisive children (tried ++ more) rest) : more = [] := by
  by_contra later
  rcases shorter.stops with none | ⟨child, last, decides⟩
  · exact later (List.append_eq_nil_iff.mp none).1
  · have early : child ∈ (tried ++ more).dropLast := by
      rw [List.dropLast_append_of_ne_nil later]
      exact List.mem_append_left _ (List.mem_of_getLast? last)
    exact longer.undecided child early decides

/-- Which children are tried is determined by their costs and values. -/
theorem Tries.unique {entity : α} {decisive : Bool} {children : List (Predicate α)}
    {first second firstLeft secondLeft : List (Predicate α × Nat)}
    (one : Tries entity decisive children first firstLeft)
    (other : Tries entity decisive children second secondLeft) : first = second := by
  have same : first ++ firstLeft = second ++ secondLeft :=
    List.Perm.eq_of_pairwise (fun _ _ _ _ before after => absurd after before.asymm)
      one.ordered other.ordered (one.all.trans other.all.symm)
  rcases List.append_eq_append_iff.mp same with ⟨more, rfl, rfl⟩ | ⟨more, rfl, rfl⟩
  · rw [one.nil_of_append other, List.append_nil]
  · rw [other.nil_of_append one, List.append_nil]

theorem Tries.mem_zipIdx {entity : α} {decisive : Bool} {children : List (Predicate α)}
    {tried left : List (Predicate α × Nat)} (tries : Tries entity decisive children tried left)
    {child : Predicate α} {position : Nat} (member : (child, position) ∈ tried) :
    children[position]? = some child := by
  have inside : (child, position) ∈ children.zipIdx :=
    tries.all.subset (List.mem_append_left left member)
  exact List.mem_zipIdx_iff_getElem?.mp inside

theorem Tries.positions_nodup {entity : α} {decisive : Bool} {children : List (Predicate α)}
    {tried left : List (Predicate α × Nat)} (tries : Tries entity decisive children tried left) :
    (tried.map Prod.snd).Nodup := by
  have all : ((tried ++ left).map Prod.snd).Nodup :=
    ((tries.all.map Prod.snd).nodup_iff).mpr (KeyedIndex.positions_nodup children)
  rw [List.map_append] at all
  exact all.of_append_left

theorem mem_joinTraces {entity : α} {tried : List (Predicate α × Nat)} {path : Path} :
    path ∈ joinTraces entity tried ↔ ∃ child position below, (child, position) ∈ tried ∧
      below ∈ (child.evaluate entity).trace ∧ path = position :: below := by
  simp only [joinTraces, List.mem_flatMap, List.mem_map, Prod.exists]
  constructor
  · rintro ⟨child, position, member, below, inside, rfl⟩
    exact ⟨child, position, below, member, inside, rfl⟩
  · rintro ⟨child, position, below, member, inside, rfl⟩
    exact ⟨child, position, member, below, inside, rfl⟩

/-- No leaf is evaluated twice. -/
theorem Predicate.trace_nodup (entity : α) (predicate : Predicate α) :
    (predicate.evaluate entity).trace.Nodup := by
  induction predicate using Predicate.induct_nodes with
  | any => simp [Predicate.evaluate]
  | leaf condition => simp [Predicate.evaluate]
  | node node decisive decides ih =>
    obtain ⟨tried, left, tries, trace⟩ := Predicate.evaluate_tries entity decides
    rw [trace, joinTraces, List.nodup_flatMap]
    constructor
    · intro child member
      have inside := ih child.1 (List.mem_of_getElem? (tries.mem_zipIdx member))
      exact inside.map fun _ _ => List.tail_eq_of_cons_eq
    · refine (List.pairwise_map.mp tries.positions_nodup).imp ?_
      intro first second apart path ofFirst ofSecond
      obtain ⟨below, -, rfl⟩ := List.mem_map.mp ofFirst
      obtain ⟨other, -, same⟩ := List.mem_map.mp ofSecond
      exact apart (List.head_eq_of_cons_eq same).symm
  | not child ih =>
    rw [Predicate.evaluate]
    exact ih.map fun _ _ => List.tail_eq_of_cons_eq

/-- A node tries those children to which the evaluation comes below it. -/
theorem Evaluates.node_iff {entity : α} {node : Predicate α} {decisive : Bool}
    {tried left : List (Predicate α × Nat)} (decides : node.decisive? = some decisive)
    (tries : Tries entity decisive node.children tried left) (position : Nat) (below : Path) :
    Evaluates entity node (position :: below) ↔
      ∃ child, (child, position) ∈ tried ∧ Evaluates entity child below := by
  constructor
  · intro comes
    cases comes with
    | negated => cases decides
    | tried decidesToo triesToo member comes =>
      obtain rfl := Option.some.inj (decides.symm.trans decidesToo)
      rw [tries.unique triesToo]
      exact ⟨_, member, comes⟩
  · rintro ⟨child, member, comes⟩
    exact .tried decides tries member comes

/-- The evaluation of a predicate evaluates the leaf at a place. -/
def EvaluatesLeaf (entity : α) (predicate : Predicate α) (path : Path) : Prop :=
  Evaluates entity predicate path ∧ ∃ condition, predicate.at? path = some (.leaf condition)

theorem Predicate.mem_trace (entity : α) (predicate : Predicate α) (path : Path) :
    path ∈ (predicate.evaluate entity).trace ↔ EvaluatesLeaf entity predicate path := by
  induction predicate using Predicate.induct_nodes generalizing path with
  | any =>
    constructor
    · intro member
      simp [Predicate.evaluate] at member
    · rintro ⟨comes, condition, found⟩
      cases path with
      | nil => cases found
      | cons position below => simp [Predicate.at?, Predicate.children] at found
  | leaf condition =>
    simp only [Predicate.evaluate, List.mem_singleton]
    constructor
    · rintro rfl
      exact ⟨.here, condition, rfl⟩
    · rintro ⟨comes, condition, found⟩
      cases path with
      | nil => rfl
      | cons position below => simp [Predicate.at?, Predicate.children] at found
  | node node decisive decides ih =>
    obtain ⟨tried, left, tries, trace⟩ := Predicate.evaluate_tries entity decides
    rw [trace, mem_joinTraces]
    constructor
    · rintro ⟨child, position, below, member, inside, rfl⟩
      have place := tries.mem_zipIdx member
      obtain ⟨comes, condition, found⟩ := (ih child (List.mem_of_getElem? place) below).mp inside
      exact ⟨.tried decides tries member comes, condition, by simp [Predicate.at?, place, found]⟩
    · rintro ⟨comes, condition, found⟩
      cases path with
      | nil =>
        obtain rfl : node = .leaf condition := Option.some.inj found
        cases decides
      | cons position below =>
        obtain ⟨child, member, comes⟩ := (Evaluates.node_iff decides tries position below).mp comes
        have place := tries.mem_zipIdx member
        have found : child.at? below = some (.leaf condition) := by
          simpa [Predicate.at?, place] using found
        exact ⟨child, position, below, member,
          (ih child (List.mem_of_getElem? place) below).mpr ⟨comes, condition, found⟩, rfl⟩
  | not child ih =>
    simp only [Predicate.evaluate, Outcome.below, List.mem_map]
    constructor
    · rintro ⟨below, inside, rfl⟩
      obtain ⟨comes, condition, found⟩ := (ih below).mp inside
      exact ⟨.negated comes, condition, by simpa [Predicate.at?, Predicate.children] using found⟩
    · rintro ⟨comes, condition, found⟩
      cases comes with
      | here => cases found
      | @negated _ below comes =>
        have found : child.at? below = some (.leaf condition) := by
          simpa [Predicate.at?, Predicate.children] using found
        exact ⟨below, (ih below).mpr ⟨comes, condition, found⟩, rfl⟩
      | tried decides => cases decides

theorem Predicate.outcome?_eq_none (predicate : Predicate α) (entity : α) :
    predicate.outcome? entity = none ↔ ∃ condition ∈ predicate.leaves, condition.matcher = none := by
  rw [Predicate.outcome?, ite_eq_right_iff]
  constructor
  · intro fails
    by_contra all
    push Not at all
    have matchable : predicate.isMatchable = true :=
      predicate.isMatchable_iff.mpr fun condition member =>
        Option.isSome_iff_ne_none.mpr (all condition member)
    cases fails matchable
  · rintro ⟨condition, member, lacks⟩ matchable
    have has := predicate.isMatchable_iff.mp matchable condition member
    rw [lacks] at has
    cases has

theorem Predicate.matches?_eq_none (predicate : Predicate α) (entity : α) :
    predicate.matches? entity = none ↔ predicate.outcome? entity = none := by
  rw [Predicate.matches?, Option.map_eq_none_iff]

theorem Predicate.outcome?_eq_some {predicate : Predicate α} {entity : α} {outcome : Outcome}
    (evaluated : predicate.outcome? entity = some outcome) :
    outcome = predicate.evaluate entity := by
  rw [Predicate.outcome?] at evaluated
  split at evaluated
  · exact (Option.some.inj evaluated).symm
  · cases evaluated

/-- A predicate can be evaluated exactly if no leaf lacks a matcher, and then it has the value that
    all its leaves give it. Every leaf is evaluated at most once, and exactly those are to which the
    children lead that are tried. -/
theorem Predicate.outcome?_tries (predicate : Predicate α) (entity : α) :
    (predicate.matches? entity = none ↔ ∃ condition ∈ predicate.leaves, condition.matcher = none) ∧
    (predicate.matches? entity = none ↔ predicate.outcome? entity = none) ∧
    (∀ outcome, predicate.outcome? entity = some outcome →
      predicate.matches? entity = some (predicate.value entity) ∧ outcome.trace.Nodup ∧
      ∀ path, path ∈ outcome.trace ↔ EvaluatesLeaf entity predicate path) ∧
    (∀ (node : Predicate α) decisive, node.decisive? = some decisive →
      ∃ tried left, Tries entity decisive node.children tried left ∧
        (∀ other rest, Tries entity decisive node.children other rest → other = tried) ∧
        (node.evaluate entity).trace = joinTraces entity tried) := by
  refine ⟨?_, predicate.matches?_eq_none entity, ?_, ?_⟩
  · rw [Predicate.matches?_eq_none, Predicate.outcome?_eq_none]
  · intro outcome evaluated
    obtain rfl := Predicate.outcome?_eq_some evaluated
    refine ⟨?_, predicate.trace_nodup entity, predicate.mem_trace entity⟩
    rw [Predicate.matches?, evaluated, Option.map_some, Predicate.evaluate_value]
  · intro node decisive decides
    obtain ⟨tried, left, tries, trace⟩ := Predicate.evaluate_tries entity decides
    exact ⟨tried, left, tries, fun other rest triesToo => triesToo.unique tries, trace⟩

/-- A leaf that costs something and is true of everything or of nothing. -/
def pricedLeaf (cost : UInt32) (truth : Bool) : Predicate Unit :=
  .leaf ⟨"length", .equals, "1", some ⟨"length", fun _ => truth, cost⟩⟩

/-- A conjunction that its cheap child refutes does not evaluate its dear child. -/
theorem Predicate.outcome?_tries_cheap :
    let refuted := Predicate.and [pricedLeaf 50 true, .not (.or [pricedLeaf 1 true])]
    refuted.outcome? () = some ⟨false, [[1, 0, 0]]⟩ ∧ refuted.matches? () = some false ∧
      EvaluatesLeaf () refuted [1, 0, 0] ∧ ¬ EvaluatesLeaf () refuted [0] := by
  intro refuted
  have outcome : refuted.outcome? () = some ⟨false, [[1, 0, 0]]⟩ := by
    simp [refuted, pricedLeaf, Predicate.outcome?, Predicate.isMatchable, allMatchable,
      Predicate.evaluate, evaluateAll, byCost, Predicate.cost, addCosts, addCost, Leaf.cost,
      settle, Outcome.below, List.mergeSort, List.MergeSort.Internal.splitInTwo]
  obtain ⟨-, -, evaluated, -⟩ := Predicate.outcome?_tries refuted ()
  obtain ⟨found, -, leaves⟩ := evaluated _ outcome
  exact ⟨outcome, found, (leaves [1, 0, 0]).mp (by simp), fun dear => by
    simpa using (leaves [0]).mpr dear⟩

end KeyedIndex
