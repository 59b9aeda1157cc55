import KeyedIndex.Predicate.Basic
import Mathlib.Data.List.Sort

/-!
What a predicate means. Given which leaves hold, a conjunction holds if all its children do,
a disjunction if some child does, and a negation if its child does not
(`Predicate.Holds`). The evaluation on an entity at hand, which tries the cheapest children
first and stops early, finds this truth value (`Predicate.evaluate_holds`).
-/
namespace KeyedIndex

variable {α : Type}

/-- Predicates are built from their children. -/
theorem Predicate.induct {motive : Predicate α → Prop} (any : motive .any)
    (leaf : ∀ condition, motive (.leaf condition))
    (and : ∀ children, (∀ child ∈ children, motive child) → motive (.and children))
    (or : ∀ children, (∀ child ∈ children, motive child) → motive (.or children))
    (not : ∀ child, motive child → motive (.not child)) (predicate : Predicate α) :
    motive predicate :=
  Predicate.rec any leaf and or not (by simp)
    (fun _ _ first rest => List.forall_mem_cons.mpr ⟨first, rest⟩) predicate

mutual
/-- Whether a predicate holds, given which leaves do. -/
def Predicate.Holds (meets : Leaf α → Prop) : Predicate α → Prop
  | .any => True
  | .leaf condition => meets condition
  | .and children => AllHold meets children
  | .or children => SomeHolds meets children
  | .not child => ¬ child.Holds meets

def AllHold (meets : Leaf α → Prop) : List (Predicate α) → Prop
  | [] => True
  | child :: rest => child.Holds meets ∧ AllHold meets rest

def SomeHolds (meets : Leaf α → Prop) : List (Predicate α) → Prop
  | [] => False
  | child :: rest => child.Holds meets ∨ SomeHolds meets rest
end

mutual
/-- The leaves of a predicate from left to right. -/
def Predicate.leaves : Predicate α → List (Leaf α)
  | .any => []
  | .leaf condition => [condition]
  | .and children | .or children => allLeaves children
  | .not child => child.leaves

def allLeaves : List (Predicate α) → List (Leaf α)
  | [] => []
  | child :: rest => child.leaves ++ allLeaves rest
end

variable {meets : Leaf α → Prop} {children : List (Predicate α)}

theorem allHold_iff : AllHold meets children ↔ ∀ child ∈ children, child.Holds meets := by
  induction children with
  | nil => simp [AllHold]
  | cons child rest ih => simp [AllHold, ih]

theorem someHolds_iff : SomeHolds meets children ↔ ∃ child ∈ children, child.Holds meets := by
  induction children with
  | nil => simp [SomeHolds]
  | cons child rest ih => simp [SomeHolds, ih]

@[simp]
theorem Predicate.holds_leaf (condition : Leaf α) :
    (Predicate.leaf condition).Holds meets ↔ meets condition := by simp [Predicate.Holds]

@[simp]
theorem Predicate.holds_and :
    (Predicate.and children).Holds meets ↔ ∀ child ∈ children, child.Holds meets := by
  simp [Predicate.Holds, allHold_iff]

@[simp]
theorem Predicate.holds_or :
    (Predicate.or children).Holds meets ↔ ∃ child ∈ children, child.Holds meets := by
  simp [Predicate.Holds, someHolds_iff]

@[simp]
theorem Predicate.holds_not (child : Predicate α) :
    (Predicate.not child).Holds meets ↔ ¬ child.Holds meets := by simp [Predicate.Holds]

/-! ### Leaves -/

theorem allLeaves_eq_flatMap : allLeaves children = children.flatMap Predicate.leaves := by
  induction children with
  | nil => rfl
  | cons child rest ih => simp [allLeaves, ih]

@[simp]
theorem Predicate.leaves_and (children : List (Predicate α)) :
    (Predicate.and children).leaves = children.flatMap Predicate.leaves := by
  simp [Predicate.leaves, allLeaves_eq_flatMap]

@[simp]
theorem Predicate.leaves_or (children : List (Predicate α)) :
    (Predicate.or children).leaves = children.flatMap Predicate.leaves := by
  simp [Predicate.leaves, allLeaves_eq_flatMap]

/-- The truth of a predicate depends on its own leaves only. -/
theorem Predicate.holds_congr {first second : Leaf α → Prop} (predicate : Predicate α)
    (same : ∀ condition ∈ predicate.leaves, first condition ↔ second condition) :
    predicate.Holds first ↔ predicate.Holds second := by
  induction predicate using Predicate.induct with
  | any => exact Iff.rfl
  | leaf condition => simpa using same condition (by simp [Predicate.leaves])
  | and children ih =>
    have each : ∀ child ∈ children, child.Holds first ↔ child.Holds second :=
      fun child member => ih child member fun condition inside =>
        same condition (by simpa using ⟨child, member, inside⟩)
    simp only [Predicate.holds_and]
    exact forall₂_congr each
  | or children ih =>
    have each : ∀ child ∈ children, child.Holds first ↔ child.Holds second :=
      fun child member => ih child member fun condition inside =>
        same condition (by simpa using ⟨child, member, inside⟩)
    simp only [Predicate.holds_or]
    exact exists_congr fun child => and_congr_right (each child)
  | not child ih =>
    simp only [Predicate.holds_not]
    exact not_congr (ih same)

/-! ### Evaluation -/

/-- A matcher decides a leaf. -/
def Leaf.Matches (entity : α) (condition : Leaf α) : Prop :=
  ∃ matcher ∈ condition.matcher, matcher.test entity

theorem settle_holds (decisive : Bool) (outcomes : List Outcome) :
    (settle decisive outcomes).holds = decisive ↔
      ∃ outcome ∈ outcomes, outcome.holds = decisive := by
  fun_induction settle decisive outcomes with
  | case1 => simp
  | case2 first rest decides => simp [decides]
  | case3 first rest undecided later ih => simp [undecided, later, ih]

theorem mem_byCost {outcomes : List (UInt32 × Outcome)} {outcome : Outcome} :
    outcome ∈ byCost outcomes ↔ ∃ cost, (cost, outcome) ∈ outcomes := by
  simp [byCost]

theorem exists_evaluateAll (entity : α) (truth : Bool) (position : Nat)
    (children : List (Predicate α)) :
    (∃ entry ∈ evaluateAll entity position children, entry.2.holds = truth) ↔
      ∃ child ∈ children, (child.evaluate entity).holds = truth := by
  induction children generalizing position with
  | nil => simp [evaluateAll]
  | cons child rest ih => simp [evaluateAll, Outcome.below, ih]

/-- A node has the decisive value if one of its children has, whatever their costs are. -/
theorem settle_byCost (entity : α) (decisive : Bool) (children : List (Predicate α)) :
    (settle decisive (byCost (evaluateAll entity 0 children))).holds = decisive ↔
      ∃ child ∈ children, (child.evaluate entity).holds = decisive := by
  rw [settle_holds, ← exists_evaluateAll entity decisive 0 children]
  constructor
  · rintro ⟨outcome, outcomeIn, decides⟩
    obtain ⟨cost, entryIn⟩ := mem_byCost.mp outcomeIn
    exact ⟨(cost, outcome), entryIn, decides⟩
  · rintro ⟨⟨cost, outcome⟩, entryIn, decides⟩
    exact ⟨outcome, mem_byCost.mpr ⟨cost, entryIn⟩, decides⟩

/-- The evaluation of a predicate finds its truth value. -/
theorem Predicate.evaluate_holds (entity : α) (predicate : Predicate α) :
    (predicate.evaluate entity).holds = true ↔ predicate.Holds (Leaf.Matches entity) := by
  induction predicate using Predicate.induct with
  | any => simp [Predicate.evaluate, Predicate.Holds]
  | leaf condition =>
    cases matcher : condition.matcher <;> simp [Predicate.evaluate, Leaf.Matches, matcher]
  | and children ih =>
    have refuted := settle_byCost entity false children
    rw [Predicate.holds_and, Predicate.evaluate, ← not_iff_not, Bool.not_eq_true, refuted]
    push Not
    exact exists_congr fun child => and_congr_right fun member => by
      rw [← ih child member, Bool.not_eq_true]
  | or children ih =>
    rw [Predicate.holds_or, Predicate.evaluate, settle_byCost entity true children]
    exact exists_congr fun child => and_congr_right (ih child)
  | not child ih => simp [Predicate.evaluate, ← ih]

/-! ### Predicates that can be evaluated -/

theorem allMatchable_iff :
    allMatchable children = true ↔ ∀ child ∈ children, child.isMatchable = true := by
  induction children with
  | nil => simp [allMatchable]
  | cons child rest ih => simp [allMatchable, ih]

/-- A predicate can be evaluated on an entity at hand if all its leaves can. -/
theorem Predicate.isMatchable_iff (predicate : Predicate α) :
    predicate.isMatchable = true ↔
      ∀ condition ∈ predicate.leaves, condition.matcher.isSome = true := by
  induction predicate using Predicate.induct with
  | any => simp [Predicate.isMatchable, Predicate.leaves]
  | leaf condition => simp [Predicate.isMatchable, Predicate.leaves]
  | and children ih =>
    rw [Predicate.isMatchable, allMatchable_iff, Predicate.leaves_and, List.forall_mem_flatMap]
    exact forall₂_congr ih
  | or children ih =>
    rw [Predicate.isMatchable, allMatchable_iff, Predicate.leaves_or, List.forall_mem_flatMap]
    exact forall₂_congr ih
  | not child ih => simpa [Predicate.isMatchable, Predicate.leaves] using ih

/-- What can be evaluated is found to hold exactly if it holds. -/
theorem Predicate.matches?_eq_some_true {predicate : Predicate α}
    (matchable : predicate.isMatchable = true) (entity : α) :
    predicate.matches? entity = some true ↔ predicate.Holds (Leaf.Matches entity) := by
  rw [Predicate.matches?, Predicate.outcome?, if_pos matchable, Option.map_some, Option.some.injEq]
  exact predicate.evaluate_holds entity

end KeyedIndex
