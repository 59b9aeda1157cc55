/-!
Predicates: their leaves and nodes, their costs, their evaluation on an entity, and their texts.

In the source, `Matchable` (`Matcher`), `OperatorPredicate` (`Leaf`), `Predicate` with `cost`,
`is_matchable`, `matches` and `eval` (`Predicate.matches?`, `Predicate.evaluate`) and `by_cost`
(`byCost`).
-/
namespace KeyedIndex

/-! ### Trees

A predicate is a tree of conditions on the fields of an entity. A leaf compares the values
of one field with a text; it may come with a matcher, which evaluates it on an entity
at hand, at a cost.
-/

section

inductive Operator where
  /-- The value equals the text. -/
  | equals
  /-- The value starts with the text. -/
  | startsWith
  /-- The value has all words of the text. -/
  | contains
deriving DecidableEq, Repr

def Operator.symbol : Operator → String
  | .equals => "="
  | .startsWith => "prefix"
  | .contains => "contains"

/-- The evaluation of a leaf on an entity, its cost, and a label to report it by. -/
structure Matcher (α : Type) where
  label : String
  test : α → Bool
  cost : UInt32

/-- The cost of a matcher that states none. -/
def usualCost : UInt32 := 1

structure Leaf (α : Type) where
  field : String
  operator : Operator
  value : String
  matcher : Option (Matcher α)

inductive Predicate (α : Type) where
  /-- True of every entity. -/
  | any
  | leaf (condition : Leaf α)
  | and (children : List (Predicate α))
  | or (children : List (Predicate α))
  | not (child : Predicate α)

variable {α : Type}

/-- A leaf that cannot be evaluated on an entity at hand. -/
def Predicate.onField (field : String) (operator : Operator) (value : String) : Predicate α :=
  .leaf ⟨field, operator, value, none⟩

/-- The direct children of a node. -/
def Predicate.children : Predicate α → List (Predicate α)
  | .and children | .or children => children
  | .not child => [child]
  | .any | .leaf _ => []

/-- The matcher of a leaf. -/
def Predicate.matcher? : Predicate α → Option (Matcher α)
  | .leaf condition => condition.matcher
  | _ => none

/-- The leaf that a predicate consists of. -/
def Predicate.leaf? : Predicate α → Option (Leaf α)
  | .leaf condition => some condition
  | _ => none

mutual
/-- Whether all leaves have matchers. -/
def Predicate.isMatchable : Predicate α → Bool
  | .any => true
  | .leaf condition => condition.matcher.isSome
  | .and children | .or children => allMatchable children
  | .not child => child.isMatchable

def allMatchable : List (Predicate α) → Bool
  | [] => true
  | child :: rest => child.isMatchable && allMatchable rest
end

/-! ### Costs -/

/-- The sum of two costs, or the greatest cost there is. -/
def addCost (left right : UInt32) : UInt32 :=
  UInt32.ofNat (min (left.toNat + right.toNat) (UInt32.size - 1))

def Leaf.cost (leaf : Leaf α) : UInt32 :=
  match leaf.matcher with
  | some matcher => matcher.cost
  | none => usualCost

mutual
/-- The cost of a predicate: the sum of the costs of its leaves as far as a cost can tell. -/
def Predicate.cost : Predicate α → UInt32
  | .any => 0
  | .leaf condition => condition.cost
  | .and children | .or children => addCosts 0 children
  | .not child => addCost 0 child.cost

/-- Add the costs of predicates to a cost. -/
def addCosts (sum : UInt32) : List (Predicate α) → UInt32
  | [] => sum
  | child :: rest => addCosts (addCost sum child.cost) rest
end

/-! ### Places in a tree -/

/-- A place in a tree: which child to take at each node on the way. -/
abbrev Path := List Nat

/-- The predicate at a place. -/
def Predicate.at? : Path → Predicate α → Option (Predicate α)
  | [], predicate => some predicate
  | step :: path, predicate => do at? path (← predicate.children[step]?)

end

/-! ### Evaluation

Evaluation of predicates on an entity at hand. The children of a node are tried in the
order of their costs, those of equal cost as they stand, until one decides the node.
An outcome has, besides the truth value, the leaves that were evaluated to find it.
-/

section

/-- A truth value, and the places of the leaves that were evaluated, in order. -/
structure Outcome where
  holds : Bool
  trace : List Path
deriving DecidableEq

/-- An outcome seen from the parent, of which it is the child at a position. -/
def Outcome.below (position : Nat) (outcome : Outcome) : Outcome :=
  ⟨outcome.holds, outcome.trace.map (position :: ·)⟩

/-- The outcome of a node whose children have outcomes in the order in which they are
    tried: the first child with the value `decisive` decides, else the value is the other. -/
def settle (decisive : Bool) : List Outcome → Outcome
  | [] => ⟨!decisive, []⟩
  | first :: rest =>
    if first.holds = decisive then first
    else
      let later := settle decisive rest
      ⟨later.holds, first.trace ++ later.trace⟩

/-- Outcomes in the order of the costs beside them. -/
def byCost (outcomes : List (UInt32 × Outcome)) : List Outcome :=
  (outcomes.mergeSort (fun left right => left.1 ≤ right.1)).map Prod.snd

variable {α : Type}

mutual
def Predicate.evaluate (entity : α) : Predicate α → Outcome
  | .any => ⟨true, []⟩
  | .leaf condition => ⟨condition.matcher.any (fun matcher => matcher.test entity), [[]]⟩
  | .and children => settle false (byCost (evaluateAll entity 0 children))
  | .or children => settle true (byCost (evaluateAll entity 0 children))
  | .not child =>
    let inner := child.evaluate entity
    ⟨!inner.holds, (inner.below 0).trace⟩

/-- The costs and outcomes of the children from a position on. -/
def evaluateAll (entity : α) (position : Nat) : List (Predicate α) → List (UInt32 × Outcome)
  | [] => []
  | child :: rest =>
    (child.cost, (child.evaluate entity).below position)
      :: evaluateAll entity (position + 1) rest
end

/-- The outcome on an entity, or none if some leaf cannot be evaluated. -/
def Predicate.outcome? (predicate : Predicate α) (entity : α) : Option Outcome :=
  if predicate.isMatchable then some (predicate.evaluate entity) else none

/-- Whether an entity satisfies a predicate, or none if some leaf cannot be evaluated. -/
def Predicate.matches? (predicate : Predicate α) (entity : α) : Option Bool :=
  (predicate.outcome? entity).map Outcome.holds

end

/-! ### Texts

Predicates as texts.
-/

variable {α : Type}

def Leaf.display (leaf : Leaf α) : String :=
  match leaf.operator with
  | .equals => leaf.field ++ ":" ++ leaf.value
  | operator => leaf.field ++ ":" ++ operator.symbol ++ "(" ++ leaf.value ++ ")"

mutual
/-- A star for any entity, a name before the children of a node, and a dash for a negation. -/
def Predicate.display : Predicate α → String
  | .any => "*"
  | .leaf condition => condition.display
  | .and children => "AND(" ++ ",".intercalate (displayAll children) ++ ")"
  | .or children => "OR(" ++ ",".intercalate (displayAll children) ++ ")"
  | .not child => "-" ++ child.display

def displayAll : List (Predicate α) → List String
  | [] => []
  | child :: rest => child.display :: displayAll rest
end

/-- The text of a predicate for whoever looks for a fault. -/
def Predicate.describe (predicate : Predicate α) : String :=
  "Predicate(" ++ predicate.display ++ ")"

end KeyedIndex
