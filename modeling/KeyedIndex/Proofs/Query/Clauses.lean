import KeyedIndex.Proofs.Predicate.Truth
import KeyedIndex.Proofs.Success
import KeyedIndex.Query.Compiler
import KeyedIndex.Query.Basic
import Mathlib.Data.List.Forall2

/-!
Clauses of compiled predicates. A combination matches if all clauses that must hold do, none
that must not, and one that should if there is none that must (`Query.matches_combine`).
The compiler gives the children of a node clauses with which the native query means what
the node means, if the queries of the leaves mean what the leaves mean
(`Binding.compile_matches`).
-/
namespace KeyedIndex

variable {α : Type} {binding : Binding α} {terms : List Term}

/-! ### Combinations -/

theorem clauseValues_eq_map (clauses : List (Occur × Query)) :
    clauseValues terms clauses = clauses.map (fun clause => (clause.1, clause.2.matches terms)) := by
  induction clauses with
  | nil => simp [clauseValues]
  | cons clause rest ih => simp [clauseValues, ih]

theorem all_occur_iff (clauses : List (Occur × Query)) (occur : Occur) (truth : Bool) :
    ((clauseValues terms clauses).all
        (fun clause => clause.1 ≠ occur || clause.2 = truth)) = true ↔
      ∀ query, (occur, query) ∈ clauses → query.matches terms = truth := by
  simp only [clauseValues_eq_map, List.all_map, List.all_eq_true, Function.comp_apply,
    Bool.or_eq_true, decide_eq_true_eq, Prod.forall]
  constructor
  · intro each query member
    exact (each occur query member).resolve_left (by simp)
  · intro each other query member
    by_cases same : other = occur
    · exact .inr (each query (same ▸ member))
    · exact .inl same

/-- When a combination of clauses matches. -/
theorem Query.matches_combine (clauses : List (Occur × Query)) :
    (Query.combine clauses).matches terms = true ↔
      (∀ query, (.must, query) ∈ clauses → query.matches terms = true) ∧
      (∀ query, (.mustNot, query) ∈ clauses → query.matches terms = false) ∧
      ((∃ query, (.must, query) ∈ clauses) ∨
        ∃ query, (.should, query) ∈ clauses ∧ query.matches terms = true) := by
  have must : ((clauseValues terms clauses).any (fun clause => clause.1 = .must)) = true ↔
      ∃ query, (.must, query) ∈ clauses := by
    simp [clauseValues_eq_map]
  have should : ((clauseValues terms clauses).any
      (fun clause => clause.1 = .should && clause.2)) = true ↔
      ∃ query, (.should, query) ∈ clauses ∧ query.matches terms = true := by
    simp [clauseValues_eq_map]
  simp only [Query.matches, clausesHold, Bool.and_eq_true, Bool.or_eq_true, all_occur_iff, must,
    should, and_assoc]

theorem Query.matches_complement (query : Query) :
    query.complement.matches terms = !query.matches terms := by
  rw [Bool.eq_iff_iff, Query.complement, Query.matches_combine]
  simp [Query.matches]

/-! ### Clauses of the children -/

/-- The clause of a child of a conjunction. -/
inductive Conjunct (binding : Binding α) : Predicate α → Occur × Query → Prop
  | positive {child query} (compiled : binding.compile child = .ok query) :
    Conjunct binding child (.must, query)
  | negated {inner query} (compiled : binding.compile inner = .ok query) :
    Conjunct binding (.not inner) (.mustNot, query)

/-- The clause of a child of a disjunction. -/
def Disjunct (binding : Binding α) (child : Predicate α) (clause : Occur × Query) : Prop :=
  clause.1 = .should ∧ binding.compile child = .ok clause.2

theorem compileConjuncts_eq_ok {children : List (Predicate α)} {clauses : List (Occur × Query)}
    (compiled : compileConjuncts binding children = .ok clauses) :
    List.Forall₂ (Conjunct binding) children clauses := by
  induction children generalizing clauses with
  | nil =>
    simp only [compileConjuncts] at compiled
    obtain rfl := Except.ok.inj compiled
    exact .nil
  | cons child rest ih =>
    unfold compileConjuncts at compiled
    split at compiled
    · contradiction
    · rename_i inner more same
      obtain ⟨rfl, rfl⟩ := List.cons.inj same
      obtain ⟨query, first, compiled⟩ := bind_eq_ok.mp compiled
      obtain ⟨others, later, made⟩ := bind_eq_ok.mp compiled
      obtain rfl := Except.ok.inj made
      exact .cons (.negated first) (ih later)
    · rename_i other more _ same
      obtain ⟨rfl, rfl⟩ := List.cons.inj same
      obtain ⟨query, first, compiled⟩ := bind_eq_ok.mp compiled
      obtain ⟨others, later, made⟩ := bind_eq_ok.mp compiled
      obtain rfl := Except.ok.inj made
      exact .cons (.positive first) (ih later)

theorem compileDisjuncts_eq_ok {children : List (Predicate α)} {clauses : List (Occur × Query)}
    (compiled : compileDisjuncts binding children = .ok clauses) :
    List.Forall₂ (Disjunct binding) children clauses := by
  induction children generalizing clauses with
  | nil =>
    simp only [compileDisjuncts] at compiled
    obtain rfl := Except.ok.inj compiled
    exact .nil
  | cons child rest ih =>
    rw [compileDisjuncts] at compiled
    obtain ⟨query, first, compiled⟩ := bind_eq_ok.mp compiled
    obtain ⟨others, later, made⟩ := bind_eq_ok.mp compiled
    obtain rfl := Except.ok.inj made
    exact .cons ⟨rfl, first⟩ (ih later)

/-! ### Compiled predicates -/

variable {meets : Leaf α → Prop}

/-- Whether the queries of a predicate match the documents of which the predicate holds. -/
def Agrees (binding : Binding α) (terms : List Term) (meets : Leaf α → Prop)
    (predicate : Predicate α) : Prop :=
  ∀ query, binding.compile predicate = .ok query →
    (query.matches terms = true ↔ predicate.Holds meets)

/-- The clause of a child does its part in a conjunction. -/
theorem Conjunct.matches_iff {child : Predicate α} {clause : Occur × Query}
    (conjunct : Conjunct binding child clause) (agrees : Agrees binding terms meets child) :
    clause.2.matches terms = (clause.1 = .must : Bool) ↔ child.Holds meets := by
  cases conjunct with
  | positive compiled => simpa using agrees _ compiled
  | @negated inner query compiled =>
    have complement : binding.compile (.not inner) = .ok query.complement := by
      rw [Binding.compile, compiled]
      rfl
    simpa [Query.matches_complement] using agrees _ complement

theorem conjunction_matches_iff (clauses : List (Occur × Query)) :
    (conjunction clauses).matches terms = true ↔
      (∀ query, (.must, query) ∈ clauses → query.matches terms = true) ∧
      ∀ query, (.mustNot, query) ∈ clauses → query.matches terms = false := by
  unfold conjunction
  split
  · rename_i positive
    have present : ∃ query, (Occur.must, query) ∈ clauses := by simpa using positive
    simp [Query.matches_combine, present]
  · rw [Query.matches_combine]
    simp only [List.mem_append, List.mem_singleton, Prod.mk.injEq, reduceCtorEq, false_and,
      or_false, true_and]
    constructor
    · exact fun ⟨must, mustNot, _⟩ => ⟨fun query member => must query (.inl member), mustNot⟩
    · refine fun ⟨must, mustNot⟩ => ⟨?_, mustNot, .inl ⟨.everything, .inr rfl⟩⟩
      rintro query (member | rfl)
      · exact must query member
      · simp [Query.matches]

theorem Conjunct.occur {child : Predicate α} {clause : Occur × Query}
    (conjunct : Conjunct binding child clause) : clause.1 = .must ∨ clause.1 = .mustNot := by
  cases conjunct with
  | positive => exact .inl rfl
  | negated => exact .inr rfl

/-- A conjunction matches if each of its children holds. -/
theorem conjunction_matches {children : List (Predicate α)} {clauses : List (Occur × Query)}
    (conjuncts : List.Forall₂ (Conjunct binding) children clauses)
    (agree : ∀ child ∈ children, Agrees binding terms meets child) :
    (conjunction clauses).matches terms = true ↔ ∀ child ∈ children, child.Holds meets := by
  rw [conjunction_matches_iff]
  induction conjuncts with
  | nil => simp
  | @cons child clause children clauses conjunct rest ih =>
    obtain ⟨here, later⟩ := List.forall_mem_cons.mp agree
    rw [List.forall_mem_cons, ← ih later, ← conjunct.matches_iff here]
    obtain ⟨occur, query⟩ := clause
    rcases conjunct.occur with rfl | rfl
    · simp [or_imp, forall_and, and_assoc]
    · simp [or_imp, forall_and, and_left_comm]

/-- A disjunction matches if one of its children holds. -/
theorem disjunction_matches {children : List (Predicate α)} {clauses : List (Occur × Query)}
    (disjuncts : List.Forall₂ (Disjunct binding) children clauses)
    (agree : ∀ child ∈ children, Agrees binding terms meets child) :
    (Query.combine clauses).matches terms = true ↔ ∃ child ∈ children, child.Holds meets := by
  have should : ∀ clause ∈ clauses, clause.1 = .should := by
    clear agree
    induction disjuncts with
    | nil => simp
    | cons disjunct rest ih => exact List.forall_mem_cons.mpr ⟨disjunct.1, ih⟩
  have only (occur : Occur) (other : occur ≠ .should) (query : Query) :
      (occur, query) ∉ clauses := fun member => other (should _ member)
  rw [Query.matches_combine]
  simp only [only .must (by decide), only .mustNot (by decide), false_implies, implies_true,
    exists_false, false_or, true_and]
  clear only should
  induction disjuncts with
  | nil => simp
  | @cons child clause children clauses disjunct rest ih =>
    obtain ⟨here, later⟩ := List.forall_mem_cons.mp agree
    obtain ⟨occur, query⟩ := clause
    obtain ⟨rfl, compiled⟩ := disjunct
    rw [List.exists_mem_cons_iff]
    refine Iff.trans ?_ (or_congr (here query compiled) (ih later))
    simp [or_and_right, exists_or]

/-- If the queries of the leaves mean what the leaves mean, so does every compiled query. -/
theorem Binding.compile_matches
    (leaves : ∀ condition query, binding.leafQuery condition = .ok query →
      (query.matches terms = true ↔ meets condition)) (predicate : Predicate α) :
    Agrees binding terms meets predicate := by
  induction predicate using Predicate.induct with
  | any =>
    intro query compiled
    simp only [Binding.compile] at compiled
    obtain rfl := Except.ok.inj compiled
    exact iff_of_true rfl trivial
  | leaf condition =>
    intro query compiled
    rw [Predicate.holds_leaf]
    exact leaves condition query (by simpa [Binding.compile] using compiled)
  | and children ih =>
    intro query compiled
    rw [Predicate.holds_and]
    match children with
    | [] =>
      simp only [Binding.compile] at compiled
      obtain rfl := Except.ok.inj compiled
      simp [Query.matches]
    | [only] =>
      rw [Binding.compile] at compiled
      simpa using ih only List.mem_cons_self query compiled
    | first :: second :: rest =>
      simp only [Binding.compile] at compiled
      obtain ⟨clauses, conjuncts, rfl⟩ := map_eq_ok.mp compiled
      exact conjunction_matches (compileConjuncts_eq_ok conjuncts) ih
  | or children ih =>
    intro query compiled
    rw [Predicate.holds_or]
    match children with
    | [] =>
      simp only [Binding.compile] at compiled
      obtain rfl := Except.ok.inj compiled
      simp [Query.matches]
    | [only] =>
      rw [Binding.compile] at compiled
      simpa using ih only List.mem_cons_self query compiled
    | first :: second :: rest =>
      simp only [Binding.compile] at compiled
      obtain ⟨clauses, disjuncts, rfl⟩ := map_eq_ok.mp compiled
      exact disjunction_matches (compileDisjuncts_eq_ok disjuncts) ih
  | not child ih =>
    intro query compiled
    rw [Binding.compile] at compiled
    obtain ⟨inner, compiledInner, rfl⟩ := map_eq_ok.mp compiled
    rw [Predicate.holds_not, ← ih inner compiledInner, Query.matches_complement]
    simp

/-! ### Compiled leaves -/

theorem Conjunct.compile {child : Predicate α} {clause : Occur × Query}
    (conjunct : Conjunct binding child clause) : ∃ query, binding.compile child = .ok query := by
  cases conjunct with
  | positive compiled => exact ⟨_, compiled⟩
  | @negated inner query compiled =>
    rw [Binding.compile, compiled]
    exact ⟨query.complement, rfl⟩

theorem Disjunct.compile {child : Predicate α} {clause : Occur × Query}
    (disjunct : Disjunct binding child clause) : ∃ query, binding.compile child = .ok query :=
  ⟨clause.2, disjunct.2⟩

/-- The children of what compiles compile. -/
theorem Binding.compile_child {parent child : Predicate α} {query : Query}
    (compiled : binding.compile parent = .ok query) (member : child ∈ parent.children) :
    ∃ query, binding.compile child = .ok query := by
  match parent, compiled, member with
  | .and [only], compiled, member =>
    obtain rfl := List.mem_singleton.mp member
    exact ⟨query, by rwa [Binding.compile] at compiled⟩
  | .and (first :: second :: rest), compiled, member =>
    simp only [Binding.compile] at compiled
    obtain ⟨clauses, conjuncts, rfl⟩ := map_eq_ok.mp compiled
    have both := (compileConjuncts_eq_ok conjuncts).imp fun _ _ conjunct =>
      And.intro conjunct.compile conjunct
    exact ((List.forall₂_and_left _ _).mp both).1 child member
  | .or [only], compiled, member =>
    obtain rfl := List.mem_singleton.mp member
    exact ⟨query, by rwa [Binding.compile] at compiled⟩
  | .or (first :: second :: rest), compiled, member =>
    simp only [Binding.compile] at compiled
    obtain ⟨clauses, disjuncts, rfl⟩ := map_eq_ok.mp compiled
    have both := (compileDisjuncts_eq_ok disjuncts).imp fun _ _ disjunct =>
      And.intro disjunct.compile disjunct
    exact ((List.forall₂_and_left _ _).mp both).1 child member
  | .not inner, compiled, member =>
    obtain rfl := List.mem_singleton.mp member
    rw [Binding.compile] at compiled
    obtain ⟨below, compiledBelow, _⟩ := map_eq_ok.mp compiled
    exact ⟨below, compiledBelow⟩

/-- All leaves of what compiles compile. -/
theorem Binding.leafQuery_of_compile {predicate : Predicate α} {query : Query}
    (compiled : binding.compile predicate = .ok query) {condition : Leaf α}
    (member : condition ∈ predicate.leaves) : ∃ query, binding.leafQuery condition = .ok query := by
  induction predicate using Predicate.induct generalizing query with
  | any => simp [Predicate.leaves] at member
  | leaf only =>
    obtain rfl : condition = only := by simpa [Predicate.leaves] using member
    exact ⟨query, by simpa [Binding.compile] using compiled⟩
  | and children ih =>
    obtain ⟨child, childIn, inside⟩ := List.mem_flatMap.mp (Predicate.leaves_and children ▸ member)
    obtain ⟨childQuery, childCompiled⟩ := Binding.compile_child compiled childIn
    exact ih child childIn childCompiled inside
  | or children ih =>
    obtain ⟨child, childIn, inside⟩ := List.mem_flatMap.mp (Predicate.leaves_or children ▸ member)
    obtain ⟨childQuery, childCompiled⟩ := Binding.compile_child compiled childIn
    exact ih child childIn childCompiled inside
  | not child ih =>
    obtain ⟨childQuery, childCompiled⟩ := Binding.compile_child compiled List.mem_cons_self
    exact ih childCompiled (by simpa [Predicate.leaves] using member)

end KeyedIndex
