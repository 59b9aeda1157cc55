import KeyedIndex.Group.Schema
import KeyedIndex.Proofs.Query.Meaning
import KeyedIndex.Proofs.Text.Lowercase

/-!
Predicates on groups, evaluated with and without the index. Each leaf that can be evaluated on a
group at hand asks the values of its field for what its matcher asks the group for
(`GroupPredicate.Asks`), so a predicate that is built of such leaves and compiled matches the
document of a group exactly if it matches the group
(`GroupPredicate.Built.matches_document_iff`).
-/
namespace KeyedIndex

/-- A version is the first or the second one. -/
theorem GroupSchema.ofVersion_eq_ok {schema : Schema Group} {version : UInt32}
    (known : GroupSchema.ofVersion version = .ok schema) :
    schema = GroupSchema.first ∨ schema = GroupSchema.second := by
  unfold GroupSchema.ofVersion at known
  split at known
  · exact .inl (Except.ok.inj known).symm
  · split at known
    · exact .inr (Except.ok.inj known).symm
    · contradiction

namespace GroupPredicate

/-- Predicates that are built of leaves with matchers. -/
inductive Built : Predicate Group → Prop
  | any : Built .any
  | uuid (wanted : GroupUuid) : Built (uuid wanted)
  | id (wanted : Int32) : Built (id wanted)
  | name (wanted : String) : Built (name wanted)
  | namePart (wanted : String) : Built (namePart wanted)
  | owner (wanted : GroupUuid) : Built (owner wanted)
  | member (wanted : AccountId) : Built (member wanted)
  | subgroup (wanted : GroupUuid) : Built (subgroup wanted)
  | visibleToAll (wanted : Bool) : Built (visibleToAll wanted)
  | and {children : List (Predicate Group)} (each : ∀ child ∈ children, Built child) :
    Built (.and children)
  | or {children : List (Predicate Group)} (each : ∀ child ∈ children, Built child) :
    Built (.or children)
  | not {child : Predicate Group} (inner : Built child) : Built (.not child)

/-- A leaf with a matcher that finds out whether the values of its field meet its text. -/
inductive Asks : Leaf Group → Prop
  | matching {field : Field Group} {operator : Operator} {value : String} {test : Group → Bool}
    (inSecond : field ∈ GroupSchema.second.fields)
    (finds : ∀ group, field.Meets operator value group ↔ test group = true) :
    Asks ⟨field.name, operator, value, some ⟨field.name, test, usualCost⟩⟩

/-! ### Values and matchers -/

/-- A leaf on a field of whole texts asks for its text among those of the field. -/
theorem asks_exact (texts : Group → List String) {field : Field Group} {wanted : String}
    {test : Group → Bool} (inSecond : field ∈ GroupSchema.second.fields)
    (exact : field.kind = .exact) (values : ∀ group, field.values group = (texts group).map .text)
    (finds : ∀ group, test group = true ↔ wanted ∈ texts group) :
    Asks ⟨field.name, .equals, wanted, some ⟨field.name, test, usualCost⟩⟩ := by
  refine .matching inSecond fun group => ?_
  rw [finds]
  simp only [Field.Meets, exact, values, List.mem_map, FieldValue.text.injEq, exists_eq_right]

theorem meets_id (wanted : Int32) (group : Group) :
    GroupSchema.id.Meets .equals (Number.decimal wanted.toInt) group ↔
      Number.decimal group.id.toInt = Number.decimal wanted.toInt := by
  have lower := wanted.le_toInt
  have upper := wanted.toInt_lt
  have read : Number.int64.read? (Number.decimal wanted.toInt) = some wanted.toInt :=
    Number.Interval.read?_decimal (Number.Interval.has_iff.mpr (by
      simp only [Number.int64]
      omega))
  have values : GroupSchema.id.values group = [.number group.id.toInt64] := rfl
  have kind : GroupSchema.id.kind = .integer := rfl
  simp only [Field.Meets, kind, values, read, List.mem_singleton, FieldValue.number.injEq,
    exists_eq_left, Option.some.injEq, Int32.toInt_toInt64]
  constructor
  · intro same
    rw [same]
  · intro same
    exact (Number.decimal_injective same).symm

/-- The text of the leaf is in small letters, which the compiler leaves as they are. -/
theorem meets_namePart (wanted : String) (group : Group) :
    GroupSchema.namePart.Meets .startsWith (Text.lower wanted) group ↔
      ∃ part ∈ group.nameParts, (Text.lower wanted).toList <+: part.toList := by
  have values : GroupSchema.namePart.values group = group.nameParts.map .text := rfl
  have kind : GroupSchema.namePart.kind = .prefixed := rfl
  simp only [Field.Meets, kind, values, Text.lower_lower, List.mem_map, FieldValue.text.injEq,
    exists_eq_right]

/-! ### Leaves -/

theorem mem_secondFields {field : Field Group}
    (member : field ∈ [GroupSchema.uuid, GroupSchema.id, GroupSchema.name, GroupSchema.namePart,
      GroupSchema.owner, GroupSchema.member, GroupSchema.subgroup, GroupSchema.visibleToAll]) :
    field ∈ GroupSchema.second.fields := by
  simp only [List.mem_cons, List.not_mem_nil, or_false] at member
  rcases member with rfl | rfl | rfl | rfl | rfl | rfl | rfl | rfl <;>
    simp [GroupSchema.second, GroupSchema.firstFields]

/-- All leaves of a predicate that is built of leaves with matchers ask for what these find. -/
theorem Built.asks {predicate : Predicate Group} (built : Built predicate) :
    ∀ condition ∈ predicate.leaves, Asks condition := by
  have only {condition : Leaf Group} (asks : Asks condition) :
      ∀ other ∈ (Predicate.leaf condition).leaves, Asks other := by
    simpa [Predicate.leaves] using asks
  induction built with
  | any => simp [Predicate.leaves]
  | uuid wanted =>
    refine only (asks_exact (fun group => [group.uuid.text]) (mem_secondFields (by simp)) rfl
      (fun _ => rfl) fun group => ?_)
    simp [eq_comm]
  | id wanted =>
    refine only (.matching (mem_secondFields (by simp)) fun group => ?_)
    rw [meets_id, decide_eq_true_eq]
  | name wanted =>
    refine only (asks_exact (fun group => [group.name]) (mem_secondFields (by simp)) rfl
      (fun _ => rfl) fun group => ?_)
    simp [eq_comm]
  | namePart wanted =>
    refine only (.matching (mem_secondFields (by simp)) fun group => ?_)
    rw [meets_namePart]
    simp
  | owner wanted =>
    refine only (asks_exact (fun group => [group.owner.text]) (mem_secondFields (by simp)) rfl
      (fun _ => rfl) fun group => ?_)
    simp [eq_comm]
  | member wanted =>
    refine only (asks_exact (fun group => group.members.map AccountId.text)
      (mem_secondFields (by simp)) rfl (fun _ => List.map_map.symm) fun group => ?_)
    simp
  | subgroup wanted =>
    refine only (asks_exact (fun group => group.subgroups.map GroupUuid.text)
      (mem_secondFields (by simp)) rfl (fun _ => List.map_map.symm) fun group => ?_)
    simp
  | visibleToAll wanted =>
    refine only (asks_exact (fun group => [GroupSchema.flag group.visibleToAll])
      (mem_secondFields (by simp)) rfl (fun _ => rfl) fun group => ?_)
    simp [eq_comm]
  | and each ih =>
    intro condition inside
    rw [Predicate.leaves_and] at inside
    obtain ⟨child, childIn, below⟩ := List.mem_flatMap.mp inside
    exact ih child childIn condition below
  | or each ih =>
    intro condition inside
    rw [Predicate.leaves_or] at inside
    obtain ⟨child, childIn, below⟩ := List.mem_flatMap.mp inside
    exact ih child childIn condition below
  | not inner ih => exact ih

/-! ### Documents -/

/-- The schema of a version has some of the fields of the second one. -/
theorem fields_subset {schema : Schema Group} {version : UInt32}
    (known : GroupSchema.ofVersion version = .ok schema) :
    schema.fields ⊆ GroupSchema.second.fields := by
  rcases GroupSchema.ofVersion_eq_ok known with rfl | rfl
  · exact List.subset_append_left _ _
  · exact List.Subset.refl _

variable {schema : Schema Group} (subset : schema.fields ⊆ GroupSchema.second.fields)
include subset

theorem Asks.meets_iff {condition : Leaf Group} (asks : Asks condition) {query : Query}
    (compiled : schema.bound.leafQuery condition = .ok query) (group : Group) :
    schema.Meets group condition ↔ condition.Matches group := by
  obtain ⟨inSecond, finds⟩ := asks
  rename_i field operator value test
  obtain ⟨own, member, named, _⟩ := leafQuery_eq_ok compiled
  obtain rfl := GroupSchema.second.eq_of_name (subset member) inSecond named
  rw [Schema.meets_iff member rfl, finds]
  simp [Leaf.Matches]

/-- The query of a predicate matches the document of a group exactly if the predicate matches the
    group. -/
theorem Built.matches_document_iff {predicate : Predicate Group} (built : Built predicate)
    {query : Query} (compiled : schema.bound.compile predicate = .ok query) {group : Group}
    (bounded : schema.Bounded group) :
    query.matches (schema.layout.terms (schema.bound.document group)) = true ↔
      predicate.matches? group = some true := by
  have matchable : predicate.isMatchable = true := by
    rw [Predicate.isMatchable_iff]
    intro condition member
    obtain ⟨_, _⟩ := built.asks condition member
    rfl
  rw [schema.compile_meaning compiled bounded, Predicate.matches?_eq_some_true matchable]
  refine predicate.holds_congr fun condition member => ?_
  obtain ⟨leafQuery, leafCompiled⟩ := Binding.leafQuery_of_compile compiled member
  exact (built.asks condition member).meets_iff subset leafCompiled group

end GroupPredicate

end KeyedIndex
