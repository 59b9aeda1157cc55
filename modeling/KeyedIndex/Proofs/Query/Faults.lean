import KeyedIndex.Group.Schema
import KeyedIndex.Index.Basic
import KeyedIndex.Proofs.Predicate.Truth
import KeyedIndex.Proofs.Schema.Columns
import KeyedIndex.Proofs.Success

/-!
Predicates that are refused. A leaf is valid if its field exists, has the operator and can read the
value (`Binding.Valid`), else it is refused with one fault (`Binding.Refuses`). A predicate is
compiled if all its leaves are valid, else it has the fault of the first leaf that is not, wherever
it stands; every read then fails with that fault, whatever the index holds
(`Binding.compile_faults`).
-/
namespace KeyedIndex

variable {α κ : Type}

/-! ### Valid leaves -/

/-- The operators that the fields of a kind support. -/
def FieldKind.supports : FieldKind → Operator → Bool
  | .exact, .equals | .exact, .startsWith => true
  | .prefixed, .equals | .prefixed, .startsWith => true
  | .fullText, .contains => true
  | .integer, .equals | .timestamp, .equals => true
  | _, _ => false

/-- The words of a text as the column of a field has them, none if the column holds numbers. -/
def Binding.words? (binding : Binding α) (field : Field α) (text : String) : Option (List String) :=
  match binding.layout.type? (binding.column field) with
  | some (.text analysis) => some (analysis.terms text)
  | _ => none

/-- A field can take a text for a value of its kind. -/
def Binding.Reads (binding : Binding α) (field : Field α) (text : String) : Prop :=
  match field.kind with
  | .exact | .prefixed => True
  | .fullText => ∃ words, binding.words? field text = some words ∧ words ≠ []
  | .integer => ∃ number, Number.int64.read? text = some number
  | .timestamp => (∃ number, Number.int64.read? text = some number) ∨
      ∃ millis, Time.Rfc3339.millis? text = some millis

/-- A leaf names a field. -/
def Binding.Names (binding : Binding α) (condition : Leaf α) (field : Field α) : Prop :=
  field ∈ binding.schema.fields ∧ field.name = condition.field

/-- A leaf that can be compiled. -/
def Binding.Valid (binding : Binding α) (condition : Leaf α) : Prop :=
  ∃ field, binding.Names condition field ∧ condition.value ≠ "" ∧
    field.kind.supports condition.operator = true ∧ binding.Reads field condition.value

/-- Why a leaf cannot be compiled. -/
inductive Binding.Refuses (binding : Binding α) (condition : Leaf α) : QueryFault → Prop
  | unknownField (unknown : ∀ field, ¬ binding.Names condition field) :
    Refuses binding condition (.unknownField condition.field)
  | emptyValue {field} (named : binding.Names condition field) (empty : condition.value = "") :
    Refuses binding condition (.emptyValue condition.field)
  | unsupported {field} (named : binding.Names condition field) (filled : condition.value ≠ "")
    (without : field.kind.supports condition.operator = false) :
    Refuses binding condition (.unsupported condition.operator field.kind condition.field)
  | notAnInteger {field} (named : binding.Names condition field) (filled : condition.value ≠ "")
    (operator : condition.operator = .equals) (kind : field.kind = .integer)
    (misread : Number.int64.read? condition.value = none) :
    Refuses binding condition (.notAnInteger condition.field condition.value)
  | notATimestamp {field} (named : binding.Names condition field) (filled : condition.value ≠ "")
    (operator : condition.operator = .equals) (kind : field.kind = .timestamp)
    (misread : Number.int64.read? condition.value = none)
    (undated : Time.Rfc3339.millis? condition.value = none) :
    Refuses binding condition (.notATimestamp condition.field condition.value)
  | noWords {field} (named : binding.Names condition field) (filled : condition.value ≠ "")
    (operator : condition.operator = .contains) (kind : field.kind = .fullText)
    (wordless : binding.words? field condition.value = none) :
    Refuses binding condition (.noWords condition.field)
  | noTerms {field} (named : binding.Names condition field) (filled : condition.value ≠ "")
    (operator : condition.operator = .contains) (kind : field.kind = .fullText)
    (wordless : binding.words? field condition.value = some []) :
    Refuses binding condition (.noTerms condition.field condition.value)

theorem Binding.Names.unique {binding : Binding α} {condition : Leaf α} {first second : Field α}
    (one : binding.Names condition first) (other : binding.Names condition second) :
    first = second :=
  binding.schema.eq_of_name one.1 other.1 (one.2.trans other.2.symm)

theorem Schema.field?_eq_none {binding : Binding α} {condition : Leaf α} :
    binding.schema.field? condition.field = none ↔ ∀ field, ¬ binding.Names condition field := by
  simp [Schema.field?, Binding.Names]

theorem Schema.field?_eq_some {binding : Binding α} {condition : Leaf α} {field : Field α} :
    binding.schema.field? condition.field = some field ↔ binding.Names condition field := by
  constructor
  · intro found
    exact ⟨List.mem_of_find?_eq_some found, by simpa using List.find?_some found⟩
  · intro named
    cases found : binding.schema.field? condition.field with
    | none => exact absurd named (Schema.field?_eq_none.mp found field)
    | some other =>
      have otherNamed : binding.Names condition other :=
        ⟨List.mem_of_find?_eq_some found, by simpa using List.find?_some found⟩
      rw [otherNamed.unique named]

theorem FieldKind.supports_fullText {operator : Operator} :
    FieldKind.fullText.supports operator = true ↔ operator = .contains := by
  cases operator <;> simp [FieldKind.supports]

theorem FieldKind.supports_integer {operator : Operator} :
    FieldKind.integer.supports operator = true ↔ operator = .equals := by
  cases operator <;> simp [FieldKind.supports]

theorem FieldKind.supports_timestamp {operator : Operator} :
    FieldKind.timestamp.supports operator = true ↔ operator = .equals := by
  cases operator <;> simp [FieldKind.supports]

theorem readTimestamp?_eq_none {text : String} :
    readTimestamp? text = none ↔
      Number.int64.read? text = none ∧ Time.Rfc3339.millis? text = none := by
  cases read : Number.int64.read? text <;> simp [readTimestamp?, read]

section

variable {binding : Binding α} {condition : Leaf α} {field : Field α}

theorem Binding.leafQuery_of_names (named : binding.Names condition field)
    (filled : condition.value ≠ "") :
    binding.leafQuery condition = binding.valueQuery field condition.operator condition.value := by
  simp only [Binding.leafQuery, Schema.field?_eq_some.mpr named, if_neg filled]

theorem Binding.valueQuery_of_unsupported {operator : Operator} {value : String}
    (without : field.kind.supports operator = false) :
    binding.valueQuery field operator value =
      .error (.unsupported operator field.kind field.name) := by
  revert without
  unfold Binding.valueQuery
  cases field.kind <;> cases operator <;> simp [FieldKind.supports]

theorem Binding.fullTextQuery_of_words? {value : String} :
    (binding.words? field value = none →
      binding.fullTextQuery field value = .error (.noWords field.name)) ∧
    (binding.words? field value = some [] →
      binding.fullTextQuery field value = .error (.noTerms field.name value)) ∧
    ∀ words, binding.words? field value = some words → words ≠ [] →
      binding.fullTextQuery field value = .ok (termsQuery (binding.column field) words) := by
  unfold Binding.fullTextQuery Binding.words?
  cases found : binding.layout.type? (binding.column field) with
  | none => simp [found]
  | some type =>
    cases type with
    | number => simp [found]
    | text analysis =>
      cases terms : analysis.terms value with
      | nil => simp [found, terms]
      | cons word rest => simp [found, terms]

/-- A leaf that is refused has the fault for which it is. -/
theorem Binding.Refuses.leafQuery {fault : QueryFault} (refused : binding.Refuses condition fault) :
    binding.leafQuery condition = .error fault := by
  cases refused with
  | unknownField unknown => simp only [Binding.leafQuery, Schema.field?_eq_none.mpr unknown]
  | emptyValue named empty =>
    simp only [Binding.leafQuery, Schema.field?_eq_some.mpr named, if_pos empty, named.2]
  | unsupported named filled without =>
    rw [Binding.leafQuery_of_names named filled, ← named.2]
    exact Binding.valueQuery_of_unsupported without
  | notAnInteger named filled operator kind misread =>
    rw [Binding.leafQuery_of_names named filled, ← named.2]
    simp only [Binding.valueQuery, kind, operator, misread]
  | notATimestamp named filled operator kind misread undated =>
    rw [Binding.leafQuery_of_names named filled, ← named.2]
    simp only [Binding.valueQuery, kind, operator, readTimestamp?_eq_none.mpr ⟨misread, undated⟩]
  | noWords named filled operator kind wordless =>
    rw [Binding.leafQuery_of_names named filled, ← named.2]
    simp only [Binding.valueQuery, kind, operator, Binding.fullTextQuery_of_words?.1 wordless]
  | noTerms named filled operator kind wordless =>
    rw [Binding.leafQuery_of_names named filled, ← named.2]
    simp only [Binding.valueQuery, kind, operator, Binding.fullTextQuery_of_words?.2.1 wordless]

/-- A valid leaf can be compiled. -/
theorem Binding.Valid.leafQuery (valid : binding.Valid condition) :
    ∃ query, binding.leafQuery condition = .ok query := by
  obtain ⟨field, named, filled, supported, reads⟩ := valid
  rw [Binding.leafQuery_of_names named filled]
  unfold Binding.Reads at reads
  cases kind : field.kind with
  | exact =>
    cases operator : condition.operator <;>
      simp [Binding.valueQuery, kind, operator, FieldKind.supports] at supported ⊢
  | prefixed =>
    cases operator : condition.operator <;>
      simp [Binding.valueQuery, kind, operator, FieldKind.supports] at supported ⊢
  | fullText =>
    simp only [kind] at reads
    obtain ⟨words, found, some⟩ := reads
    have operator := FieldKind.supports_fullText.mp (kind ▸ supported)
    simp only [Binding.valueQuery, kind, operator]
    exact ⟨_, Binding.fullTextQuery_of_words?.2.2 words found some⟩
  | integer =>
    simp only [kind] at reads
    obtain ⟨number, read⟩ := reads
    have operator := FieldKind.supports_integer.mp (kind ▸ supported)
    simp [Binding.valueQuery, kind, operator, read]
  | timestamp =>
    have operator := FieldKind.supports_timestamp.mp (kind ▸ supported)
    simp only [Binding.valueQuery, kind, operator]
    cases read : readTimestamp? condition.value with
    | some millis => simp
    | none =>
      obtain ⟨misread, undated⟩ := readTimestamp?_eq_none.mp read
      simp [kind, misread, undated] at reads

theorem Binding.valid_or_refuses (binding : Binding α) (condition : Leaf α) :
    binding.Valid condition ∨ ∃ fault, binding.Refuses condition fault := by
  by_cases known : ∃ field, binding.Names condition field
  · obtain ⟨field, named⟩ := known
    by_cases filled : condition.value ≠ ""
    · by_cases supported : field.kind.supports condition.operator = true
      · by_cases reads : binding.Reads field condition.value
        · exact .inl ⟨field, named, filled, supported, reads⟩
        · right
          unfold Binding.Reads at reads
          cases kind : field.kind with
          | exact => simp [kind] at reads
          | prefixed => simp [kind] at reads
          | fullText =>
            have operator := FieldKind.supports_fullText.mp (kind ▸ supported)
            simp only [kind] at reads
            cases words : binding.words? field condition.value with
            | none => exact ⟨_, .noWords named filled operator kind words⟩
            | some found =>
              cases found with
              | nil => exact ⟨_, .noTerms named filled operator kind words⟩
              | cons word rest => exact absurd ⟨_, words, List.cons_ne_nil word rest⟩ reads
          | integer =>
            have operator := FieldKind.supports_integer.mp (kind ▸ supported)
            simp only [kind, ← Option.isSome_iff_exists, Option.not_isSome_iff_eq_none] at reads
            exact ⟨_, .notAnInteger named filled operator kind reads⟩
          | timestamp =>
            have operator := FieldKind.supports_timestamp.mp (kind ▸ supported)
            simp only [kind, ← Option.isSome_iff_exists, not_or,
              Option.not_isSome_iff_eq_none] at reads
            exact ⟨_, .notATimestamp named filled operator kind reads.1 reads.2⟩
      · exact .inr ⟨_, .unsupported named filled (Bool.eq_false_iff.mpr supported)⟩
    · exact .inr ⟨_, .emptyValue named (not_not.mp filled)⟩
  · exact .inr ⟨_, .unknownField (not_exists.mp known)⟩

theorem Binding.leafQuery_eq_error {fault : QueryFault} :
    binding.leafQuery condition = .error fault ↔ binding.Refuses condition fault := by
  constructor
  · intro failed
    rcases binding.valid_or_refuses condition with valid | ⟨other, refused⟩
    · obtain ⟨query, compiled⟩ := valid.leafQuery
      cases failed.symm.trans compiled
    · obtain rfl : fault = other := Except.error.inj (failed.symm.trans refused.leafQuery)
      exact refused
  · exact fun refused => refused.leafQuery

theorem Binding.exists_leafQuery_iff :
    (∃ query, binding.leafQuery condition = .ok query) ↔ binding.Valid condition := by
  constructor
  · rintro ⟨query, compiled⟩
    rcases binding.valid_or_refuses condition with valid | ⟨fault, refused⟩
    · exact valid
    · cases compiled.symm.trans refused.leafQuery
  · exact fun valid => valid.leafQuery

end

/-! ### First faults -/

theorem findSome?_allLeaves {β : Type} (find : Leaf α → Option β) (children : List (Predicate α)) :
    (allLeaves children).findSome? find =
      children.findSome? (fun child => child.leaves.findSome? find) := by
  induction children with
  | nil => rfl
  | cons child rest ih =>
    rw [allLeaves, List.findSome?_append, ih, List.findSome?_cons]
    cases child.leaves.findSome? find <;> rfl

section

variable {binding : Binding α}

theorem fault?_compileDisjuncts (children : List (Predicate α)) :
    fault? (compileDisjuncts binding children) =
      children.findSome? (fun child => fault? (binding.compile child)) := by
  induction children with
  | nil => rfl
  | cons child rest ih =>
    rw [compileDisjuncts, List.findSome?_cons, ← ih]
    cases binding.compile child with
    | error fault => rfl
    | ok query => cases compileDisjuncts binding rest <;> rfl

theorem fault?_compileConjuncts (children : List (Predicate α)) :
    fault? (compileConjuncts binding children) =
      children.findSome? (fun child => fault? (binding.compile child)) := by
  induction children with
  | nil => rfl
  | cons child rest ih =>
    rw [List.findSome?_cons]
    unfold compileConjuncts
    split
    · contradiction
    · rename_i inner more same
      obtain ⟨rfl, rfl⟩ := List.cons.inj same
      rw [Binding.compile, fault?_map, ← ih]
      cases binding.compile inner with
      | error fault => rfl
      | ok query => cases compileConjuncts binding rest <;> rfl
    · rename_i other more _ same
      obtain ⟨rfl, rfl⟩ := List.cons.inj same
      rw [← ih]
      cases binding.compile child with
      | error fault => rfl
      | ok query => cases compileConjuncts binding rest <;> rfl

theorem findSome?_congr_of_mem {β γ : Type} {first second : β → Option γ} {items : List β}
    (same : ∀ item ∈ items, first item = second item) :
    items.findSome? first = items.findSome? second := by
  induction items with
  | nil => rfl
  | cons item rest ih =>
    obtain ⟨here, later⟩ := List.forall_mem_cons.mp same
    rw [List.findSome?_cons, List.findSome?_cons, here, ih later]

/-- The fault of a predicate is that of its first leaf that has one. -/
theorem Binding.fault?_compile (predicate : Predicate α) :
    fault? (binding.compile predicate) =
      predicate.leaves.findSome? (fun condition => fault? (binding.leafQuery condition)) := by
  have node : ∀ children : List (Predicate α), (∀ child ∈ children, fault? (binding.compile child) =
        child.leaves.findSome? (fun condition => fault? (binding.leafQuery condition))) →
      children.findSome? (fun child => fault? (binding.compile child)) =
        (allLeaves children).findSome? (fun condition => fault? (binding.leafQuery condition)) := by
    intro children ih
    rw [findSome?_allLeaves]
    exact findSome?_congr_of_mem ih
  induction predicate using Predicate.induct with
  | any => rfl
  | leaf condition =>
    rw [Binding.compile, Predicate.leaves, List.findSome?_singleton]
  | and children ih =>
    rw [Predicate.leaves, ← node children ih]
    rcases children with _ | ⟨first, _ | ⟨second, rest⟩⟩
    · rfl
    · rw [Binding.compile, List.findSome?_singleton]
    · simp only [Binding.compile, fault?_map, fault?_compileConjuncts]
  | or children ih =>
    rw [Predicate.leaves, ← node children ih]
    rcases children with _ | ⟨first, _ | ⟨second, rest⟩⟩
    · rfl
    · rw [Binding.compile, List.findSome?_singleton]
    · simp only [Binding.compile, fault?_map, fault?_compileDisjuncts]
  | not child ih => rw [Binding.compile, fault?_map, ih, Predicate.leaves]

end

/-- A predicate is compiled exactly if all its leaves are valid. Else its fault is that of the first
    leaf that is not, whatever nodes it stands below, and all reads fail with it. -/
theorem Binding.compile_faults [Key κ] (binding : Binding α) (predicate : Predicate α) :
    ((∃ query, binding.compile predicate = .ok query) ↔
      ∀ condition ∈ predicate.leaves, binding.Valid condition) ∧
    (∀ fault, binding.compile predicate = .error fault ↔
      ∃ before condition after, predicate.leaves = before ++ condition :: after ∧
        (∀ earlier ∈ before, binding.Valid earlier) ∧ binding.Refuses condition fault) ∧
    (∀ fault, binding.compile predicate = .error fault →
      ∀ (index : Index α) (options : SearchOptions) (known : κ → Option α), index.binding = binding →
        index.listing predicate options = .error (.query fault) ∧
        index.query predicate options known = .error (.query fault) ∧
        index.queryRaw predicate options = .error (.query fault)) := by
  refine ⟨?_, ?_, ?_⟩
  · rw [← fault?_eq_none, Binding.fault?_compile, List.findSome?_eq_none_iff]
    refine forall₂_congr fun condition _ => ?_
    rw [fault?_eq_none, Binding.exists_leafQuery_iff]
  · intro fault
    rw [← fault?_eq_some, Binding.fault?_compile, List.findSome?_eq_some_iff]
    constructor
    · rintro ⟨before, condition, after, split, failed, passed⟩
      refine ⟨before, condition, after, split, ?_, ?_⟩
      · intro earlier member
        exact Binding.exists_leafQuery_iff.mp (fault?_eq_none.mp (passed earlier member))
      · exact Binding.leafQuery_eq_error.mp (fault?_eq_some.mp failed)
    · rintro ⟨before, condition, after, split, valid, refused⟩
      refine ⟨before, condition, after, split, ?_, ?_⟩
      · exact fault?_eq_some.mpr refused.leafQuery
      · intro earlier member
        exact fault?_eq_none.mpr (valid earlier member).leafQuery
  · rintro fault failed index options known rfl
    have listing : index.listing predicate options = .error (.query fault) := by
      simp only [Index.listing, failed]
    refine ⟨listing, ?_, ?_⟩
    · rw [Index.query, listing]
      rfl
    · rw [Index.queryRaw, listing]
      rfl

/-- An empty text below a negation counts although a later leaf names no field. -/
theorem Binding.compile_faults_empty :
    let predicate : Predicate Group := .or [.not (.and [.any, .onField "name" .equals "admins"]),
      .and [.not (.onField "inname" .startsWith "")], .onField "colour" .equals "red"]
    GroupSchema.second.bound.compile predicate = .error (.emptyValue "inname") ∧
      ∀ (index : Index Group) (known : GroupUuid → Option Group),
        index.binding = GroupSchema.second.bound →
          index.query predicate (.window 0 1) known = .error (.query (.emptyValue "inname")) := by
  intro predicate
  obtain ⟨-, first, reads⟩ :=
    Binding.compile_faults (κ := GroupUuid) GroupSchema.second.bound predicate
  have valid : GroupSchema.second.bound.Valid ⟨"name", .equals, "admins", none⟩ := by
    refine ⟨GroupSchema.name, ⟨?_, rfl⟩, by decide, rfl, ?_⟩
    · simp [Schema.bound, GroupSchema.second, GroupSchema.firstFields]
    · exact trivial
  have named : GroupSchema.second.bound.Names ⟨"inname", .startsWith, "", none⟩
      GroupSchema.namePart := by
    refine ⟨?_, rfl⟩
    simp [Schema.bound, GroupSchema.second, GroupSchema.firstFields]
  have failed : GroupSchema.second.bound.compile predicate = .error (.emptyValue "inname") :=
    (first _).mpr ⟨[⟨"name", .equals, "admins", none⟩], _, [⟨"colour", .equals, "red", none⟩], rfl,
      by simpa using valid, .emptyValue named rfl⟩
  refine ⟨failed, ?_⟩
  intro index known bound
  exact (reads _ failed index (.window 0 1) known bound).2.1

end KeyedIndex
