import KeyedIndex.Group.Schema
import KeyedIndex.Proofs.Number.Integer
import KeyedIndex.Proofs.Query.Clauses
import KeyedIndex.Proofs.Schema.Columns
import KeyedIndex.Proofs.Text.Lowercase
import KeyedIndex.Proofs.Time.Range

/-!
The meaning of compiled predicates. A leaf holds of an entity if the values of its field meet
its text in the way of the operator and of the kind of the field (`Field.Meets`). The query
that a predicate is compiled to matches the document of an entity exactly if the predicate
holds of the entity (`Schema.compile_meaning`).
-/
namespace KeyedIndex

variable {α : Type}

/-- Whether the values that a field has of an entity meet a text. -/
def Field.Meets (field : Field α) (operator : Operator) (wanted : String) (entity : α) : Prop :=
  match field.kind, operator with
  | .exact, .equals => .text wanted ∈ field.values entity
  | .exact, .startsWith =>
    ∃ content, .text content ∈ field.values entity ∧ wanted.toList <+: content.toList
  | .prefixed, .equals => .text (Text.lower wanted) ∈ field.values entity
  | .prefixed, .startsWith =>
    ∃ content, .text content ∈ field.values entity ∧ (Text.lower wanted).toList <+: content.toList
  | .fullText, .contains =>
    ∀ word ∈ Text.words wanted, ∃ content, .text content ∈ field.values entity ∧
      word ∈ Text.words content
  | .integer, .equals =>
    ∃ number : Int64, .number number ∈ field.values entity ∧
      Number.int64.read? wanted = some number.toInt
  | .timestamp, .equals =>
    ∃ millis : Int64, .number millis ∈ field.values entity ∧
      readTimestamp? wanted = some millis.toInt
  | _, _ => False

/-- Whether an entity meets a leaf by the field that the leaf names. -/
def Schema.Meets (schema : Schema α) (entity : α) (condition : Leaf α) : Prop :=
  ∃ field ∈ schema.fields, field.name = condition.field ∧
    field.Meets condition.operator condition.value entity

/-- No text that is a term as a whole is too long for a term. -/
def Schema.Bounded (schema : Schema α) (entity : α) : Prop :=
  ∀ field ∈ schema.fields, field.kind ≠ .fullText →
    ∀ value ∈ field.values entity, ∀ content ∈ value.text?, Text.byteLength content ≤ termLimit

instance (schema : Schema α) (entity : α) : Decidable (schema.Bounded entity) :=
  inferInstanceAs (Decidable (∀ field ∈ schema.fields, _))

/-! ### Terms of values -/

theorem mem_terms_whole {text : String} {given : FieldValue} :
    .text text ∈ (ColumnType.text .whole).terms given ↔
      given = .text text ∧ Text.byteLength text ≤ termLimit := by
  cases given with
  | number value => simp [ColumnType.terms]
  | text content =>
    simp only [ColumnType.terms, Analysis.terms, List.mem_map, List.mem_filter, List.mem_singleton,
      decide_eq_true_eq, FieldValue.text.injEq, exists_eq_right]
    exact and_congr_left fun _ => eq_comm

theorem mem_terms_words {word : String} {given : FieldValue} :
    .text word ∈ (ColumnType.text .words).terms given ↔
      ∃ content, given = .text content ∧ word ∈ Text.words content := by
  cases given with
  | number value => simp [ColumnType.terms]
  | text content =>
    simp only [ColumnType.terms, Analysis.terms, List.mem_map, List.mem_filter, decide_eq_true_eq,
      FieldValue.text.injEq, exists_eq_right, exists_eq_left']
    refine and_iff_left_of_imp fun member => ?_
    exact le_trans (Text.byteLength_lt_of_mem_words member).le (by decide)

theorem mem_terms_number {number : Int64} {given : FieldValue} :
    .number number ∈ ColumnType.number.terms given ↔ given = .number number := by
  cases given with
  | number value => simp [ColumnType.terms, eq_comm]
  | text content => simp [ColumnType.terms]

theorem term_startsWith_iff {term : Term} {column : Nat} {text : String} :
    term.startsWith column text = true ↔
      ∃ content, term = ⟨column, .text content⟩ ∧ text.toList <+: content.toList := by
  obtain ⟨place, value⟩ := term
  cases value with
  | number value => simp [Term.startsWith]
  | text content => simp [Term.startsWith]

/-! ### Leaves -/

section

variable {schema : Schema α} {entity : α} {field : Field α} (member : field ∈ schema.fields)
include member

theorem matches_term (value : FieldValue) :
    (Query.term ⟨schema.bound.column field, value⟩).matches
        (schema.layout.terms (schema.bound.document entity)) = true ↔
      ∃ given ∈ field.values entity, value ∈ field.kind.columnType.terms given := by
  rw [Query.matches, List.contains_iff_mem]
  exact schema.mem_terms_document entity member value

theorem matches_number (numeric : field.kind.columnType = .number) (number : Int64) :
    (Query.term ⟨schema.bound.column field, .number number⟩).matches
        (schema.layout.terms (schema.bound.document entity)) = true ↔
      .number number ∈ field.values entity := by
  rw [matches_term member, numeric]
  simp [mem_terms_number]

section

variable (whole : field.kind.columnType = .text .whole) {content : String}
  (given : .text content ∈ field.values entity) (short : Text.byteLength content ≤ termLimit)
include whole given short

theorem mem_terms_of_short :
    ⟨schema.bound.column field, .text content⟩ ∈
      schema.layout.terms (schema.bound.document entity) := by
  refine (schema.mem_terms_document entity member _).mpr ⟨.text content, given, ?_⟩
  rw [whole]
  exact mem_terms_whole.mpr ⟨rfl, short⟩

theorem matches_text_of_short :
    (Query.term ⟨schema.bound.column field, .text content⟩).matches
        (schema.layout.terms (schema.bound.document entity)) = true := by
  rw [Query.matches, List.contains_iff_mem]
  exact mem_terms_of_short member whole given short

theorem matches_startsWith_of_short {start : String} (begins : start.toList <+: content.toList) :
    (Query.startsWith (schema.bound.column field) start).matches
        (schema.layout.terms (schema.bound.document entity)) = true := by
  rw [Query.matches, List.any_eq_true]
  exact ⟨_, mem_terms_of_short member whole given short,
    term_startsWith_iff.mpr ⟨content, rfl, begins⟩⟩

end

variable (bounded : schema.Bounded entity) (whole : field.kind.columnType = .text .whole)
include bounded whole

theorem byteLength_le_of_whole {content : String} (given : .text content ∈ field.values entity) :
    Text.byteLength content ≤ termLimit := by
  refine bounded field member (fun fullText => ?_) _ given content rfl
  rw [fullText] at whole
  exact absurd whole (by decide)

theorem matches_text (text : String) :
    (Query.term ⟨schema.bound.column field, .text text⟩).matches
        (schema.layout.terms (schema.bound.document entity)) = true ↔
      .text text ∈ field.values entity := by
  constructor
  · rw [matches_term member, whole]
    rintro ⟨given, givenIn, found⟩
    obtain ⟨rfl, _⟩ := mem_terms_whole.mp found
    exact givenIn
  · intro given
    exact matches_text_of_short member whole given
      (byteLength_le_of_whole member bounded whole given)

theorem matches_startsWith (text : String) :
    (Query.startsWith (schema.bound.column field) text).matches
        (schema.layout.terms (schema.bound.document entity)) = true ↔
      ∃ content, .text content ∈ field.values entity ∧ text.toList <+: content.toList := by
  constructor
  · rw [Query.matches, List.any_eq_true]
    rintro ⟨term, termIn, starts⟩
    obtain ⟨content, rfl, start⟩ := term_startsWith_iff.mp starts
    obtain ⟨given, givenIn, found⟩ := (schema.mem_terms_document entity member _).mp termIn
    rw [whole] at found
    obtain ⟨rfl, _⟩ := mem_terms_whole.mp found
    exact ⟨content, givenIn, start⟩
  · rintro ⟨content, given, start⟩
    exact matches_startsWith_of_short member whole given
      (byteLength_le_of_whole member bounded whole given) start

end

/-- All terms of a text must be there, if there are any. -/
theorem matches_termsQuery {terms : List Term} {column : Nat} {texts : List String}
    (present : texts ≠ []) :
    (termsQuery column texts).matches terms = true ↔
      ∀ text ∈ texts, (Query.term ⟨column, .text text⟩).matches terms = true := by
  unfold termsQuery
  split
  · simp
  · rw [Query.matches_combine]
    have some : ∃ text, text ∈ texts := List.exists_mem_of_ne_nil texts present
    simp [some]

variable {schema : Schema α} {entity : α} {field : Field α}

/-- The query of a full-text value matches the entities that have all its words. -/
theorem fullTextQuery_meaning (member : field ∈ schema.fields) (fullText : field.kind = .fullText)
    {value : String} {query : Query} (compiled : schema.bound.fullTextQuery field value = .ok query) :
    query.matches (schema.layout.terms (schema.bound.document entity)) = true ↔
      field.Meets .contains value entity := by
  have type : schema.layout.type? (schema.bound.column field) = some (.text .words) := by
    rw [schema.type?_column member, fullText]
    rfl
  have words : field.kind.columnType = .text .words := by rw [fullText]; rfl
  have bound : schema.bound.layout = schema.layout := rfl
  simp only [Binding.fullTextQuery, bound, type, Analysis.terms] at compiled
  split at compiled
  · contradiction
  · rename_i present
    obtain rfl := Except.ok.inj compiled
    rw [matches_termsQuery present]
    simp only [Field.Meets, fullText]
    refine forall₂_congr fun word _ => ?_
    rw [matches_term member, words]
    constructor
    · rintro ⟨given, givenIn, found⟩
      obtain ⟨content, rfl, inside⟩ := mem_terms_words.mp found
      exact ⟨content, givenIn, inside⟩
    · rintro ⟨content, given, inside⟩
      exact ⟨_, given, mem_terms_words.mpr ⟨content, rfl, inside⟩⟩

/-- The query of a number matches the entities that have the number. -/
theorem numberQuery_meaning (member : field ∈ schema.fields)
    (numeric : field.kind.columnType = .number) {number : Int}
    (range : -2 ^ 63 ≤ number ∧ number < 2 ^ 63) :
    (Query.term ⟨schema.bound.column field, .number (Int64.ofInt number)⟩).matches
        (schema.layout.terms (schema.bound.document entity)) = true ↔
      ∃ value : Int64, .number value ∈ field.values entity ∧ some number = some value.toInt := by
  have same : (Int64.ofInt number).toInt = number := Int64.toInt_ofInt_of_le range.1 range.2
  rw [matches_number member numeric]
  constructor
  · exact fun given => ⟨_, given, congrArg some same.symm⟩
  · rintro ⟨value, given, found⟩
    rwa [Option.some.inj found, Int64.ofInt_toInt]

theorem int64_read?_range {text : String} {number : Int}
    (read : Number.int64.read? text = some number) : -2 ^ 63 ≤ number ∧ number < 2 ^ 63 := by
  obtain ⟨lower, upper⟩ := Number.Interval.has_iff.mp
    (Number.Interval.read?_has Number.int64_hasZero read)
  simp only [Number.int64] at lower upper
  omega

theorem readTimestamp?_range {text : String} {millis : Int}
    (read : readTimestamp? text = some millis) : -2 ^ 63 ≤ millis ∧ millis < 2 ^ 63 := by
  unfold readTimestamp? at read
  split at read
  · rename_i number found
    obtain rfl := Option.some.inj read
    exact int64_read?_range found
  · exact Time.Rfc3339.millis?_range read

/-- The query of a value matches the entities whose field meets the value. -/
theorem valueQuery_meaning (member : field ∈ schema.fields) (bounded : schema.Bounded entity)
    {operator : Operator} {value : String} {query : Query}
    (compiled : schema.bound.valueQuery field operator value = .ok query) :
    query.matches (schema.layout.terms (schema.bound.document entity)) = true ↔
      field.Meets operator value entity := by
  unfold Binding.valueQuery at compiled
  dsimp only at compiled
  split at compiled
  · rename_i kind
    obtain rfl := Except.ok.inj compiled
    simp only [Field.Meets, kind]
    exact matches_text member bounded (by rw [kind]; rfl) value
  · rename_i kind
    obtain rfl := Except.ok.inj compiled
    simp only [Field.Meets, kind]
    exact matches_startsWith member bounded (by rw [kind]; rfl) value
  · rename_i kind
    obtain rfl := Except.ok.inj compiled
    simp only [Field.Meets, kind]
    exact matches_text member bounded (by rw [kind]; rfl) (Text.lower value)
  · rename_i kind
    obtain rfl := Except.ok.inj compiled
    simp only [Field.Meets, kind]
    exact matches_startsWith member bounded (by rw [kind]; rfl) (Text.lower value)
  · rename_i kind
    exact fullTextQuery_meaning member kind compiled
  · rename_i kind
    split at compiled
    · rename_i number read
      obtain rfl := Except.ok.inj compiled
      simp only [Field.Meets, kind, read]
      exact numberQuery_meaning member (by rw [kind]; rfl) (int64_read?_range read)
    · contradiction
  · rename_i kind
    split at compiled
    · rename_i millis read
      obtain rfl := Except.ok.inj compiled
      simp only [Field.Meets, kind, read]
      exact numberQuery_meaning member (by rw [kind]; rfl) (readTimestamp?_range read)
    · contradiction
  · contradiction

/-- A leaf that is compiled names a field of the schema. -/
theorem leafQuery_eq_ok {condition : Leaf α} {query : Query}
    (compiled : schema.bound.leafQuery condition = .ok query) :
    ∃ field ∈ schema.fields, field.name = condition.field ∧
      schema.bound.valueQuery field condition.operator condition.value = .ok query := by
  unfold Binding.leafQuery at compiled
  split at compiled
  · contradiction
  · rename_i field found
    split at compiled
    · contradiction
    · refine ⟨field, List.mem_of_find?_eq_some found, ?_, compiled⟩
      simpa using List.find?_some found

/-- A leaf is met by the one field that it names. -/
theorem Schema.meets_iff (member : field ∈ schema.fields) {condition : Leaf α}
    (named : field.name = condition.field) :
    schema.Meets entity condition ↔ field.Meets condition.operator condition.value entity := by
  constructor
  · rintro ⟨other, otherIn, otherNamed, meets⟩
    rwa [schema.eq_of_name member otherIn (named.trans otherNamed.symm)]
  · exact fun meets => ⟨field, member, named, meets⟩

theorem leafQuery_meaning (bounded : schema.Bounded entity) {condition : Leaf α} {query : Query}
    (compiled : schema.bound.leafQuery condition = .ok query) :
    query.matches (schema.layout.terms (schema.bound.document entity)) = true ↔
      schema.Meets entity condition := by
  obtain ⟨field, member, named, valueCompiled⟩ := leafQuery_eq_ok compiled
  rw [valueQuery_meaning member bounded valueCompiled, Schema.meets_iff member named]

/-- The query of a predicate matches the document of an entity exactly if the predicate holds of
    the entity. -/
theorem Schema.compile_meaning (schema : Schema α) {predicate : Predicate α} {query : Query}
    (compiled : schema.bound.compile predicate = .ok query) {entity : α}
    (bounded : schema.Bounded entity) :
    query.matches (schema.layout.terms (schema.bound.document entity)) = true ↔
      predicate.Holds (schema.Meets entity) :=
  Binding.compile_matches (fun _ _ leaf => leafQuery_meaning bounded leaf) predicate query compiled

/-- A conjunction with a negated child, on a group. -/
theorem Schema.compile_meaning_group :
    let predicate : Predicate Group := .and [.not (.onField "member" .equals "amy"),
      .onField "inname" .startsWith "ADM"]
    let group := Group.ofName 1 ⟨"g1", by decide, by decide⟩ "site-admins" .epoch
    ∃ query, GroupSchema.second.bound.compile predicate = .ok query ∧
      (query.matches (GroupSchema.second.layout.terms (GroupSchema.second.bound.document group)) =
        true ↔ predicate.Holds (GroupSchema.second.Meets group)) := by
  intro predicate group
  have bounded : GroupSchema.second.Bounded group := by decide
  refine ⟨_, rfl, ?_⟩
  exact GroupSchema.second.compile_meaning rfl bounded

end KeyedIndex
