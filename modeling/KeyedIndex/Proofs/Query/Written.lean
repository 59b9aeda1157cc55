import KeyedIndex.Proofs.Query.Meaning
import KeyedIndex.Proofs.Text.Lowercase

/-!
What is written can be found. A field is asked for a value that it has of an entity by the
operators of its kind and by the text of the value (`Field.Asks`). Such a predicate is always
compiled, and its query matches the document of the entity, but for fields of kind prefix, in
which only a text in small letters is looked up as it stands (`Schema.finds_written`).
-/
namespace KeyedIndex

variable {α : Type}

/-- Whether a predicate is compiled to a query that matches the document of an entity. -/
def Schema.Finds (schema : Schema α) (entity : α) (predicate : Predicate α) : Prop :=
  ∃ query, schema.bound.compile predicate = .ok query ∧
    query.matches (schema.layout.terms (schema.bound.document entity)) = true

/-- Whether the texts of a field are terms as a whole. -/
def FieldKind.isWhole (kind : FieldKind) : Bool := kind = .exact || kind = .prefixed

/-- The operators and texts by which a field is asked for a value: a text as a whole, by a start
    or by its words, and a number by its decimal text. -/
inductive Field.Asks (field : Field α) : FieldValue → Operator → String → Prop
  | whole {content : String} (kind : field.kind.isWhole) (present : content ≠ "") :
    field.Asks (.text content) .equals content
  | start {content start : String} (kind : field.kind.isWhole) (present : start ≠ "")
    (begins : start.toList <+: content.toList) : field.Asks (.text content) .startsWith start
  | words {content : String} (kind : field.kind = .fullText)
    (present : Text.words content ≠ []) : field.Asks (.text content) .contains content
  | number (value : Int64) (kind : field.kind.isNumeric) :
    field.Asks (.number value) .equals (Number.decimal value.toInt)

/-! ### Texts of numbers -/

theorem read?_decimal_toInt (value : Int64) :
    Number.int64.read? (Number.decimal value.toInt) = some value.toInt := by
  have lower := value.le_toInt
  have upper := value.toInt_lt
  refine Number.Interval.read?_decimal (Number.Interval.has_iff.mpr ?_)
  simp only [Number.int64]
  omega

theorem decimal_toInt_ne_empty (value : Int64) : Number.decimal value.toInt ≠ "" := by
  intro empty
  have read := read?_decimal_toInt value
  have unread : Number.int64.read? "" = none := by decide
  rw [empty, unread] at read
  contradiction

theorem Field.Asks.ne_empty {field : Field α} {value : FieldValue} {operator : Operator}
    {wanted : String} (asks : field.Asks value operator wanted) : wanted ≠ "" := by
  cases asks with
  | whole _ present => exact present
  | start _ present _ => exact present
  | words _ present =>
    rintro rfl
    exact present (by decide)
  | number value _ => exact decimal_toInt_ne_empty value

/-- A start of a text in small letters is in small letters. -/
theorem Field.Asks.lower_eq {field : Field α} {content : String} {operator : Operator}
    {wanted : String} (asks : field.Asks (.text content) operator wanted)
    (small : Text.lower content = content) : Text.lower wanted = wanted := by
  cases asks with
  | whole _ _ => exact small
  | start _ _ begins => exact Text.lower_eq_self_of_prefix begins small
  | words _ _ => exact small

/-! ### Compiling -/

section

variable {schema : Schema α} {field : Field α} (member : field ∈ schema.fields)
include member

theorem Schema.field?_name : schema.field? field.name = some field := by
  unfold Schema.field?
  cases found : schema.fields.find? (fun other => other.name = field.name) with
  | none => simpa using List.find?_eq_none.mp found field member
  | some other =>
    have named : other.name = field.name := by simpa using List.find?_some found
    rw [schema.eq_of_name (List.mem_of_find?_eq_some found) member named]

/-- A leaf on a field of the schema is compiled as its text is. -/
theorem Schema.compile_leaf {condition : Leaf α} (named : condition.field = field.name)
    (present : condition.value ≠ "") : schema.bound.compile (.leaf condition) =
      schema.bound.valueQuery field condition.operator condition.value := by
  have known : schema.bound.schema.field? condition.field = some field := by
    rw [named]
    exact Schema.field?_name member
  simp only [Binding.compile, Binding.leafQuery, known, if_neg present]

/-- A text that has words is compiled. -/
theorem Schema.fullTextQuery_isOk (fullText : field.kind = .fullText) {wanted : String}
    (present : Text.words wanted ≠ []) :
    ∃ query, schema.bound.fullTextQuery field wanted = .ok query := by
  have type : schema.bound.layout.type? (schema.bound.column field) = some (.text .words) := by
    rw [show schema.bound.layout = schema.layout from rfl, schema.type?_column member, fullText]
    rfl
  obtain ⟨word, rest, words⟩ := List.exists_cons_of_ne_nil present
  simp only [Binding.fullTextQuery, type, Analysis.terms, words]
  exact ⟨_, rfl⟩

end

/-- The form in which a text is looked up among the texts of a field. -/
def Field.lookedUp (field : Field α) (wanted : String) : String :=
  if field.kind = .prefixed then Text.lower wanted else wanted

theorem Field.lookedUp_of_small {field : Field α} {wanted : String}
    (small : field.kind = .prefixed → Text.lower wanted = wanted) :
    field.lookedUp wanted = wanted := by
  unfold Field.lookedUp
  split
  · exact small ‹_›
  · rfl

theorem FieldKind.columnType_of_isWhole {kind : FieldKind} (whole : kind.isWhole) :
    kind.columnType = .text .whole := by
  cases kind <;> first | rfl | contradiction

theorem FieldKind.columnType_of_isNumeric {kind : FieldKind} (numeric : kind.isNumeric) :
    kind.columnType = .number := by
  cases kind <;> first | rfl | contradiction

section

variable (binding : Binding α) {field : Field α}

theorem Binding.valueQuery_equals (whole : field.kind.isWhole) (wanted : String) :
    binding.valueQuery field .equals wanted =
      .ok (.term ⟨binding.column field, .text (field.lookedUp wanted)⟩) := by
  cases kind : field.kind <;>
    simp_all [FieldKind.isWhole, Binding.valueQuery, Field.lookedUp]

theorem Binding.valueQuery_startsWith (whole : field.kind.isWhole) (wanted : String) :
    binding.valueQuery field .startsWith wanted =
      .ok (.startsWith (binding.column field) (field.lookedUp wanted)) := by
  cases kind : field.kind <;>
    simp_all [FieldKind.isWhole, Binding.valueQuery, Field.lookedUp]

theorem Binding.valueQuery_decimal (numeric : field.kind.isNumeric) (value : Int64) :
    binding.valueQuery field .equals (Number.decimal value.toInt) =
      .ok (.term ⟨binding.column field, .number value⟩) := by
  have read := read?_decimal_toInt value
  cases kind : field.kind <;>
    simp_all [FieldKind.isNumeric, Binding.valueQuery, readTimestamp?]

end

/-! ### Finding -/

section

variable {schema : Schema α} {entity : α} {field : Field α} (member : field ∈ schema.fields)
  (whole : field.kind.isWhole) {content : String} (given : .text content ∈ field.values entity)
  (short : Text.byteLength content ≤ termLimit) {wanted : String} (present : wanted ≠ "")
  (matcher : Option (Matcher α))
include member whole given short present

theorem Schema.finds_equals (same : field.lookedUp wanted = content) :
    schema.Finds entity (.leaf ⟨field.name, .equals, wanted, matcher⟩) := by
  rw [Schema.Finds, Schema.compile_leaf member rfl present, schema.bound.valueQuery_equals whole]
  refine ⟨_, rfl, ?_⟩
  rw [same]
  exact matches_text_of_short member (FieldKind.columnType_of_isWhole whole) given short

theorem Schema.finds_startsWith (begins : (field.lookedUp wanted).toList <+: content.toList) :
    schema.Finds entity (.leaf ⟨field.name, .startsWith, wanted, matcher⟩) := by
  rw [Schema.Finds, Schema.compile_leaf member rfl present,
    schema.bound.valueQuery_startsWith whole]
  refine ⟨_, rfl, ?_⟩
  exact matches_startsWith_of_short member (FieldKind.columnType_of_isWhole whole) given short begins

end

/-- A predicate that asks a field for a value is compiled, and finds the entities of which the
    field has the value; in a field of kind prefix it does if its text or the whole value is in
    small letters. -/
theorem Schema.finds_written (schema : Schema α) {entity : α} {field : Field α}
    (member : field ∈ schema.fields) {value : FieldValue} (given : value ∈ field.values entity)
    (short : ∀ content ∈ value.text?, Text.byteLength content ≤ termLimit)
    {operator : Operator} {wanted : String} (asks : field.Asks value operator wanted) :
    (∃ query, schema.bound.compile (.onField field.name operator wanted) = .ok query) ∧
      ((field.kind = .prefixed → Text.lower wanted = wanted ∨
          ∃ content, value = .text content ∧ Text.lower content = content) →
        schema.Finds entity (.onField field.name operator wanted)) := by
  have lookedUp (small : field.kind = .prefixed → Text.lower wanted = wanted ∨
      ∃ content, value = .text content ∧ Text.lower content = content) :
      field.lookedUp wanted = wanted := by
    refine Field.lookedUp_of_small fun kind => ?_
    rcases small kind with same | ⟨content, rfl, same⟩
    · exact same
    · exact asks.lower_eq same
  have compiled : schema.bound.compile (.onField field.name operator wanted) =
      schema.bound.valueQuery field operator wanted := Schema.compile_leaf member rfl asks.ne_empty
  cases asks with
  | whole kind present =>
    rw [schema.bound.valueQuery_equals kind] at compiled
    exact ⟨⟨_, compiled⟩, fun small =>
      Schema.finds_equals member kind given (short _ rfl) present none (lookedUp small)⟩
  | start kind present begins =>
    rw [schema.bound.valueQuery_startsWith kind] at compiled
    refine ⟨⟨_, compiled⟩, fun small => ?_⟩
    refine Schema.finds_startsWith member kind given (short _ rfl) present none ?_
    rwa [lookedUp small]
  | words kind present =>
    obtain ⟨query, fullText⟩ := Schema.fullTextQuery_isOk member kind present
    have whole : schema.bound.valueQuery field .contains wanted = .ok query := by
      rw [← fullText]
      simp only [Binding.valueQuery, kind]
    rw [whole] at compiled
    refine ⟨⟨query, compiled⟩, fun _ => ⟨query, compiled, ?_⟩⟩
    rw [fullTextQuery_meaning member kind fullText]
    simp only [Field.Meets, kind]
    exact fun word inside => ⟨_, given, inside⟩
  | number value numeric =>
    rw [schema.bound.valueQuery_decimal numeric] at compiled
    refine ⟨⟨_, compiled⟩, fun _ => ⟨_, compiled, ?_⟩⟩
    rwa [matches_number member (FieldKind.columnType_of_isNumeric numeric)]

/-- The start of a part of the name of a group. -/
theorem Schema.finds_written_namePart :
    let group := Group.ofName 1 ⟨"g1", by decide, by decide⟩ "Site-Admins" .epoch
    FieldValue.text "admins" ∈ GroupSchema.namePart.values group ∧
      GroupSchema.second.Finds group (.onField "inname" .startsWith "adm") := by
  intro group
  have given : FieldValue.text "admins" ∈ GroupSchema.namePart.values group := by decide
  have asks : GroupSchema.namePart.Asks (.text "admins") .startsWith "adm" :=
    .start rfl (by decide) (by decide)
  have member : GroupSchema.namePart ∈ GroupSchema.second.fields := by
    simp [GroupSchema.second, GroupSchema.firstFields]
  have found := GroupSchema.second.finds_written member given (by decide) asks
  exact ⟨given, found.2 fun _ => .inl (by decide)⟩

/-- Texts that are their own keys, also in a field of kind prefix, as they stand. -/
def Schema.verbatim : Schema String where
  name := "texts"
  version := 1
  fields := [(Field.ofKind .exact "key" (fun text => [.text text])).thatIsStored.thatIsSortable,
    Field.ofKind .prefixed "text" (fun text => [.text text])]
  keyField := (Field.ofKind .exact "key" (fun text => [.text text])).thatIsStored.thatIsSortable
  isKindName_name := by decide
  nodup_names := by decide
  keyField_mem := by simp
  keyField_canBeKey := by decide

/-- A capital that is written into a field of kind prefix is not found, neither by the text nor by
    a start of it. -/
theorem Schema.verbatim_capital :
    ∃ field ∈ Schema.verbatim.fields, field.kind = .prefixed ∧ field.values "Quick" = [.text "Quick"] ∧
      ¬ Schema.verbatim.Finds "Quick" (.onField field.name .equals "Quick") ∧
      ¬ Schema.verbatim.Finds "Quick" (.onField field.name .startsWith "Qui") := by
  refine ⟨_, .tail _ (.head _), rfl, rfl, ?_, ?_⟩
  · rintro ⟨query, compiled, found⟩
    obtain rfl := Except.ok.inj compiled
    exact absurd found (by decide)
  · rintro ⟨query, compiled, found⟩
    obtain rfl := Except.ok.inj compiled
    exact absurd found (by decide)

end KeyedIndex
