import KeyedIndex.Document.Basic
import KeyedIndex.Search.Hits
import Mathlib.Data.List.Nodup

/-!
Columns of fields. A field of a bound schema has a column of its own, whatever the order of the
layout, and what the document of an entity has there are the values of the field
(`Binding.values_document`). In the layout of the schema itself the column is what the field asks
for (`Schema.layout_column`), so the terms of the document there are the terms of these values
(`Schema.mem_terms_document`).
-/
namespace KeyedIndex

variable {α : Type} (schema : Schema α) (binding : Binding α)

/-! ### Documents by columns -/

theorem Document.values_append (first second : Document) (column : Nat) :
    Document.values (first ++ second) column = first.values column ++ second.values column :=
  List.filterMap_append

theorem Document.values_eq_nil {document : Document} {column : Nat}
    (absent : ∀ entry ∈ document, entry.1 ≠ column) : document.values column = [] := by
  refine List.filterMap_eq_nil_iff.mpr fun entry member => ?_
  simp [absent entry member]

theorem Document.values_map (values : List FieldValue) (column : Nat) :
    Document.values (values.map (fun value => (column, value))) column = values := by
  simp [Document.values, List.filterMap_map]

/-! ### Columns of a layout -/

theorem Schema.eq_of_name {first second : Field α} (firstIn : first ∈ schema.fields)
    (secondIn : second ∈ schema.fields) (same : first.name = second.name) : first = second :=
  List.inj_on_of_nodup_map schema.nodup_names firstIn secondIn same

/-- A field is the only one with its name. -/
theorem Schema.filter_name {field : Field α} (member : field ∈ schema.fields) :
    schema.fields.filter (fun other => field.name = other.name) = [field] := by
  obtain ⟨before, after, split⟩ := List.append_of_mem member
  have names := schema.nodup_names
  rw [split, List.map_append, List.map_cons] at names
  obtain ⟨_, later, apart⟩ := List.nodup_append.mp names
  have first : before.filter (fun other => field.name = other.name) = [] := by
    refine List.filter_eq_nil_iff.mpr fun other otherIn same => ?_
    exact apart other.name (List.mem_map_of_mem otherIn) field.name List.mem_cons_self
      (of_decide_eq_true same).symm
  have last : after.filter (fun other => field.name = other.name) = [] := by
    refine List.filter_eq_nil_iff.mpr fun other otherIn same => ?_
    refine (List.nodup_cons.mp later).1 ?_
    rw [of_decide_eq_true same]
    exact List.mem_map_of_mem otherIn
  rw [split, List.filter_append, List.filter_cons, first, last]
  simp

/-- The key field is matched as it stands, can be read back and can order hits. -/
theorem Schema.keyField_fit : schema.keyField.kind = .exact ∧ schema.keyField.stored = true ∧
    schema.keyField.sortable = true := by
  have fit := schema.keyField_canBeKey
  simp only [Field.canBeKey, Bool.and_eq_true, decide_eq_true_eq] at fit
  exact ⟨fit.1.1, fit.1.2, fit.2⟩

/-- The name of a field leads to its column. -/
theorem Binding.position?_name {field : Field α} (member : field ∈ binding.schema.fields) :
    binding.layout.position? field.name = some (binding.column field) := by
  obtain ⟨place, found⟩ := Option.isSome_iff_exists.mp (binding.complete field member)
  rw [Binding.column, found, Option.getD_some]

/-- At the column of a field stands a column with its name. -/
theorem Binding.column_name {field : Field α} (member : field ∈ binding.schema.fields) :
    (binding.layout[binding.column field]?).map Column.name = some field.name := by
  obtain ⟨inside, named, _⟩ :=
    List.findIdx?_eq_some_iff_getElem.mp (binding.position?_name member)
  rw [List.getElem?_eq_getElem inside, Option.map_some]
  exact congrArg some (by simpa using named)

/-- No path leads from the name of a field into its values. -/
theorem Binding.reached?_name {field : Field α} (member : field ∈ binding.schema.fields) :
    binding.layout.reached? field.name = some (binding.column field, "") := by
  simp only [Layout.reached?, binding.position?_name member]

/-- Two fields do not share a column. -/
theorem Binding.column_injective {first second : Field α} (firstIn : first ∈ binding.schema.fields)
    (secondIn : second ∈ binding.schema.fields)
    (same : binding.column first = binding.column second) : first = second := by
  have firstHere := binding.column_name firstIn
  rw [same, binding.column_name secondIn] at firstHere
  exact binding.schema.eq_of_name firstIn secondIn (Option.some.inj firstHere).symm

/-- The values of a document in the column of a field are the values of the field. -/
theorem Binding.values_document (entity : α) {field : Field α}
    (member : field ∈ binding.schema.fields) :
    (binding.document entity).values (binding.column field) = field.values entity := by
  obtain ⟨before, after, split⟩ := List.append_of_mem member
  have distinct : (before ++ field :: after).Nodup :=
    split ▸ List.Nodup.of_map _ binding.schema.nodup_names
  have others {fields : List (Field α)} (inside : ∀ other ∈ fields, other ∈ binding.schema.fields)
      (apart : field ∉ fields) : Document.values (fields.flatMap fun other =>
        (other.values entity).map (fun value => (binding.column other, value)))
        (binding.column field) = [] := by
    refine Document.values_eq_nil fun entry entryIn same => apart ?_
    obtain ⟨other, otherIn, valueIn⟩ := List.mem_flatMap.mp entryIn
    obtain ⟨value, _, rfl⟩ := List.mem_map.mp valueIn
    rwa [binding.column_injective (inside other otherIn) member same] at otherIn
  have document : binding.document entity = (before ++ field :: after).flatMap fun other =>
      (other.values entity).map (fun value => (binding.column other, value)) := by
    rw [← split]
    rfl
  rw [document, List.flatMap_append, List.flatMap_cons, Document.values_append,
    Document.values_append, Document.values_map]
  obtain ⟨_, later, aparts⟩ := List.nodup_append.mp distinct
  rw [others (fun other otherIn => split ▸ List.mem_append_left _ otherIn)
      fun inside => aparts field inside field List.mem_cons_self rfl,
    others (fun other otherIn => split ▸ List.mem_append_right _ (List.mem_cons_of_mem _ otherIn))
      (List.nodup_cons.mp later).1,
    List.nil_append, List.append_nil]

/-! ### The layout of a schema -/

theorem Schema.position?_name {field : Field α} (member : field ∈ schema.fields) :
    (schema.layout.position? field.name).isSome := by
  rw [Layout.position?, List.findIdx?_isSome, List.any_eq_true]
  exact ⟨field.column, List.mem_map_of_mem member, by simp [Field.column]⟩

/-- The schema bound to its own layout, as it is when the index is made. -/
def Schema.bound : Binding α where
  schema := schema
  layout := schema.layout
  complete _ := schema.position?_name

theorem Schema.bind_layout : schema.bind schema.layout = .ok schema.bound := by
  rw [Schema.bind]
  split
  · rename_i field missing
    have absent := List.find?_some missing
    have present := schema.position?_name (List.mem_of_find?_eq_some missing)
    simp_all
  · rfl

/-- At the column of a field stands what the field asks for. -/
theorem Schema.layout_column {field : Field α} (member : field ∈ schema.fields) :
    schema.layout[schema.bound.column field]? = some field.column := by
  obtain ⟨inside, named, _⟩ :=
    List.findIdx?_eq_some_iff_getElem.mp (schema.bound.position?_name member)
  simp only [decide_eq_true_eq, Schema.bound, Schema.layout, List.getElem_map] at named
  have here := schema.eq_of_name
    (List.getElem_mem (by simpa [Schema.bound, Schema.layout] using inside)) member named
  have found := List.getElem?_eq_getElem inside
  simp only [Schema.bound, Schema.layout, List.getElem_map, here] at found ⊢
  exact found

theorem Schema.type?_column {field : Field α} (member : field ∈ schema.fields) :
    schema.layout.type? (schema.bound.column field) = some field.kind.columnType := by
  simp [Layout.type?, schema.layout_column member, Field.column]

/-- Two fields do not share a column of the schema. -/
theorem Schema.column_injective {first second : Field α} (firstIn : first ∈ schema.fields)
    (secondIn : second ∈ schema.fields)
    (same : schema.bound.column first = schema.bound.column second) : first = second :=
  schema.bound.column_injective firstIn secondIn same

/-- Hits can be put in the order of the key. -/
theorem Schema.sortColumn?_keyField :
    schema.layout.sortColumn? schema.keyField.name = some (some schema.bound.keyColumn) := by
  obtain ⟨exact, _, sortable⟩ := schema.keyField_fit
  have reached : schema.layout.reached? schema.keyField.name =
      some (schema.bound.keyColumn, "") := schema.bound.reached?_name schema.keyField_mem
  have here : schema.layout[schema.bound.keyColumn]? = some schema.keyField.column :=
    schema.layout_column schema.keyField_mem
  simp [Layout.sortColumn?, reached, here, Field.column, sortable, exact,
    FieldKind.columnType, FieldKind.isNumeric, ColumnType.isText]

/-! ### Documents of entities -/

variable (entity : α)

theorem Schema.mem_document {place : Nat} {value : FieldValue} :
    (place, value) ∈ schema.bound.document entity ↔
      ∃ field ∈ schema.fields, value ∈ field.values entity ∧ place = schema.bound.column field := by
  simp only [Binding.document, List.mem_flatMap, List.mem_map, Prod.mk.injEq]
  constructor
  · rintro ⟨field, fieldIn, value, valueIn, rfl, rfl⟩
    exact ⟨field, fieldIn, valueIn, rfl⟩
  · rintro ⟨field, fieldIn, valueIn, rfl⟩
    exact ⟨field, fieldIn, value, valueIn, rfl, rfl⟩

/-- The values of a document in the column of a field are the values of the field. -/
theorem Schema.values_document {field : Field α} (member : field ∈ schema.fields) :
    (schema.bound.document entity).values (schema.bound.column field) = field.values entity :=
  schema.bound.values_document entity member

/-- A document has a term in the column of a field if one of the values of the field has it. -/
theorem Schema.mem_terms_document {field : Field α} (member : field ∈ schema.fields)
    (value : FieldValue) :
    ⟨schema.bound.column field, value⟩ ∈ schema.layout.terms (schema.bound.document entity) ↔
      ∃ given ∈ field.values entity, value ∈ field.kind.columnType.terms given := by
  rw [Layout.terms, List.mem_flatMap]
  constructor
  · rintro ⟨⟨place, given⟩, entryIn, termIn⟩
    obtain ⟨other, otherIn, givenIn, rfl⟩ := (schema.mem_document entity).mp entryIn
    simp only [schema.type?_column otherIn, List.mem_map, Term.mk.injEq] at termIn
    obtain ⟨found, foundIn, sameColumn, rfl⟩ := termIn
    rw [schema.column_injective otherIn member sameColumn] at givenIn foundIn
    exact ⟨given, givenIn, foundIn⟩
  · rintro ⟨given, givenIn, termIn⟩
    refine ⟨(schema.bound.column field, given), ?_, ?_⟩
    · exact (schema.mem_document entity).mpr ⟨field, member, givenIn, rfl⟩
    · simp only [schema.type?_column member]
      exact List.mem_map_of_mem termIn

end KeyedIndex
