import KeyedIndex.Engine.Snapshot
import KeyedIndex.Group.Schema
import KeyedIndex.Proofs.Document.Bundle
import KeyedIndex.Proofs.Number.Integer
import KeyedIndex.Proofs.Query.Meaning

/-!
Documents of entities and what is read back from them: their keys and their stored fields.
-/
namespace KeyedIndex

/-! ### Keys

Documents and the keys of their entities. If the key field of an entity has one value, the text
of the key, then the term of a key is a term of the document exactly if the entity has the
key (`Schema.Identifies.lacks_keyTerm`), and the key can be read back from the document
(`Schema.Identifies.key?_document`).
-/

section

variable {α κ : Type} [Key κ]

/-- The key of an entity is read back if its text is the first value of the key field. -/
theorem Binding.key?_document [LawfulKey κ] (binding : Binding α) {entity : α} {key : κ}
    (first : (binding.schema.keyField.values entity).head? = some (.text (Key.text key))) :
    binding.key? (binding.document entity) = some key := by
  have values : (binding.document entity).values binding.keyColumn =
      binding.schema.keyField.values entity :=
    binding.values_document entity binding.schema.keyField_mem
  simp [Binding.key?, values, first, FieldValue.text?, LawfulKey.ofText?_text]

variable [Entity α κ]

/-- The key field of an entity has one value, the text of the key, which is not too long for a
    term. -/
structure Schema.Identifies (schema : Schema α) (entity : α) : Prop where
  values : schema.keyField.values entity = [.text (Key.text (Entity.key entity))]
  short : Text.byteLength (Key.text (Entity.key entity)) ≤ termLimit

theorem Key.text_injective [LawfulKey κ] {first second : κ}
    (same : Key.text first = Key.text second) : first = second := by
  have read := LawfulKey.ofText?_text first
  rw [same, LawfulKey.ofText?_text second] at read
  exact (Option.some.inj read).symm

variable {schema : Schema α} {entity : α}

theorem Schema.keyField_columnType (schema : Schema α) :
    schema.keyField.kind.columnType = .text .whole := by
  rw [schema.keyField_fit.1]
  rfl

/-- The term of a key is a term of the documents of the entities with the key. -/
theorem Schema.Identifies.mem_terms [LawfulKey κ] (identifies : schema.Identifies entity)
    (key : κ) :
    schema.bound.keyTerm key ∈ schema.layout.terms (schema.bound.document entity) ↔
      Entity.key entity = key := by
  rw [Binding.keyTerm, Binding.keyColumn]
  rw [show schema.bound.schema = schema from rfl, schema.mem_terms_document entity schema.keyField_mem,
    schema.keyField_columnType, identifies.values]
  simp only [List.mem_singleton, exists_eq_left, mem_terms_whole, FieldValue.text.injEq]
  constructor
  · rintro ⟨same, _⟩
    exact Key.text_injective same
  · rintro rfl
    exact ⟨rfl, identifies.short⟩

theorem Schema.Identifies.lacks_keyTerm [LawfulKey κ] [DecidableEq κ]
    (identifies : schema.Identifies entity) (key : κ) :
    schema.layout.lacks (schema.bound.keyTerm key) (schema.bound.document entity) =
      decide (Entity.key entity ≠ key) := by
  rw [Layout.lacks, Bool.eq_iff_iff]
  simp [identifies.mem_terms key]

/-- The key of an entity can be read back from its document. -/
theorem Schema.Identifies.key?_document [LawfulKey κ] (identifies : schema.Identifies entity) :
    schema.bound.key? (schema.bound.document entity) = some (Entity.key entity) := by
  refine schema.bound.key?_document ?_
  rw [show schema.bound.schema = schema from rfl, identifies.values]
  rfl

end

/-! ### Codecs

What a document keeps of an entity. A schema can be bound to every layout that has all its fields
(`Schema.bind_of_complete`), and from the documents under such a binding the keys and the values of
the stored fields are read back as they were (`Schema.bind_keeps`).
-/

/-- Accounts are read back from their decimal texts. -/
instance : LawfulKey AccountId where
  ofText?_text account := by
    have inside := Number.int32_has account.number
    have read := toOption_eq_some.mp (Number.Interval.read?_decimal inside)
    simp only [Key.ofText?, Key.text, AccountId.text, AccountId.ofText, read, Int32.ofInt_toInt]
    rfl

variable {α κ : Type} (schema : Schema α)

/-- A layout that has all fields of a schema is one that the schema can be bound to. -/
theorem Schema.bind_of_complete {layout : Layout}
    (complete : ∀ field ∈ schema.fields, ∃ column ∈ layout, column.name = field.name) :
    ∃ binding, schema.bind layout = .ok binding ∧ binding.schema = schema ∧
      binding.layout = layout := by
  have present : ∀ field ∈ schema.fields, (layout.position? field.name).isNone = false := by
    intro field member
    obtain ⟨column, columnIn, named⟩ := complete field member
    rw [Option.isNone_eq_false_iff, Layout.position?, List.findIdx?_isSome, List.any_eq_true]
    exact ⟨column, columnIn, by simpa using named⟩
  unfold Schema.bind
  split
  · rename_i field missing
    have absent := List.find?_some missing
    rw [present field (List.mem_of_find?_eq_some missing)] at absent
    contradiction
  · exact ⟨_, rfl, rfl, rfl⟩

variable (binding : Binding α)

/-- In a bundle of the document of an entity stand the fields that are selected and have a value
    that fits. -/
theorem Binding.mem_bundle_document (entity : α) (wanted : Option (List String)) (name : String)
    (values : List FieldValue) :
    (name, values) ∈ (binding.bundle (binding.document entity) wanted).entries ↔
      ∃ field ∈ binding.schema.fields, field.name = name ∧ binding.selects wanted field = true ∧
        values = (field.values entity).filter (fun value => value.fits field.kind) ∧
        values ≠ [] := by
  have fitting {field : Field α} (member : field ∈ binding.schema.fields) :
      binding.fitting (binding.document entity) field =
        (field.values entity).filter (fun value => value.fits field.kind) := by
    rw [Binding.fitting, binding.values_document entity member]
  rw [(binding.bundle_legal _ wanted).mem_entries]
  constructor
  · rintro ⟨rfl, present⟩
    by_cases known : ∃ field ∈ binding.schema.fields, name = field.name
    · obtain ⟨field, member, rfl⟩ := known
      rw [binding.get_bundle _ wanted member] at present ⊢
      by_cases selected : binding.selects wanted field = true
      · rw [if_pos selected] at present ⊢
        exact ⟨field, member, rfl, selected, fitting member, present⟩
      · rw [if_neg selected] at present
        contradiction
    · refine absurd (binding.get_bundle_of_unknown _ wanted fun field member same => ?_) present
      exact known ⟨field, member, same⟩
  · rintro ⟨field, member, rfl, selected, rfl, present⟩
    refine ⟨?_, present⟩
    rw [binding.get_bundle _ wanted member, if_pos selected, fitting member]

/-- A schema can be bound to every layout that has all its fields, whatever their order and whatever
    other columns there are. The key of every entity is then read back from its document, for every
    kind of keys; and a bundle of the document has exactly those fields that are stored, are the
    key or wanted, and have a value that fits, each with all these values in their order. -/
theorem Schema.bind_keeps {layout : Layout}
    (complete : ∀ field ∈ schema.fields, ∃ column ∈ layout, column.name = field.name) :
    (LawfulKey String ∧ LawfulKey AccountId ∧ LawfulKey GroupUuid) ∧
      ∃ binding, schema.bind layout = .ok binding ∧ ∀ entity : α,
        (∀ {κ : Type} [Key κ] [LawfulKey κ] (key : κ),
          (schema.keyField.values entity).head? = some (.text (Key.text key)) →
            binding.key? (binding.document entity) = some key) ∧
        ∀ wanted : Option (List String),
          let bundle := binding.bundle (binding.document entity) wanted
          bundle.names.Pairwise (Text.before · ·) ∧
            ∀ name values, (name, values) ∈ bundle.entries ↔
              ∃ field ∈ schema.fields, field.name = name ∧ field.stored = true ∧
                (name = schema.keyField.name ∨ ∀ names, wanted = some names → name ∈ names) ∧
                values = (field.values entity).filter (fun value => value.fits field.kind) ∧
                values ≠ [] := by
  refine ⟨⟨inferInstance, inferInstance, inferInstance⟩, ?_⟩
  obtain ⟨binding, bound, rfl, -⟩ := schema.bind_of_complete complete
  refine ⟨binding, bound, fun entity => ⟨fun key first => binding.key?_document first, ?_⟩⟩
  intro wanted bundle
  refine ⟨(binding.bundle_legal _ wanted).sorted, fun name values => ?_⟩
  have selects (field : Field α) : binding.selects wanted field = true ↔ field.stored = true ∧
      (field.name = binding.schema.keyField.name ∨
        ∀ names, wanted = some names → field.name ∈ names) := by
    cases wanted <;> simp [Binding.selects]
  rw [binding.mem_bundle_document]
  constructor
  · rintro ⟨field, member, rfl, selected, given, present⟩
    obtain ⟨stored, wants⟩ := (selects field).mp selected
    exact ⟨field, member, rfl, stored, wants, given, present⟩
  · rintro ⟨field, member, rfl, stored, wants, given, present⟩
    exact ⟨field, member, rfl, (selects field).mpr ⟨stored, wants⟩, given, present⟩

/-- A group under a layout with its columns in another order and one more, of which the name is
    wanted and a field that does not exist. -/
theorem Schema.bind_keeps_name :
    let group := Group.ofName 1 ⟨"g1", by decide, by decide⟩ "admins" .epoch
    let layout : Layout := ⟨"extra", .number, true, true⟩ :: GroupSchema.second.layout.reverse
    ∃ binding, GroupSchema.second.bind layout = .ok binding ∧
      binding.key? (binding.document group) = some group.uuid ∧
      let bundle := binding.bundle (binding.document group) (some ["name", "nosuch"])
      ("uuid", [.text "g1"]) ∈ bundle.entries ∧ ("name", [.text "admins"]) ∈ bundle.entries ∧
        ∀ values, ("owneruuid", values) ∉ bundle.entries := by
  intro group layout
  have complete : ∀ field ∈ GroupSchema.second.fields,
      ∃ column ∈ layout, column.name = field.name := by decide
  obtain ⟨_, binding, bound, kept⟩ := GroupSchema.second.bind_keeps complete
  obtain ⟨key, bundles⟩ := kept group
  have entries := (bundles (some ["name", "nosuch"])).2
  refine ⟨binding, bound, key group.uuid rfl, ?_, ?_, fun values => ?_⟩
  · rw [entries]
    exact ⟨GroupSchema.uuid, by simp [GroupSchema.second, GroupSchema.firstFields], rfl, rfl,
      .inl rfl, rfl, by simp⟩
  · rw [entries]
    exact ⟨GroupSchema.name, by simp [GroupSchema.second, GroupSchema.firstFields], rfl, rfl,
      .inr (by simp), rfl, by simp⟩
  · rw [entries]
    rintro ⟨field, member, named, stored, isKey | isWanted, given, present⟩
    · exact absurd isKey (by decide)
    · simpa using isWanted _ rfl

end KeyedIndex
