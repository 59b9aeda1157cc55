import KeyedIndex.Document.Basic
import KeyedIndex.Proofs.Schema.Columns
import KeyedIndex.Proofs.Text.Order

/-!
Bundles of documents. A value that is added to a bundle stands behind those that its name has
already, and the values of other names stay (`Bundle.Legal.get_insert`). So a bundle of a document
has under the name of a field what the document has in the column of the field, as far as it fits
and if the field is selected (`Binding.get_bundle`).
-/
namespace KeyedIndex

/-- The names are in order, and each of them has a value. -/
structure Bundle.Legal (bundle : Bundle) : Prop where
  sorted : bundle.names.Pairwise (Text.before · ·)
  present : ∀ entry ∈ bundle.entries, entry.2 ≠ []

section

variable {entries : List (String × List FieldValue)} (name other : String) (value : FieldValue)

/-! ### Entries -/

theorem lookup_cons_eq (head : String) (values : List FieldValue) :
    ((head, values) :: entries).lookup name =
      if name = head then some values else entries.lookup name := by
  by_cases same : name = head
  · simp [same]
  · simp [List.lookup_cons, beq_false_of_ne same, same]

theorem lookup_of_before (behind : ∀ other ∈ entries.map Prod.fst, Text.before name other) :
    entries.lookup name = none := by
  refine List.lookup_eq_none_iff.mpr fun entry member => ?_
  have before := behind entry.1 (List.mem_map_of_mem member)
  by_cases same : name = entry.1
  · rw [same, Text.before_irrefl] at before
    contradiction
  · simpa using same

theorem mem_insertEntry_names :
    other ∈ (insertEntry name value entries).map Prod.fst ↔
      other = name ∨ other ∈ entries.map Prod.fst := by
  fun_induction insertEntry name value entries with
  | case1 => simp
  | case2 => simp
  | case3 => simp
  | case4 head values rest differs notBefore ih =>
    simp only [List.map_cons, List.mem_cons, ih]
    tauto

theorem insertEntry_sorted (sorted : (entries.map Prod.fst).Pairwise (Text.before · ·)) :
    ((insertEntry name value entries).map Prod.fst).Pairwise (Text.before · ·) := by
  fun_induction insertEntry name value entries with
  | case1 => simp
  | case2 => exact sorted
  | case3 head values rest differs less =>
    refine List.pairwise_cons.mpr ⟨fun other member => ?_, sorted⟩
    rcases List.mem_cons.mp member with rfl | later
    · exact less
    · exact Text.before_trans less ((List.pairwise_cons.mp sorted).1 other later)
  | case4 head values rest differs notBefore ih =>
    obtain ⟨behind, restSorted⟩ := List.pairwise_cons.mp sorted
    refine List.pairwise_cons.mpr ⟨fun other member => ?_, ih restSorted⟩
    rcases (mem_insertEntry_names name other value).mp member with rfl | later
    · rcases Text.before_trichotomy other head with less | same | greater
      · exact absurd less notBefore
      · exact absurd same differs
      · exact greater
    · exact behind other later

/-- The value is added to those of its name, and nothing else changes. -/
theorem lookup_insertEntry (sorted : (entries.map Prod.fst).Pairwise (Text.before · ·)) :
    (insertEntry name value entries).lookup other =
      if other = name then some ((entries.lookup name).getD [] ++ [value])
      else entries.lookup other := by
  fun_induction insertEntry name value entries with
  | case1 => simp [lookup_cons_eq]
  | case2 values rest => by_cases same : other = name <;> simp [lookup_cons_eq, same]
  | case3 head values rest differs less =>
    -- The name comes before all others, so that it has no values yet.
    have absent : ((head, values) :: rest).lookup name = none := by
      refine lookup_of_before name fun later member => ?_
      rcases List.mem_cons.mp member with rfl | inside
      · exact less
      · exact Text.before_trans less ((List.pairwise_cons.mp sorted).1 later inside)
    rw [absent, lookup_cons_eq]
    rfl
  | case4 head values rest differs notBefore ih =>
    rw [lookup_cons_eq, ih (List.pairwise_cons.mp sorted).2, lookup_cons_eq name, if_neg differs,
      lookup_cons_eq other]
    by_cases same : other = name
    · simp [same, differs]
    · simp [same]

theorem insertEntry_present (present : ∀ entry ∈ entries, entry.2 ≠ []) :
    ∀ entry ∈ insertEntry name value entries, entry.2 ≠ [] := by
  fun_induction insertEntry name value entries with
  | case1 => simp
  | case2 values rest =>
    obtain ⟨_, later⟩ := List.forall_mem_cons.mp present
    exact List.forall_mem_cons.mpr ⟨by simp, later⟩
  | case3 head values rest differs less => exact List.forall_mem_cons.mpr ⟨by simp, present⟩
  | case4 head values rest differs notBefore ih =>
    obtain ⟨here, later⟩ := List.forall_mem_cons.mp present
    exact List.forall_mem_cons.mpr ⟨here, ih later⟩

end

/-! ### Bundles -/

variable {bundle : Bundle}

theorem Bundle.legal_empty : Bundle.empty.Legal := ⟨List.Pairwise.nil, by simp [Bundle.empty]⟩

theorem Bundle.Legal.insert (legal : bundle.Legal) (name : String) (value : FieldValue) :
    (bundle.insert name value).Legal :=
  ⟨insertEntry_sorted name value legal.sorted, insertEntry_present name value legal.present⟩

theorem Bundle.Legal.get_insert (legal : bundle.Legal) (name other : String) (value : FieldValue) :
    (bundle.insert name value).get other =
      bundle.get other ++ if other = name then [value] else [] := by
  rw [Bundle.get, Bundle.insert, lookup_insertEntry name other value legal.sorted]
  by_cases same : other = name <;> simp [same, Bundle.get]

/-- A name stands in a bundle with its values, of which there is at least one. -/
theorem Bundle.Legal.mem_entries (legal : bundle.Legal) (name : String)
    (values : List FieldValue) :
    (name, values) ∈ bundle.entries ↔ bundle.get name = values ∧ values ≠ [] := by
  constructor
  · intro member
    obtain ⟨before, after, split⟩ := List.append_of_mem member
    have sorted := legal.sorted
    simp only [Bundle.names, split, List.map_append, List.map_cons] at sorted
    have found : bundle.entries.lookup name = some values := by
      refine List.lookup_eq_some_iff.mpr ⟨before, after, split, fun entry entryIn => ?_⟩
      have less := (List.pairwise_append.mp sorted).2.2 entry.1 (List.mem_map_of_mem entryIn) name
        List.mem_cons_self
      by_cases same : name = entry.1
      · rw [← same, Text.before_irrefl] at less
        contradiction
      · simpa using same
    exact ⟨by simp [Bundle.get, found], legal.present _ member⟩
  · rintro ⟨rfl, present⟩
    cases found : bundle.entries.lookup name with
    | none => simp [Bundle.get, found] at present
    | some values =>
      obtain ⟨before, after, split, _⟩ := List.lookup_eq_some_iff.mp found
      rw [Bundle.get, found, split]
      simp

/-- Add values in order behind those that a name has already. -/
def Bundle.insertAll (bundle : Bundle) (name : String) (values : List FieldValue) : Bundle :=
  values.foldl (fun bundle value => bundle.insert name value) bundle

theorem Bundle.Legal.insertAll (legal : bundle.Legal) (name : String) (values : List FieldValue) :
    (bundle.insertAll name values).Legal ∧ ∀ other, (bundle.insertAll name values).get other =
      bundle.get other ++ if other = name then values else [] := by
  induction values generalizing bundle with
  | nil => exact ⟨legal, fun other => by simp [Bundle.insertAll]⟩
  | cons value rest ih =>
    obtain ⟨later, get⟩ := ih (legal.insert name value)
    refine ⟨later, fun other => (get other).trans ?_⟩
    rw [legal.get_insert]
    by_cases same : other = name <;> simp [same]

/-- Fields give their values to their own names. -/
theorem Bundle.Legal.foldl_insertAll {α : Type} (legal : bundle.Legal) (give : Field α → List FieldValue)
    (fields : List (Field α)) :
    let filled := fields.foldl (fun bundle field => bundle.insertAll field.name (give field)) bundle
    filled.Legal ∧ ∀ name, filled.get name =
      bundle.get name ++ (fields.filter (fun field => name = field.name)).flatMap give := by
  induction fields generalizing bundle with
  | nil => exact ⟨legal, fun name => by simp⟩
  | cons field rest ih =>
    obtain ⟨here, getHere⟩ := legal.insertAll field.name (give field)
    obtain ⟨later, get⟩ := ih here
    refine ⟨later, fun name => (get name).trans ?_⟩
    rw [getHere, List.filter_cons]
    by_cases same : name = field.name <;> simp [same]

/-! ### Bundles of documents -/

variable {α : Type} (binding : Binding α) (document : Document) (wanted : Option (List String))

/-- The values of a document in the column of a field that fit the field. -/
def Binding.fitting (field : Field α) : List FieldValue :=
  (document.values (binding.column field)).filter (fun value => value.fits field.kind)

theorem Binding.bundle_legal : (binding.bundle document wanted).Legal :=
  (Bundle.legal_empty.foldl_insertAll (binding.fitting document) _).1

theorem Binding.get_bundle_name (name : String) : (binding.bundle document wanted).get name =
    ((binding.schema.fields.filter (binding.selects wanted)).filter
      (fun field => name = field.name)).flatMap (binding.fitting document) :=
  (Bundle.legal_empty.foldl_insertAll (binding.fitting document) _).2 name

/-- Under the name of a field that is selected stand its values that fit, in order. -/
theorem Binding.get_bundle {field : Field α} (member : field ∈ binding.schema.fields) :
    (binding.bundle document wanted).get field.name =
      if binding.selects wanted field then binding.fitting document field else [] := by
  rw [binding.get_bundle_name, List.filter_comm, binding.schema.filter_name member]
  by_cases selected : binding.selects wanted field <;> simp [selected]

/-- A name that no field has has no values. -/
theorem Binding.get_bundle_of_unknown {name : String}
    (unknown : ∀ field ∈ binding.schema.fields, name ≠ field.name) :
    (binding.bundle document wanted).get name = [] := by
  rw [binding.get_bundle_name, List.flatMap_eq_nil_iff]
  intro field member
  obtain ⟨inside, same⟩ := List.mem_filter.mp member
  exact absurd (of_decide_eq_true same) (unknown field (List.mem_of_mem_filter inside))

end KeyedIndex
