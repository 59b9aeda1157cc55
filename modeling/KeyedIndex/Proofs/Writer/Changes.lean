import KeyedIndex.Index.Basic
import KeyedIndex.Proofs.Cache
import KeyedIndex.Proofs.Document.Codec
import KeyedIndex.Proofs.Writer.Effects

/-!
Changes of an index and of a store of entities. What a change does to the documents of an
index, it does to the documents of the entities of a store (`Change.effect_operation`), so a
batch that is committed leaves the documents of the store that it leaves
(`Workspace.applyBatch_changes`), and a batch that is not committed changes nothing.
-/
namespace KeyedIndex

variable {α κ : Type}

/-- A change that one may ask for. -/
inductive Change (α κ : Type) where
  | replace (entity : α)
  | delete (key : κ)
  | deleteAll

/-- The operation of a change. -/
def Change.operation [Key κ] [Entity α κ] (binding : Binding α) : Change α κ → Operation
  | .replace entity => binding.replacement entity
  | .delete key => binding.deletion key
  | .deleteAll => .deleteAll

/-- A store after a change. -/
def Cache.after [DecidableEq κ] [Entity α κ] (store : Cache α) : Change α κ → Cache α
  | .replace entity => store.insert entity
  | .delete key => store.erase key
  | .deleteAll => .empty

/-- Whether the values of an entity that is put into the index fit their fields. -/
def Change.fits (schema : Schema α) : Change α κ → Bool
  | .replace entity => schema.layout.accepts (schema.bound.document entity)
  | .delete _ | .deleteAll => true

/-- The entity that is put into the index is identified by the values of its key field. -/
def Change.Identified [Key κ] [Entity α κ] (schema : Schema α) : Change α κ → Prop
  | .replace entity => schema.Identifies entity
  | .delete _ | .deleteAll => True

/-- No value of the entity that is put into the index is too long for a term. -/
def Change.Bounded (schema : Schema α) : Change α κ → Prop
  | .replace entity => schema.Bounded entity
  | .delete _ | .deleteAll => True

/-- The answer to a change of a batch: it shares the fate of the batch. -/
def Change.reply [Key κ] [Entity α κ] (schema : Schema α) (closed : Bool)
    (batch : List (Change α κ)) (change : Change α κ) : Answer :=
  if closed then .error .writerClosed
  else if batch.all (Change.fits schema) then .ok ()
  else .error (.write (change.operation schema.bound).key)

section

variable [Key κ] [Entity α κ] {schema : Schema α} {batch : List (Change α κ)}

theorem Change.reply_closed : Change.reply schema true batch = fun _ => .error .writerClosed := by
  funext change
  simp [Change.reply]

theorem Change.reply_fit (fit : batch.all (Change.fits schema) = true) :
    Change.reply schema false batch = fun _ => .ok () := by
  funext change
  simp [Change.reply, fit]

theorem Change.reply_unfit (unfit : ¬ batch.all (Change.fits schema) = true) :
    Change.reply schema false batch =
      fun change => .error (.write (change.operation schema.bound).key) := by
  funext change
  simp [Change.reply, unfit]

end

/-- A store after the changes that have been acknowledged. -/
def Cache.record [DecidableEq κ] [Entity α κ] (store : Cache α)
    (receipts : List (Change α κ × Answer)) : Cache α :=
  receipts.foldl (fun store (change, answer) =>
    if answer.isOk then store.after change else store) store

section

variable [DecidableEq κ] [Entity α κ]

theorem Cache.record_ok (store : Cache α) (changes : List (Change α κ)) :
    store.record (changes.map (·, .ok ())) = changes.foldl Cache.after store := by
  rw [Cache.record, List.foldl_map]
  rfl

theorem Cache.record_error (store : Cache α) (changes : List (Change α κ))
    (error : Change α κ → Error) :
    store.record (changes.map (fun change => (change, .error (error change)))) = store := by
  rw [Cache.record, List.foldl_map]
  exact List.foldl_fixed' (fun _ => rfl) changes

theorem Cache.record_append (store : Cache α) (first second : List (Change α κ × Answer)) :
    store.record (first ++ second) = (store.record first).record second :=
  List.foldl_append

/-- What holds of all entities of a store and of those that are put into it holds of all entities
    afterwards. -/
theorem Cache.forall_record {holds : α → Prop} {store : Cache α}
    {receipts : List (Change α κ × Answer)} (inside : ∀ entity ∈ store.entities, holds entity)
    (replaced : ∀ entity, Change.replace entity ∈ receipts.map Prod.fst → holds entity) :
    ∀ entity ∈ (store.record receipts).entities, holds entity := by
  induction receipts generalizing store with
  | nil => exact inside
  | cons receipt rest ih =>
    obtain ⟨change, answer⟩ := receipt
    have after : ∀ entity ∈ (store.after change).entities, holds entity := by
      cases change with
      | replace entity =>
        intro other member
        rcases Cache.mem_insert.mp member with ⟨already, _⟩ | rfl
        · exact inside other already
        · exact replaced other List.mem_cons_self
      | delete key => exact fun other member => inside other (Cache.mem_erase.mp member).1
      | deleteAll => simp [Cache.after, Cache.empty]
    refine ih ?_ fun entity member => replaced entity (List.mem_cons_of_mem _ member)
    dsimp only
    split
    · exact after
    · exact inside

end

/-- The documents of a store. -/
def Schema.documents (schema : Schema α) (store : Cache α) : List Document :=
  store.entities.map schema.bound.document

/-- All entities of a store are identified by the values of their key fields, and no two have the
    same key. -/
structure Schema.Keyed [Key κ] [Entity α κ] (schema : Schema α) (store : Cache α) : Prop where
  identified : ∀ entity ∈ store.entities, schema.Identifies entity
  distinct : store.Distinct

section

variable [Key κ] [Entity α κ] {schema : Schema α} {store : Cache α}

theorem Schema.keyed_empty : schema.Keyed (Cache.empty : Cache α) :=
  ⟨by simp [Cache.empty], Cache.distinct_empty⟩

variable [DecidableEq κ]

theorem Schema.Keyed.after (keyed : schema.Keyed store) {change : Change α κ}
    (identified : change.Identified schema) : schema.Keyed (store.after change) := by
  cases change with
  | replace entity =>
    refine ⟨fun other member => ?_, keyed.distinct.insert entity⟩
    rcases Cache.mem_insert.mp member with ⟨inside, _⟩ | rfl
    · exact keyed.identified other inside
    · exact identified
  | delete key =>
    refine ⟨fun other member => ?_, keyed.distinct.erase key⟩
    exact keyed.identified other (Cache.mem_erase.mp member).1
  | deleteAll => exact Schema.keyed_empty

theorem Schema.Keyed.foldl_after {changes : List (Change α κ)} (keyed : schema.Keyed store)
    (identified : ∀ change ∈ changes, change.Identified schema) :
    schema.Keyed (changes.foldl Cache.after store) := by
  induction changes generalizing store with
  | nil => exact keyed
  | cons change rest ih =>
    obtain ⟨here, later⟩ := List.forall_mem_cons.mp identified
    exact ih (keyed.after here) later

/-- To delete a key from the documents of a store is to delete it from the store. -/
theorem Schema.Keyed.filter_lacks [LawfulKey κ] (keyed : schema.Keyed store) (key : κ) :
    (schema.documents store).filter (schema.layout.lacks (schema.bound.keyTerm key)) =
      schema.documents (store.erase key) := by
  rw [Schema.documents, List.filter_map, Schema.documents, Cache.erase]
  refine congrArg _ (List.filter_congr fun entity member => ?_)
  exact (keyed.identified entity member).lacks_keyTerm key

end

/-! ### Batches of changes -/

section

variable [Key κ] [Entity α κ] {schema : Schema α}

theorem Change.fits_operation (change : Change α κ) :
    (change.operation schema.bound).fits schema.layout = change.fits schema := by
  cases change <;> rfl

variable [LawfulKey κ] [DecidableEq κ] {store : Cache α}

/-- A change does to documents what it does to entities. -/
theorem Change.effect_operation (keyed : schema.Keyed store) (change : Change α κ) :
    (change.operation schema.bound).effect schema.layout (schema.documents store) =
      schema.documents (store.after change) := by
  cases change with
  | replace entity =>
    refine (congrArg (· ++ [_]) (keyed.filter_lacks (Entity.key entity))).trans ?_
    simp [Schema.documents, Cache.after, Cache.insert]
  | delete key => exact keyed.filter_lacks key
  | deleteAll => rfl

/-- Changes that are applied in order do to documents what they do to entities. -/
theorem Change.foldl_effect {changes : List (Change α κ)} (keyed : schema.Keyed store)
    (identified : ∀ change ∈ changes, change.Identified schema) :
    (changes.map (Change.operation schema.bound)).foldl (Operation.effect schema.layout)
        (schema.documents store) = schema.documents (changes.foldl Cache.after store) := by
  induction changes generalizing store with
  | nil => rfl
  | cons change rest ih =>
    obtain ⟨here, later⟩ := List.forall_mem_cons.mp identified
    rw [List.map_cons, List.foldl_cons, change.effect_operation keyed, ih (keyed.after here) later]
    rfl

/-- A batch whose values fit is committed, and leaves the documents of the store that the changes
    leave; any other batch changes nothing. -/
theorem Workspace.applyBatch_changes {changes : List (Change α κ)} {snapshot : Snapshot}
    (keyed : schema.Keyed store) (identified : ∀ change ∈ changes, change.Identified schema)
    (some : changes ≠ []) (same : snapshot.documents = schema.documents store) :
    let applied := (Workspace.ofSnapshot snapshot).applyBatch schema.layout .none
      (changes.map (Change.operation schema.bound))
    if changes.all (Change.fits schema) then
      ∃ next, applied = (.ofSnapshot next, changes.map (fun _ => .ok ())) ∧
        next.documents = schema.documents (changes.foldl Cache.after store)
    else applied = (.ofSnapshot snapshot, changes.map (fun change =>
      .error (.write (change.operation schema.bound).key))) := by
  have accepting : Mishaps.none.Accepting := fun _ => rfl
  have present : changes.map (Change.operation schema.bound) ≠ [] := by simpa using some
  have applied := Workspace.applyBatch_effects schema.layout accepting snapshot present
  have fits : (changes.map (Change.operation schema.bound)).all (Operation.fits schema.layout) =
      changes.all (Change.fits schema) := by
    rw [List.all_map]
    exact congrArg _ (funext Change.fits_operation)
  have spoiled : Mishaps.none.spoil schema.layout (changes.map (Change.operation schema.bound)) =
      !changes.all (Change.fits schema) := by
    rw [Mishaps.spoil, fits]
    rfl
  rw [spoiled, List.map_map, List.map_map, same, Change.foldl_effect keyed identified] at applied
  cases fit : changes.all (Change.fits schema) <;> simpa [fit, Function.comp_def] using applied

end

end KeyedIndex
