import KeyedIndex.Writer.Batch
import Mathlib.Data.List.Basic

/-!
What operations do to documents. An operation that the engine does not refuse does to all documents
what it does to them alone (`Operation.apply_effect`). A batch of such operations is committed
or rolled back as a whole: it leaves what its operations make of the documents one after the
other, or what was committed before (`Workspace.applyBatch_effects`).
-/
namespace KeyedIndex

/-- What an operation that is carried out alone makes of all documents. -/
def Operation.effect (layout : Layout) (documents : List Document) : Operation → List Document
  | .replace _ term document => documents.filter (layout.lacks term) ++ [document]
  | .delete _ term => documents.filter (layout.lacks term)
  | .deleteAll => []

/-- Whether the document that an operation adds, if it adds one, can be indexed. -/
def Operation.fits (layout : Layout) : Operation → Bool
  | .replace _ _ document => layout.accepts document
  | .delete _ _ | .deleteAll => true

/-- The engine refuses no operation of a batch. -/
def Mishaps.Accepting (mishaps : Mishaps) : Prop := ∀ position, mishaps.refuses position = false

/-- Whether a batch that the engine accepts cannot be committed. -/
def Mishaps.spoil (mishaps : Mishaps) (layout : Layout) (batch : List Operation) : Bool :=
  mishaps.failsCommit || !batch.all (Operation.fits layout)

/-! ### Changes between two commits -/

/-- All documents after some changes. -/
def Pending.documents (pending : Pending) : List Document :=
  pending.kept.documents ++ pending.added

theorem Pending.documents_delete (layout : Layout) (pending : Pending) (term : Term) :
    (pending.delete layout term).documents = pending.documents.filter (layout.lacks term) := by
  have kept : Snapshot.documents (pending.kept.map
      (fun segment => segment.filter (layout.lacks term))) =
      pending.kept.documents.filter (layout.lacks term) := by
    rw [Snapshot.documents, Snapshot.documents, List.flatMap_map, List.filter_flatMap]
    rfl
  simp only [Pending.documents, Pending.delete, kept, List.filter_append]

theorem Pending.documents_add (layout : Layout) (pending : Pending) (document : Document) :
    (pending.add layout document).documents = pending.documents ++ [document] := by
  simp [Pending.documents, Pending.add]

theorem Segment.ofDocuments_documents (documents : List Document) :
    Snapshot.documents (Segment.ofDocuments documents) = documents := by
  fun_induction Segment.ofDocuments documents with
  | case1 documents none => simpa [Snapshot.documents] using none
  | case2 documents some ih =>
    simp only [Snapshot.documents, List.flatMap_cons] at ih ⊢
    rw [ih, List.take_append_drop]

theorem Snapshot.documents_append (first second : Snapshot) :
    Snapshot.documents (first ++ second) = first.documents ++ second.documents :=
  List.flatMap_append

theorem Snapshot.documents_filter_nonempty (snapshot : Snapshot) :
    Snapshot.documents (snapshot.filter (fun segment => !segment.documents.isEmpty)) =
      snapshot.documents := by
  induction snapshot with
  | nil => rfl
  | cons segment rest ih =>
    simp only [Snapshot.documents] at ih ⊢
    cases empty : segment.documents with
    | nil => simp [empty, ih]
    | cons => simp [empty, ih]

/-- What is committed are all documents after the changes, unless one of them does not fit. -/
theorem Pending.commit?_eq_some {pending : Pending} {snapshot : Snapshot}
    (committed : pending.commit? = some snapshot) : snapshot.documents = pending.documents := by
  unfold Pending.commit? at committed
  split at committed
  · contradiction
  · obtain rfl := Option.some.inj committed
    rw [Snapshot.documents_append, Snapshot.documents_filter_nonempty,
      Segment.ofDocuments_documents, Pending.documents]

theorem Pending.commit?_isSome {pending : Pending} (fit : pending.unfit = false) :
    pending.commit?.isSome := by
  simp [Pending.commit?, fit]

/-! ### Batches -/

variable (layout : Layout) {mishaps : Mishaps}

theorem Operation.apply_effect (pending : Pending) (operation : Operation) :
    ∃ next, operation.apply layout false pending = (next, true) ∧
      next.documents = operation.effect layout pending.documents ∧
      next.unfit = (pending.unfit || !operation.fits layout) := by
  cases operation with
  | replace key term document =>
    refine ⟨_, rfl, ?_, rfl⟩
    rw [Pending.documents_add, Pending.documents_delete]
    rfl
  | delete key term =>
    exact ⟨_, rfl, Pending.documents_delete layout pending term, by simp [fits, Pending.delete]⟩
  | deleteAll =>
    exact ⟨_, rfl, by simp [Pending.documents, Pending.clear, Snapshot.documents, effect],
      by simp [fits, Pending.clear]⟩

theorem applyAll_effects (accepting : mishaps.Accepting) (position : Nat) (pending : Pending)
    (operations : List Operation) :
    ∃ last, applyAll layout mishaps.refuses position pending operations =
        (last, operations.map (fun _ => true)) ∧
      last.documents = operations.foldl (Operation.effect layout) pending.documents ∧
      last.unfit = (pending.unfit || !operations.all (Operation.fits layout)) := by
  induction operations generalizing position pending with
  | nil => exact ⟨pending, rfl, rfl, by simp⟩
  | cons operation rest ih =>
    obtain ⟨next, applied, nextDocuments, nextUnfit⟩ := operation.apply_effect layout pending
    obtain ⟨last, all, lastDocuments, lastUnfit⟩ := ih (position + 1) next
    refine ⟨last, ?_, ?_, ?_⟩
    · simp only [applyAll, accepting position, applied, all, List.map_cons]
    · rw [lastDocuments, nextDocuments, List.foldl_cons]
    · rw [lastUnfit, nextUnfit, List.all_cons, Bool.not_and, Bool.or_assoc]

theorem length_applyAll (refuses : Nat → Bool) (position : Nat) (pending : Pending)
    (operations : List Operation) :
    (applyAll layout refuses position pending operations).2.length = operations.length := by
  induction operations generalizing position pending with
  | nil => rfl
  | cons operation rest ih => simp [applyAll, ih]

theorem answers_all_accepted (operations : List Operation) (committed : Bool) :
    answers operations (operations.map (fun _ => true)) committed =
      operations.map (fun operation =>
        if committed then .ok () else .error (.write operation.key)) := by
  rw [answers, List.zipWith_map_right, List.zipWith_self]
  simp

/-- A batch that the engine accepts is committed, unless something spoils the commit: then it changes
    nothing, and all its operations have failed. -/
theorem Workspace.applyBatch_effects (accepting : mishaps.Accepting) (snapshot : Snapshot)
    {batch : List Operation} (some : batch ≠ []) :
    let applied := (Workspace.ofSnapshot snapshot).applyBatch layout mishaps batch
    if mishaps.spoil layout batch then
      applied = (.ofSnapshot snapshot, batch.map (fun operation => .error (.write operation.key)))
    else
      ∃ next, applied = (.ofSnapshot next, batch.map (fun _ => .ok ())) ∧
        next.documents = batch.foldl (Operation.effect layout) snapshot.documents := by
  obtain ⟨last, all, lastDocuments, lastUnfit⟩ :=
    applyAll_effects layout accepting 0 (.ofSnapshot snapshot) batch
  have accepted : (batch.map (fun _ => true)).any id = true := by
    obtain ⟨operation, rest, rfl⟩ := List.exists_cons_of_ne_nil some
    simp
  have unfit : last.unfit = !batch.all (Operation.fits layout) := by
    rw [lastUnfit, Pending.ofSnapshot, Bool.false_or]
  have start : (Pending.ofSnapshot snapshot).documents = snapshot.documents := by
    simp [Pending.documents, Pending.ofSnapshot]
  simp only [Workspace.applyBatch, Workspace.ofSnapshot, all, accepted, if_true,
    answers_all_accepted, Bool.false_eq_true, if_false]
  split
  · rename_i spoiled
    have none : (if mishaps.failsCommit = true then none else last.commit?) = none := by
      simpa [Mishaps.spoil, Pending.commit?, unfit, or_iff_not_imp_left] using spoiled
    simp only [none]
  · rename_i sound
    obtain ⟨commits, fit⟩ : mishaps.failsCommit = false ∧ last.unfit = false := by
      simpa [Mishaps.spoil, unfit] using sound
    obtain ⟨next, committed⟩ := Option.isSome_iff_exists.mp (Pending.commit?_isSome fit)
    refine ⟨next, by simp [commits, committed], ?_⟩
    rw [Pending.commit?_eq_some committed, lastDocuments, start]

end KeyedIndex
