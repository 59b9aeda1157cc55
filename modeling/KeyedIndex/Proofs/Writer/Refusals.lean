import KeyedIndex.Proofs.Writer.Effects

/-!
What operations leave that the engine refuses. A replacement that is refused has deleted the
documents of its key already (`Operation.residue`). As soon as another operation is committed with
it, in the same batch or in a later one, they are gone (`Workspace.applyBatch_refusals`).
-/
namespace KeyedIndex

/-- What an operation makes of all documents if the engine refuses the call that it may refuse. -/
def Operation.residue (layout : Layout) (documents : List Document) : Operation → List Document
  | .replace _ term _ | .delete _ term => documents.filter (layout.lacks term)
  | .deleteAll => documents

/-- What operations make of all documents, the first of which has a position in its batch, where the
    engine refuses some. -/
def residues (layout : Layout) (refuses : Nat → Bool) (position : Nat) (documents : List Document) :
    List Operation → List Document
  | [] => documents
  | operation :: rest =>
    residues layout refuses (position + 1)
      (if refuses position then operation.residue layout documents
        else operation.effect layout documents) rest

variable (layout : Layout)

theorem Operation.apply_residue (pending : Pending) (operation : Operation) :
    (operation.apply layout true pending).1.documents =
      operation.residue layout pending.documents := by
  cases operation with
  | replace key term document => exact Pending.documents_delete layout pending term
  | delete key term => exact Pending.documents_delete layout pending term
  | deleteAll => rfl

theorem applyAll_residues (refuses : Nat → Bool) (position : Nat) (pending : Pending)
    (operations : List Operation) :
    (applyAll layout refuses position pending operations).1.documents =
      residues layout refuses position pending.documents operations := by
  induction operations generalizing position pending with
  | nil => rfl
  | cons operation rest ih =>
    simp only [applyAll, residues, ih]
    cases refuses position with
    | true => rw [if_pos rfl, operation.apply_residue]
    | false =>
      obtain ⟨next, applied, documents, _⟩ := operation.apply_effect layout pending
      rw [applied, if_neg Bool.false_ne_true, documents]

theorem ok_not_mem_answers (operations : List Operation) (accepted : List Bool) :
    .ok () ∉ answers operations accepted false := by
  intro member
  obtain ⟨position, inside, found⟩ := List.mem_iff_getElem.mp member
  simp [answers] at found

theorem ok_mem_answers {operations : List Operation} {accepted : List Bool}
    (same : accepted.length = operations.length) (some : true ∈ accepted) :
    .ok () ∈ answers operations accepted true := by
  obtain ⟨position, inside, found⟩ := List.mem_iff_getElem.mp some
  have answered : position < (answers operations accepted true).length := by
    rw [answers, List.length_zipWith]
    omega
  refine List.mem_iff_getElem.mpr ⟨position, answered, ?_⟩
  simp [answers, found]

/-- If an operation of a batch succeeds, what is committed is what all operations leave of the
    documents, those included that were refused in this batch or in an earlier one; otherwise
    nothing is committed. -/
theorem Workspace.applyBatch_refusals (workspace : Workspace) (mishaps : Mishaps)
    (batch : List Operation) :
    let applied := workspace.applyBatch layout mishaps batch
    (.ok () ∈ applied.2 → applied.1.committed.documents =
        residues layout mishaps.refuses 0 workspace.pending.documents batch) ∧
      (.ok () ∉ applied.2 → applied.1.committed = workspace.committed) := by
  have left := applyAll_residues layout mishaps.refuses 0 workspace.pending batch
  have sized := length_applyAll layout mishaps.refuses 0 workspace.pending batch
  have none := ok_not_mem_answers batch
  dsimp only [applyBatch]
  generalize applyAll layout mishaps.refuses 0 workspace.pending batch = all at left sized
  obtain ⟨pending, accepted⟩ := all
  split
  · rename_i some
    split
    · rename_i next committed
      have commits : pending.commit? = .some next := by
        cases fails : mishaps.failsCommit <;> simp_all
      have answered := ok_mem_answers sized (by simpa using some)
      refine ⟨fun _ => ?_, fun absent => absurd answered absent⟩
      rw [← left]
      exact Pending.commit?_eq_some commits
    · exact ⟨fun answered => absurd answered (none _), fun _ => rfl⟩
  · exact ⟨fun answered => absurd answered (none _), fun _ => rfl⟩

/-- A replacement that the engine refuses fails, but the document that it was to replace is lost with
    the next operation of the batch that is committed. -/
theorem Workspace.refused_replacement_deletes :
    let layout : Layout := [⟨"key", .text .whole, true, true⟩]
    let document : Document := [(0, .text "a")]
    let workspace := Workspace.ofSnapshot [⟨[document], by decide⟩]
    let batch : List Operation := [.replace "a" ⟨0, .text "a"⟩ document, .delete "b" ⟨0, .text "b"⟩]
    let applied := workspace.applyBatch layout ⟨fun position => position = 0, false⟩ batch
    applied.2 = [.error (.write "a"), .ok ()] ∧ applied.1.committed.documents = [] := by
  intro layout document workspace batch applied
  have answered : applied.2 = [.error (.write "a"), .ok ()] := rfl
  refine ⟨answered, ?_⟩
  refine (workspace.applyBatch_refusals layout ⟨fun position => position = 0, false⟩ batch).1 ?_
  exact List.mem_of_mem_tail (List.mem_singleton_self _)

end KeyedIndex
