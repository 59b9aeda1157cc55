import KeyedIndex.Proofs.Index.Interleaving
import KeyedIndex.Proofs.Writer.Refusals

/-!
Commits of shared indexes. The operations of a batch are applied one by one while others go on, but
what is committed is what the whole batch makes of the last commit, as if it were carried out at
once (`SharedIndex.run_whole`).
-/
namespace KeyedIndex

variable {layout : Layout} {policy : ReloadPolicy}

/-! ### Operations that are applied one by one -/

/-- Whether an operation was accepted says all about what was refused. -/
theorem Operation.apply_not_accepted (layout : Layout) (refused : Bool) (pending : Pending)
    (operation : Operation) :
    operation.apply layout (!(operation.apply layout refused pending).2) pending =
      operation.apply layout refused pending := by
  cases operation <;> cases refused <;> rfl

theorem applyAll_concat (layout : Layout) (refuses : Nat → Bool) (position : Nat) (pending : Pending)
    (operations : List Operation) (operation : Operation) :
    applyAll layout refuses position pending (operations ++ [operation]) =
      let first := applyAll layout refuses position pending operations
      let last := operation.apply layout (refuses (position + operations.length)) first.1
      (last.1, first.2 ++ [last.2]) := by
  induction operations generalizing position pending with
  | nil => rfl
  | cons head rest ih =>
    have place : position + 1 + rest.length = position + (head :: rest).length := by
      rw [List.length_cons]
      omega
    simp only [List.cons_append, applyAll, ih, place]

theorem applyAll_congr {refuses others : Nat → Bool} {position : Nat} {operations : List Operation}
    (same : ∀ place, position ≤ place → place < position + operations.length →
      refuses place = others place) (pending : Pending) :
    applyAll layout refuses position pending operations =
      applyAll layout others position pending operations := by
  induction operations generalizing position pending with
  | nil => rfl
  | cons head rest ih =>
    have later : ∀ pending, applyAll layout refuses (position + 1) pending rest =
        applyAll layout others (position + 1) pending rest := by
      refine ih fun place after before => same place (by omega) ?_
      rw [List.length_cons]
      omega
    have here : refuses position = others position :=
      same position (Nat.le_refl _) (by rw [List.length_cons]; omega)
    simp only [applyAll, later, here]

/-- The engine refuses what was not accepted. -/
def refusals (accepted : List Bool) (position : Nat) : Bool := accepted[position]? = some false

theorem refusals_concat_of_lt {accepted : List Bool} {position : Nat}
    (inside : position < accepted.length) (flag : Bool) :
    refusals (accepted ++ [flag]) position = refusals accepted position := by
  rw [refusals, refusals, List.getElem?_append_left inside]

theorem refusals_concat_length (accepted : List Bool) (flag : Bool) :
    refusals (accepted ++ [flag]) accepted.length = !flag := by
  cases flag <;> simp [refusals]

/-- Who has been accepted stands in the batch at the place of the acceptance. -/
theorem mem_taken {batch : List Request} {accepted : List Bool} {request : Request} :
    request ∈ taken batch accepted ↔
      ∃ place : Nat, batch[place]? = some request ∧ accepted[place]? = some true := by
  simp only [taken, List.mem_map, List.mem_filter, Prod.exists]
  constructor
  · rintro ⟨found, flag, ⟨member, rfl⟩, rfl⟩
    obtain ⟨place, here⟩ := List.mem_iff_getElem?.mp member
    exact ⟨place, List.getElem?_zip_eq_some.mp here⟩
  · rintro ⟨place, here⟩
    exact ⟨request, true, ⟨List.mem_iff_getElem?.mpr ⟨place, List.getElem?_zip_eq_some.mpr here⟩, rfl⟩,
      rfl⟩

/-- Changes are committed as a whole, or nothing is. -/
theorem Workspace.commit_cases (workspace : Workspace) (fails : Bool) :
    (∃ next, fails = false ∧ workspace.pending.commit? = some next ∧
      workspace.commit fails = (.ofSnapshot next, true)) ∨
    (if fails then none else workspace.pending.commit?) = none ∧
      workspace.commit fails = (.ofSnapshot workspace.committed, false) := by
  unfold Workspace.commit
  split
  · rename_i next committed
    obtain ⟨sound, commits⟩ := Option.ite_none_left_eq_some.mp committed
    exact .inl ⟨next, by simpa using sound, commits, rfl⟩
  · rename_i none
    exact .inr ⟨none, rfl⟩

/-! ### Whole batches -/

variable {start index next last : SharedIndex} {event : IndexEvent} {before events : List IndexEvent}

/-- The worker has begun to apply its batch at some event, when the index was `holder`. -/
def SharedIndex.BeganOn (layout : Layout) (policy : ReloadPolicy) (start : SharedIndex)
    (events : List IndexEvent) (holder : SharedIndex) : Prop :=
  ∃ begun refused, begun ++ [.apply refused] <+: events ∧
    start.run? layout policy begun = some holder ∧ holder.progress = .applying []

/-- What is committed is what was committed in the beginning, or what a batch has left that was
    carried out as a whole and not without any success. -/
def SharedIndex.CommittedWhole (layout : Layout) (policy : ReloadPolicy) (index start : SharedIndex)
    (events : List IndexEvent) : Prop :=
  index.committed = start.committed ∨
    ∃ holder mishaps, start.BeganOn layout policy events holder ∧
      let applied := holder.writer.workspace.applyBatch layout mishaps
        (holder.writer.worker.batch.map Request.operation)
      .ok () ∈ applied.2 ∧ index.committed = applied.1.committed

/-- Of the batch as it was when the worker began, the first operations have been applied. -/
def SharedIndex.AppliedPart (layout : Layout) (policy : ReloadPolicy) (index start : SharedIndex)
    (events : List IndexEvent) (accepted : List Bool) : Prop :=
  ∃ holder, start.BeganOn layout policy events holder ∧
    holder.writer.worker = index.writer.worker ∧ holder.committed = index.committed ∧
    applyAll layout (refusals accepted) 0 holder.writer.workspace.pending
      ((index.writer.worker.batch.take accepted.length).map Request.operation) =
        (index.writer.workspace.pending, accepted)

/-- What has been committed comes from whole batches, and what is pending from the present one. -/
structure SharedIndex.Whole (layout : Layout) (policy : ReloadPolicy) (index start : SharedIndex)
    (events : List IndexEvent) : Prop where
  committed : index.CommittedWhole layout policy start events
  applied : ∀ accepted, index.progress = .applying accepted → accepted ≠ [] →
    index.AppliedPart layout policy start events accepted

theorem SharedIndex.BeganOn.later {holder : SharedIndex}
    (began : start.BeganOn layout policy before holder) (later : List IndexEvent) :
    start.BeganOn layout policy (before ++ later) holder := by
  obtain ⟨begun, refused, earlier, ran⟩ := began
  exact ⟨begun, refused, earlier.trans (List.prefix_append before later), ran⟩

theorem SharedIndex.CommittedWhole.later (whole : index.CommittedWhole layout policy start before)
    (later : List IndexEvent) (same : next.committed = index.committed) :
    next.CommittedWhole layout policy start (before ++ later) := by
  rcases whole with untouched | ⟨holder, mishaps, began, done, result⟩
  · exact .inl (same.trans untouched)
  · exact .inr ⟨holder, mishaps, began.later later, done, same.trans result⟩

/-- Who does not touch the workspace and the batch keeps all of it whole. -/
theorem SharedIndex.Whole.later (whole : index.Whole layout policy start before)
    (later : List IndexEvent) (workspace : next.writer.workspace = index.writer.workspace)
    (same : ∀ accepted, next.progress = .applying accepted → accepted ≠ [] →
      index.progress = .applying accepted ∧ next.writer.worker = index.writer.worker) :
    next.Whole layout policy start (before ++ later) := by
  have committed : next.committed = index.committed := congrArg Workspace.committed workspace
  refine ⟨whole.committed.later later committed, fun accepted applying some => ?_⟩
  obtain ⟨before, worker⟩ := same accepted applying some
  obtain ⟨holder, began, sameWorker, sameCommit, part⟩ := whole.applied accepted before some
  rw [← worker, ← workspace] at part
  exact ⟨holder, began.later later, sameWorker.trans worker.symm,
    sameCommit.trans committed.symm, part⟩

/-- One more operation of the batch has been applied. -/
theorem SharedIndex.AppliedPart.apply {accepted : List Bool}
    (part : index.AppliedPart layout policy start before accepted) {request : Request} (refused : Bool)
    (found : index.writer.worker.batch[accepted.length]? = some request) :
    (index.apply layout refused accepted request).AppliedPart layout policy start before
      (accepted ++ [(request.operation.apply layout refused index.writer.workspace.pending).2]) := by
  obtain ⟨holder, began, worker, committed, applied⟩ := part
  refine ⟨holder, began, worker, committed, ?_⟩
  obtain ⟨inside, here⟩ := List.getElem?_eq_some_iff.mp found
  have length : ((index.writer.worker.batch.take accepted.length).map Request.operation).length =
      accepted.length := by
    rw [List.length_map, List.length_take, Nat.min_eq_left (Nat.le_of_lt inside)]
  have batch : (index.writer.worker.batch.take (accepted.length + 1)).map Request.operation =
      (index.writer.worker.batch.take accepted.length).map Request.operation ++
        [request.operation] := by
    rw [List.take_succ_eq_append_getElem inside, List.map_append, here]
    rfl
  generalize flagged : (request.operation.apply layout refused index.writer.workspace.pending).2 = flag
  have earlier : applyAll layout (refusals (accepted ++ [flag])) 0 holder.writer.workspace.pending
      ((index.writer.worker.batch.take accepted.length).map Request.operation) =
        (index.writer.workspace.pending, accepted) := by
    refine (applyAll_congr (fun place _ before => ?_) _).trans applied
    rw [length, Nat.zero_add] at before
    exact refusals_concat_of_lt before flag
  have last : request.operation.apply layout (!flag) index.writer.workspace.pending =
      request.operation.apply layout refused index.writer.workspace.pending := by
    rw [← flagged]
    exact request.operation.apply_not_accepted layout refused _
  rw [List.length_append, List.length_singleton]
  change applyAll layout _ 0 _ ((index.writer.worker.batch.take (accepted.length + 1)).map
    Request.operation) = _
  rw [batch, applyAll_concat, earlier, length, Nat.zero_add, refusals_concat_length]
  dsimp only
  rw [last, flagged]
  rfl

/-- What is committed at the end of a batch is what the whole batch leaves. -/
theorem SharedIndex.Whole.commit (whole : index.Whole layout policy start before)
    {accepted : List Bool} (fails : Bool) (applying : index.progress = .applying accepted)
    (complete : accepted.length = index.writer.worker.batch.length)
    (some : index.writer.worker.batch ≠ []) :
    (index.commit fails (taken index.writer.worker.batch accepted)).Whole layout policy start
      (before ++ [.commit fails]) := by
  unfold SharedIndex.commit
  split
  · exact whole.later _ rfl fun _ applying => by contradiction
  · rename_i success
    rcases index.writer.workspace.commit_cases fails with ⟨next, sound, committing, same⟩ | ⟨_, same⟩
    · rw [same]
      refine ⟨.inr ?_, fun _ applying => by contradiction⟩
      have present : accepted ≠ [] := by
        rintro rfl
        exact some (List.length_eq_zero_iff.mp complete.symm)
      obtain ⟨holder, began, worker, _, part⟩ := whole.applied accepted applying present
      rw [complete, List.take_length, ← worker] at part
      obtain ⟨request, member⟩ := List.exists_mem_of_ne_nil _ (by simpa using success)
      obtain ⟨place, _, flagged⟩ := mem_taken.mp member
      have accepts : true ∈ accepted := List.mem_of_getElem? flagged
      have applied : holder.writer.workspace.applyBatch layout ⟨refusals accepted, fails⟩
          (holder.writer.worker.batch.map Request.operation) =
            (.ofSnapshot next,
              answers (holder.writer.worker.batch.map Request.operation) accepted true) := by
        simp only [Workspace.applyBatch, part, sound, committing]
        rw [if_pos (List.any_eq_true.mpr ⟨true, accepts, rfl⟩)]
        rfl
      refine ⟨holder, ⟨refusals accepted, fails⟩, began.later _, ?_⟩
      rw [applied]
      exact ⟨ok_mem_answers (by rw [complete, worker, List.length_map]) accepts, rfl⟩
    · rw [same]
      exact ⟨whole.committed.later _ rfl, fun _ applying => by contradiction⟩

/-- The worker does not touch the queue before its batch is done. -/
theorem SharedIndex.fresh_of_permits {event : QueueEvent}
    (worker : event ∈ [.receive, .gather, .stop]) (permitted : index.permits event = true) :
    index.progress = .applying [] := by
  simp only [List.mem_cons, List.not_mem_nil, or_false] at worker
  cases progress : index.progress with
  | applying accepted =>
    cases accepted with
    | nil => rfl
    | cons =>
      rcases worker with rfl | rfl | rfl <;> simp [SharedIndex.permits, progress] at permitted
  | answering =>
    rcases worker with rfl | rfl | rfl <;> simp [SharedIndex.permits, progress] at permitted

theorem SharedIndex.Whole.step (whole : index.Whole layout policy start before)
    (here : start.run? layout policy before = some index)
    (step : index.Step layout policy event next) :
    next.Whole layout policy start (before ++ [event]) := by
  cases step with
  | @write event writer permitted step =>
    -- While some operations of the batch have been applied, the worker does not touch the queue.
    have untouched : ∀ accepted, index.progress = .applying accepted → accepted ≠ [] →
        event ∉ [.receive, .gather, .stop] := by
      intro accepted applying some worker
      exact some (Progress.applying.inj
        (applying.symm.trans (index.fresh_of_permits worker permitted)))
    cases step with
    | receive | gather | stop =>
      refine whole.later _ rfl fun accepted applying some => ?_
      exact absurd (by simp) (untouched accepted applying some)
    | enter | send | leave | «seal» | join | finish =>
      exact whole.later _ rfl fun _ applying _ => ⟨applying, rfl⟩
  | @apply accepted request refused applying found =>
    refine ⟨whole.committed.later _ rfl, fun flags again _ => ?_⟩
    obtain rfl : accepted ++ [(request.operation.apply layout refused
        index.writer.workspace.pending).2] = flags := Progress.applying.inj again
    refine SharedIndex.AppliedPart.apply ?_ refused found
    by_cases first : accepted = []
    · subst first
      exact ⟨index, ⟨before, refused, List.prefix_rfl, here, applying⟩, rfl, rfl, rfl⟩
    · obtain ⟨holder, began, part⟩ := whole.applied accepted applying first
      exact ⟨holder, began.later _, part⟩
  | commit fails applying complete some => exact whole.commit fails applying complete some
  | answer => exact whole.later _ rfl fun _ applying => by contradiction
  | finish =>
    refine whole.later _ rfl fun accepted applying some => ?_
    exact absurd (Progress.applying.inj applying).symm some
  | refresh | refreshFails | reload | acquire | release =>
    exact whole.later _ rfl fun _ applying _ => ⟨applying, rfl⟩

/-- What has been committed after a run was left by whole batches. -/
theorem SharedIndex.run_whole (fresh : start.progress = .applying [])
    (ran : start.run? layout policy events = some last) :
    last.CommittedWhole layout policy start events := by
  refine (SharedIndex.run?_keeps (fun events index => index.Whole layout policy start events) ?_ ?_
    ran).committed
  · intro before index event next here whole step
    exact whole.step here step
  · refine ⟨.inl rfl, fun accepted applying some => ?_⟩
    exact absurd (Progress.applying.inj (applying.symm.trans fresh)) some

end KeyedIndex
