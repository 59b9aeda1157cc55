import KeyedIndex.Proofs.Index.Commits

/-!
Requests of shared indexes. The committed documents are at any time what the committed requests
leave, in the order in which they were sent, and whoever has been told of success is among them
(`SharedIndex.run_accounts`).
-/
namespace KeyedIndex

variable {layout : Layout}

/-- What a request makes of all documents, if it was accepted or not. -/
def tell (layout : Layout) (documents : List Document) (change : Request × Bool) : List Document :=
  if change.2 then change.1.operation.effect layout documents
  else change.1.operation.residue layout documents

theorem Operation.apply_documents (layout : Layout) (refused : Bool) (pending : Pending)
    (request : Request) :
    (request.operation.apply layout refused pending).1.documents = tell layout pending.documents
      (request, (request.operation.apply layout refused pending).2) := by
  cases refused with
  | false =>
    obtain ⟨next, applied, documents, _⟩ := request.operation.apply_effect layout pending
    rw [applied]
    exact documents
  | true =>
    rw [Operation.apply_residue]
    unfold tell
    cases request.operation <;> rfl

/-! ### What is committed of the requests -/

/-- The operation that is sent at an event. -/
def IndexEvent.sent? : IndexEvent → Option Operation
  | .write event => event.sent?
  | _ => none

/-- The operations that are sent at events, in order. -/
def requested (events : List IndexEvent) : List Operation := events.filterMap IndexEvent.sent?

theorem requested_concat (before : List IndexEvent) (event : IndexEvent) :
    requested (before ++ [event]) = requested before ++ event.sent?.toList := by
  rw [requested, List.filterMap_append, List.filterMap_cons]
  cases event.sent? <;> rfl

/-- The requests of a batch that are not applied yet. -/
def Progress.remaining (batch : List Request) : Progress → List Request
  | .applying accepted => batch.drop accepted.length
  | .answering _ => []

/-- The answers that are still to be given. -/
def Progress.unanswered : Progress → List (Request × Answer)
  | .applying _ => []
  | .answering left => left

/-- What is committed are the changes of some requests, and what is pending are further changes. With
    those that are to be applied or queued they stand in the order in which they were sent. Who is
    told of success, or will be, is among those that are committed. -/
structure SharedIndex.Accounts (layout : Layout) (start : List Document)
    (operations : List Operation) (commits changes : List (Request × Bool)) (index : SharedIndex) :
    Prop where
  committed : index.committed.documents = commits.foldl (tell layout) start
  pending : index.writer.workspace.pending.documents =
    changes.foldl (tell layout) index.committed.documents
  ordered : ((commits ++ changes).map Prod.fst ++
    index.progress.remaining index.writer.worker.batch ++ index.writer.queue).Sublist
      (numbered operations)
  sent : index.writer.sent = operations.length
  acknowledged : ∀ request, (request, .ok ()) ∈ index.writer.answered ++ index.progress.unanswered →
    (request, true) ∈ commits
  applied : ∀ accepted, index.progress = .applying accepted → ∀ (place : Nat) request flag,
    index.writer.worker.batch[place]? = some request → accepted[place]? = some flag →
      (request, flag) ∈ changes

theorem Pending.documents_ofSnapshot (snapshot : Snapshot) :
    (Pending.ofSnapshot snapshot).documents = snapshot.documents :=
  List.append_nil _

variable {index next : SharedIndex} {event : IndexEvent} {start : List Document}
  {operations : List Operation} {commits changes : List (Request × Bool)}

theorem numbered_concat (operations : List Operation) (operation : Operation) :
    numbered (operations ++ [operation]) = numbered operations ++ [⟨operations.length, operation⟩] := by
  simp [numbered, List.mapIdx_append]

theorem SharedIndex.Accounts.write
    (accounts : index.Accounts layout start operations commits changes) {event : QueueEvent}
    {writer : SharedWriter} (permitted : index.permits event = true)
    (step : index.writer.QueueStep event writer) :
    SharedIndex.Accounts layout start (operations ++ event.sent?.toList) commits changes
      { index with writer } := by
  obtain ⟨committed, pending, ordered, sent, acknowledged, applied⟩ := accounts
  cases step with
  | send operation inside =>
    refine ⟨committed, pending, ?_, by simp [QueueEvent.sent?, sent], acknowledged, applied⟩
    simp only [QueueEvent.sent?, Option.toList_some, numbered_concat, ← List.append_assoc, sent]
    exact ordered.append (List.Sublist.refl _)
  | receive waiting queued =>
    have fresh := index.fresh_of_permits (by simp) permitted
    refine ⟨committed, pending, ?_, by simpa [QueueEvent.sent?] using sent, acknowledged, ?_⟩
    · simpa [QueueEvent.sent?, fresh, Progress.remaining, waiting, queued, Worker.batch] using ordered
    · intro accepted applying place request flag _ here
      rw [Progress.applying.inj (fresh.symm.trans applying).symm] at here
      contradiction
  | gather gathering queued room =>
    have fresh := index.fresh_of_permits (by simp) permitted
    refine ⟨committed, pending, ?_, by simpa [QueueEvent.sent?] using sent, acknowledged, ?_⟩
    · simpa [QueueEvent.sent?, fresh, Progress.remaining, gathering, queued, Worker.batch] using ordered
    · intro accepted applying place request flag _ here
      rw [Progress.applying.inj (fresh.symm.trans applying).symm] at here
      contradiction
  | stop waiting drained sealed left =>
    have fresh := index.fresh_of_permits (by simp) permitted
    refine ⟨committed, pending, ?_, by simpa [QueueEvent.sent?] using sent, acknowledged, ?_⟩
    · simpa [QueueEvent.sent?, fresh, Progress.remaining, waiting, Worker.batch] using ordered
    · intro accepted applying place request flag here
      contradiction
  | enter | leave | «seal» | join | finish =>
    refine ⟨committed, pending, ?_, ?_, acknowledged, applied⟩
    · simpa [QueueEvent.sent?] using ordered
    · simpa [QueueEvent.sent?] using sent

theorem SharedIndex.Accounts.apply
    (accounts : index.Accounts layout start operations commits changes) {accepted : List Bool}
    {request : Request} (refused : Bool) (applying : index.progress = .applying accepted)
    (found : index.writer.worker.batch[accepted.length]? = some request) :
    ∃ flag, (index.apply layout refused accepted request).Accounts layout start operations commits
      (changes ++ [(request, flag)]) := by
  obtain ⟨committed, pending, ordered, sent, acknowledged, applied⟩ := accounts
  have same : (index.apply layout refused accepted request).committed = index.committed := rfl
  refine ⟨(request.operation.apply layout refused index.writer.workspace.pending).2,
    committed, ?_, ?_, sent, ?_, ?_⟩
  · rw [same, List.foldl_append, ← pending]
    exact Operation.apply_documents layout refused _ request
  · obtain ⟨inside, here⟩ := List.getElem?_eq_some_iff.mp found
    simp only [applying, Progress.remaining, List.drop_eq_getElem_cons inside, here] at ordered
    simpa [SharedIndex.apply, Progress.remaining] using ordered
  · intro other told
    refine acknowledged other ?_
    simp only [SharedIndex.apply, Progress.unanswered, List.append_nil, applying] at told ⊢
    rcases List.mem_append.mp told with before | now
    · exact before
    · split at now
      · contradiction
      · simp [Request.failed] at now
  · intro flags again place other flag atPlace flagged
    obtain rfl : accepted ++ [(request.operation.apply layout refused
        index.writer.workspace.pending).2] = flags := Progress.applying.inj again
    rcases Nat.lt_trichotomy place accepted.length with before | rfl | behind
    · rw [List.getElem?_append_left before] at flagged
      exact List.mem_append_left _ (applied accepted applying place other flag atPlace flagged)
    · obtain rfl := Option.some.inj (found.symm.trans atPlace)
      rw [List.getElem?_concat_length] at flagged
      obtain rfl := Option.some.inj flagged
      exact List.mem_append_right _ List.mem_cons_self
    · rw [List.getElem?_eq_none (by rw [List.length_append]; exact behind)] at flagged
      contradiction

theorem SharedIndex.Accounts.commit
    (accounts : index.Accounts layout start operations commits changes) {accepted : List Bool}
    (fails : Bool) (applying : index.progress = .applying accepted)
    (whole : accepted.length = index.writer.worker.batch.length) :
    ∃ more rest, (index.commit fails (taken index.writer.worker.batch accepted)).Accounts layout start
      operations more rest := by
  obtain ⟨committed, pending, ordered, sent, acknowledged, applied⟩ := accounts
  simp only [applying, Progress.remaining, Progress.unanswered, whole, List.drop_length,
    List.append_nil] at ordered acknowledged
  unfold SharedIndex.commit
  split
  · exact ⟨commits, changes, committed, pending, by simpa [Progress.remaining] using ordered, sent,
      by simpa [Progress.unanswered] using acknowledged, fun _ applying => by contradiction⟩
  · rcases index.writer.workspace.commit_cases fails with ⟨next, _, committing, same⟩ | ⟨_, same⟩
    · have documents := (Pending.commit?_eq_some committing).trans pending
      rw [same]
      refine ⟨commits ++ changes, [], ?_, Pending.documents_ofSnapshot next, ?_, sent, ?_,
        fun _ applying => by contradiction⟩
      · rw [List.foldl_append, ← committed]
        exact documents
      · simpa [Progress.remaining] using ordered
      · intro request told
        rcases List.mem_append.mp told with before | now
        · exact List.mem_append_left _ (acknowledged request before)
        · obtain ⟨other, member, told⟩ := List.mem_map.mp now
          obtain rfl := (Prod.mk.inj told).1
          obtain ⟨place, atPlace, flagged⟩ := mem_taken.mp member
          exact List.mem_append_right _ (applied accepted applying place other true atPlace flagged)
    · rw [same]
      refine ⟨commits, [], committed, Pending.documents_ofSnapshot index.committed, ?_, sent, ?_,
        fun _ applying => by contradiction⟩
      · refine List.Sublist.trans ?_ ordered
        simp [Progress.remaining]
      · intro request told
        rcases List.mem_append.mp told with before | now
        · exact acknowledged request before
        · obtain ⟨other, _, told⟩ := List.mem_map.mp now
          simp [Request.failed] at told

theorem SharedIndex.Accounts.step {policy : ReloadPolicy}
    (accounts : index.Accounts layout start operations commits changes)
    (step : index.Step layout policy event next) :
    ∃ more rest, next.Accounts layout start (operations ++ event.sent?.toList) more rest := by
  cases step with
  | write permitted step => exact ⟨commits, changes, accounts.write permitted step⟩
  | apply refused applying found =>
    obtain ⟨flag, applied⟩ := accounts.apply refused applying found
    exact ⟨commits, _, by simpa [IndexEvent.sent?] using applied⟩
  | commit fails applying whole =>
    obtain ⟨more, rest, done⟩ := accounts.commit fails applying whole
    exact ⟨more, rest, by simpa [IndexEvent.sent?] using done⟩
  | @answer answered left answering =>
    obtain ⟨committed, pending, ordered, sent, acknowledged, applied⟩ := accounts
    refine ⟨commits, changes, committed, pending, ?_, ?_, ?_, ?_⟩
    · simpa [IndexEvent.sent?, answering, Progress.remaining] using ordered
    · simpa [IndexEvent.sent?] using sent
    · simpa [answering, Progress.unanswered] using acknowledged
    · intro accepted applying
      contradiction
  | finish answering =>
    obtain ⟨committed, pending, ordered, sent, acknowledged, applied⟩ := accounts
    refine ⟨commits, changes, committed, pending, ?_, ?_, ?_, ?_⟩
    · simpa [IndexEvent.sent?, answering, Progress.remaining, Worker.batch] using ordered
    · simpa [IndexEvent.sent?] using sent
    · simpa [answering, Progress.unanswered] using acknowledged
    · intro accepted applying place request flag here
      contradiction
  | refresh | refreshFails | reload | acquire | release =>
    obtain ⟨committed, pending, ordered, sent, acknowledged, applied⟩ := accounts
    refine ⟨commits, changes, committed, pending, ?_, ?_, acknowledged, applied⟩
    · simpa [IndexEvent.sent?, SharedIndex.load] using ordered
    · simpa [IndexEvent.sent?, SharedIndex.load] using sent

/-- What has been committed after a run are changes of requests in the order in which they were
    sent, and whoever was told of success has been committed. -/
theorem SharedIndex.run_accounts {policy : ReloadPolicy} {snapshot : Snapshot} {size : Nat}
    {events : List IndexEvent} {last : SharedIndex}
    (ran : (SharedIndex.ofSnapshot snapshot size).run? layout policy events = some last) :
    ∃ commits changes,
      last.Accounts layout snapshot.documents (requested events) commits changes := by
  refine SharedIndex.run?_keeps (fun events index => ∃ commits changes,
    index.Accounts layout snapshot.documents (requested events) commits changes) ?_ ?_ ran
  · rintro before index event next _ ⟨commits, changes, accounts⟩ step
    rw [requested_concat]
    exact accounts.step step
  · refine ⟨[], [], rfl, Pending.documents_ofSnapshot snapshot, List.Sublist.refl _, rfl, ?_, ?_⟩
    · intro request told
      contradiction
    · intro accepted applying place request flag here
      contradiction

end KeyedIndex
