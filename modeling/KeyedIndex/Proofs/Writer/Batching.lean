import KeyedIndex.Proofs.Writer.Shared

/-!
Batches cannot be seen. As long as the engine accepts the operations, the committed documents of a
shared writer are at any time what the acknowledged operations make of them one after the other,
however clients, worker and failing commits take turns; so the sizes of the batches make no
difference to what is left in the end (`SharedWriter.run_batching`).
-/
namespace KeyedIndex

variable {layout : Layout} {writer next : SharedWriter} {event : WriterEvent}

/-- The engine accepts the operations of the batch that is applied at an event, if one is. -/
def WriterEvent.Accepting : WriterEvent → Prop
  | .work mishaps => mishaps.Accepting
  | _ => True

/-- The operations that have been acknowledged, in order. -/
def acknowledged (answered : List (Request × Answer)) : List Operation :=
  answered.filterMap (fun (request, answer) =>
    if answer.isOk then some request.operation else none)

/-- Every request has been answered, and none has failed. -/
structure SharedWriter.Succeeds (writer : SharedWriter) : Prop where
  gathered : writer.worker.batch = []
  queued : writer.queue = []
  acknowledged : ∀ entry ∈ writer.answered, entry.2 = .ok ()

/-- The acknowledged operations are committed, and no other changes are pending. -/
structure SharedWriter.Reflects (layout : Layout) (start : Snapshot) (writer : SharedWriter) :
    Prop where
  settled : writer.workspace = .ofSnapshot writer.workspace.committed
  documents : writer.workspace.committed.documents =
    (acknowledged writer.answered).foldl (Operation.effect layout) start.documents

theorem acknowledged_append (first second : List (Request × Answer)) :
    acknowledged (first ++ second) = acknowledged first ++ acknowledged second :=
  List.filterMap_append

theorem acknowledged_ok (batch : List Request) :
    acknowledged (batch.map (fun request => (request, .ok ()))) = batch.map Request.operation := by
  rw [acknowledged, List.filterMap_map]
  exact congrFun List.filterMap_eq_map batch

theorem acknowledged_error (batch : List Request) (error : Request → Error) :
    acknowledged (batch.map (fun request => (request, .error (error request)))) = [] := by
  rw [acknowledged, List.filterMap_map]
  exact List.filterMap_eq_nil_iff.mpr fun _ _ => rfl

theorem zip_answers (batch : List Request) (answer : Operation → Answer) :
    batch.zip ((batch.map Request.operation).map answer) =
      batch.map (fun request => (request, answer request.operation)) := by
  rw [List.map_map]
  simpa using List.zip_map' (f := id) (g := answer ∘ Request.operation) (l := batch)

/-- A batch is acknowledged as a whole once its operations are committed, or fails as a whole and
    leaves everything as it was. -/
theorem SharedWriter.work_effects (layout : Layout) {mishaps : Mishaps} (accepting : mishaps.Accepting)
    (settled : writer.workspace = .ofSnapshot writer.workspace.committed) {batch : List Request}
    (some : batch ≠ []) :
    let next := writer.work layout mishaps batch
    next.workspace = .ofSnapshot next.workspace.committed ∧
      if mishaps.spoil layout (batch.map Request.operation) then
        next.workspace.committed = writer.workspace.committed ∧
          next.answered = writer.answered ++
            batch.map (fun request => (request, .error (.write request.operation.key)))
      else
        next.workspace.committed.documents = (batch.map Request.operation).foldl
            (Operation.effect layout) writer.workspace.committed.documents ∧
          next.answered = writer.answered ++ batch.map (fun request => (request, .ok ())) := by
  have present : batch.map Request.operation ≠ [] := by simpa using some
  have applied := Workspace.applyBatch_effects layout accepting writer.workspace.committed present
  rw [← settled] at applied
  simp only [SharedWriter.work]
  split
  · rename_i spoiled
    rw [if_pos spoiled] at applied
    rw [applied, zip_answers]
    exact ⟨settled, rfl, rfl⟩
  · rename_i sound
    rw [if_neg sound] at applied
    obtain ⟨next, applied, documents⟩ := applied
    rw [applied, zip_answers]
    exact ⟨rfl, documents, rfl⟩

theorem SharedWriter.Reflects.step {start : Snapshot} (reflects : writer.Reflects layout start)
    (accepting : event.Accepting) (step : writer.Step layout event next) :
    next.Reflects layout start := by
  obtain ⟨settled, documents⟩ := reflects
  -- Only the application of a batch changes the documents or the answers.
  cases step with
  | @work first more mishaps gathering =>
    obtain ⟨nextSettled, outcome⟩ :=
      work_effects layout accepting settled (List.cons_ne_nil first more)
    refine ⟨nextSettled, ?_⟩
    split at outcome
    · obtain ⟨same, answered⟩ := outcome
      rw [same, answered, acknowledged_append, acknowledged_error, List.append_nil, documents]
    · obtain ⟨after, answered⟩ := outcome
      rw [after, answered, acknowledged_append, acknowledged_ok, List.foldl_append, documents]
  | queue step => cases step <;> exact ⟨settled, documents⟩

/-- If the engine accepts what it is asked for, the acknowledged operations are committed at any
    time of a run. -/
theorem SharedWriter.run_reflects {start : Snapshot} {size : Nat} {events : List WriterEvent}
    (accepting : ∀ event ∈ events, event.Accepting)
    (ran : (SharedWriter.ofSnapshot start size).run? layout events = some writer) :
    writer.Reflects layout start :=
  run?_keeps (fun _ writer => writer.Reflects layout start)
    (fun event member _ _ _ reflects step => reflects.step (accepting event member) step)
    ⟨rfl, rfl⟩ ran

/-- Who has answered all requests without a failure has acknowledged all operations in order. -/
theorem SharedWriter.Succeeds.answered {limit : Nat} {operations : List Operation}
    (succeeds : writer.Succeeds) (inOrder : writer.InOrder limit operations) :
    writer.answered = (numbered operations).map (fun request => (request, .ok ())) := by
  have requests := inOrder.requests
  rw [succeeds.gathered, succeeds.queued, List.append_nil, List.append_nil] at requests
  rw [← requests, List.map_map]
  refine (List.map_id _).symm.trans (List.map_congr_left fun entry member => ?_)
  exact Prod.ext rfl (succeeds.acknowledged entry member)

/-- Whatever clients, closers and the worker do, in whatever order they take turns, however the
    worker cuts the queue into batches and whichever commits fail: the requests are answered in
    the order in which they were sent; no batch has more of them than it may; the committed
    documents are those that the acknowledged operations leave, one after the other; the next
    batch is acknowledged as a whole when it is committed, or every request of it fails with its
    own key and nothing changes; and another run that is sent the same operations ends with the
    same answers and documents, if neither fails and whatever the sizes of the batches are. -/
theorem SharedWriter.run_batching {start : Snapshot} {size : Nat} {events : List WriterEvent}
    (accepting : ∀ event ∈ events, event.Accepting)
    (ran : (SharedWriter.ofSnapshot start size).run? layout events = some writer) :
    writer.answered.map Prod.fst ++ writer.worker.batch ++ writer.queue =
        numbered (sentOperations events) ∧
      writer.worker.batch.length ≤ max size 1 ∧
      writer.workspace.committed.documents =
        (acknowledged writer.answered).foldl (Operation.effect layout) start.documents ∧
      (∀ (mishaps : Mishaps) (next : SharedWriter), mishaps.Accepting →
        writer.step? layout (.work mishaps) = some next →
        let batch := writer.worker.batch
        if mishaps.spoil layout (batch.map Request.operation) then
          next.workspace.committed = writer.workspace.committed ∧
            next.answered = writer.answered ++
              batch.map (fun request => (request, .error (.write request.operation.key)))
        else
          next.workspace.committed.documents = (batch.map Request.operation).foldl
              (Operation.effect layout) writer.workspace.committed.documents ∧
            next.answered = writer.answered ++ batch.map (fun request => (request, .ok ()))) ∧
      ∀ (otherSize : Nat) (otherEvents : List WriterEvent) (other : SharedWriter),
        (∀ event ∈ otherEvents, event.Accepting) →
        (SharedWriter.ofSnapshot start otherSize).run? layout otherEvents = some other →
        sentOperations otherEvents = sentOperations events → writer.Succeeds → other.Succeeds →
        other.answered = writer.answered ∧
          other.workspace.committed.documents = writer.workspace.committed.documents := by
  have inOrder := run_inOrder ran
  have reflects := run_reflects accepting ran
  refine ⟨inOrder.requests, inOrder.bounded, reflects.documents, ?_, ?_⟩
  · intro mishaps next accepts stepped
    cases step?_eq_some stepped with
    | @work first more _ gathering =>
      have batch : writer.worker.batch = first :: more := by rw [gathering, Worker.batch]
      rw [batch]
      exact (work_effects _ accepts reflects.settled (List.cons_ne_nil first more)).2
  · intro otherSize otherEvents other otherAccepting otherRan same succeeds otherSucceeds
    have answered : other.answered = writer.answered := by
      rw [succeeds.answered inOrder, otherSucceeds.answered (run_inOrder otherRan), same]
    refine ⟨answered, ?_⟩
    rw [reflects.documents, (run_reflects otherAccepting otherRan).documents, answered]

/-- Two clients put and delete the same keys, in two batches and in four. -/
theorem SharedWriter.run_batching_pair :
    let layout : Layout := [⟨"key", .text .whole, true, true⟩]
    let put (key : String) : Operation := .replace key ⟨0, .text key⟩ [(0, .text key)]
    let events : List WriterEvent := [.queue (.enter 1), .queue (.enter 2),
      .queue (.send 1 (put "a")), .queue (.send 2 (put "b")), .queue (.send 1 (put "a")),
      .queue .receive, .queue .gather, .queue (.send 2 (.delete "b" ⟨0, .text "b"⟩)),
      .queue .gather, .work .none, .queue .receive, .work .none]
    let otherEvents : List WriterEvent := [.queue (.enter 2), .queue (.send 2 (put "a")),
      .queue .receive, .queue (.seal 7), .queue (.send 2 (put "b")), .work .none, .queue .receive,
      .work .none, .queue (.send 2 (put "a")), .queue .receive, .work .none,
      .queue (.send 2 (.delete "b" ⟨0, .text "b"⟩)), .queue .receive, .work .none]
    ∃ writer other, (SharedWriter.ofSnapshot [] 3).run? layout events = some writer ∧
      (SharedWriter.ofSnapshot [] 0).run? layout otherEvents = some other ∧
      (∀ event ∈ events, event.Accepting) ∧ (∀ event ∈ otherEvents, event.Accepting) ∧
      sentOperations otherEvents = sentOperations events ∧ writer.Succeeds ∧ other.Succeeds ∧
      other.answered = writer.answered ∧
      other.workspace.committed.documents = writer.workspace.committed.documents := by
  intro layout put events otherEvents
  let writer := ((SharedWriter.ofSnapshot [] 3).run? layout events).get (by decide +kernel)
  let other := ((SharedWriter.ofSnapshot [] 0).run? layout otherEvents).get (by decide +kernel)
  have ran : (SharedWriter.ofSnapshot [] 3).run? layout events = some writer :=
    (Option.some_get _).symm
  have otherRan : (SharedWriter.ofSnapshot [] 0).run? layout otherEvents = some other :=
    (Option.some_get _).symm
  have none : Mishaps.none.Accepting := fun _ => rfl
  have accepting : ∀ event ∈ events, event.Accepting := by
    simp [events, WriterEvent.Accepting, none]
  have otherAccepting : ∀ event ∈ otherEvents, event.Accepting := by
    simp [otherEvents, WriterEvent.Accepting, none]
  have succeeds : writer.Succeeds := ⟨rfl, rfl, by decide +kernel⟩
  have otherSucceeds : other.Succeeds := ⟨rfl, rfl, by decide +kernel⟩
  obtain ⟨_, _, _, _, agree⟩ := SharedWriter.run_batching accepting ran
  exact ⟨writer, other, ran, otherRan, accepting, otherAccepting, rfl, succeeds, otherSucceeds,
    agree 0 otherEvents other otherAccepting otherRan rfl succeeds otherSucceeds⟩

end KeyedIndex
