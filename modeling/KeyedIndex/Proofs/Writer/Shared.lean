import KeyedIndex.Proofs.Success
import KeyedIndex.Proofs.Writer.Effects
import KeyedIndex.Writer.Shared

/-!
Steps and runs of shared writers. What can happen at an event is told by one rule for each kind of
event (`SharedWriter.step?_iff`). Requests are answered in the order in which they were sent:
at any time those that are answered, those of the batch and those of the queue, one after
the other, are all that were sent (`SharedWriter.run_inOrder`).
-/
namespace KeyedIndex

variable {layout : Layout}

/-- What can happen to the queue at an event, and what the writer is afterwards. -/
inductive SharedWriter.QueueStep (writer : SharedWriter) : QueueEvent → SharedWriter → Prop
  | enter {client : Nat} (isOpen : writer.isOpen = true) :
    QueueStep writer (.enter client) { writer with clients := client :: writer.clients }
  | send {client : Nat} (operation : Operation) (inside : client ∈ writer.clients) :
    QueueStep writer (.send client operation) { writer with
      sent := writer.sent + 1
      queue := writer.queue ++ [⟨writer.sent, operation⟩] }
  | leave {client : Nat} (inside : client ∈ writer.clients) :
    QueueStep writer (.leave client) { writer with clients := writer.clients.erase client }
  | receive {first : Request} {queue : List Request} (waiting : writer.worker = .waiting)
    (queued : writer.queue = first :: queue) :
    QueueStep writer .receive { writer with worker := .gathering first [], queue }
  | gather {first next : Request} {more queue : List Request}
    (gathering : writer.worker = .gathering first more) (queued : writer.queue = next :: queue)
    (room : more.length + 1 < writer.maxBatch) :
    QueueStep writer .gather { writer with worker := .gathering first (more ++ [next]), queue }
  | stop (waiting : writer.worker = .waiting) (drained : writer.queue = [])
    (sealed : writer.isOpen = false) (left : writer.clients = []) :
    QueueStep writer .stop { writer with worker := .stopped }
  | seal {closer : Nat} (idle : writer.closers.lookup closer ∈ [none, some .returned]) :
    QueueStep writer (.seal closer) { writer with
      isOpen := false, closers := setClosing closer .sealed writer.closers }
  | join {closer : Nat} (sealed : writer.closers.lookup closer = some .sealed) :
    QueueStep writer (.join closer) { writer with
      joinable := false
      closers := setClosing closer (if writer.joinable then .joining else .returned)
        writer.closers }
  | finish {closer : Nat} (joining : writer.closers.lookup closer = some .joining)
    (stopped : writer.worker = .stopped) :
    QueueStep writer (.finish closer) { writer with
      closers := setClosing closer .returned writer.closers }

/-- What can happen at an event, and what the writer is afterwards. -/
inductive SharedWriter.Step (layout : Layout) (writer : SharedWriter) :
    WriterEvent → SharedWriter → Prop
  | queue {event : QueueEvent} {next : SharedWriter} (step : writer.QueueStep event next) :
    Step layout writer (.queue event) next
  | work {first : Request} {more : List Request} (mishaps : Mishaps)
    (gathering : writer.worker = .gathering first more) :
    Step layout writer (.work mishaps) (writer.work layout mishaps (first :: more))

section

variable {writer next : SharedWriter} {event : QueueEvent}

theorem SharedWriter.workerStep?_eq_some (stepped : writer.workerStep? event = some next) :
    writer.QueueStep event next := by
  unfold workerStep? at stepped
  split at stepped
  · split at stepped
    · rename_i waiting queued
      obtain rfl := Option.some.inj stepped
      exact .receive waiting queued
    · contradiction
  · split at stepped
    · rename_i gathering queued
      obtain ⟨room, same⟩ := Option.ite_none_right_eq_some.mp stepped
      obtain rfl := Option.some.inj same
      exact .gather gathering queued room
    · contradiction
  · split at stepped
    · rename_i waiting
      obtain ⟨ended, same⟩ := Option.ite_none_right_eq_some.mp stepped
      obtain rfl := Option.some.inj same
      simp only [Bool.and_eq_true, List.isEmpty_iff, Bool.not_eq_true'] at ended
      exact .stop waiting ended.1.1 ended.1.2 ended.2
    · contradiction
  · contradiction

theorem SharedWriter.closerStep?_eq_some (stepped : writer.closerStep? event = some next) :
    writer.QueueStep event next := by
  unfold closerStep? at stepped
  split at stepped
  · split at stepped
    · rename_i fresh
      obtain rfl := Option.some.inj stepped
      exact .seal (by simp [fresh])
    · rename_i returned
      obtain rfl := Option.some.inj stepped
      exact .seal (by simp [returned])
    · contradiction
  · obtain ⟨sealed, same⟩ := Option.ite_none_right_eq_some.mp stepped
    obtain rfl := Option.some.inj same
    exact .join sealed
  · split at stepped
    · rename_i joining stopped
      obtain rfl := Option.some.inj stepped
      exact .finish joining stopped
    · contradiction
  · contradiction

theorem SharedWriter.queueStep?_eq_some (stepped : writer.queueStep? event = some next) :
    writer.QueueStep event next := by
  unfold queueStep? at stepped
  split at stepped
  · obtain entered := toOption_eq_some.mp stepped
    unfold SharedWriter.enter at entered
    split at entered
    · rename_i isOpen
      obtain rfl := Except.ok.inj entered
      exact .enter isOpen
    · contradiction
  · obtain ⟨inside, same⟩ := Option.ite_none_right_eq_some.mp stepped
    obtain rfl := Option.some.inj same
    exact .send _ (List.contains_iff_mem.mp inside)
  · obtain ⟨inside, same⟩ := Option.ite_none_right_eq_some.mp stepped
    obtain rfl := Option.some.inj same
    exact .leave (List.contains_iff_mem.mp inside)
  · exact workerStep?_eq_some stepped
  · exact workerStep?_eq_some stepped
  · exact workerStep?_eq_some stepped
  · exact closerStep?_eq_some stepped
  · exact closerStep?_eq_some stepped
  · exact closerStep?_eq_some stepped

theorem SharedWriter.QueueStep.queueStep?_eq (step : writer.QueueStep event next) :
    writer.queueStep? event = some next := by
  cases step with
  | enter isOpen => simp [queueStep?, SharedWriter.enter, isOpen, Except.toOption]
  | send operation inside => simp [queueStep?, send?, inside]
  | leave inside => simp [queueStep?, inside]
  | receive waiting queued => simp [queueStep?, workerStep?, waiting, queued]
  | gather gathering queued room => simp [queueStep?, workerStep?, gathering, queued, room]
  | stop waiting drained sealed left =>
    simp [queueStep?, workerStep?, waiting, drained, sealed, left]
  | «seal» idle =>
    simp only [List.mem_cons, List.not_mem_nil, or_false] at idle
    rcases idle with fresh | returned
    · simp [queueStep?, closerStep?, fresh]
    · simp [queueStep?, closerStep?, returned]
  | join sealed => simp [queueStep?, closerStep?, sealed]
  | finish joining stopped => simp [queueStep?, closerStep?, joining, stopped]

end

variable {writer next : SharedWriter} {event : WriterEvent}

theorem SharedWriter.step?_eq_some (stepped : writer.step? layout event = some next) :
    writer.Step layout event next := by
  unfold step? at stepped
  split at stepped
  · exact .queue (queueStep?_eq_some stepped)
  · split at stepped
    · rename_i gathering
      obtain rfl := Option.some.inj stepped
      exact .work _ gathering
    · contradiction

theorem SharedWriter.Step.step?_eq (step : writer.Step layout event next) :
    writer.step? layout event = some next := by
  cases step with
  | queue step => exact step.queueStep?_eq
  | work mishaps gathering => simp [step?, gathering]

/-- The steps of a writer are those that the rules allow. -/
theorem SharedWriter.step?_iff :
    writer.step? layout event = some next ↔ writer.Step layout event next :=
  ⟨step?_eq_some, Step.step?_eq⟩

/-! ### Runs -/

/-- The operation that is sent at an event. -/
def QueueEvent.sent? : QueueEvent → Option Operation
  | .send _ operation => some operation
  | _ => none

def WriterEvent.sent? : WriterEvent → Option Operation
  | .queue event => event.sent?
  | .work _ => none

/-- The operations that are sent at events, in order. -/
def sentOperations (events : List WriterEvent) : List Operation :=
  events.filterMap WriterEvent.sent?

theorem sentOperations_concat (before : List WriterEvent) (event : WriterEvent) :
    sentOperations (before ++ [event]) = sentOperations before ++ event.sent?.toList := by
  rw [sentOperations, List.filterMap_append, List.filterMap_cons]
  cases event.sent? <;> rfl

/-- What every step keeps, given the operations sent so far, a run keeps. -/
theorem SharedWriter.run?_keeps (keeps : List Operation → SharedWriter → Prop)
    {events : List WriterEvent} (steps : ∀ event ∈ events, ∀ operations writer next,
      keeps operations writer → SharedWriter.Step layout writer event next →
        keeps (operations ++ event.sent?.toList) next)
    {last : SharedWriter} (start : keeps [] writer) (ran : writer.run? layout events = some last) :
    keeps (sentOperations events) last := by
  refine keeps_foldlM (fun before writer => keeps (sentOperations before) writer) ?_ start ran
  intro before writer _ kept event member next stepped
  rw [sentOperations_concat]
  exact steps event member _ writer next kept (step?_eq_some stepped)

/-! ### The order of requests -/

/-- Every operation of a batch is answered. -/
theorem Workspace.length_applyBatch (layout : Layout) (workspace : Workspace) (mishaps : Mishaps)
    (operations : List Operation) :
    (workspace.applyBatch layout mishaps operations).2.length = operations.length := by
  have flags := length_applyAll layout mishaps.refuses 0 workspace.pending operations
  have answered (committed : Bool) : (answers operations
      (applyAll layout mishaps.refuses 0 workspace.pending operations).2 committed).length =
      operations.length := by
    rw [answers, List.length_zipWith, flags, Nat.min_self]
  unfold applyBatch
  dsimp only
  split
  · split <;> exact answered _
  · exact answered _

/-- Operations as requests that are numbered in order. -/
def numbered (operations : List Operation) : List Request := operations.mapIdx Request.mk

/-- The requests that are answered, those of the batch and those of the queue are all operations
    that were sent, in order, and the batch is not longer than it may be. -/
structure SharedWriter.InOrder (limit : Nat) (operations : List Operation) (writer : SharedWriter) :
    Prop where
  requests : writer.answered.map Prod.fst ++ writer.worker.batch ++ writer.queue =
    numbered operations
  sent : writer.sent = operations.length
  maxBatch : writer.maxBatch = limit
  bounded : writer.worker.batch.length ≤ limit

theorem SharedWriter.inOrder_ofSnapshot (snapshot : Snapshot) (size : Nat) :
    (SharedWriter.ofSnapshot snapshot size).InOrder (max size 1) [] :=
  ⟨rfl, rfl, rfl, Nat.zero_le _⟩

theorem SharedWriter.InOrder.queueStep {limit : Nat} (positive : 0 < limit)
    {operations : List Operation} (inOrder : writer.InOrder limit operations) {event : QueueEvent}
    (step : writer.QueueStep event next) : next.InOrder limit (operations ++ event.sent?.toList) := by
  obtain ⟨requests, sent, maxBatch, bounded⟩ := inOrder
  cases step with
  | send operation inside =>
    refine ⟨?_, by simp [QueueEvent.sent?, sent], maxBatch, bounded⟩
    simp [QueueEvent.sent?, numbered, List.mapIdx_append, sent, ← List.append_assoc, requests]
  | receive waiting queued =>
    refine ⟨?_, ?_, maxBatch, positive⟩
    · simpa [QueueEvent.sent?, Worker.batch, waiting, queued] using requests
    · simpa [QueueEvent.sent?] using sent
  | gather gathering queued room =>
    refine ⟨?_, ?_, maxBatch, ?_⟩
    · simpa [QueueEvent.sent?, Worker.batch, gathering, queued] using requests
    · simpa [QueueEvent.sent?] using sent
    · rw [← maxBatch, Worker.batch, List.length_cons, List.length_append, List.length_singleton]
      exact room
  | stop waiting drained sealed left =>
    refine ⟨?_, ?_, maxBatch, Nat.zero_le _⟩
    · simpa [QueueEvent.sent?, Worker.batch, waiting] using requests
    · simpa [QueueEvent.sent?] using sent
  | enter | leave | «seal» | join | finish =>
    exact ⟨by simpa [QueueEvent.sent?] using requests, by simpa [QueueEvent.sent?] using sent,
      maxBatch, bounded⟩

theorem SharedWriter.InOrder.step {limit : Nat} (positive : 0 < limit) {operations : List Operation}
    (inOrder : writer.InOrder limit operations) (step : writer.Step layout event next) :
    next.InOrder limit (operations ++ event.sent?.toList) := by
  cases step with
  | queue step => exact inOrder.queueStep positive step
  | @work first more mishaps gathering =>
    obtain ⟨requests, sent, maxBatch, bounded⟩ := inOrder
    have all := Workspace.length_applyBatch layout writer.workspace mishaps
      ((first :: more).map Request.operation)
    rw [List.length_map] at all
    have taken := List.map_fst_zip (Nat.le_of_eq all.symm)
    refine ⟨?_, ?_, maxBatch, Nat.zero_le _⟩
    · simp only [WriterEvent.sent?, SharedWriter.work, Worker.batch, List.map_append, taken,
        Option.toList_none, List.append_nil]
      rwa [gathering] at requests
    · simpa [WriterEvent.sent?, SharedWriter.work] using sent

/-- No request is lost, and none overtakes another one. -/
theorem SharedWriter.run_inOrder {snapshot : Snapshot} {size : Nat} {events : List WriterEvent}
    (ran : (SharedWriter.ofSnapshot snapshot size).run? layout events = some writer) :
    writer.InOrder (max size 1) (sentOperations events) :=
  run?_keeps (fun operations writer => writer.InOrder (max size 1) operations)
    (fun _ _ _ _ _ inOrder step => inOrder.step (by omega) step)
    (inOrder_ofSnapshot snapshot size) ran

end KeyedIndex
