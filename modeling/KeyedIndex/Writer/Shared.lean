import KeyedIndex.Writer.Batch

/-!
Writers that are shared. Clients go in at an entrance, put their operations into a queue and
go out again; one worker takes the operations from the queue in batches and answers them.
Whoever closes the writer takes the entrance away and waits for the worker, if nobody waits
for it already. The worker stops when the queue is empty, the entrance is gone and no client
is left inside (`SharedWriter.step?`).

In the source, `IndexWriterHandle` and the thread of `run_worker`: a client that is inside has
cloned the sender in `submit`, to close is `close` or `drop`, and to join is to wait for the
thread, whose handle only the first one gets.
-/
namespace KeyedIndex

/-- An operation that has been sent, with its number in the order of the queue. -/
structure Request where
  number : Nat
  operation : Operation

inductive Worker where
  | waiting
  /-- With the requests of the next batch, of which there is at least one. -/
  | gathering (first : Request) (more : List Request)
  | stopped

/-- The requests that the worker holds. -/
def Worker.batch : Worker → List Request
  | .gathering first more => first :: more
  | .waiting | .stopped => []

/-- How far someone has come who closes the writer. -/
inductive Closing where
  /-- The entrance has been taken away. -/
  | sealed
  /-- The worker is waited for. -/
  | joining
  | returned
deriving DecidableEq

structure SharedWriter where
  workspace : Workspace
  /-- The most operations of a batch. -/
  maxBatch : Nat
  /-- Whether the entrance is still there. -/
  isOpen : Bool
  /-- The clients that are inside, by their numbers. -/
  clients : List Nat
  /-- The number of requests that have been sent. -/
  sent : Nat
  queue : List Request
  worker : Worker
  /-- The requests that have been answered, in the order of their answers. -/
  answered : List (Request × Answer)
  /-- Whether nobody has waited for the worker yet. -/
  joinable : Bool
  closers : List (Nat × Closing)

/-- A writer on what is committed, before anybody has used it. -/
def SharedWriter.ofSnapshot (snapshot : Snapshot) (maxBatch : Nat) : SharedWriter where
  workspace := .ofSnapshot snapshot
  maxBatch := max maxBatch 1
  isOpen := true
  clients := []
  sent := 0
  queue := []
  worker := .waiting
  answered := []
  joinable := true
  closers := []

/-- What clients, the worker and those who close the writer can do with the queue. -/
inductive QueueEvent where
  | enter (client : Nat)
  | send (client : Nat) (operation : Operation)
  | leave (client : Nat)
  /-- Take the first request of a batch. -/
  | receive
  /-- Take one more request into a batch. -/
  | gather
  | stop
  | seal (closer : Nat)
  /-- Wait for the worker, or return if it is waited for already. -/
  | join (closer : Nat)
  | finish (closer : Nat)

/-- What can happen to a writer whose batches are done in one step. -/
inductive WriterEvent where
  | queue (event : QueueEvent)
  /-- Apply the batch, commit it and answer to its requests. -/
  | work (mishaps : Mishaps)

/-- Let a client in, if the entrance is there. -/
def SharedWriter.enter (writer : SharedWriter) (client : Nat) : Except Error SharedWriter :=
  if writer.isOpen then .ok { writer with clients := client :: writer.clients }
  else .error .writerClosed

/-- Put an operation of a client that is inside into the queue. -/
def SharedWriter.send? (writer : SharedWriter) (client : Nat) (operation : Operation) :
    Option SharedWriter :=
  if writer.clients.contains client then
    some { writer with
      sent := writer.sent + 1
      queue := writer.queue ++ [⟨writer.sent, operation⟩] }
  else none

/-- Apply a batch and answer to its requests. -/
def SharedWriter.work (layout : Layout) (mishaps : Mishaps) (writer : SharedWriter)
    (batch : List Request) : SharedWriter :=
  let (workspace, answers) :=
    writer.workspace.applyBatch layout mishaps (batch.map Request.operation)
  { writer with
    workspace
    worker := .waiting
    answered := writer.answered ++ batch.zip answers }

/-- What the worker can do with the queue. -/
def SharedWriter.workerStep? (writer : SharedWriter) : QueueEvent → Option SharedWriter
  | .receive =>
    match writer.worker, writer.queue with
    | .waiting, first :: queue => some { writer with worker := .gathering first [], queue }
    | _, _ => none
  | .gather =>
    match writer.worker, writer.queue with
    | .gathering first more, next :: queue =>
      if more.length + 1 < writer.maxBatch then
        some { writer with worker := .gathering first (more ++ [next]), queue }
      else none
    | _, _ => none
  | .stop =>
    match writer.worker with
    | .waiting =>
      if writer.queue.isEmpty && !writer.isOpen && writer.clients.isEmpty then
        some { writer with worker := .stopped }
      else none
    | _ => none
  | _ => none

/-- Note how far someone has come who closes the writer. -/
def setClosing (closer : Nat) (closing : Closing) (closers : List (Nat × Closing)) :
    List (Nat × Closing) :=
  (closer, closing) :: closers.filter (fun entry => entry.1 ≠ closer)

/-- What those can do who close the writer. -/
def SharedWriter.closerStep? (writer : SharedWriter) : QueueEvent → Option SharedWriter
  | .seal closer =>
    match writer.closers.lookup closer with
    | none | some .returned =>
      some { writer with isOpen := false, closers := setClosing closer .sealed writer.closers }
    | _ => none
  | .join closer =>
    if writer.closers.lookup closer = some .sealed then
      let closing := if writer.joinable then .joining else .returned
      some { writer with
        joinable := false, closers := setClosing closer closing writer.closers }
    else none
  | .finish closer =>
    match writer.closers.lookup closer, writer.worker with
    | some .joining, .stopped =>
      some { writer with closers := setClosing closer .returned writer.closers }
    | _, _ => none
  | _ => none

/-- What happens to the queue at an event, if it can happen. -/
def SharedWriter.queueStep? (writer : SharedWriter) (event : QueueEvent) : Option SharedWriter :=
  match event with
  | .enter client => (writer.enter client).toOption
  | .send client operation => writer.send? client operation
  | .leave client =>
    if writer.clients.contains client then
      some { writer with clients := writer.clients.erase client }
    else none
  | .receive | .gather | .stop => writer.workerStep? event
  | .seal _ | .join _ | .finish _ => writer.closerStep? event

/-- What happens at an event, if it can happen. -/
def SharedWriter.step? (layout : Layout) (writer : SharedWriter) :
    WriterEvent → Option SharedWriter
  | .queue event => writer.queueStep? event
  | .work mishaps =>
    match writer.worker with
    | .gathering first more => some (writer.work layout mishaps (first :: more))
    | _ => none

/-- The writer after events, if they can happen in their order. -/
def SharedWriter.run? (layout : Layout) (writer : SharedWriter) (events : List WriterEvent) :
    Option SharedWriter :=
  events.foldlM (SharedWriter.step? layout) writer

end KeyedIndex
