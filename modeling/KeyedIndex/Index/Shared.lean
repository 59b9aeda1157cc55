import KeyedIndex.Index.Basic
import KeyedIndex.Writer.Shared

/-!
Indexes that are shared. The worker applies the operations of a batch one by one, commits them
together and answers only then; meanwhile readers take leases on the snapshot that was
loaded last and ask their questions. What is committed is loaded when a client refreshes
the index, or in the background if the settings say so. To load is one step, since the
engine promises that readers then reflect the last commit (`SharedIndex.step?`).

In the source, `run_worker` with `apply_batch` in its single steps, `acquire`, `release` and
`refresh` of `SearcherManager`, and the reads of `EntityIndex` (`Question`).
-/
namespace KeyedIndex

/-- How far the worker has come with its batch. -/
inductive Progress where
  /-- Some operations have been applied, each of which was accepted or not. -/
  | applying (accepted : List Bool)
  /-- All is done but for the answers to the requests that were accepted. -/
  | answering (left : List (Request × Answer))

structure SharedIndex where
  writer : SharedWriter
  progress : Progress
  readers : Readers
  /-- The leases that are out, by their readers. -/
  leases : List (Nat × Snapshot)

/-- An index on what is committed, before anybody has used it. -/
def SharedIndex.ofSnapshot (snapshot : Snapshot) (maxBatch : Nat) : SharedIndex where
  writer := .ofSnapshot snapshot maxBatch
  progress := .applying []
  readers := .ofSnapshot snapshot
  leases := []

/-- What clients, the worker and readers can do, and what the engine does in the background. -/
inductive IndexEvent where
  /-- What happens to the queue. -/
  | write (event : QueueEvent)
  /-- Apply the next operation of the batch, which the engine may refuse. -/
  | apply (refused : Bool)
  /-- Commit the batch or roll it back. -/
  | commit (fails : Bool)
  /-- Give the next answer, or go back to the queue after the last one. -/
  | answer
  /-- Load what is committed for a client, if its files can be read. -/
  | refresh (loads : Bool)
  /-- Load what is committed in the background. -/
  | reload
  | acquire (reader : Nat)
  | release (reader : Nat)

/-! ### Writing -/

/-- The answer to a request that has failed. -/
def Request.failed (request : Request) : Request × Answer :=
  (request, .error (.write request.operation.key))

/-- Whether something can happen to the queue: the worker does not touch it before its batch is
    done. -/
def SharedIndex.permits (index : SharedIndex) : QueueEvent → Bool
  | .receive | .gather | .stop =>
    match index.progress with
    | .applying [] => true
    | _ => false
  | _ => true

/-- Apply an operation. Who asked for one that is refused is told so at once. -/
def SharedIndex.apply (layout : Layout) (refused : Bool) (index : SharedIndex)
    (accepted : List Bool) (request : Request) : SharedIndex :=
  let workspace := index.writer.workspace
  let (pending, taken) := request.operation.apply layout refused workspace.pending
  { index with
    progress := .applying (accepted ++ [taken])
    writer := { index.writer with
      workspace := { workspace with pending }
      answered := index.writer.answered ++ if taken then [] else [request.failed] } }

/-- Commit all changes, or go back to the last commit. -/
def Workspace.commit (workspace : Workspace) (fails : Bool) : Workspace × Bool :=
  match if fails then none else workspace.pending.commit? with
  | some next => (.ofSnapshot next, true)
  | none => (.ofSnapshot workspace.committed, false)

/-- The requests of a batch that were accepted. -/
def taken (batch : List Request) (accepted : List Bool) : List Request :=
  ((batch.zip accepted).filter Prod.snd).map Prod.fst

/-- Commit a batch of which all operations have been applied, if any was accepted. -/
def SharedIndex.commit (fails : Bool) (index : SharedIndex) (requests : List Request) :
    SharedIndex :=
  if requests.isEmpty then { index with progress := .answering [] }
  else
    let (workspace, committed) := index.writer.workspace.commit fails
    { index with
      writer := { index.writer with workspace }
      progress := .answering (requests.map (fun request =>
        if committed then (request, .ok ()) else request.failed)) }

/-- What the worker can do with its batch. -/
def SharedIndex.workerStep? (layout : Layout) (index : SharedIndex) :
    IndexEvent → Option SharedIndex
  | .apply refused =>
    match index.progress with
    | .applying accepted =>
      (index.writer.worker.batch[accepted.length]?).map (index.apply layout refused accepted)
    | .answering _ => none
  | .commit fails =>
    match index.progress, index.writer.worker with
    | .applying accepted, .gathering first more =>
      if accepted.length = (first :: more).length then
        some (index.commit fails (taken (first :: more) accepted))
      else none
    | _, _ => none
  | .answer =>
    match index.progress with
    | .answering [] =>
      some { index with
        progress := .applying []
        writer := { index.writer with worker := .waiting } }
    | .answering (next :: left) =>
      some { index with
        progress := .answering left
        writer := { index.writer with answered := index.writer.answered ++ [next] } }
    | .applying _ => none
  | _ => none

/-! ### Reading -/

/-- The last commit, which writers share. -/
def SharedIndex.committed (index : SharedIndex) : Snapshot := index.writer.workspace.committed

/-- Load what is committed for later leases. -/
def SharedIndex.load (index : SharedIndex) : SharedIndex :=
  { index with readers := index.readers.refresh index.committed }

/-- What readers can do. -/
def SharedIndex.readerStep? (index : SharedIndex) : IndexEvent → Option SharedIndex
  | .acquire reader =>
    if (index.leases.lookup reader).isNone then
      let (snapshot, readers) := index.readers.acquire
      some { index with readers, leases := (reader, snapshot) :: index.leases }
    else none
  | .release reader =>
    if (index.leases.lookup reader).isSome then
      some { index with
        readers := index.readers.release
        leases := index.leases.filter (fun lease => lease.1 ≠ reader) }
    else none
  | _ => none

/-- What happens at an event, if it can happen. -/
def SharedIndex.step? (layout : Layout) (policy : ReloadPolicy) (index : SharedIndex)
    (event : IndexEvent) : Option SharedIndex :=
  match event with
  | .write event =>
    if index.permits event then
      (index.writer.queueStep? event).map (fun writer => { index with writer })
    else none
  | .apply _ | .commit _ | .answer => index.workerStep? layout event
  | .refresh loads => some (if loads then index.load else index)
  | .reload => if policy = .onCommit then some index.load else none
  | .acquire _ | .release _ => index.readerStep? event

/-- The index after events, if they can happen in their order. -/
def SharedIndex.run? (layout : Layout) (policy : ReloadPolicy) (index : SharedIndex)
    (events : List IndexEvent) : Option SharedIndex :=
  events.foldlM (SharedIndex.step? layout policy) index

/-! ### Questions -/

variable {α κ : Type}

/-- What can be asked of an index. -/
inductive Question (α κ : Type) where
  | entities (predicate : Predicate α) (options : SearchOptions) (known : κ → Option α)
  | bundles (predicate : Predicate α) (options : SearchOptions)
  | entity (key : κ) (known : κ → Option α)
  | size

inductive Reply (α : Type) where
  | entities (result : Except Error (List α))
  | bundles (result : Except Error (List Bundle))
  | entity (result : Except Error (Option α))
  | size (count : Nat)

/-- A predicate as a listing under a binding. -/
def Binding.listing (binding : Binding α) (predicate : Predicate α) (options : SearchOptions) :
    Except Error (Listing α) :=
  match binding.compile predicate with
  | .ok query => .ok ⟨binding, query, options⟩
  | .error fault => .error (.query fault)

/-- The reply to a question, over one snapshot. -/
def Question.reply [Key κ] (binding : Binding α) (snapshot : Snapshot) : Question α κ → Reply α
  | .entities predicate options known => .entities do
    (← binding.listing predicate options).read known snapshot
  | .bundles predicate options => .bundles do
    (← binding.listing predicate options).readRaw snapshot
  | .entity key known =>
    let listing : Listing α := ⟨binding, binding.keyQuery key, .window 0 1⟩
    .entity ((listing.read known snapshot).map List.head?)
  | .size => .size snapshot.size

/-- What a reader that holds a lease is told. -/
def SharedIndex.ask? [Key κ] (index : SharedIndex) (binding : Binding α) (reader : Nat)
    (question : Question α κ) : Option (Reply α) :=
  (index.leases.lookup reader).map (fun snapshot => question.reply binding snapshot)

end KeyedIndex
