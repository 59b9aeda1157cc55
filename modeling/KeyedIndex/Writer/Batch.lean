import KeyedIndex.Engine.Snapshot
import KeyedIndex.Error

/-!
Operations, the batches in which they are applied, and writers.

In the source, `WriteOp` (`Operation`), `apply_batch` (`Workspace.applyBatch`) and the loop of
`run_worker` that takes a batch from the queue (`batches`).
-/
namespace KeyedIndex

/-! ### Operations

What an operation does to the changes since the last commit. To replace is to delete the
documents with the term of the key and then to add one; the engine may refuse to add a
document or to delete all of them.
-/

inductive Operation where
  /-- Delete the documents with a term and add one. -/
  | replace (key : String) (term : Term) (document : Document)
  /-- Delete the documents with a term. -/
  | delete (key : String) (term : Term)
  | deleteAll

/-- The key that stands for the whole index in messages. -/
def allKeys : String := "*"

def Operation.key : Operation → String
  | .replace key _ _ | .delete key _ => key
  | .deleteAll => allKeys

/-- What an operation changes, and whether it was accepted, where `refused` says whether the
    engine refuses the call that it may refuse. -/
def Operation.apply (layout : Layout) (refused : Bool) (pending : Pending) :
    Operation → Pending × Bool
  | .replace _ term document =>
    let rest := pending.delete layout term
    if refused then (rest, false) else (rest.add layout document, true)
  | .delete _ term => (pending.delete layout term, true)
  | .deleteAll => if refused then (pending, false) else (pending.clear, true)

/-! ### Batches

The operations of a batch share one commit. They are applied in order; if any was
accepted, all of them are committed together. If the commit fails, the changes are rolled
back and every operation of the batch has failed.
-/

/-- What a writer works on, the `IndexWriter` of the source: the last commit and the changes since
    then. -/
structure Workspace where
  committed : Snapshot
  pending : Pending

/-- A workspace without changes. -/
def Workspace.ofSnapshot (snapshot : Snapshot) : Workspace := ⟨snapshot, .ofSnapshot snapshot⟩

/-- What the engine and the storage do of their own accord: which operations of a batch are
    refused, by their positions, and whether the commit fails. In the source, the errors of
    `add_document`, `delete_all_documents` and `commit`. -/
structure Mishaps where
  refuses : Nat → Bool
  failsCommit : Bool

/-- Nothing goes wrong. -/
def Mishaps.none : Mishaps := ⟨fun _ => false, false⟩

/-- What is answered to the one who asked for an operation. -/
abbrev Answer := Except Error Unit

/-- Apply operations in order, the first of which has a position in its batch. -/
def applyAll (layout : Layout) (refuses : Nat → Bool) (position : Nat) (pending : Pending) :
    List Operation → Pending × List Bool
  | [] => (pending, [])
  | operation :: rest =>
    let (next, accepted) := operation.apply layout (refuses position) pending
    let (last, flags) := applyAll layout refuses (position + 1) next rest
    (last, accepted :: flags)

/-- The answers to a batch: what was accepted shares the fate of the commit. -/
def answers (operations : List Operation) (accepted : List Bool) (committed : Bool) : List Answer :=
  List.zipWith (fun operation accepted =>
    if accepted && committed then .ok () else .error (.write operation.key)) operations accepted

/-- Apply a batch and commit it. -/
def Workspace.applyBatch (layout : Layout) (mishaps : Mishaps) (workspace : Workspace)
    (operations : List Operation) : Workspace × List Answer :=
  let (pending, accepted) := applyAll layout mishaps.refuses 0 workspace.pending operations
  if accepted.any id then
    match if mishaps.failsCommit then none else pending.commit? with
    | some next => (.ofSnapshot next, answers operations accepted true)
    | none => (.ofSnapshot workspace.committed, answers operations accepted false)
  else ({ workspace with pending }, answers operations accepted false)

/-! ### Writers

Operations are queued and taken from the queue in batches; a batch has at most as many
operations as the settings say, but at least one. A closed writer takes no operations any
more.
-/

structure Writer where
  workspace : Workspace
  /-- The most operations of a batch. -/
  maxBatch : Nat
  closed : Bool

/-- A writer on what is committed. -/
def Writer.ofSnapshot (snapshot : Snapshot) (maxBatch : Nat) : Writer :=
  ⟨.ofSnapshot snapshot, max maxBatch 1, false⟩

/-- Cut a queue into batches of at most `size + 1` operations. -/
def batches (size : Nat) (queue : List Operation) : List (List Operation) :=
  match queue with
  | [] => []
  | first :: rest => (first :: rest.take size) :: batches size (rest.drop size)
termination_by queue.length
decreasing_by simp only [List.length_drop, List.length_cons]; omega

def Writer.close (writer : Writer) : Writer := { writer with closed := true }

end KeyedIndex
