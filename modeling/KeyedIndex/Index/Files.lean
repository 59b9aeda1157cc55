import KeyedIndex.Storage.Disk
import KeyedIndex.Writer.Batch

/-!
The files of an index that is stored in a directory. What its writer has committed lies in
files there, which are gone if the directory is deleted while the index is open. Files
that the readers have opened before can still be read; without the others, nothing can
be deleted from what was committed.

In the source there is nothing of this; it is what the engine does with its files.
-/
namespace KeyedIndex

structure Files where
  /-- How often the directory had been deleted when the files were looked at last. -/
  deletions : Nat
  /-- The number of the commit on which the writer works. -/
  commit : Nat
  /-- The number of the commit whose files the readers have open. -/
  opened : Nat
  /-- What is left of the committed segments whose files are gone. -/
  lost : Snapshot
  /-- Whether the readers have the files open that are gone. -/
  held : Bool

/-- The files of a commit that the writer and the readers have just loaded. -/
def Files.ofCommit (deletions : Nat) (commit : Commit) : Files :=
  ⟨deletions, commit.number, commit.number, [], false⟩

/-- Look at the files again. If the directory has been deleted since, all that was committed is
    lost. -/
def Files.look (files : Files) (deletions : Nat) (committed : Snapshot) : Files :=
  if files.deletions < deletions then
    { files with deletions, lost := committed, held := files.opened = files.commit }
  else files

/-- What an operation leaves of segments. -/
def Operation.survivors (layout : Layout) (snapshot : Snapshot) : Operation → Snapshot
  | .replace _ term _ | .delete _ term =>
    (snapshot.map (fun segment => segment.filter (layout.lacks term))).filter
      (fun segment => !segment.documents.isEmpty)
  | .deleteAll => []

def Operation.isDeleteAll : Operation → Bool
  | .deleteAll => true
  | _ => false

/-- Whether files would have to be read for a batch that are gone. To delete everything no file
    is read. -/
def Files.block (files : Files) (batch : List Operation) : Bool :=
  !files.lost.isEmpty && !files.held && !batch.any Operation.isDeleteAll

/-- Whether a batch adds nothing, so that it can only take documents away. -/
def addsNothing (batch : List Operation) : Bool :=
  batch.all (fun operation => match operation with
    | .replace _ _ _ => false
    | _ => true)

/-- The files behind a batch that has been committed, if it has a new number. -/
def Files.advance (layout : Layout) (files : Files) (batch : List Operation) (number : Nat) :
    Files :=
  { files with commit := number, lost := batch.foldl (Operation.survivors layout) files.lost }

/-- The files behind a commit that the writer has loaded in the place of its own. -/
def Files.reload (files : Files) (commit : Commit) : Files :=
  if commit.number = files.commit then files
  else { files with
    commit := commit.number
    lost := if commit.complete then [] else commit.snapshot
    held := false }

/-- Whether the readers can load a commit: its files are there, or they have them open. -/
def Files.canLoad (files : Files) (commit : Commit) : Bool :=
  commit.complete || (commit.number = files.commit && files.held)

/-- The files behind a commit that the readers have loaded. -/
def Files.load (files : Files) (commit : Commit) : Files :=
  { files with
    opened := commit.number
    held := files.held && commit.number = files.commit }

end KeyedIndex
