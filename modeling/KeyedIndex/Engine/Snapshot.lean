import KeyedIndex.Document.Basic

/-!
Segments of documents, the changes to them that are not yet committed, and readers of a snapshot.

In the source, segments and pending changes are the engine's; `SearcherManager` is `Readers`,
whose leases are `SearcherLease`.
-/
namespace KeyedIndex

/-! ### Segments

Segments and snapshots. What one commit adds stands in a segment of its own; a segment
loses documents, but never gains any, and vanishes with its last one. A snapshot is all
that is committed at one time.
-/

/-- The most documents of a segment. -/
def segmentLimit : Nat := 2147483648

/-- The live documents of a segment in the order in which they were added. -/
structure Segment where
  documents : List Document
  length_le : documents.length ≤ segmentLimit

/-- The segment without the documents that fail a test. -/
def Segment.filter (segment : Segment) (test : Document → Bool) : Segment :=
  ⟨segment.documents.filter test,
    Nat.le_trans (List.length_filter_le _ _) segment.length_le⟩

/-- Documents as segments, one if they are not too many for it. -/
def Segment.ofDocuments (documents : List Document) : List Segment :=
  if documents.isEmpty then []
  else ⟨documents.take segmentLimit, List.length_take_le _ _⟩
    :: ofDocuments (documents.drop segmentLimit)
termination_by documents.length
decreasing_by
  cases documents with
  | nil => simp_all
  | cons => simp only [List.length_drop, List.length_cons, segmentLimit]; omega

/-- The segments that are committed at one time. -/
abbrev Snapshot := List Segment

/-- All documents of a snapshot. -/
def Snapshot.documents (snapshot : Snapshot) : List Document :=
  snapshot.flatMap Segment.documents

def Snapshot.size (snapshot : Snapshot) : Nat := snapshot.documents.length

/-! ### Pending changes

Changes between two commits. Deletions and additions take effect in the order in which
they are made, and a deletion meets documents that were added before it. The changes
are committed together or not at all (`Pending.commit?`).
-/

/-- A snapshot with changes: what is left of its segments, the documents that were added, and
    whether one of them could not be indexed. -/
structure Pending where
  kept : Snapshot
  added : List Document
  unfit : Bool

/-- No changes. -/
def Pending.ofSnapshot (snapshot : Snapshot) : Pending := ⟨snapshot, [], false⟩

/-- Whether a document is without a term. -/
def Layout.lacks (layout : Layout) (term : Term) (document : Document) : Bool :=
  !(layout.terms document).contains term

/-- Delete the documents that have a term. -/
def Pending.delete (layout : Layout) (pending : Pending) (term : Term) : Pending :=
  { pending with
    kept := pending.kept.map (fun segment => segment.filter (layout.lacks term))
    added := pending.added.filter (layout.lacks term) }

def Pending.add (layout : Layout) (pending : Pending) (document : Document) : Pending :=
  { pending with
    added := pending.added ++ [document]
    unfit := pending.unfit || !layout.accepts document }

/-- Delete all documents. -/
def Pending.clear (pending : Pending) : Pending := { pending with kept := [], added := [] }

/-- The next snapshot, if all documents that were added could be indexed. -/
def Pending.commit? (pending : Pending) : Option Snapshot :=
  if pending.unfit then none
  else some (pending.kept.filter (fun segment => !segment.documents.isEmpty)
    ++ Segment.ofDocuments pending.added)

/-! ### Readers

Readers of an index. All of them read a snapshot that was loaded at one time; who reads
holds a lease on it, which keeps its snapshot whatever is loaded later.
-/

/-- The snapshot that was loaded last, and the number of leases that are out. -/
structure Readers where
  current : Snapshot
  outstanding : Nat

def Readers.ofSnapshot (snapshot : Snapshot) : Readers := ⟨snapshot, 0⟩

/-- Hand out a lease on the current snapshot. -/
def Readers.acquire (readers : Readers) : Snapshot × Readers :=
  (readers.current, { readers with outstanding := readers.outstanding + 1 })

/-- Take a lease back. -/
def Readers.release (readers : Readers) : Readers :=
  { readers with outstanding := readers.outstanding - 1 }

/-- Load a snapshot for later leases. -/
def Readers.refresh (readers : Readers) (snapshot : Snapshot) : Readers :=
  { readers with current := snapshot }

end KeyedIndex
