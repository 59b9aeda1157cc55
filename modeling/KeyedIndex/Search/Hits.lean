import KeyedIndex.Document.Basic
import KeyedIndex.Engine.Snapshot
import KeyedIndex.Error
import KeyedIndex.Query.Basic
import KeyedIndex.Search.Rank

/-!
The first hits of a query, and what is read along them.

In the source, `compare` (`Hit.notAfter`), `top_n` (`firstHits`), `harvest`
(`Search.segmentHits`), `merge_fruits` (`Search.hits`) and `QuerySource` (`Listing`, where
`read_impl` is `Listing.hits`).
-/
namespace KeyedIndex

/-! ### Hits

The first hits of a query in the order of their keys. Every segment hands over its own
first hits, whose keys are looked up only then; of these, the first ones overall are
the result. Documents without a key come last, and the address of a document decides
between equal keys.
-/

/-- Where a document stands in a snapshot. -/
structure Address where
  segment : Nat
  document : Nat
deriving DecidableEq, Repr

structure Hit where
  key : Option String
  address : Address
deriving DecidableEq

/-- The column by which hits are ordered, or none if the layout lacks it. -/
abbrev SortColumn := Option Nat

/-- A column that was not made sortable cannot order hits; a path into its values leads to no
    keys. -/
def Layout.sortColumn? (layout : Layout) (name : String) : Option SortColumn :=
  match layout.reached? name with
  | none => some none
  | some (column, path) =>
    match layout[column]? with
    | some found =>
      if found.sortable then some (if path.isEmpty && found.type.isText then some column else none)
      else none
    | none => some none

/-- The sort key of a document: the first text of the column. -/
def SortColumn.key? (column : SortColumn) (document : Document) : Option String := do
  ((document.values (← column)).filterMap FieldValue.text?).head?

/-- The sort keys of a segment, distinct and in order. -/
def SortColumn.dictionary (column : SortColumn) (segment : Segment) : List String :=
  Text.sortDistinct (segment.documents.filterMap column.key?)

/-- The number of a key in a dictionary. -/
def ordinal? (dictionary : List String) (key : String) : Option UInt64 :=
  (dictionary.findIdx? (· = key)).map UInt64.ofNat

/-! ### Order of hits -/

def Address.before (left right : Address) : Bool :=
  if left.segment = right.segment then left.document < right.document
  else left.segment < right.segment

/-- Whether a hit comes before another one or in its place. -/
def Hit.notAfter (order : SortOrder) (left right : Hit) : Bool :=
  match left.key, right.key with
  | some _, none => true
  | none, some _ => false
  | none, none => !right.address.before left.address
  | some first, some second =>
    if first = second then !right.address.before left.address
    else
      match order with
      | .ascending => Text.before first second
      | .descending => Text.before second first

/-- The first hits in order. -/
def firstHits (order : SortOrder) (limit : Nat) (hits : List Hit) : List Hit :=
  (hits.mergeSort (Hit.notAfter order)).take limit

/-! ### Segments and snapshots -/

/-- What a search is for: the documents that match, and how many of them in which order. -/
structure Search where
  layout : Layout
  query : Query
  column : SortColumn
  order : SortOrder
  limit : Nat

/-- Whether a document is among those that the search is for. -/
def Search.wants (search : Search) (document : Document) : Bool :=
  search.query.matches (search.layout.terms document)

/-- The ranks of the documents of a segment that match, in the order of the documents. -/
def Search.ranks (search : Search) (segment : Segment) : List Rank :=
  let dictionary := search.column.dictionary segment
  (segment.documents.zipIdx.filter (fun (document, _) => search.wants document)).map
    (fun (document, place) =>
      Rank.of search.order ((search.column.key? document).bind (ordinal? dictionary)) place)

/-- The hit at a rank. -/
def Rank.hit (order : SortOrder) (dictionary : List String) (segment : Nat) (rank : Rank) : Hit where
  key := (rank.ordinal? order).bind (fun ordinal => dictionary[ordinal.toNat]?)
  address := ⟨segment, rank.document⟩

/-- The first hits of a segment, which stands at a place in the snapshot. -/
def Search.segmentHits (search : Search) (segment : Segment) (place : Nat) : List Hit :=
  let best := (search.ranks segment).foldl (push search.limit) []
  firstHits search.order search.limit
    (best.map (Rank.hit search.order (search.column.dictionary segment) place))

/-- The first hits of a snapshot. -/
def Search.hits (search : Search) (snapshot : Snapshot) : List Hit :=
  firstHits search.order search.limit
    (snapshot.zipIdx.flatMap (fun (segment, place) => search.segmentHits segment place))

/-- The document at an address. -/
def Snapshot.document? (snapshot : Snapshot) (address : Address) : Option Document := do
  (← snapshot[address.segment]?).documents[address.document]?

/-- The first hits in the order of a column. A column that is not sortable is a failure as
    soon as there is a segment. -/
def sortedHits? (layout : Layout) (name : String) (query : Query) (order : SortOrder) (limit : Nat)
    (snapshot : Snapshot) : Option (List Hit) :=
  match layout.sortColumn? name with
  | some column => some (Search.hits ⟨layout, query, column, order, limit⟩ snapshot)
  | none => if snapshot.isEmpty then some [] else none

/-! ### Listings

A listing is a compiled query that is ready to be read. Entities and bundles are read along
one way: the hits of the window are found first, and then each of them is mapped. A hit
is dropped if its key cannot be read or is unknown to the cache, which leaves the
window short.
-/

/-- The number of results that is told to whoever plans queries, whatever the query. -/
def cardinality : Nat := 10

structure Listing (α : Type) where
  binding : Binding α
  query : Query
  options : SearchOptions

variable {α κ : Type}

/-- The hits of the window in a snapshot. -/
def Listing.hits (listing : Listing α) (snapshot : Snapshot) : Except Error (List Hit) :=
  if listing.options.limit = 0 then .ok []
  else
    match sortedHits? listing.binding.layout listing.binding.schema.keyField.name listing.query
      listing.options.order listing.options.reach.toNat snapshot with
    | some hits => .ok (hits.drop listing.options.start.toNat)
    | none => .error .execution

/-- The key of a hit: its sort key, or the key of the document if it has none. -/
def Listing.key? [Key κ] (listing : Listing α) (snapshot : Snapshot) (hit : Hit) : Option κ :=
  match hit.key with
  | some text => Key.ofText? text
  | none => (snapshot.document? hit.address).bind listing.binding.key?

/-- The entities of the window, as far as a cache knows them. -/
def Listing.read [Key κ] (listing : Listing α) (known : κ → Option α) (snapshot : Snapshot) :
    Except Error (List α) := do
  return (← listing.hits snapshot).filterMap (fun hit => (listing.key? snapshot hit).bind known)

/-- The stored values of the window. -/
def Listing.readRaw (listing : Listing α) (snapshot : Snapshot) : Except Error (List Bundle) := do
  return (← listing.hits snapshot).filterMap (fun hit =>
    (snapshot.document? hit.address).map
      (fun document => listing.binding.bundle document listing.options.fields))

end KeyedIndex
