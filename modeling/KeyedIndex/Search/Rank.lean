import KeyedIndex.Json.Decode
import KeyedIndex.Text.Basic

/-!
Options of a search, and ranks of hits within a segment.

In the source, `QueryOptions` (`SearchOptions`), `SortOrder`, and of `KeyOrderSegmentCollector`
the functions `rank` (`Rank.of`), `resolve` (`Rank.ordinal?`) and `collect` (`push`).
-/
namespace KeyedIndex

/-! ### Options

Options of a search: the window of hits that is wanted, their order, and the fields
that raw hits shall have.
-/

inductive SortOrder where
  | ascending
  | descending
deriving DecidableEq, Repr

def SortOrder.name : SortOrder → String
  | .ascending => "asc"
  | .descending => "desc"

def SortOrder.decode : Json.Doc → Except Json.DecodeError SortOrder :=
  Json.decodeVariant (SortOrder.ascending.name, .ascending)
    (SortOrder.descending.name, .descending)

/-- The order that a JSON text stands for. -/
def SortOrder.ofJsonText (text : String) : Except Json.DecodeError SortOrder :=
  Json.decode SortOrder.decode text

structure SearchOptions where
  /-- The hits to leave out before the window. -/
  start : UInt64
  /-- The most hits in the window. -/
  limit : UInt64
  order : SortOrder
  /-- The fields of raw hits, distinct and sorted, or all. -/
  fields : Option (List String)
deriving DecidableEq

/-- The first page: twenty-five hits in ascending order. -/
def SearchOptions.default : SearchOptions := ⟨0, 25, .ascending, none⟩

/-- A window of all fields in ascending order. -/
def SearchOptions.window (start limit : UInt64) : SearchOptions :=
  ⟨start, limit, .ascending, none⟩

def SearchOptions.withFields (options : SearchOptions) (fields : List String) : SearchOptions :=
  { options with fields := some (Text.sortDistinct fields) }

/-- The number of first hits that reach to the end of the window, as far as a word of 64 bits
    can tell. -/
def SearchOptions.reach (options : SearchOptions) : UInt64 :=
  UInt64.ofNat (min (options.start.toNat + options.limit.toNat) (UInt64.size - 1))

/-! ### Ranks

Ranks of hits within a segment. The sort keys of a segment are numbered in their order,
so that hits are ranked by numbers; a hit without a key comes after all others in both
directions, and the document decides between equal keys. Of the hits that are found,
a buffer keeps the best ones (`push`).
-/

/-- The position of a hit: what has the lesser rank comes first. -/
structure Rank where
  missing : Bool
  place : UInt64
  document : Nat
deriving DecidableEq, Repr

/-- The greatest place of a key. -/
def lastPlace : UInt64 := 0xFFFFFFFFFFFFFFFF

/-- The place of the key with a number; the last keys come first in descending order. -/
def SortOrder.place (order : SortOrder) (ordinal : UInt64) : UInt64 :=
  match order with
  | .ascending => ordinal
  | .descending => lastPlace - ordinal

/-- The rank of a document whose key has a number, or which has no key. -/
def Rank.of (order : SortOrder) (ordinal : Option UInt64) (document : Nat) : Rank :=
  match ordinal with
  | some ordinal => ⟨false, order.place ordinal, document⟩
  | none => ⟨true, 0, document⟩

/-- The number of the key of a rank. -/
def Rank.ordinal? (order : SortOrder) (rank : Rank) : Option UInt64 :=
  if rank.missing then none else some (order.place rank.place)

def Rank.before (left right : Rank) : Bool :=
  if left.missing ≠ right.missing then right.missing
  else if left.place ≠ right.place then left.place < right.place
  else left.document < right.document

/-- Put a rank at its place in a sorted list. -/
def insertRank (rank : Rank) : List Rank → List Rank
  | [] => [rank]
  | head :: tail => if rank.before head then rank :: head :: tail else head :: insertRank rank tail

/-- Put a rank into a sorted buffer of at most `limit` ranks. A full buffer gives up its
    worst rank for a better one. -/
def push (limit : Nat) (buffer : List Rank) (rank : Rank) : List Rank :=
  if buffer.length < limit then insertRank rank buffer
  else
    match buffer.getLast? with
    | none => buffer
    | some worst => if rank.before worst then insertRank rank buffer.dropLast else buffer

end KeyedIndex
