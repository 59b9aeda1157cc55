/-!
Texts as lists of bytes and of characters: their order, the runs between separators, sets of
characters, and the characters that are white space.
-/
namespace KeyedIndex.Text

/-! ### Order

The order of texts: by their UTF-8 bytes, the first difference decides and a text
comes after each of its beginnings. Keys, field names and name parts are sorted so.
-/

/-- The UTF-8 bytes of a text. -/
def bytes (text : String) : List UInt8 := text.toByteArray.data.toList

/-- The number of UTF-8 bytes of a text. -/
def byteLength (text : String) : Nat := text.utf8ByteSize

/-- Whether the first list of bytes comes before the second. -/
def bytesBefore : List UInt8 → List UInt8 → Bool
  | _, [] => false
  | [], _ :: _ => true
  | left :: lefts, right :: rights =>
    if left < right then true else if right < left then false else bytesBefore lefts rights

/-- Whether the first text comes before the second. -/
def before (left right : String) : Bool := bytesBefore (bytes left) (bytes right)

/-- Insert a text at its place in a sorted list, unless it stands there already. -/
def insertDistinct (text : String) : List String → List String
  | [] => [text]
  | head :: tail =>
    if before text head then text :: head :: tail
    else if before head text then head :: insertDistinct text tail
    else head :: tail

/-- The distinct texts of a list, sorted. -/
def sortDistinct (texts : List String) : List String := texts.foldr insertDistinct []

/-! ### Runs

A list is cut at its separators, and the non-empty pieces between them are
its runs. The words of a text and the parts of a name are runs.
-/

/-- The pieces between the separators, empty ones included; there is one more piece
    than there are separators. -/
def pieces {α : Type} (separates : α → Bool) : List α → List (List α)
  | [] => [[]]
  | item :: rest =>
    if separates item then [] :: pieces separates rest
    else
      match pieces separates rest with
      | [] => [[item]]
      | piece :: more => (item :: piece) :: more

/-- The maximal non-empty runs of items that do not separate. -/
def runs {α : Type} (separates : α → Bool) (items : List α) : List (List α) :=
  (pieces separates items).filter (fun piece => !piece.isEmpty)

/-! ### Sets of characters

Sets of characters, given by the ranges of their code points. A table of a
character property is a value of `Ranges`; the property itself is a membership
test in the module that is named for it.
-/

/-- Inclusive ranges of code points, ascending and disjoint. -/
abbrev Ranges := List (Nat × Nat)

/-- The search ends at the first range that starts beyond the code point. -/
def Ranges.covers : Ranges → Nat → Bool
  | [], _ => false
  | (first, last) :: rest, code =>
    if code < first then false
    else if code ≤ last then true
    else Ranges.covers rest code

/-- Whether a character lies in one of the ranges. -/
def Ranges.has (ranges : Ranges) (char : Char) : Bool := ranges.covers char.toNat

/-! ### White space

White space: the characters with the Unicode property White_Space. They may not
stand in a group's identifier.
-/

/-- The code points with the property White_Space. -/
def blankRanges : Ranges :=
  [(0x9, 0xD), (0x20, 0x20), (0x85, 0x85), (0xA0, 0xA0), (0x1680, 0x1680),
   (0x2000, 0x200A), (0x2028, 0x2029), (0x202F, 0x202F), (0x205F, 0x205F), (0x3000, 0x3000)]

/-- Whether a character is white space. -/
def isBlank (char : Char) : Bool := blankRanges.has char

end KeyedIndex.Text
