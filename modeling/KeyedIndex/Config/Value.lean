import KeyedIndex.Entries
import KeyedIndex.Number.Float
import KeyedIndex.Number.Integer
import KeyedIndex.Text.Lowercase

/-!
Values of configurations, how they lie over one another, and what settings they are converted to.

In the source, what its reader of configurations does when it lays one layer over another, and
in `try_deserialize`.
-/
namespace KeyedIndex.Config

/-! ### Values

Values of configurations. A configuration is a table of values under names, and one is
laid over another name by name: what the upper one does not name stays as it was.
-/

/-- What a configuration holds under a name. No setting is a list, so lists are not told
    apart. -/
inductive Value where
  | null
  | bool (value : Bool)
  | integer (number : Int)
  | float (number : Float)
  | text (content : String)
  | list
  | table (entries : List (String × Value))

abbrev Table := List (String × Value)

def Value.entries : Value → Table
  | .table entries => entries
  | _ => []

/-- What stands under a name. -/
def Value.at? (name : String) (value : Value) : Option Value := value.entries.lookup name

mutual
/-- A value laid over another: a table keeps what it does not name, and anything else
    takes the place of what was there. -/
def Value.over (lower : Value) : Value → Value
  | .table entries => coverAll lower entries
  | value => value

/-- A value with entries laid over its own one after the other, under names in small letters.
    It becomes a table with the first of them if it was none. -/
def coverAll (lower : Value) : List (String × Value) → Value
  | [] => lower
  | (name, value) :: rest =>
    let name := Text.lower name
    let covered := Value.over ((lower.at? name).getD (.table [])) value
    coverAll (.table (setEntry name covered lower.entries)) rest
end

/-! ### Conversions

Conversions of the values of configurations to what settings are. Sources differ in how
they write a value, so that a text may stand for a number and a number for a text.
-/

/-- The truth value that a word says, in small or capital letters. -/
def wordTruth? (text : String) : Option Bool :=
  match Text.lower text with
  | "true" | "on" | "yes" => some true
  | "false" | "off" | "no" => some false
  | _ => none

/-- A natural of 64 bits. Truth values count as one and zero, and fractions are rounded, a
    half away from zero. -/
def Value.natural? : Value → Option UInt64
  | .bool value => some (if value then 1 else 0)
  | .integer number => if Number.nat64.has number then some (UInt64.ofNat number.toNat) else none
  | .float number => some number.round.toUInt64
  | .text content =>
    match wordTruth? content with
    | some truth => some (if truth then 1 else 0)
    | none => (Number.nat64.read? content).map (fun number => UInt64.ofNat number.toNat)
  | _ => none

/-- A truth value. All numbers are true but zero. -/
def Value.truth? : Value → Option Bool
  | .bool value => some value
  | .integer number => some (number ≠ 0)
  | .float number => some (number != 0.0)
  | .text "1" => some true
  | .text "0" => some false
  | .text content => wordTruth? content
  | _ => none

/-- A text. Numbers are written with the fewest digits that read back. -/
def Value.text? : Value → Option String
  | .text content => some content
  | .bool value => some (if value then "true" else "false")
  | .integer number => some (Number.decimal number)
  | .float number => some (Number.plain number)
  | _ => none

/-- One of several names, in small or capital letters: a text, or the name of the only entry
    of a table. -/
def Value.choice? {α : Type} (choices : List (String × α)) : Value → Option α
  | .text name | .table [(name, _)] => choices.lookup (Text.lower name)
  | _ => none

end KeyedIndex.Config
