import KeyedIndex.Config.Value
import KeyedIndex.Number.Integer
import KeyedIndex.Number.Float

/-!
What scalars of YAML stand for. A scalar with quotes is a text; one without quotes may be
a number, a truth value or null, by itself or because its tag says so. Some numbers have
names, but no value here.
-/
namespace KeyedIndex.Config.Yaml

/-! ### Numbers -/

/-- An integer in a base, with a sign or without. -/
def basedInteger? (base : Nat) (chars : List Char) : Option Int :=
  let number := match chars with
    | '-' :: digits => (Number.inBase? base digits).map (fun size => -Int.ofNat size)
    | '+' :: digits => (Number.inBase? base digits).map Int.ofNat
    | digits => (Number.inBase? base digits).map Int.ofNat
  number.filter Number.int64.has

/-- An integer in base sixteen, eight or ten, before which one more plus sign may stand. -/
def integer? (text : String) : Option Int :=
  match text.toList with
  | '0' :: 'x' :: digits => basedInteger? 16 digits
  | '0' :: 'o' :: digits => basedInteger? 8 digits
  | '+' :: rest => Number.int64.read? (String.ofList rest)
  | _ => Number.int64.read? text

/-- The names of what no decimal stands for. -/
def isNamedNumber (text : String) : Bool :=
  text ∈ [".inf", ".Inf", ".INF", "+.inf", "+.Inf", "+.INF", "-.inf", "-.Inf", "-.INF",
    ".nan", ".NaN", ".NAN"]

/-- A floating point number with a digit. -/
def float? (text : String) : Option Float :=
  if text.toList.any Char.isDigit then Number.readFloat? text else none

/-! ### Scalars without quotes -/

/-- What a tag makes of a scalar. -/
inductive Reading where
  | value (content : Value)
  /-- The scalar does not go with its tag. It counts as null, but not as a name. -/
  | misfit
  /-- No value can be made of the scalar. -/
  | refused

def Reading.ofOption (content : Option Value) : Reading := content.elim .misfit .value

/-- What a scalar without a tag stands for. -/
def readUntagged (text : String) : Reading :=
  match text with
  | "" | "~" | "null" => .value .null
  | "true" => .value (.bool true)
  | "false" => .value (.bool false)
  | _ =>
    match integer? text with
    | some number => .value (.integer number)
    | none =>
      if isNamedNumber text then .refused
      else .value ((float? text).elim (.text text) .float)

/-- What a scalar stands for whose tag is one of those that all documents know. -/
def readTagged (tag text : String) : Reading :=
  match tag with
  | "bool" =>
    .ofOption (if text = "true" then some (.bool true)
      else if text = "false" then some (.bool false) else none)
  | "int" => .ofOption ((Number.int64.read? text).map .integer)
  | "float" => if isNamedNumber text then .refused else .ofOption ((float? text).map .float)
  | "null" => .ofOption (if text = "~" || text = "null" then some .null else none)
  | _ => .value (.text text)

/-! ### Tags -/

/-- A tag: what its handle stands for, and the rest. -/
structure Tag where
  start : String
  rest : String

/-- The handles that a document declares, and what they stand for. -/
abbrev Handles := List (String × String)

/-- What the tags begin with that all documents know. -/
def commonStart : String := "tag:yaml.org,2002:"

/-- The tag that a handle and a rest make. A handle with a name must be declared. -/
def Tag.ofHandle? (handles : Handles) (handle rest : String) : Option Tag :=
  match handles.lookup handle with
  | some start => some ⟨start, rest⟩
  | none =>
    if handle = "!!" then some ⟨commonStart, rest⟩
    else if handle.length ≥ 2 then none
    else some ⟨handle, rest⟩

/-- What a scalar stands for. -/
def readScalar (tag : Option Tag) (content : String) (plain : Bool) : Reading :=
  if !plain then .value (.text content)
  else
    match tag with
    | none => readUntagged content
    | some tag =>
      if tag.start = commonStart then readTagged tag.rest content else .value (.text content)

end KeyedIndex.Config.Yaml
